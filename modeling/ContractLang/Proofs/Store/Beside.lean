import ContractLang.Proofs.Store.Write

namespace ContractLang.Store

/-- The first store has a file at one location that the second one has too or lacks. Elsewhere
    they are the same. -/
structure Beside (l : Location) (bytes : List UInt8) (s t : Store) : Prop where
  elsewhere : ∀ other, other ≠ l → s.item? other = t.item? other
  there : s.item? l = some (.file bytes)
  absent_or_same : t.item? l = none ∨ t.item? l = some (.file bytes)

/-- A path that ends before its last name. -/
def LeadsNowhere {α : Type} (result : Except FileError α) : Prop :=
  result = .error .notFound ∨ result = .error .notDirectory

namespace Beside

variable {l : Location} {bytes : List UInt8} {s t : Store}

theorem follow (h : Beside l bytes s t) (names : List String) (start : Location) :
    s.follow start names = t.follow start names
      ∨ LeadsNowhere (s.follow start names) ∧ LeadsNowhere (t.follow start names) := by
  induction names generalizing start with
  | nil => exact .inl rfl
  | cons name rest ih =>
    by_cases heq : start = l
    · -- a file does not lead on, nor does what is missing
      right
      rw [Store.follow, Store.follow, heq, h.there]
      rcases h.absent_or_same with hitem | hitem
      · rw [hitem]
        exact ⟨.inr rfl, .inl rfl⟩
      · rw [hitem]
        exact ⟨.inr rfl, .inr rfl⟩
    · rw [Store.follow, Store.follow, h.elsewhere start heq]
      split
      · split
        · exact ih _
        · exact .inl rfl
      · exact .inl rfl
      · exact .inl rfl

theorem locate (h : Beside l bytes s t) (p : Path) :
    s.locate p = t.locate p ∨ LeadsNowhere (s.locate p) ∧ LeadsNowhere (t.locate p) := by
  rw [Store.locate, Store.locate]
  split
  · exact .inl rfl
  · split
    · exact h.follow _ _
    · exact .inl rfl

theorem locate_right (h : Beside l bytes s t) {p : Path} {found : Location}
    (located : s.locate p = .ok found) : t.locate p = .ok found := by
  rcases h.locate p with same | ⟨nowhere | nowhere, _⟩
  · exact same.symm.trans located
  · cases located.symm.trans nowhere
  · cases located.symm.trans nowhere

theorem locate_left (h : Beside l bytes s t) {p : Path} {found : Location}
    (located : t.locate p = .ok found) : s.locate p = .ok found := by
  rcases h.locate p with same | ⟨_, nowhere | nowhere⟩
  · exact same.trans located
  · cases located.symm.trans nowhere
  · cases located.symm.trans nowhere

/-- What two such stores give for a path differs in no more than the one file. -/
theorem read (h : Beside l bytes s t) (p : Path) :
    s.read p = t.read p ∨ s.read p = .ok bytes ∧ t.read p = .error .notFound
      ∨ LeadsNowhere (s.read p) ∧ LeadsNowhere (t.read p) := by
  rcases h.locate p with heq | ⟨hs, ht⟩
  · rcases hlocate : t.locate p with e | found
    · left
      rw [Store.read, Store.read, heq, hlocate]
    · by_cases hfound : found = l
      · subst hfound
        rcases h.absent_or_same with hitem | hitem
        · exact .inr (.inl ⟨read_of_file (heq.trans hlocate) h.there,
            read_of_missing hlocate hitem⟩)
        · exact .inl (read_congr (heq.trans hlocate) hlocate (h.there.trans hitem.symm))
      · exact .inl (read_congr (heq.trans hlocate) hlocate (h.elsewhere found hfound))
  · refine .inr (.inr ⟨?_, ?_⟩)
    · rw [Store.read]
      rcases hs with hs | hs <;> rw [hs]
      · exact .inl rfl
      · exact .inr rfl
    · rw [Store.read]
      rcases ht with ht | ht <;> rw [ht]
      · exact .inl rfl
      · exact .inr rfl

theorem read_of_locate_ne (h : Beside l bytes s t) {p : Path} {found : Location}
    (located : t.locate p = .ok found) (other : found ≠ l) : s.read p = t.read p :=
  read_congr (h.locate_left located) located (h.elsewhere found other)

theorem of_put {l : Location} {s : Store} (bytes : List UInt8) (above : s.DirectoriesAbove l)
    (hitem : s.item? l = none) : Beside l bytes (s.put l (.file bytes)) s where
  elsewhere _ hne := item?_put_of_ne _ above hne
  there := item?_put_self s l _
  absent_or_same := .inl hitem

theorem put_elsewhere (h : Beside l bytes s t) {other : Location} (item : Item)
    (hs : s.DirectoriesAbove other) (ht : t.DirectoriesAbove other) (hne : other ≠ l) :
    Beside l bytes (s.put other item) (t.put other item) where
  elsewhere place hplace := by
    by_cases heq : place = other
    · rw [heq, item?_put_self, item?_put_self]
    · rw [item?_put_of_ne item hs heq, item?_put_of_ne item ht heq, h.elsewhere place hplace]
  there := by rw [item?_put_of_ne item hs hne.symm, h.there]
  absent_or_same := by
    rw [item?_put_of_ne item ht hne.symm]
    exact h.absent_or_same

theorem put_left (h : Beside l bytes s t) (hs : s.DirectoriesAbove l) :
    Beside l bytes (s.put l (.file bytes)) t where
  elsewhere other hne := by rw [item?_put_of_ne _ hs hne, h.elsewhere other hne]
  there := item?_put_self s l _
  absent_or_same := h.absent_or_same

theorem put_right (h : Beside l bytes s t) (ht : t.DirectoriesAbove l) :
    Beside l bytes s (t.put l (.file bytes)) where
  elsewhere other hne := by rw [item?_put_of_ne _ ht hne, h.elsewhere other hne]
  there := h.there
  absent_or_same := .inr (item?_put_self t l _)

theorem put_both (h : Beside l bytes s t) {place : Location} (hs : s.DirectoriesAbove place)
    (ht : t.DirectoriesAbove place) :
    Beside l bytes (s.put place (.file bytes)) (t.put place (.file bytes)) := by
  by_cases here : place = l
  · subst here
    exact (h.put_left hs).put_right ht
  · exact h.put_elsewhere _ hs ht here

theorem eq_of_item?_ne (h : Beside l bytes s t) {place : Location}
    (differs : s.item? place ≠ t.item? place) : place = l :=
  Classical.byContradiction fun other => differs (h.elsewhere place other)

end Beside
end ContractLang.Store
