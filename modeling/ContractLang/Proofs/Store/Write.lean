import ContractLang.Proofs.Store.Place

namespace ContractLang.Store

def KeepsDirectories (before after : Store) : Prop :=
  ∀ l, before.item? l = some .directory → after.item? l = some .directory

/-- What is there stays as it is. Other files may come to it. -/
def Extends (before after : Store) : Prop :=
  ∀ l item, before.item? l = some item → after.item? l = some item

theorem KeepsDirectories.refl (s : Store) : KeepsDirectories s s := fun _ h => h

theorem KeepsDirectories.trans {s t u : Store} (first : KeepsDirectories s t)
    (second : KeepsDirectories t u) : KeepsDirectories s u :=
  fun l h => second l (first l h)

theorem Extends.refl (s : Store) : Extends s s := fun _ _ h => h

theorem Extends.trans {s t u : Store} (first : Extends s t) (second : Extends t u) : Extends s u :=
  fun l item h => second l item (first l item h)

theorem Extends.keepsDirectories {before after : Store} (h : Extends before after) :
    KeepsDirectories before after :=
  fun l hl => h l .directory hl

theorem follow_of_keepsDirectories {before after : Store} (kept : KeepsDirectories before after)
    {names : List String} {l last : Location} (h : before.follow l names = .ok last) :
    after.follow l names = .ok last := by
  induction names generalizing l with
  | nil => exact h
  | cons name rest ih =>
    obtain ⟨hitem, hsize, hrest⟩ := follow_cons_eq_ok h
    rw [follow, kept l hitem]
    simp only [if_pos hsize]
    exact ih hrest

theorem locate_of_keepsDirectories {before after : Store} (kept : KeepsDirectories before after)
    {p : Path} {l : Location} (h : before.locate p = .ok l) : after.locate p = .ok l := by
  obtain ⟨hzero, hsize, hfollow⟩ := locate_eq_ok h
  rw [locate, if_neg hzero, if_pos hsize]
  exact follow_of_keepsDirectories kept hfollow

theorem read_of_file {s : Store} {p : Path} {l : Location} {bytes : List UInt8}
    (hlocate : s.locate p = .ok l) (hitem : s.item? l = some (.file bytes)) :
    s.read p = .ok bytes := by
  simp only [read, hlocate, hitem]

theorem read_of_missing {s : Store} {p : Path} {l : Location}
    (hlocate : s.locate p = .ok l) (hitem : s.item? l = none) :
    s.read p = .error .notFound := by
  simp only [read, hlocate, hitem]

theorem read_congr {s t : Store} {p : Path} {l : Location} (hs : s.locate p = .ok l)
    (ht : t.locate p = .ok l) (hitem : s.item? l = t.item? l) : s.read p = t.read p := by
  simp only [read, hs, ht, hitem]

theorem read_eq_ok {s : Store} {p : Path} {bytes : List UInt8} (h : s.read p = .ok bytes) :
    ∃ l, s.locate p = .ok l ∧ s.item? l = some (.file bytes) := by
  rw [read] at h
  split at h
  · cases h
  · rename_i l hlocate
    split at h
    · rename_i hitem
      cases h
      exact ⟨l, hlocate, hitem⟩
    · cases h
    · cases h

theorem read_eq_zeroCharacter_iff (s : Store) (p : Path) :
    s.read p = .error .zeroCharacter ↔ '\x00' ∈ p.text.toList := by
  rcases located : s.locate p with e | l
  · simp only [read, located]
    rcases locate_eq_error located with ⟨rfl, zero⟩ | ⟨noZero, rfl | rfl | rfl⟩ <;> simp_all
  · rcases item : s.item? l with _ | known
    · simp [read_of_missing located item, (locate_eq_ok located).1]
    · cases known <;> simp [read, located, item, (locate_eq_ok located).1]

theorem read_of_extends {before after : Store} (h : Extends before after) {p : Path}
    {bytes : List UInt8} (hread : before.read p = .ok bytes) : after.read p = .ok bytes := by
  obtain ⟨l, hlocate, hitem⟩ := read_eq_ok hread
  exact read_of_file (locate_of_keepsDirectories h.keepsDirectories hlocate) (h l _ hitem)

theorem write_eq_ok {s after : Store} {p : Path} {bytes : List UInt8}
    (h : s.write p bytes = .ok after) :
    ∃ l, s.locate p = .ok l ∧ s.item? l ≠ some .directory ∧ after = s.put l (.file bytes) := by
  rw [write] at h
  split at h
  · cases h
  · rename_i l hlocate
    split at h
    · cases h
    · rename_i hitem
      cases h
      exact ⟨l, hlocate, hitem, rfl⟩

theorem write_of_locate {s : Store} {p : Path} {l : Location} (bytes : List UInt8)
    (hlocate : s.locate p = .ok l) (hitem : s.item? l ≠ some .directory) :
    s.write p bytes = .ok (s.put l (.file bytes)) := by
  simp only [write, hlocate]

theorem keepsDirectories_put {s : Store} {l : Location} (item : Item)
    (above : s.DirectoriesAbove l) (hitem : s.item? l ≠ some .directory) :
    KeepsDirectories s (s.put l item) := by
  intro other hother
  rw [item?_put_of_ne item above (fun heq => hitem (heq ▸ hother)), hother]

theorem extends_put {s : Store} {l : Location} (item : Item) (above : s.DirectoriesAbove l)
    (hitem : s.item? l = none) : Extends s (s.put l item) := by
  intro other known hother
  have hne : other ≠ l := by
    intro heq
    rw [heq, hitem] at hother
    cases hother
  rw [item?_put_of_ne item above hne, hother]

theorem read_of_write {s after : Store} {p : Path} {bytes : List UInt8}
    (h : s.write p bytes = .ok after) : after.read p = .ok bytes := by
  obtain ⟨l, hlocate, hitem, rfl⟩ := write_eq_ok h
  have kept := keepsDirectories_put (.file bytes) (directoriesAbove_of_locate hlocate) hitem
  exact read_of_file (locate_of_keepsDirectories kept hlocate) (item?_put_self s l _)

end ContractLang.Store
