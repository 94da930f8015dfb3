import ContractLang.Store.Basic

namespace ContractLang

namespace Location

/-- Names alone lead from the upper location down to the lower one. -/
def IsAbove (upper lower : Location) : Prop :=
  upper.anchor = lower.anchor ∧ ∃ name rest, lower.names = upper.names ++ name :: rest

theorem eq_of_parts {l other : Location} (hanchor : l.anchor = other.anchor)
    (hnames : l.names = other.names) : l = other := by
  cases l
  cases hanchor
  cases hnames
  rfl

theorem not_isAbove_of_names_nil {upper lower : Location} (h : lower.names = []) :
    ¬ upper.IsAbove lower := by
  rintro ⟨_, name, rest, hnames⟩
  rw [h] at hnames
  exact List.append_ne_nil_of_right_ne_nil _ (List.cons_ne_nil name rest) hnames.symm

theorem parent_append_singleton (anchor : Anchor) (names : List String) (last : String) :
    parent ⟨anchor, names ++ [last]⟩ = ⟨anchor, names⟩ := by
  cases names with
  | nil => cases anchor <;> rfl
  | cons name rest =>
    have hlast : (name :: rest ++ [last]).dropLast = name :: rest := List.dropLast_concat
    cases anchor <;> exact congrArg (mk _) hlast

theorem IsAbove.of_parent {upper l : Location} (h : upper.IsAbove l.parent) : upper.IsAbove l := by
  rcases List.eq_nil_or_concat l.names with hnil | ⟨front, last, hnames⟩
  · have hparent : l.parent.names = [] := by
      rcases l with ⟨anchor, names⟩
      cases hnil
      cases anchor <;> rfl
    exact absurd h (not_isAbove_of_names_nil hparent)
  · have hparent : l.parent = ⟨l.anchor, front⟩ := by
      rcases l with ⟨anchor, names⟩
      cases hnames
      rw [List.concat_eq_append, parent_append_singleton]
    rw [hparent] at h
    obtain ⟨hanchor, name, rest, hfront⟩ := h
    refine ⟨hanchor, name, rest ++ [last], ?_⟩
    simp only at hfront
    rw [hnames, List.concat_eq_append, hfront, List.append_assoc, List.cons_append]

theorem IsAbove.of_child {upper l : Location} {name : String}
    (h : upper.IsAbove ⟨l.anchor, l.names ++ [name]⟩) : upper = l ∨ upper.IsAbove l := by
  obtain ⟨hanchor, next, rest, hnames⟩ := h
  simp only at hanchor hnames
  rcases List.eq_nil_or_concat rest with hnil | ⟨front, last, hrest⟩
  · rw [hnil] at hnames
    exact .inl (eq_of_parts hanchor (List.append_inj' hnames rfl).1.symm)
  · rw [hrest, List.concat_eq_append, ← List.cons_append, ← List.append_assoc] at hnames
    exact .inr ⟨hanchor, next, front, (List.append_inj' hnames rfl).1⟩

theorem IsAbove.of_step {upper l : Location} {name : String} (h : upper.IsAbove (l.step name)) :
    upper = l ∨ upper.IsAbove l := by
  rw [step] at h
  split at h
  · exact .inr h.of_parent
  · exact h.of_child

theorem isAbove_of_prefix {upper lower : Location} (hanchor : lower.anchor = upper.anchor)
    (hnames : upper.names <+: lower.names) (hne : upper ≠ lower) : upper.IsAbove lower := by
  obtain ⟨below, hbelow⟩ := hnames
  cases below with
  | nil =>
    rw [List.append_nil] at hbelow
    exact absurd (eq_of_parts hanchor.symm hbelow) hne
  | cons name rest => exact ⟨hanchor.symm, name, rest, hbelow.symm⟩

end Location

namespace Store

def DirectoriesAbove (s : Store) (l : Location) : Prop :=
  ∀ upper : Location, upper.IsAbove l → s.item? upper = some .directory

theorem follow_cons_eq_ok {s : Store} {l last : Location} {name : String} {rest : List String}
    (h : s.follow l (name :: rest) = .ok last) :
    s.item? l = some .directory ∧ name.utf8ByteSize ≤ 255
      ∧ s.follow (l.step name) rest = .ok last := by
  rw [follow] at h
  split at h
  · rename_i hitem
    split at h
    · rename_i hsize
      exact ⟨hitem, hsize, h⟩
    · cases h
  · cases h
  · cases h

theorem directoriesAbove_of_follow {s : Store} {names : List String} {l last : Location}
    (above : s.DirectoriesAbove l) (h : s.follow l names = .ok last) :
    s.DirectoriesAbove last := by
  induction names generalizing l with
  | nil =>
    rw [follow] at h
    cases h
    exact above
  | cons name rest ih =>
    obtain ⟨hitem, _, hrest⟩ := follow_cons_eq_ok h
    refine ih (fun upper hupper => ?_) hrest
    rcases hupper.of_step with heq | habove
    · rw [heq, hitem]
    · exact above upper habove

theorem follow_eq_error {s : Store} {names : List String} {l : Location} {e : FileError}
    (h : s.follow l names = .error e) :
    e = .notFound ∨ e = .notDirectory ∨ e = .nameTooLong := by
  induction names generalizing l with
  | nil => cases h
  | cons name rest ih =>
    rw [follow] at h
    split at h
    · split at h
      · exact ih h
      · cases h
        exact .inr (.inr rfl)
    · cases h
      exact .inr (.inl rfl)
    · cases h
      exact .inl rfl

theorem locate_eq_ok {s : Store} {p : Path} {l : Location} (h : s.locate p = .ok l) :
    '\x00' ∉ p.text.toList ∧ p.text.utf8ByteSize ≤ 4095 ∧ s.follow (.origin p) p.names = .ok l := by
  rw [locate] at h
  split at h
  · cases h
  · rename_i hzero
    split at h
    · rename_i hsize
      exact ⟨hzero, hsize, h⟩
    · cases h

theorem locate_eq_error {s : Store} {p : Path} {e : FileError} (h : s.locate p = .error e) :
    e = .zeroCharacter ∧ '\x00' ∈ p.text.toList
      ∨ '\x00' ∉ p.text.toList ∧ (e = .notFound ∨ e = .notDirectory ∨ e = .nameTooLong) := by
  rw [locate] at h
  split at h
  · rename_i hzero
    cases h
    exact .inl ⟨rfl, hzero⟩
  · rename_i hzero
    split at h
    · exact .inr ⟨hzero, follow_eq_error h⟩
    · cases h
      exact .inr ⟨hzero, .inr (.inr rfl)⟩

theorem directoriesAbove_of_locate {s : Store} {p : Path} {l : Location} (h : s.locate p = .ok l) :
    s.DirectoriesAbove l :=
  directoriesAbove_of_follow (fun _ hupper => absurd hupper (Location.not_isAbove_of_names_nil rfl))
    (locate_eq_ok h).2.2

theorem isOnTheWay_put (s : Store) (l : Location) (item : Item) (other : Location) :
    (s.put l item).isOnTheWay other
      = ((l.anchor == other.anchor && other.names.isPrefixOf l.names) || s.isOnTheWay other) := by
  rw [Bool.eq_iff_iff]
  simp only [isOnTheWay, put, List.any_cons, Bool.or_eq_true, List.any_eq_true, List.mem_filter]
  constructor
  · rintro (hnew | ⟨entry, ⟨hentry, _⟩, hway⟩)
    · exact .inl hnew
    · exact .inr ⟨entry, hentry, hway⟩
  · rintro (hnew | ⟨entry, hentry, hway⟩)
    · exact .inl hnew
    · by_cases heq : entry.1 = l
      · rw [heq] at hway
        exact .inl hway
      · exact .inr ⟨entry, ⟨hentry, bne_iff_ne.mpr heq⟩, hway⟩

theorem find?_put_of_ne (s : Store) {l other : Location} (item : Item) (hne : other ≠ l) :
    (s.put l item).items.find? (·.1 == other) = s.items.find? (·.1 == other) := by
  rw [put, List.find?_cons_of_neg (by simpa using hne.symm), List.find?_filter]
  congr 1
  funext entry
  by_cases heq : entry.1 = other
  · simp [heq, hne]
  · simp [heq]

theorem item?_put_of_ne {s : Store} {l other : Location} (item : Item)
    (above : s.DirectoriesAbove l) (hne : other ≠ l) :
    (s.put l item).item? other = s.item? other := by
  have hfind := find?_put_of_ne s item hne
  by_cases hnew : (l.anchor == other.anchor && other.names.isPrefixOf l.names) = true
  · -- `other` leads to `l`: it has been a directory before
    have hparts := (Bool.and_eq_true _ _).mp hnew
    have hbefore := above other (Location.isAbove_of_prefix (eq_of_beq hparts.1)
      (List.isPrefixOf_iff_prefix.mp hparts.2) hne)
    rw [hbefore]
    rw [item?] at hbefore ⊢
    rw [hfind]
    split at hbefore
    · simp only [hbefore]
    · simp only [isOnTheWay_put, hnew, Bool.true_or, Bool.or_true, if_true]
  · have hway : (s.put l item).isOnTheWay other = s.isOnTheWay other := by
      rw [isOnTheWay_put, Bool.eq_false_iff.mpr hnew, Bool.false_or]
    rw [item?, item?, hfind, hway]

end Store
end ContractLang
