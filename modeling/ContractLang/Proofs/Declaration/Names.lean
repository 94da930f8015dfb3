import Mathlib.Data.List.Sort
import Mathlib.Data.String.Basic
import ContractLang.Declaration.Basic

namespace ContractLang

theorem pairwise_insertName {names : List String} (sorted : names.Pairwise (· < ·)) (name : String) :
    (insertName name names).Pairwise (· < ·) := by
  induction names with
  | nil => exact List.pairwise_singleton _ _
  | cons other rest ih =>
    have above := List.pairwise_cons.mp sorted
    unfold insertName
    split
    · rename_i less
      refine List.pairwise_cons.mpr ⟨fun x member => ?_, sorted⟩
      rcases List.mem_cons.mp member with rfl | member
      · exact less
      · exact less.trans (above.1 x member)
    · split
      · exact sorted
      · rename_i notLess different
        refine List.pairwise_cons.mpr ⟨fun x member => ?_, ih above.2⟩
        rcases (mem_insertName name x rest).mp member with rfl | member
        · exact lt_of_le_of_ne (not_lt.mp notLess) (Ne.symm different)
        · exact above.1 x member

theorem pairwise_sortNames (names : List String) : (sortNames names).Pairwise (· < ·) := by
  induction names with
  | nil => exact List.Pairwise.nil
  | cons name rest ih => exact pairwise_insertName ih name

/-- Neither the order of names nor their repetition counts. -/
theorem sortNames_eq_iff (names others : List String) :
    sortNames names = sortNames others ↔ ∀ x, x ∈ names ↔ x ∈ others := by
  constructor
  · intro same x
    rw [← mem_sortNames x names, same, mem_sortNames]
  · intro same
    refine (pairwise_sortNames names).eq_of_mem_iff (pairwise_sortNames others) fun x => ?_
    rw [mem_sortNames, mem_sortNames, same]

end ContractLang
