import ContractLang.Proofs.Cursor.Lookahead

namespace ContractLang.Cursor

/-- The tokens from `c` to `d` alone settle this at their position, whatever comes after them. -/
def Fixes (c d : Cursor) (holds : Cursor → Cursor → Prop) : Prop :=
  ∃ span, c.Passes span d ∧
    ∀ c' d', c'.position = c.position → c'.Passes span d' → holds c' d'

variable {c d e : Cursor} {first second : Cursor → Cursor → Prop}

theorem Fixes.self (fixed : c.Fixes d first) : first c d := by
  rcases fixed with ⟨span, pass, holds⟩
  exact holds c d rfl pass

theorem Fixes.imp (fixed : c.Fixes d first) (weaker : ∀ c' d', first c' d' → second c' d') :
    c.Fixes d second := by
  rcases fixed with ⟨span, pass, holds⟩
  exact ⟨span, pass, fun c' d' same other => weaker c' d' (holds c' d' same other)⟩

theorem Fixes.refl (c : Cursor) : c.Fixes c fun c' d' => d' = c' :=
  ⟨[], .refl c, fun c' _ _ pass => pass.eq (.refl c')⟩

theorem Fixes.next {t : Token} (found : c.place.token? = some t) :
    c.Fixes c.next fun c' d' => c'.place.token? = some t ∧ d' = c'.next :=
  ⟨[t], passes_next found, fun _ _ _ pass => ⟨pass.token?, pass.next⟩⟩

theorem Passes.position_eq {c' d' : Cursor} {span : List Token} (pass : c.Passes span d)
    (other : c'.Passes span d') (same : c'.position = c.position) : d'.position = d.position := by
  rw [pass.2, other.2, same]

theorem Fixes.trans (left : c.Fixes d first) (right : d.Fixes e second) :
    c.Fixes e fun c' e' => ∃ d', first c' d' ∧ second d' e' := by
  rcases left with ⟨before, passBefore, holdsBefore⟩
  rcases right with ⟨after, passAfter, holdsAfter⟩
  refine ⟨before ++ after, passBefore.trans passAfter, ?_⟩
  intro c' e' same pass
  rcases pass.split with ⟨d', otherBefore, otherAfter⟩
  have between := passBefore.position_eq otherBefore same
  exact ⟨d', holdsBefore c' d' same otherBefore, holdsAfter d' e' between otherAfter⟩

/-- The lookahead of what is settled first lies among the tokens that are passed later. -/
theorem Settles.fixes {before : Nat → Cursor → Cursor → Prop} (left : c.Settles d before)
    (right : d.Fixes e second) (moved : d.position < e.position) :
    c.Fixes e fun c' e' => ∃ d', before 0 c' d' ∧ second d' e' := by
  rcases left with ⟨span, passSpan, holdsBefore⟩
  rcases right with ⟨after, passAfter, holdsAfter⟩
  refine ⟨span ++ after, passSpan.trans passAfter, ?_⟩
  intro c' e' same pass
  rcases pass.split with ⟨d', otherSpan, otherAfter⟩
  have between := passSpan.position_eq otherSpan same
  have filled : after ≠ [] := by
    rintro rfl
    exact absurd passAfter.2 (Nat.ne_of_gt moved)
  have alike : d.Alike 0 d' := by
    rcases List.exists_cons_of_ne_nil filled with ⟨t, rest, rfl⟩
    refine ⟨between, ?_⟩
    rw [passAfter.1, otherAfter.1]
    rfl
  exact ⟨d', holdsBefore 0 c' d' otherSpan alike, holdsAfter d' e' between otherAfter⟩

theorem Settles.position_le {before : Nat → Cursor → Cursor → Prop} (settled : c.Settles d before) :
    c.position ≤ d.position := by
  rcases settled with ⟨span, pass, -⟩
  rw [pass.2]
  exact Nat.le_add_right ..

/-- Other tokens may stand after those that are passed. -/
theorem Passes.cut {tokens span : List Token} {position : Nat} (inside : position ≤ tokens.length)
    (pass : (ofPosition tokens position).Passes span d) (more : List Token) :
    (ofPosition (tokens.take d.position ++ more) position).Passes span ⟨d.position, more⟩ := by
  rcases pass with ⟨ahead, moved⟩
  refine ⟨?_, moved⟩
  simp only [ofPosition] at ahead moved ⊢
  have enough : position ≤ (tokens.take d.position).length := by
    rw [List.length_take]
    omega
  rw [List.drop_append_of_le_length enough, List.drop_take, ahead, moved, Nat.add_sub_cancel_left,
    List.take_left]

theorem Fixes.position_le (fixed : c.Fixes d first) : c.position ≤ d.position := by
  rcases fixed with ⟨span, pass, -⟩
  rw [pass.2]
  exact Nat.le_add_right ..

theorem Fixes.eq_ofPosition {tokens : List Token} {position : Nat}
    (fixed : (ofPosition tokens position).Fixes d first) : d = ofPosition tokens d.position := by
  rcases fixed with ⟨span, ⟨ahead, moved⟩, -⟩
  rcases d with ⟨stop, rest⟩
  simp only [ofPosition, Cursor.mk.injEq, true_and] at ahead moved ⊢
  rw [moved, ← List.drop_drop, ahead, List.drop_left]

theorem Fixes.position_le_length {tokens : List Token} {position : Nat}
    (inside : position ≤ tokens.length)
    (fixed : (ofPosition tokens position).Fixes d first) : d.position ≤ tokens.length := by
  rcases fixed with ⟨span, pass, -⟩
  rcases (passes_ofPosition_iff inside).mp pass with ⟨stop, -, within, -, rfl⟩
  exact within

theorem Fixes.cut {tokens : List Token} {position : Nat} (inside : position ≤ tokens.length)
    (fixed : (ofPosition tokens position).Fixes d first) (more : List Token) :
    first (ofPosition (tokens.take d.position ++ more) position) ⟨d.position, more⟩ := by
  rcases fixed with ⟨span, pass, holds⟩
  exact holds _ _ rfl (pass.cut inside more)

end ContractLang.Cursor
