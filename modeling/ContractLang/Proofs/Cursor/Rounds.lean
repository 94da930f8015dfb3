import ContractLang.Proofs.Cursor.Passage

namespace ContractLang

/-- Reading on from `c` to `d` passes at least so many tokens. -/
def Cursor.PassesAtLeast (c : Cursor) (least : Nat) (d : Cursor) : Prop :=
  ∃ span, least ≤ span.length ∧ c.Passes span d

namespace Cursor

variable {c d e : Cursor} {least more : Nat}

theorem Passes.atLeast {span : List Token} (pass : c.Passes span d) :
    c.PassesAtLeast span.length d := ⟨span, Nat.le_refl _, pass⟩

theorem PassesAtLeast.trans (first : c.PassesAtLeast least d) (rest : d.PassesAtLeast more e) :
    c.PassesAtLeast (least + more) e := by
  rcases first with ⟨span, some, pass⟩
  rcases rest with ⟨others, many, last⟩
  refine ⟨span ++ others, ?_, pass.trans last⟩
  rw [List.length_append]
  exact Nat.add_le_add some many

theorem PassesAtLeast.weaken (passes : c.PassesAtLeast more d) (fewer : least ≤ more) :
    c.PassesAtLeast least d := by
  rcases passes with ⟨span, many, pass⟩
  exact ⟨span, Nat.le_trans fewer many, pass⟩

end Cursor

/-- What a round of a loop leads to if it does not fail: the next round, or the end of the loop. -/
inductive Round
  | again (next : Cursor)
  | last (next : Cursor)

/-- So many rounds of a loop lead from the one cursor to the other. -/
inductive Rounds (round : Cursor → Except SyntaxError Round) : Nat → Cursor → Cursor → Prop
  | none {c : Cursor} : Rounds round 0 c c
  | again {count : Nat} {c d e : Cursor} (first : round c = .ok (.again d))
      (rest : Rounds round count d e) : Rounds round (count + 1) c e

/-- A loop ends: after finitely many rounds the next one is the last, or fails. -/
inductive LoopEnds (round : Cursor → Except SyntaxError Round) (c : Cursor) :
    Except SyntaxError Cursor → Prop
  | finished {count : Nat} {d e : Cursor} (rounds : Rounds round count c d)
      (stop : round d = .ok (.last e)) : LoopEnds round c (.ok e)
  | failed {count : Nat} {d : Cursor} {e : SyntaxError} (rounds : Rounds round count c d)
      (stop : round d = .error e) : LoopEnds round c (.error e)

section Rules

variable {round : Cursor → Except SyntaxError Round} {c d : Cursor} {least count : Nat}
  {outcome : Except SyntaxError Cursor}

theorem LoopEnds.again (first : round c = .ok (.again d)) (rest : LoopEnds round d outcome) :
    LoopEnds round c outcome := by
  cases rest with
  | finished rounds stop => exact .finished (.again first rounds) stop
  | failed rounds stop => exact .failed (.again first rounds) stop

/-- If every round passes some tokens, then the rounds together pass so many times as many. -/
theorem Rounds.passesAtLeast (rounds : Rounds round count c d)
    (each : ∀ c d, round c = .ok (.again d) → c.PassesAtLeast least d) :
    c.PassesAtLeast (count * least) d := by
  induction rounds with
  | @none c =>
    rw [Nat.zero_mul]
    exact (Cursor.Passes.refl c).atLeast
  | again first _ ih =>
    rw [Nat.add_one_mul, Nat.add_comm]
    exact (each _ _ first).trans ih

end Rules
end ContractLang
