namespace ContractLang

/-- The characters in one of the closed ranges, or with `negated` all others. -/
structure CharSet where
  negated : Bool
  ranges : List (Char × Char)
  deriving DecidableEq, Repr

namespace CharSet

def single (c : Char) : CharSet := ⟨false, [(c, c)]⟩

def range (first last : Char) : CharSet := ⟨false, [(first, last)]⟩

def anyOnLine : CharSet := ⟨true, [('\n', '\n')]⟩

def contains (set : CharSet) (c : Char) : Bool :=
  set.ranges.any (fun (first, last) => first ≤ c && c ≤ last) != set.negated

end CharSet

inductive Pattern where
  | empty
  | one (set : CharSet)
  | seq (first second : Pattern)
  | alt (first second : Pattern)
  | star (body : Pattern)
  deriving DecidableEq, Repr

namespace Pattern

def plus (p : Pattern) : Pattern := .seq p (.star p)

def optional (p : Pattern) : Pattern := .alt p .empty

def literal (c : Char) : Pattern := .one (.single c)

/-- A way to go on after `used` characters with the rest of the text. It gives the number of
    characters that the whole match uses, if there is a match. -/
abbrev Continuation := Nat → List Char → Option Nat

/-- At most as many rounds of `body` as `room` has characters, as many as possible first. A round
    that uses nothing is the last one. -/
def repeated (body : Nat → List Char → Continuation → Option Nat) :
    List Char → Nat → List Char → Continuation → Option Nat
  | [], used, text, next => next used text
  | _ :: room, used, text, next =>
    match body used text fun after rest =>
        if used < after then repeated body room after rest next else next after rest with
    | some total => some total
    | none => next used text

/-- Ordered search: of two alternatives the first is tried first, and a repetition prefers
    another round. A text has room for no more rounds than it has characters. -/
def matchThen : Pattern → Nat → List Char → Continuation → Option Nat
  | .empty, used, text, next => next used text
  | .one _, _, [], _ => none
  | .one set, used, c :: rest, next => if set.contains c then next (used + 1) rest else none
  | .seq p q, used, text, next => p.matchThen used text fun after rest => q.matchThen after rest next
  | .alt p q, used, text, next =>
    match p.matchThen used text next with
    | some total => some total
    | none => q.matchThen used text next
  | .star p, used, text, next => repeated p.matchThen text used text next

def reach (p : Pattern) (text : List Char) : Option Nat :=
  p.matchThen 0 text fun used _ => some used

/-- A match ends by its continuation, somewhere further on in the text. -/
def EndsWithin (run : Nat → List Char → Continuation → Option Nat) : Prop :=
  ∀ (used : Nat) (text : List Char) (next : Continuation) (total : Nat),
    run used text next = some total →
    ∃ passed rest, text = passed ++ rest ∧ next (used + passed.length) rest = some total

theorem repeated_endsWithin {body : Nat → List Char → Continuation → Option Nat}
    (inner : EndsWithin body) (room : List Char) : EndsWithin (repeated body room) := by
  induction room with
  | nil => exact fun used text next total h => ⟨[], text, rfl, h⟩
  | cons c room ih =>
    intro used text next total h
    simp only [repeated] at h
    split at h
    · rename_i found ran
      cases h
      obtain ⟨first, rest, rfl, onward⟩ := inner used text _ total ran
      split at onward
      · obtain ⟨others, last, rfl, final⟩ := ih _ _ _ _ onward
        refine ⟨first ++ others, last, (List.append_assoc ..).symm, ?_⟩
        rw [List.length_append, ← Nat.add_assoc]
        exact final
      · exact ⟨first, rest, rfl, onward⟩
    · exact ⟨[], text, rfl, h⟩

theorem matchThen_endsWithin (p : Pattern) : EndsWithin p.matchThen := by
  induction p with
  | empty => exact fun used text next total h => ⟨[], text, rfl, h⟩
  | one set =>
    intro used text next total h
    cases text with
    | nil => cases h
    | cons c rest =>
      simp only [matchThen] at h
      split at h
      · exact ⟨[c], rest, rfl, h⟩
      · cases h
  | seq p q first second =>
    intro used text next total h
    obtain ⟨passed, rest, rfl, onward⟩ := first used text _ total h
    obtain ⟨others, last, rfl, final⟩ := second _ _ _ _ onward
    refine ⟨passed ++ others, last, (List.append_assoc ..).symm, ?_⟩
    rw [List.length_append, ← Nat.add_assoc]
    exact final
  | alt p q first second =>
    intro used text next total h
    simp only [matchThen] at h
    split at h
    · cases h
      exact first _ _ _ _ (by assumption)
    · exact second _ _ _ _ h
  | star p body =>
    intro used text next total h
    exact repeated_endsWithin body text used text next total h

theorem reach_le_length (p : Pattern) (text : List Char) (n : Nat) (h : p.reach text = some n) :
    n ≤ text.length := by
  obtain ⟨passed, rest, rfl, total⟩ := p.matchThen_endsWithin 0 text _ n h
  simp only [Nat.zero_add, Option.some.injEq] at total
  rw [← total, List.length_append]
  exact Nat.le_add_right _ _

end Pattern
end ContractLang
