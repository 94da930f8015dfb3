import ContractLang.Pattern.Basic

namespace ContractLang

namespace CharSet

def Fills (set : CharSet) (run : List Char) : Prop := ∀ c ∈ run, set.contains c = true

/-- A run of characters of the set does not go on into this text. -/
def Stops (set : CharSet) (text : List Char) : Prop := ∀ c ∈ text.head?, set.contains c = false

theorem Stops.nil (set : CharSet) : set.Stops [] := by
  intro c head
  cases head

theorem stops_cons (set : CharSet) (c : Char) (text : List Char) :
    set.Stops (c :: text) ↔ set.contains c = false := by
  constructor
  · intro stops
    exact stops c rfl
  · intro outside d head
    cases head
    exact outside

theorem Stops.append_cons {set : CharSet} {rest more : List Char} {c : Char}
    (stops : set.Stops rest) (outside : set.contains c = false) : set.Stops (rest ++ c :: more) := by
  cases rest with
  | nil => exact (stops_cons set c more).mpr outside
  | cons d rest => exact stops

theorem fills_cons (set : CharSet) (c : Char) (run : List Char) :
    set.Fills (c :: run) ↔ set.contains c = true ∧ set.Fills run := List.forall_mem_cons

theorem exists_run (set : CharSet) (text : List Char) :
    ∃ run rest, text = run ++ rest ∧ set.Fills run ∧ set.Stops rest := by
  induction text with
  | nil => exact ⟨[], [], rfl, List.forall_mem_nil _, .nil set⟩
  | cons c text ih =>
    by_cases inside : set.contains c = true
    · rcases ih with ⟨run, rest, rfl, fills, stops⟩
      exact ⟨c :: run, rest, rfl, (set.fills_cons c run).mpr ⟨inside, fills⟩, stops⟩
    · refine ⟨[], c :: text, rfl, List.forall_mem_nil _, (set.stops_cons c text).mpr ?_⟩
      exact Bool.not_eq_true _ ▸ inside

theorem contains_single (c d : Char) : (single c).contains d = true ↔ d = c := by
  simp only [contains, single, List.any_cons, List.any_nil, Bool.or_false, Bool.bne_false,
    Bool.and_eq_true, decide_eq_true_eq]
  constructor
  · intro h
    rcases h with ⟨above, below⟩
    exact Char.le_antisymm below above
  · intro same
    subst same
    exact ⟨Char.le_refl d, Char.le_refl d⟩

theorem contains_anyOnLine (c : Char) : anyOnLine.contains c = true ↔ c ≠ '\n' := by
  have same : anyOnLine.contains c = !(single '\n').contains c := by
    simp [contains, anyOnLine, single]
  rw [same, Bool.not_eq_true', ← Bool.not_eq_true, contains_single]

end CharSet

namespace Pattern

theorem matchThen_one_of_contains {set : CharSet} {c : Char} (inside : set.contains c = true)
    (used : Nat) (rest : List Char) (next : Continuation) :
    (one set).matchThen used (c :: rest) next = next (used + 1) rest := by
  rw [matchThen, if_pos inside]

theorem matchThen_one_of_stops {set : CharSet} {text : List Char} (stops : set.Stops text)
    (used : Nat) (next : Continuation) : (one set).matchThen used text next = none := by
  cases text with
  | nil => rfl
  | cons c rest => simp [matchThen, stops c rfl]

theorem matchThen_literal (c : Char) (used : Nat) (rest : List Char) (next : Continuation) :
    (literal c).matchThen used (c :: rest) next = next (used + 1) rest :=
  matchThen_one_of_contains ((CharSet.contains_single c c).mpr rfl) used rest next

theorem matchThen_literal_of_ne {c d : Char} (other : d ≠ c) (used : Nat) (rest : List Char)
    (next : Continuation) : (literal c).matchThen used (d :: rest) next = none := by
  have outside : (CharSet.single c).contains d = false := by
    rw [← Bool.not_eq_true, CharSet.contains_single]
    exact other
  exact matchThen_one_of_stops ((CharSet.stops_cons _ _ _).mpr outside) used next

/-- Rounds of one character each go on as long as they can, if the match can be completed
    there. -/
theorem repeated_one_of_run {set : CharSet} {run rest room : List Char} {used total : Nat}
    {next : Continuation} (fills : set.Fills run) (stops : set.Stops rest)
    (fits : run.length ≤ room.length) (completes : next (used + run.length) rest = some total) :
    repeated (one set).matchThen room used (run ++ rest) next = some total := by
  induction run generalizing room used with
  | nil =>
    cases room with
    | nil => exact completes
    | cons c room =>
      rw [List.nil_append, repeated, matchThen_one_of_stops stops]
      exact completes
  | cons c run ih =>
    rcases (set.fills_cons c run).mp fills with ⟨inside, fills⟩
    cases room with
    | nil => cases fits
    | cons d room =>
      have fits := Nat.le_of_succ_le_succ fits
      have onward : next (used + 1 + run.length) rest = some total := by
        rw [← completes, List.length_cons, Nat.add_assoc, Nat.add_comm 1]
      rw [List.cons_append, repeated, matchThen_one_of_contains inside, if_pos (Nat.lt_succ_self used),
        ih fills fits onward]

theorem repeated_one_of_incomplete {set : CharSet} {run rest room : List Char} {used : Nat}
    {next : Continuation} (fills : set.Fills run) (stops : set.Stops rest)
    (incomplete : ∀ used before after, run = before ++ after → next used (after ++ rest) = none) :
    repeated (one set).matchThen room used (run ++ rest) next = none := by
  induction run generalizing room used with
  | nil =>
    have last := incomplete used [] [] rfl
    cases room with
    | nil => exact last
    | cons c room =>
      rw [List.nil_append, repeated, matchThen_one_of_stops stops]
      exact last
  | cons c run ih =>
    have first := incomplete used [] (c :: run) rfl
    rcases (set.fills_cons c run).mp fills with ⟨inside, fills⟩
    cases room with
    | nil => exact first
    | cons d room =>
      have others := @ih room (used + 1) fills fun used before after split =>
        incomplete used (c :: before) after (congrArg (c :: ·) split)
      rw [List.cons_append, repeated, matchThen_one_of_contains inside,
        if_pos (Nat.lt_succ_self used), others]
      exact first

theorem matchThen_star_of_run {set : CharSet} {run rest : List Char} {used total : Nat}
    {next : Continuation} (fills : set.Fills run) (stops : set.Stops rest)
    (completes : next (used + run.length) rest = some total) :
    (star (one set)).matchThen used (run ++ rest) next = some total := by
  rw [matchThen]
  apply repeated_one_of_run fills stops _ completes
  rw [List.length_append]
  exact Nat.le_add_right _ _

theorem matchThen_plus_of_run {set : CharSet} {run rest : List Char} {used total : Nat}
    {next : Continuation} (fills : set.Fills run) (filled : run ≠ []) (stops : set.Stops rest)
    (completes : next (used + run.length) rest = some total) :
    (plus (one set)).matchThen used (run ++ rest) next = some total := by
  rcases List.exists_cons_of_ne_nil filled with ⟨c, run, rfl⟩
  rcases (set.fills_cons c run).mp fills with ⟨inside, fills⟩
  rw [plus, matchThen, List.cons_append, matchThen_one_of_contains inside]
  apply matchThen_star_of_run fills stops
  rw [← completes, List.length_cons, Nat.add_assoc, Nat.add_comm 1]

theorem matchThen_plus_of_stops {set : CharSet} {text : List Char} (stops : set.Stops text)
    (used : Nat) (next : Continuation) : (plus (one set)).matchThen used text next = none :=
  matchThen_one_of_stops stops used _

theorem matchThen_optional_of_some {p : Pattern} {used total : Nat} {text : List Char}
    {next : Continuation} (found : p.matchThen used text next = some total) :
    (optional p).matchThen used text next = some total := by
  rw [optional, matchThen, found]

theorem matchThen_optional_of_none {p : Pattern} {used : Nat} {text : List Char}
    {next : Continuation} (missing : p.matchThen used text next = none) :
    (optional p).matchThen used text next = next used text := by
  rw [optional, matchThen, missing]
  rfl

end Pattern
end ContractLang
