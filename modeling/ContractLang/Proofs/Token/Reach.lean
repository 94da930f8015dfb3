import ContractLang.Proofs.Pattern.Run
import ContractLang.Token.Standard

namespace ContractLang

namespace CharSet

def blank : CharSet := ⟨false, [(' ', ' '), ('\t', '\t'), ('\n', '\n'), ('\r', '\r')]⟩

def letter : CharSet := ⟨false, [('a', 'z'), ('A', 'Z'), ('_', '_')]⟩

def wordPart : CharSet := ⟨false, [('a', 'z'), ('A', 'Z'), ('0', '9'), ('_', '_')]⟩

def digit : CharSet := ⟨false, [('0', '9')]⟩

def unquoted : CharSet := ⟨true, [('"', '"')]⟩

theorem contains_wordPart (c : Char) :
    wordPart.contains c = true ↔ letter.contains c = true ∨ digit.contains c = true := by
  simp only [contains, wordPart, letter, digit, List.any_cons, List.any_nil]
  grind

theorem disjoint_blank_letter (c : Char) :
    blank.contains c = false ∨ letter.contains c = false := by
  simp [contains, letter, blank, Char.le_def, UInt32.le_iff_toNat_le]
  omega

theorem disjoint_blank_digit (c : Char) :
    blank.contains c = false ∨ digit.contains c = false := by
  simp [contains, digit, blank, Char.le_def, UInt32.le_iff_toNat_le]
  omega

theorem disjoint_letter_digit (c : Char) :
    letter.contains c = false ∨ digit.contains c = false := by
  simp [contains, digit, letter, Char.le_def, UInt32.le_iff_toNat_le]
  omega

theorem contains_unquoted (c : Char) : unquoted.contains c = true ↔ c ≠ '"' := by
  have same : unquoted.contains c = !(single '"').contains c := by
    simp [contains, unquoted, single]
  rw [same, Bool.not_eq_true', ← Bool.not_eq_true, contains_single]

theorem outside_right {one other : CharSet} {c : Char}
    (disjoint : one.contains c = false ∨ other.contains c = false)
    (inside : one.contains c = true) : other.contains c = false := by
  rcases disjoint with outside | outside
  · rw [inside] at outside
    cases outside
  · exact outside

theorem outside_left {one other : CharSet} {c : Char}
    (disjoint : one.contains c = false ∨ other.contains c = false)
    (inside : other.contains c = true) : one.contains c = false :=
  outside_right disjoint.symm inside

theorem ne_of_contains {set : CharSet} {c d : Char} (inside : set.contains c = true)
    (outside : set.contains d = false) : c ≠ d := by
  intro same
  subst same
  rw [inside] at outside
  cases outside

theorem Fills.not_mem {set : CharSet} {run : List Char} (fills : set.Fills run) (c : Char)
    (outside : set.contains c = false) : c ∉ run :=
  fun member => ne_of_contains (fills c member) outside rfl

end CharSet

namespace Pattern

theorem reach_blanks {run rest : List Char} (fills : CharSet.blank.Fills run) (filled : run ≠ [])
    (stops : CharSet.blank.Stops rest) : blanks.reach (run ++ rest) = some run.length :=
  matchThen_plus_of_run fills filled stops (by rw [Nat.zero_add])

theorem reach_blanks_of_outside {c : Char} {rest : List Char}
    (outside : CharSet.blank.contains c = false) : blanks.reach (c :: rest) = none :=
  matchThen_plus_of_stops ((CharSet.stops_cons _ _ _).mpr outside) 0 _

theorem reach_comment {body rest : List Char} (fills : CharSet.anyOnLine.Fills body)
    (stops : CharSet.anyOnLine.Stops rest) :
    comment.reach ('/' :: '/' :: (body ++ rest)) = some (body.length + 2) := by
  rw [reach, comment, matchThen, matchThen, matchThen_literal, matchThen_literal]
  apply matchThen_star_of_run fills stops
  rw [Nat.add_comm]

theorem reach_comment_of_ne {c : Char} {rest : List Char}
    (other : c = '/' → rest.head? ≠ some '/') : comment.reach (c :: rest) = none := by
  rw [reach, comment, matchThen, matchThen]
  by_cases slash : c = '/'
  · subst slash
    rw [matchThen_literal]
    cases rest with
    | nil => rfl
    | cons d rest => exact matchThen_literal_of_ne (fun same => other rfl (congrArg some same)) _ _ _
  · exact matchThen_literal_of_ne slash _ _ _

theorem reach_identifier {c : Char} {run rest : List Char}
    (starts : CharSet.letter.contains c = true) (fills : CharSet.wordPart.Fills run)
    (filled : run ≠ []) (stops : CharSet.wordPart.Stops rest) :
    identifier.reach (c :: (run ++ rest)) = some (run.length + 1) := by
  rw [reach, identifier, matchThen]
  refine (matchThen_one_of_contains starts _ _ _).trans ?_
  apply matchThen_plus_of_run fills filled stops
  rw [Nat.add_comm, Nat.add_zero]

theorem reach_identifier_of_stops {c : Char} {rest : List Char}
    (stops : CharSet.letter.contains c = true → CharSet.wordPart.Stops rest) :
    identifier.reach (c :: rest) = none := by
  rw [reach, identifier, matchThen]
  by_cases starts : CharSet.letter.contains c = true
  · refine (matchThen_one_of_contains starts _ _ _).trans ?_
    exact matchThen_plus_of_stops (stops starts) _ _
  · apply matchThen_one_of_stops
    exact (CharSet.stops_cons _ _ _).mpr (Bool.not_eq_true _ ▸ starts)

theorem reach_identifier_of_outside {c : Char} {rest : List Char}
    (outside : CharSet.letter.contains c = false) : identifier.reach (c :: rest) = none :=
  reach_identifier_of_stops fun inside => by rw [outside] at inside; cases inside

/-- An integer, which a point without a digit after it does not make a fraction. -/
theorem reach_number_of_integer {run rest : List Char} (fills : CharSet.digit.Fills run)
    (filled : run ≠ []) (stops : CharSet.digit.Stops rest)
    (whole : ∀ after, rest = '.' :: after → CharSet.digit.Stops after) :
    number.reach (run ++ rest) = some run.length := by
  rw [reach, number, matchThen]
  apply matchThen_plus_of_run fills filled stops
  rw [matchThen_optional_of_none, Nat.zero_add]
  · rw [matchThen]
    cases rest with
    | nil => rfl
    | cons c rest =>
      by_cases point : c = '.'
      · subst point
        rw [matchThen_literal]
        exact matchThen_plus_of_stops (whole rest rfl) _ _
      · exact matchThen_literal_of_ne point _ _ _

theorem reach_number_of_fraction {run places rest : List Char} (fills : CharSet.digit.Fills run)
    (filled : run ≠ []) (placesFill : CharSet.digit.Fills places) (placesFilled : places ≠ [])
    (stops : CharSet.digit.Stops rest) :
    number.reach (run ++ '.' :: (places ++ rest)) = some (run ++ '.' :: places).length := by
  rw [reach, number, matchThen]
  apply matchThen_plus_of_run fills filled ((CharSet.stops_cons _ _ _).mpr (by decide))
  apply matchThen_optional_of_some
  rw [matchThen, matchThen_literal]
  apply matchThen_plus_of_run placesFill placesFilled stops
  rw [List.length_append, List.length_cons]
  congr 1
  omega

theorem reach_number_of_outside {c : Char} {rest : List Char}
    (outside : CharSet.digit.contains c = false) : number.reach (c :: rest) = none :=
  matchThen_plus_of_stops ((CharSet.stops_cons _ _ _).mpr outside) 0 _

theorem reach_string {body rest : List Char} (fills : CharSet.unquoted.Fills body) :
    string.reach ('"' :: (body ++ '"' :: rest)) = some (body.length + 2) := by
  rw [reach, string, matchThen, matchThen, matchThen_literal]
  apply matchThen_star_of_run fills ((CharSet.stops_cons _ _ _).mpr (by decide))
  rw [matchThen_literal]
  congr 1
  omega

theorem reach_string_of_unclosed {c : Char} {rest : List Char} (unclosed : c = '"' → '"' ∉ rest) :
    string.reach (c :: rest) = none := by
  rw [reach, string, matchThen, matchThen]
  by_cases quote : c = '"'
  · subst quote
    have noQuote : ∀ d ∈ rest, d ≠ '"' := by
      rintro d member rfl
      exact unclosed rfl member
    have fills : CharSet.unquoted.Fills rest := fun d member =>
      (CharSet.contains_unquoted d).mpr (noQuote d member)
    rw [matchThen_literal, matchThen, ← List.append_nil rest]
    apply repeated_one_of_incomplete fills (.nil _)
    intro used before after split
    cases after with
    | nil => rfl
    | cons d after =>
      apply matchThen_literal_of_ne
      apply noQuote
      rw [split]
      exact List.mem_append_right _ (List.mem_cons_self ..)
  · exact matchThen_literal_of_ne quote _ _ _

theorem reach_symbol_scope (rest : List Char) : symbol.reach (':' :: ':' :: rest) = some 2 :=
  rfl

theorem reach_symbol {c : Char} {rest : List Char} (visible : c ≠ '\n')
    (noScope : c = ':' → rest.head? ≠ some ':') : symbol.reach (c :: rest) = some 1 := by
  have single : (seq (literal ':') (literal ':')).matchThen 0 (c :: rest) (fun used _ => some used)
      = none := by
    rw [matchThen]
    by_cases colon : c = ':'
    · subst colon
      rw [matchThen_literal]
      cases rest with
      | nil => rfl
      | cons d rest =>
        exact matchThen_literal_of_ne (fun same => noScope rfl (congrArg some same)) _ _ _
    · exact matchThen_literal_of_ne colon _ _ _
  rw [reach, symbol, matchThen, single]
  exact matchThen_one_of_contains ((CharSet.contains_anyOnLine c).mpr visible) _ _ _

theorem reach_symbol_newline (rest : List Char) : symbol.reach ('\n' :: rest) = none := rfl

theorem reach_symbol_le {c : Char} {rest : List Char} {n : Nat}
    (noScope : c = ':' → rest.head? ≠ some ':') (found : symbol.reach (c :: rest) = some n) :
    n ≤ 1 := by
  by_cases newline : c = '\n'
  · rw [newline, reach_symbol_newline] at found
    cases found
  · rw [reach_symbol newline noScope] at found
    cases found
    exact Nat.le_refl 1

end Pattern
end ContractLang
