import ContractLang.Proofs.Token.Fits
import ContractLang.Proofs.Token.Longest
import ContractLang.Proofs.Token.Reach

namespace ContractLang

open CharSet

/-- What the standard rules cut off a text that starts with `lexeme` and goes on with `rest`: the
    lexeme, as a token of this kind if there is one. For each kind of lexeme the premises about
    `rest` say when no longer one can be cut off instead. -/
inductive Cut : Option Kind → List Char → List Char → Prop
  | blanks {run rest : List Char} (fills : blank.Fills run) (filled : run ≠ [])
      (stops : blank.Stops rest) : Cut none run rest
  | comment {body rest : List Char} (fills : anyOnLine.Fills body) (stops : anyOnLine.Stops rest) :
      Cut none ('/' :: '/' :: body) rest
  | identifier {c : Char} {run rest : List Char} (starts : letter.contains c = true)
      (fills : wordPart.Fills run) (filled : run ≠ []) (stops : wordPart.Stops rest) :
      Cut (some .identifier) (c :: run) rest
  | integer {run rest : List Char} (fills : digit.Fills run) (filled : run ≠ [])
      (stops : digit.Stops rest) (whole : ∀ after, rest = '.' :: after → digit.Stops after) :
      Cut (some .number) run rest
  | fraction {run places rest : List Char} (fills : digit.Fills run) (filled : run ≠ [])
      (placesFill : digit.Fills places) (placesFilled : places ≠ []) (stops : digit.Stops rest) :
      Cut (some .number) (run ++ '.' :: places) rest
  | string {body rest : List Char} (fills : unquoted.Fills body) :
      Cut (some .string) ('"' :: (body ++ ['"'])) rest
  | scope {rest : List Char} : Cut (some .other) [':', ':'] rest
  | symbol {c : Char} {rest : List Char} (visible : blank.contains c = false)
      (noDigit : digit.contains c = false)
      (noWord : letter.contains c = true → wordPart.Stops rest)
      (noComment : c = '/' → rest.head? ≠ some '/') (noScope : c = ':' → rest.head? ≠ some ':')
      (noString : c = '"' → '"' ∉ rest) : Cut (some .other) [c] rest

def IsLongest (kind? : Option Kind) (lexeme rest : List Char) : Prop :=
  ∃ rule, RuleTable.standard.longest? (lexeme ++ rest) = some (rule, lexeme.length) ∧
    rule.keep = kind?.isSome ∧ rule.kind? = kind?

namespace IsLongest

open RuleTable Pattern

theorem of_blanks {run rest : List Char} (fills : blank.Fills run) (filled : run ≠ [])
    (stops : blank.Stops rest) : IsLongest none run rest := by
  rcases List.exists_cons_of_ne_nil filled with ⟨c, others, split⟩
  have start : blank.contains c = true := fills c (by rw [split]; exact List.mem_cons_self ..)
  have noLetter := outside_right (disjoint_blank_letter c) start
  have noDigit := outside_right (disjoint_blank_digit c) start
  have noSlash : c ≠ '/' := ne_of_contains start (by decide)
  have noColon : c ≠ ':' := ne_of_contains start (by decide)
  have noQuote : c ≠ '"' := ne_of_contains start (by decide)
  have size : 1 ≤ run.length := List.length_pos_iff.mpr filled
  refine ⟨_, longest?_cons_of_some (reach_blanks fills filled stops) size ?_, rfl, rfl⟩
  intro other member m found
  simp only [List.mem_cons, List.not_mem_nil, or_false] at member
  rw [split, List.cons_append] at found
  rcases member with rfl | rfl | rfl | rfl | rfl
  · cases (reach_comment_of_ne fun same => absurd same noSlash).symm.trans found
  · cases (reach_identifier_of_outside noLetter).symm.trans found
  · cases (reach_number_of_outside noDigit).symm.trans found
  · cases (reach_string_of_unclosed fun same => absurd same noQuote).symm.trans found
  · exact Nat.le_trans (reach_symbol_le (fun same => absurd same noColon) found) size

theorem of_comment {body rest : List Char} (fills : anyOnLine.Fills body)
    (stops : anyOnLine.Stops rest) : IsLongest none ('/' :: '/' :: body) rest := by
  have blanks : Pattern.blanks.reach ('/' :: '/' :: (body ++ rest)) = none :=
    reach_blanks_of_outside (by decide)
  have identifier : Pattern.identifier.reach ('/' :: '/' :: (body ++ rest)) = none :=
    reach_identifier_of_outside (by decide)
  have number : Pattern.number.reach ('/' :: '/' :: (body ++ rest)) = none :=
    reach_number_of_outside (by decide)
  have string : Pattern.string.reach ('/' :: '/' :: (body ++ rest)) = none :=
    reach_string_of_unclosed fun same => absurd same (by decide)
  have symbol : ∀ m, Pattern.symbol.reach ('/' :: '/' :: (body ++ rest)) = some m → m ≤ 1 :=
    fun m => reach_symbol_le fun same => absurd same (by decide)
  refine ⟨.ofPattern "Comment" "//.*" .comment false none, ?_, rfl, rfl⟩
  rw [List.cons_append, List.cons_append, standard, longest?_cons_of_none blanks]
  apply longest?_cons_of_some (reach_comment fills stops) (Nat.succ_pos _)
  intro other member m found
  simp only [List.mem_cons, List.not_mem_nil, or_false] at member
  rcases member with rfl | rfl | rfl | rfl
  · cases identifier.symm.trans found
  · cases number.symm.trans found
  · cases string.symm.trans found
  · exact Nat.le_trans (symbol m found) (Nat.succ_pos _)

theorem of_identifier {c : Char} {run rest : List Char} (starts : letter.contains c = true)
    (fills : wordPart.Fills run) (filled : run ≠ []) (stops : wordPart.Stops rest) :
    IsLongest (some .identifier) (c :: run) rest := by
  have noSlash : c ≠ '/' := ne_of_contains starts (by decide)
  have noColon : c ≠ ':' := ne_of_contains starts (by decide)
  have noQuote : c ≠ '"' := ne_of_contains starts (by decide)
  have blanks : Pattern.blanks.reach (c :: (run ++ rest)) = none :=
    reach_blanks_of_outside (outside_left (disjoint_blank_letter c) starts)
  have comment : Pattern.comment.reach (c :: (run ++ rest)) = none :=
    reach_comment_of_ne fun same => absurd same noSlash
  refine ⟨.ofPattern "ID" "[a-zA-Z_][a-zA-Z0-9_]+" .identifier true (some .identifier), ?_, rfl, rfl⟩
  rw [List.cons_append, standard, longest?_cons_of_none blanks, longest?_cons_of_none comment]
  apply longest?_cons_of_some (reach_identifier starts fills filled stops) (Nat.succ_pos _)
  intro other member m found
  simp only [List.mem_cons, List.not_mem_nil, or_false] at member
  rcases member with rfl | rfl | rfl
  · have noDigit := outside_right (disjoint_letter_digit c) starts
    cases (reach_number_of_outside noDigit).symm.trans found
  · cases (reach_string_of_unclosed fun same => absurd same noQuote).symm.trans found
  · exact Nat.le_trans (reach_symbol_le (fun same => absurd same noColon) found) (Nat.succ_pos _)

theorem of_number {run rest : List Char} {c : Char} (head : (run ++ rest).head? = some c)
    (starts : digit.contains c = true) (filled : 0 < run.length)
    (reach : number.reach (run ++ rest) = some run.length) :
    IsLongest (some .number) run rest := by
  rcases List.head?_eq_some_iff.mp head with ⟨after, split⟩
  have noSlash : c ≠ '/' := ne_of_contains starts (by decide)
  have noColon : c ≠ ':' := ne_of_contains starts (by decide)
  have noQuote : c ≠ '"' := ne_of_contains starts (by decide)
  have blanks : Pattern.blanks.reach (run ++ rest) = none := by
    rw [split]
    exact reach_blanks_of_outside (outside_left (disjoint_blank_digit c) starts)
  have comment : Pattern.comment.reach (run ++ rest) = none := by
    rw [split]
    exact reach_comment_of_ne fun same => absurd same noSlash
  have identifier : Pattern.identifier.reach (run ++ rest) = none := by
    rw [split]
    exact reach_identifier_of_outside (outside_left (disjoint_letter_digit c) starts)
  refine ⟨.ofPattern "Number" "[0-9]+(\\.[0-9]+)?" .number true (some .number), ?_, rfl, rfl⟩
  rw [standard, longest?_cons_of_none blanks, longest?_cons_of_none comment,
    longest?_cons_of_none identifier]
  apply longest?_cons_of_some reach filled
  intro other member m found
  simp only [List.mem_cons, List.not_mem_nil, or_false] at member
  rw [split] at found
  rcases member with rfl | rfl
  · cases (reach_string_of_unclosed fun same => absurd same noQuote).symm.trans found
  · exact Nat.le_trans (reach_symbol_le (fun same => absurd same noColon) found) filled

theorem of_string {body rest : List Char} (fills : unquoted.Fills body) :
    IsLongest (some .string) ('"' :: (body ++ ['"'])) rest := by
  have blanks : Pattern.blanks.reach ('"' :: (body ++ '"' :: rest)) = none :=
    reach_blanks_of_outside (by decide)
  have comment : Pattern.comment.reach ('"' :: (body ++ '"' :: rest)) = none :=
    reach_comment_of_ne fun same => absurd same (by decide)
  have identifier : Pattern.identifier.reach ('"' :: (body ++ '"' :: rest)) = none :=
    reach_identifier_of_outside (by decide)
  have number : Pattern.number.reach ('"' :: (body ++ '"' :: rest)) = none :=
    reach_number_of_outside (by decide)
  have symbol : ∀ m, Pattern.symbol.reach ('"' :: (body ++ '"' :: rest)) = some m → m ≤ 1 :=
    fun m => reach_symbol_le fun same => absurd same (by decide)
  have size : ('"' :: (body ++ ['"'])).length = body.length + 2 := by simp
  refine ⟨.ofPattern "String" "\"[^\"]*\"" .string true (some .string), ?_, rfl, rfl⟩
  rw [List.cons_append, List.append_assoc, List.singleton_append, size, standard,
    longest?_cons_of_none blanks, longest?_cons_of_none comment, longest?_cons_of_none identifier,
    longest?_cons_of_none number]
  apply longest?_cons_of_some (reach_string fills) (Nat.succ_pos _)
  intro other member m found
  simp only [List.mem_cons, List.not_mem_nil, or_false] at member
  subst member
  exact Nat.le_trans (symbol m found) (Nat.succ_pos _)

theorem of_other {c : Char} {run rest : List Char} (filled : run ≠ [])
    (head : (run ++ rest).head? = some c) (visible : blank.contains c = false)
    (noDigit : digit.contains c = false)
    (noComment : comment.reach (run ++ rest) = none)
    (noIdentifier : identifier.reach (run ++ rest) = none)
    (noString : string.reach (run ++ rest) = none)
    (reach : symbol.reach (run ++ rest) = some run.length) :
    IsLongest (some .other) run rest := by
  rcases List.head?_eq_some_iff.mp head with ⟨after, split⟩
  have blanks : Pattern.blanks.reach (run ++ rest) = none := by
    rw [split]
    exact reach_blanks_of_outside visible
  have number : Pattern.number.reach (run ++ rest) = none := by
    rw [split]
    exact reach_number_of_outside noDigit
  refine ⟨.ofPattern "Other" "::|." .symbol true (some .other), ?_, rfl, rfl⟩
  rw [standard, longest?_cons_of_none blanks, longest?_cons_of_none noComment,
    longest?_cons_of_none noIdentifier, longest?_cons_of_none number,
    longest?_cons_of_none noString]
  apply longest?_cons_of_some reach (List.length_pos_iff.mpr filled)
  intro other member
  cases member

end IsLongest

theorem Cut.isLongest {kind? : Option Kind} {lexeme rest : List Char}
    (cut : Cut kind? lexeme rest) : IsLongest kind? lexeme rest := by
  cases cut with
  | blanks fills filled stops => exact .of_blanks fills filled stops
  | comment fills stops => exact .of_comment fills stops
  | identifier starts fills filled stops => exact .of_identifier starts fills filled stops
  | integer fills filled stops whole =>
    rcases List.exists_cons_of_ne_nil filled with ⟨c, others, rfl⟩
    exact .of_number rfl (fills c (List.mem_cons_self ..)) (List.length_pos_iff.mpr filled)
      (Pattern.reach_number_of_integer fills filled stops whole)
  | @fraction run places rest fills filled placesFill placesFilled stops =>
    rcases List.exists_cons_of_ne_nil filled with ⟨c, others, rfl⟩
    have reach :=
      Pattern.reach_number_of_fraction fills filled placesFill placesFilled stops
    have size : 0 < (c :: others ++ '.' :: places).length := Nat.succ_pos _
    apply IsLongest.of_number rfl (fills c (List.mem_cons_self ..)) size
    rw [← reach, List.append_assoc]
    rfl
  | string fills => exact .of_string fills
  | @scope rest =>
    exact .of_other (List.cons_ne_nil _ _) rfl (by decide) (by decide)
      (Pattern.reach_comment_of_ne fun same => absurd same (by decide))
      (Pattern.reach_identifier_of_outside (by decide))
      (Pattern.reach_string_of_unclosed fun same => absurd same (by decide))
      (Pattern.reach_symbol_scope rest)
  | @symbol c rest visible noDigit noWord noComment noScope noString =>
    have noNewline : c ≠ '\n' := by
      intro same
      subst same
      cases visible
    exact .of_other (List.cons_ne_nil _ _) rfl visible noDigit
      (Pattern.reach_comment_of_ne noComment) (Pattern.reach_identifier_of_stops noWord)
      (Pattern.reach_string_of_unclosed noString) (Pattern.reach_symbol noNewline noScope)

end ContractLang
