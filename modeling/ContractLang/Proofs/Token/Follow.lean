import ContractLang.Proofs.Span.TypeForm
import ContractLang.Proofs.Token.Slice

namespace ContractLang

open CharSet

variable {kind : Kind} {lexeme rest : List Char}

inductive Starts : Kind → Char → List Char → Prop
  | identifier {c : Char} {more : List Char} (starts : letter.contains c = true)
      (long : more ≠ []) : Starts .identifier c more
  | number {c : Char} {more : List Char} (starts : digit.contains c = true) :
      Starts .number c more
  | string {more : List Char} (long : more ≠ []) : Starts .string '"' more
  | scope : Starts .other ':' [':']
  | symbol {c : Char} (noDigit : digit.contains c = false) : Starts .other c []

theorem Cut.starts (cut : Cut (some kind) lexeme rest) :
    ∃ c more, lexeme = c :: more ∧ blank.contains c = false ∧ Starts kind c more := by
  cases cut with
  | identifier starts fills filled =>
    exact ⟨_, _, rfl, outside_left (disjoint_blank_letter _) starts, .identifier starts filled⟩
  | integer fills filled =>
    rcases List.exists_cons_of_ne_nil filled with ⟨c, others, rfl⟩
    have starts := fills c (List.mem_cons_self ..)
    exact ⟨_, _, rfl, outside_left (disjoint_blank_digit _) starts, .number starts⟩
  | fraction fills filled =>
    rcases List.exists_cons_of_ne_nil filled with ⟨c, others, rfl⟩
    have starts := fills c (List.mem_cons_self ..)
    exact ⟨_, _, rfl, outside_left (disjoint_blank_digit _) starts, .number starts⟩
  | string fills => exact ⟨_, _, rfl, by decide, .string (by simp)⟩
  | scope => exact ⟨_, _, rfl, by decide, .scope⟩
  | symbol visible noDigit => exact ⟨_, _, rfl, visible, .symbol noDigit⟩

theorem cut_identifier_iff (alone : Cut (some .identifier) lexeme []) :
    Cut (some .identifier) lexeme rest ↔ wordPart.Stops rest := by
  constructor
  · intro cut
    cases cut with
    | identifier starts fills filled stops => exact stops
  · intro stops
    cases alone with
    | identifier starts fills filled => exact .identifier starts fills filled stops

/-- A point and a digit would go on with a number that has no point yet. -/
theorem cut_number_iff (alone : Cut (some .number) lexeme []) :
    Cut (some .number) lexeme rest ↔
      digit.Stops rest ∧ ('.' ∉ lexeme → ∀ after, rest = '.' :: after → digit.Stops after) := by
  constructor
  · intro cut
    cases cut with
    | integer fills filled stops whole => exact ⟨stops, fun _ => whole⟩
    | fraction fills filled placesFill placesFilled stops =>
      exact ⟨stops, fun noPoint => absurd (by simp) noPoint⟩
  · intro h
    rcases h with ⟨stops, whole⟩
    cases alone with
    | integer fills filled =>
      exact .integer fills filled stops (whole (fills.not_mem '.' (by decide)))
    | fraction fills filled placesFill placesFilled =>
      exact .fraction fills filled placesFill placesFilled stops

theorem cut_string (alone : Cut (some .string) lexeme []) : Cut (some .string) lexeme rest := by
  cases alone with
  | string fills => exact .string fills

theorem cut_symbol_iff {c : Char} (alone : Cut (some .other) [c] []) :
    Cut (some .other) [c] rest ↔ (letter.contains c = true → wordPart.Stops rest) ∧
      (c = '/' → rest.head? ≠ some '/') ∧ (c = ':' → rest.head? ≠ some ':') ∧
      (c = '"' → '"' ∉ rest) := by
  constructor
  · intro cut
    cases cut with
    | symbol visible noDigit noWord noComment noScope noString =>
      exact ⟨noWord, noComment, noScope, noString⟩
  · intro h
    rcases h with ⟨noWord, noComment, noScope, noString⟩
    cases alone with
    | symbol visible noDigit => exact .symbol visible noDigit noWord noComment noScope noString

def Token.IsCut (t : Token) : Prop := Cut (some t.kind) t.lexeme.toList []

/-- A symbol that could stand in a word. -/
def Token.IsLetter (t : Token) : Prop := ∃ c, t.symbol? = some c ∧ letter.contains c = true

namespace Token

variable {t : Token} {c : Char} {more : List Char}

theorem IsCut.starts (cut : t.IsCut) : ∃ c more, t.lexeme.toList = c :: more ∧
    blank.contains c = false ∧ Starts t.kind c more := Cut.starts cut

theorem wordPart_iff (spelled : t.lexeme.toList = c :: more) (start : Starts t.kind c more) :
    wordPart.contains c = true ↔ t.isWord = true ∨ t.IsLetter := by
  have quote : wordPart.contains '"' = false := by decide
  have colon : wordPart.contains ':' = false := by decide
  rw [isWord, IsLetter]
  simp only [symbol?_eq_some_iff, spelled]
  generalize t.kind = kind at start
  cases start with
  | identifier starts => simp [contains_wordPart, starts]
  | number starts => simp [contains_wordPart, starts]
  | string => simp [quote]
  | scope => simp [colon]
  | symbol noDigit => simp [contains_wordPart, noDigit]

theorem digit_iff (spelled : t.lexeme.toList = c :: more) (start : Starts t.kind c more) :
    digit.contains c = true ↔ t.kind = .number := by
  generalize t.kind = kind at start
  cases start with
  | identifier starts => simp [outside_right (disjoint_letter_digit c) starts]
  | number starts => simp [starts]
  | string => exact ⟨by decide, by simp⟩
  | scope => exact ⟨by decide, by simp⟩
  | symbol noDigit => simp [noDigit]

theorem symbol?_iff {d : Char} (spelled : t.lexeme.toList = c :: more)
    (start : Starts t.kind c more) (noLetter : letter.contains d = false)
    (noDigit : digit.contains d = false) (noQuote : d ≠ '"') (noColon : d ≠ ':') :
    c = d ↔ t.symbol? = some d := by
  rw [symbol?_eq_some_iff, spelled]
  constructor
  · intro same
    subst same
    generalize t.kind = kind at start
    cases start with
    | identifier inside => rw [noLetter] at inside; cases inside
    | number inside => rw [noDigit] at inside; cases inside
    | string => exact absurd rfl noQuote
    | scope => exact absurd rfl noColon
    | symbol => exact ⟨rfl, rfl⟩
  · intro h
    rcases h with ⟨_, same⟩
    exact (List.cons.inj same).1

theorem colon_iff (spelled : t.lexeme.toList = c :: more) (start : Starts t.kind c more) :
    c = ':' ↔ t.symbol? = some ':' ∨ t.IsScope := by
  have isScope : t.lexeme = "::" ↔ c :: more = [':', ':'] := by
    rw [← spelled]
    exact ⟨fun same => by rw [same]; rfl, fun same => String.toList_inj.mp same⟩
  rw [symbol?_eq_some_iff, spelled, IsScope, isScope]
  constructor
  · intro same
    subst same
    generalize t.kind = kind at start
    cases start with
    | identifier inside => cases inside
    | number inside => cases inside
    | scope => exact .inr ⟨rfl, rfl⟩
    | symbol => exact .inl ⟨rfl, rfl⟩
  · intro h
    rcases h with ⟨_, same⟩ | ⟨_, same⟩
    · exact (List.cons.inj same).1
    · exact (List.cons.inj same).1

end Token
end ContractLang
