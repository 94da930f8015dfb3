import ContractLang.Proofs.Token.Follow

namespace ContractLang

open CharSet

/-- Written side by side, or with a space between two words, this token and those after it are not
    cut apart again where they were: a longer word, a comment, a double colon or a fraction is
    found instead. -/
inductive RunsTogether : Token → List Token → Prop
  | letter {t u : Token} {rest : List Token} (first : t.kind = .identifier)
      (second : u.IsLetter) : RunsTogether t (u :: rest)
  | word {t u : Token} {rest : List Token} (first : t.IsLetter)
      (second : u.isWord = true ∨ u.IsLetter) : RunsTogether t (u :: rest)
  | comment {t u : Token} {rest : List Token} (first : t.symbol? = some '/')
      (second : u.symbol? = some '/') : RunsTogether t (u :: rest)
  | scope {t u : Token} {rest : List Token} (first : t.symbol? = some ':')
      (second : u.symbol? = some ':' ∨ u.IsScope) : RunsTogether t (u :: rest)
  | fraction {t u v : Token} {rest : List Token} (first : t.kind = .number)
      (whole : '.' ∉ t.lexeme.toList) (point : u.symbol? = some '.') (second : v.kind = .number) :
      RunsTogether t (u :: v :: rest)

def Apart : List Token → Prop
  | [] => True
  | t :: rest => ¬ RunsTogether t rest ∧ Apart rest

def typeTail (t : Token) : List Token → List Char
  | [] => []
  | u :: rest => (if t.isWord && u.isWord then [' '] else []) ++ (joinTypeLexemes (u :: rest)).toList

theorem toList_joinTypeLexemes_cons (t : Token) (rest : List Token) :
    (joinTypeLexemes (t :: rest)).toList = t.lexeme.toList ++ typeTail t rest := by
  cases rest with
  | nil => exact (List.append_nil _).symm
  | cons u rest =>
    rw [joinTypeLexemes, String.toList_append, String.toList_append, List.append_assoc, typeTail]
    split <;> rfl

theorem shapes_typeTail (t : Token) (rest : List Token) :
    shapes (typeTail t rest) = shapes (joinTypeLexemes rest).toList := by
  cases rest with
  | nil => rfl
  | cons u rest =>
    rw [typeTail]
    split
    · exact shapes_space _
    · rfl

theorem typeTail_of_words {t u : Token} (words : (t.isWord && u.isWord) = true)
    (rest : List Token) :
    typeTail t (u :: rest) = ' ' :: (joinTypeLexemes (u :: rest)).toList := by
  rw [typeTail, if_pos words]
  rfl

theorem typeTail_of_not_words {t u : Token} {c : Char} {more : List Char}
    (words : (t.isWord && u.isWord) = false) (spelled : u.lexeme.toList = c :: more)
    (rest : List Token) : typeTail t (u :: rest) = c :: (more ++ typeTail u rest) := by
  rw [typeTail, words, toList_joinTypeLexemes_cons, spelled]
  rfl

theorem not_runsTogether_nil (t : Token) : ¬ RunsTogether t [] := by
  rintro ⟨⟩

namespace Token

variable {t u : Token} {rest : List Token}

theorem symbol?_ne_of_kind {c : Char} (kind : t.kind ≠ .other) : t.symbol? ≠ some c := by
  rw [symbol?_of_kind kind]
  exact (Option.some_ne_none c).symm

theorem not_isLetter_of_kind (kind : t.kind ≠ .other) : ¬ t.IsLetter :=
  fun ⟨_, found, _⟩ => symbol?_ne_of_kind kind found

theorem isWord_of_isLetter (single : t.IsLetter) : t.isWord = false := by
  rcases single with ⟨c, found, _⟩
  rw [isWord, ((t.symbol?_eq_some_iff c).mp found).1]
  rfl

theorem runsTogether_identifier_iff (kind : t.kind = .identifier) :
    RunsTogether t (u :: rest) ↔ u.IsLetter := by
  have noSymbol : t.kind ≠ .other := by rw [kind]; decide
  constructor
  · intro runs
    cases runs with
    | letter first second => exact second
    | word first => exact absurd first (not_isLetter_of_kind noSymbol)
    | comment first => exact absurd first (symbol?_ne_of_kind noSymbol)
    | scope first => exact absurd first (symbol?_ne_of_kind noSymbol)
    | fraction first => rw [kind] at first; cases first
  · exact .letter kind

theorem runsTogether_number_iff (kind : t.kind = .number) :
    RunsTogether t (u :: rest) ↔ '.' ∉ t.lexeme.toList ∧ u.symbol? = some '.' ∧
      ∃ v ∈ rest.head?, v.kind = .number := by
  have noSymbol : t.kind ≠ .other := by rw [kind]; decide
  constructor
  · intro runs
    cases runs with
    | letter first => rw [kind] at first; cases first
    | word first => exact absurd first (not_isLetter_of_kind noSymbol)
    | comment first => exact absurd first (symbol?_ne_of_kind noSymbol)
    | scope first => exact absurd first (symbol?_ne_of_kind noSymbol)
    | fraction first whole point second => exact ⟨whole, point, _, rfl, second⟩
  · intro h
    rcases h with ⟨whole, point, v, head, second⟩
    rcases List.head?_eq_some_iff.mp head with ⟨others, rfl⟩
    exact .fraction kind whole point second

theorem not_runsTogether_string (kind : t.kind = .string) : ¬ RunsTogether t rest := by
  have noSymbol : t.kind ≠ .other := by rw [kind]; decide
  intro runs
  cases runs with
  | letter first => rw [kind] at first; cases first
  | word first => exact absurd first (not_isLetter_of_kind noSymbol)
  | comment first => exact absurd first (symbol?_ne_of_kind noSymbol)
  | scope first => exact absurd first (symbol?_ne_of_kind noSymbol)
  | fraction first => rw [kind] at first; cases first

theorem runsTogether_other_iff (kind : t.kind = .other) :
    RunsTogether t (u :: rest) ↔ (t.IsLetter ∧ (u.isWord = true ∨ u.IsLetter)) ∨
      (t.symbol? = some '/' ∧ u.symbol? = some '/') ∨
      (t.symbol? = some ':' ∧ (u.symbol? = some ':' ∨ u.IsScope)) := by
  constructor
  · intro runs
    cases runs with
    | letter first => rw [kind] at first; cases first
    | word first second => exact .inl ⟨first, second⟩
    | comment first second => exact .inr (.inl ⟨first, second⟩)
    | scope first second => exact .inr (.inr ⟨first, second⟩)
    | fraction first => rw [kind] at first; cases first
  · intro h
    rcases h with ⟨first, second⟩ | ⟨first, second⟩ | ⟨first, second⟩
    · exact .word first second
    · exact .comment first second
    · exact .scope first second

end Token
section Tail

variable {t u : Token} {rest : List Token} {c : Char} {more : List Char}

theorem stops_typeTail_iff {set : CharSet} (noSpace : set.contains ' ' = false)
    (spelled : u.lexeme.toList = c :: more) :
    set.Stops (typeTail t (u :: rest)) ↔
      (t.isWord && u.isWord) = true ∨ set.contains c = false := by
  cases words : t.isWord && u.isWord with
  | true => simp [typeTail_of_words words, stops_cons, noSpace]
  | false => simp [typeTail_of_not_words words spelled, stops_cons]

theorem typeTail_of_symbol {d : Char} (found : u.symbol? = some d) :
    typeTail t (u :: rest) = d :: typeTail u rest := by
  rcases (u.symbol?_eq_some_iff d).mp found with ⟨kind, single⟩
  have words : (t.isWord && u.isWord) = false := by simp [Token.isWord, kind]
  exact typeTail_of_not_words words single rest

theorem cut_identifier_typeTail_iff (cut : t.IsCut) (kind : t.kind = .identifier)
    (next : u.IsCut) : Cut (some t.kind) t.lexeme.toList (typeTail t (u :: rest)) ↔
      ¬ RunsTogether t (u :: rest) := by
  rcases next.starts with ⟨c, more, spelled, _, start⟩
  have inWord := Token.wordPart_iff spelled start
  have isWord : t.isWord = true := by rw [Token.isWord, kind]; rfl
  rw [Token.IsCut, kind] at cut
  rw [kind, cut_identifier_iff cut, stops_typeTail_iff (by decide) spelled,
    Token.runsTogether_identifier_iff kind, isWord, Bool.true_and, ← Bool.not_eq_true, inWord]
  constructor
  · rintro (word | outside) single
    · rw [Token.isWord_of_isLetter single] at word
      cases word
    · exact outside (.inr single)
  · intro noLetter
    by_cases word : u.isWord = true
    · exact .inl word
    · refine .inr ?_
      intro h
      rcases h with isWord | single
      · exact word isWord
      · exact noLetter single

theorem typeTail_eq_point_cons {after : List Char} (next : u.IsCut) :
    typeTail t (u :: rest) = '.' :: after ↔ u.symbol? = some '.' ∧ typeTail u rest = after := by
  rcases next.starts with ⟨c, more, spelled, _, start⟩
  constructor
  · intro split
    have found : u.symbol? = some '.' := by
      apply (Token.symbol?_iff spelled start (by decide) (by decide) (by decide) (by decide)).mp
      cases words : t.isWord && u.isWord with
      | true =>
        rw [typeTail_of_words words] at split
        cases split
      | false =>
        rw [typeTail_of_not_words words spelled] at split
        exact (List.cons.inj split).1
    rw [typeTail_of_symbol found] at split
    exact ⟨found, (List.cons.inj split).2⟩
  · intro h
    rcases h with ⟨found, rfl⟩
    exact typeTail_of_symbol found

theorem stops_digit_typeTail_iff (symbol : t.kind = .other) (others : ∀ v ∈ rest, v.IsCut) :
    digit.Stops (typeTail t rest) ↔ ¬ ∃ v ∈ rest.head?, v.kind = .number := by
  cases rest with
  | nil => simp [typeTail, Stops.nil]
  | cons v rest =>
    rcases (others v (List.mem_cons_self ..)).starts with ⟨d, digits, spelled, _, start⟩
    have noWord : (t.isWord && v.isWord) = false := by simp [Token.isWord, symbol]
    rw [stops_typeTail_iff (by decide) spelled, noWord, ← Bool.not_eq_true,
      Token.digit_iff spelled start]
    simp

theorem stops_digit_of_number (kind : t.kind = .number) (next : u.IsCut) :
    digit.Stops (typeTail t (u :: rest)) := by
  rcases next.starts with ⟨c, more, spelled, _, start⟩
  apply (stops_typeTail_iff (by decide) spelled).mpr
  by_cases number : u.kind = .number
  · left
    simp [Token.isWord, kind, number]
  · right
    rwa [← Bool.not_eq_true, Token.digit_iff spelled start]

theorem cut_number_typeTail_iff (cut : t.IsCut) (kind : t.kind = .number) (next : u.IsCut)
    (others : ∀ v ∈ rest, v.IsCut) :
    Cut (some t.kind) t.lexeme.toList (typeTail t (u :: rest)) ↔
      ¬ RunsTogether t (u :: rest) := by
  have stops : digit.Stops (typeTail t (u :: rest)) := stops_digit_of_number kind next
  have afterPoint : u.symbol? = some '.' →
      (digit.Stops (typeTail u rest) ↔ ¬ ∃ v ∈ rest.head?, v.kind = .number) :=
    fun point => stops_digit_typeTail_iff ((u.symbol?_eq_some_iff _).mp point).1 others
  rw [Token.IsCut, kind] at cut
  rw [kind, cut_number_iff cut, Token.runsTogether_number_iff kind]
  constructor
  · rintro ⟨_, whole⟩ ⟨noPoint, point, number⟩
    have outside := whole noPoint _ (typeTail_of_symbol point)
    exact (afterPoint point).mp outside number
  · intro apart
    refine ⟨stops, fun noPoint after split => ?_⟩
    rcases (typeTail_eq_point_cons next).mp split with ⟨point, rfl⟩
    exact (afterPoint point).mpr fun number => apart ⟨noPoint, point, number⟩

theorem cut_symbol_typeTail_iff {a : Char} (cut : t.IsCut) (found : t.symbol? = some a)
    (next : u.IsCut) (quotes : a = '"' → '"' ∉ typeTail t (u :: rest)) :
    Cut (some t.kind) t.lexeme.toList (typeTail t (u :: rest)) ↔
      ¬ RunsTogether t (u :: rest) := by
  rcases next.starts with ⟨c, more, spelled, _, start⟩
  rcases (t.symbol?_eq_some_iff a).mp found with ⟨kind, single⟩
  have words : (t.isWord && u.isWord) = false := by simp [Token.isWord, kind]
  have isLetter : t.IsLetter ↔ letter.contains a = true := by simp [Token.IsLetter, found]
  have isSlash := Token.symbol?_iff (d := '/') spelled start (by decide) (by decide) (by decide)
    (by decide)
  rw [Token.IsCut, kind, single] at cut
  rw [kind, single, cut_symbol_iff cut, Token.runsTogether_other_iff kind, found, isLetter,
    ← Token.wordPart_iff spelled start, ← isSlash, ← Token.colon_iff spelled start,
    typeTail_of_not_words words spelled, stops_cons, ← Bool.not_eq_true]
  rw [typeTail_of_not_words words spelled] at quotes
  simp only [List.head?_cons, Option.some.injEq, not_or, not_and, ne_eq]
  constructor
  · intro h
    rcases h with ⟨noWord, noComment, noScope, _⟩
    exact ⟨noWord, noComment, noScope⟩
  · intro h
    rcases h with ⟨noWord, noComment, noScope⟩
    exact ⟨noWord, noComment, noScope, quotes⟩

theorem cut_scope_typeTail_iff (kind : t.kind = .other) (spelled : t.lexeme.toList = [':', ':']) :
    Cut (some t.kind) t.lexeme.toList (typeTail t rest) ↔ ¬ RunsTogether t rest := by
  have noSymbol : ∀ a, t.symbol? ≠ some a := by
    intro a found
    rw [((t.symbol?_eq_some_iff a).mp found).2] at spelled
    cases spelled
  rw [kind, spelled]
  refine ⟨fun _ runs => ?_, fun _ => .scope⟩
  cases rest with
  | nil => exact not_runsTogether_nil t runs
  | cons u rest =>
    rcases (Token.runsTogether_other_iff kind).mp runs with ⟨first, _⟩ | ⟨first, _⟩ | ⟨first, _⟩
    · rcases first with ⟨a, found, _⟩
      exact noSymbol a found
    · exact noSymbol _ first
    · exact noSymbol _ first

/-- In the text of a type a token is cut off as it was exactly if it does not run together with
    what follows. -/
theorem cut_typeTail_iff (cut : t.IsCut) (others : ∀ u ∈ rest, u.IsCut)
    (quotes : t.symbol? = some '"' → '"' ∉ typeTail t rest) :
    Cut (some t.kind) t.lexeme.toList (typeTail t rest) ↔ ¬ RunsTogether t rest := by
  -- By the kind of the first token: each kind has its own way to grow longer.
  cases rest with
  | nil => exact ⟨fun _ => not_runsTogether_nil t, fun _ => cut⟩
  | cons u rest =>
    have next := others u (List.mem_cons_self ..)
    rcases cut.starts with ⟨c, more, spelled, _, start⟩
    cases kind : t.kind with
    | identifier =>
      rw [← kind]
      exact cut_identifier_typeTail_iff cut kind next
    | number =>
      rw [← kind]
      exact cut_number_typeTail_iff cut kind next fun v member =>
        others v (List.mem_cons_of_mem _ member)
    | string =>
      rw [Token.IsCut, kind] at cut
      exact ⟨fun _ => Token.not_runsTogether_string kind, fun _ => cut_string cut⟩
    | other =>
      rw [← kind]
      rw [kind] at start
      cases start with
      | scope => exact cut_scope_typeTail_iff kind spelled
      | symbol =>
        have found := (t.symbol?_eq_some_iff c).mpr ⟨kind, spelled⟩
        exact cut_symbol_typeTail_iff cut found next fun quote => quotes (quote ▸ found)

end Tail
end ContractLang
