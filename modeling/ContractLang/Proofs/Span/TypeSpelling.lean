import ContractLang.Proofs.Span.TypeReading

namespace ContractLang

inductive MaybeWord (word : String) : List Token → Prop
  | written {t : Token} (spells : t.Spells word) : MaybeWord word [t]
  | leftOut : MaybeWord word []

section Grammar

-- A reader takes more than it is bound to take, so the grammar leaves open what may be a name and
-- what code may stand in angles.
variable (Name : Token → Prop) (Code : List Token → Prop)

inductive SpelledArguments : List Token → Prop
  | none : SpelledArguments []
  | list {opening closing : Token} {code : List Token} (opens : opening.symbol? = some '<')
      (closes : closing.symbol? = some '>') (inner : Code code) :
      SpelledArguments (opening :: code ++ [closing])

inductive SpelledComponent : List Token → Prop
  | mk {typename template arguments : List Token} {name : Token}
      (first : MaybeWord "typename" typename) (second : MaybeWord "template" template)
      (named : Name name) (generic : SpelledArguments Code arguments) :
      SpelledComponent (typename ++ (template ++ name :: arguments))

inductive SpelledPath : List Token → Prop
  | last {span : List Token} (component : SpelledComponent Name Code span) : SpelledPath span
  | scope {span others : List Token} {colons : Token}
      (component : SpelledComponent Name Code span) (isScope : colons.IsScope)
      (rest : SpelledPath others) : SpelledPath (span ++ colons :: others)

/-- A type as the tokens up to the end of its last component and those that are put behind it. -/
inductive SpelledType : List Token → List Token → Prop
  | mk {const path reference pointer : List Token} (qualified : MaybeWord "const" const)
      (named : SpelledPath Name Code path) (referred : OptionalSymbol '&' reference)
      (pointed : OptionalSymbol '*' pointer) : SpelledType (const ++ path) (reference ++ pointer)

end Grammar

/-- An identifier that is not read as a word in front of a name. -/
def Token.IsPlainName (t : Token) : Prop :=
  t.kind = .identifier ∧ t.lexeme ∉ ["const", "typename", "template"]

theorem Token.IsPlainName.not_spells {t : Token} (plain : t.IsPlainName) {word : String}
    (reserved : word ∈ ["const", "typename", "template"]) : ¬ t.Spells word := by
  intro spells
  apply plain.2
  rw [spells.2]
  exact reserved

theorem MaybeWord.optionalWord {word : String} {span after : List Token}
    (maybe : MaybeWord word span) (other : ∀ t ∈ after.head?, ¬ t.Spells word) :
    OptionalWord word span after := by
  cases maybe with
  | written spells => exact .present spells
  | leftOut => exact .absent other

theorem OptionalWord.maybe {word : String} {span after : List Token}
    (optional : OptionalWord word span after) : MaybeWord word span := by
  cases optional with
  | present spells => exact .written spells
  | absent other => exact .leftOut

/-- Where another word may stand or not, what follows it decides if the tokens start with `word`. -/
theorem MaybeWord.head_not_spells {word other : String} {span after : List Token}
    (maybe : MaybeWord other span) (different : word ≠ other)
    (rest : ∀ t ∈ after.head?, ¬ t.Spells word) :
    ∀ t ∈ (span ++ after).head?, ¬ t.Spells word := by
  cases maybe with
  | leftOut => exact rest
  | written spells =>
    intro t head same
    cases head
    exact different (same.2.symm.trans spells.2)

theorem Token.IsPlainName.head_not_spells {name : Token} {after : List Token}
    (plain : name.IsPlainName) {word : String}
    (reserved : word ∈ ["const", "typename", "template"]) :
    ∀ t ∈ (name :: after).head?, ¬ t.Spells word := by
  intro t head
  cases head
  exact plain.not_spells reserved

theorem SpelledArguments.typeArguments {span : List Token}
    (spelled : SpelledArguments (Region .generic) span) : TypeArguments span := by
  cases spelled with
  | none => exact .none
  | list opens closes region => exact .list opens closes (.whole region)

theorem SpelledComponent.typeComponent {span : List Token}
    (spelled : SpelledComponent Token.IsPlainName (Region .generic) span) :
    TypeComponent span ∧ ∀ t ∈ span.head?, ¬ t.Spells "const" := by
  rcases spelled with ⟨first, second, plain, generic⟩
  refine ⟨.mk (first.optionalWord ?_) (second.optionalWord ?_) plain.1 generic.typeArguments, ?_⟩
  · exact second.head_not_spells (by decide) (plain.head_not_spells (by decide))
  · exact plain.head_not_spells (by decide)
  · apply first.head_not_spells (by decide)
    exact second.head_not_spells (by decide) (plain.head_not_spells (by decide))

theorem SpelledPath.typePath {span : List Token}
    (spelled : SpelledPath Token.IsPlainName (Region .generic) span) :
    TypePath span ∧ ∀ t ∈ span.head?, ¬ t.Spells "const" := by
  induction spelled with
  | last component => exact ⟨.last component.typeComponent.1, component.typeComponent.2⟩
  | scope component isScope rest ih =>
    rcases component.typeComponent with ⟨first, noConst⟩
    refine ⟨.scope first isScope ih.1, ?_⟩
    rw [Cursor.head?_append_of_ne_nil _ (TypePath.last first).ne_nil]
    exact noConst

/-- Where the names are plain, a word in front of one is never taken for a name. -/
theorem SpelledType.typeForm {name suffix : List Token}
    (spelled : SpelledType Token.IsPlainName (Region .generic) name suffix) :
    TypeForm (name ++ suffix) := by
  rcases spelled with ⟨qualified, named, referred, pointed⟩
  rcases named.typePath with ⟨path, noConst⟩
  rw [List.append_assoc]
  exact .mk (qualified.optionalWord noConst) path referred pointed

theorem TypeArguments.spelled {span : List Token} (form : TypeArguments span) :
    SpelledArguments (Region .body) span := by
  cases form with
  | none => exact .none
  | list opens closes inner => exact .list opens closes inner.toBody

theorem TypeComponent.spelled {span : List Token} (form : TypeComponent span) :
    SpelledComponent (·.kind = .identifier) (Region .body) span := by
  rcases form with ⟨first, second, identifier, generic⟩
  exact .mk first.maybe second.maybe identifier generic.spelled

theorem TypePath.spelled {span : List Token} (form : TypePath span) :
    SpelledPath (·.kind = .identifier) (Region .body) span := by
  induction form with
  | last component => exact .last component.spelled
  | scope component isScope rest ih => exact .scope component.spelled isScope ih

/-- The text of some tokens, where a blank is left between two neighbours if both of them are
    identifiers or numbers. -/
inductive SpacedText : List Token → String → Prop
  | single {t : Token} : SpacedText [t] t.lexeme
  | apart {t u : Token} {rest : List Token} {text : String}
      (first : t.kind = .identifier ∨ t.kind = .number)
      (second : u.kind = .identifier ∨ u.kind = .number) (tail : SpacedText (u :: rest) text) :
      SpacedText (t :: u :: rest) (t.lexeme ++ " " ++ text)
  | joined {t u : Token} {rest : List Token} {text : String}
      (symbol : ¬ ((t.kind = .identifier ∨ t.kind = .number) ∧
        (u.kind = .identifier ∨ u.kind = .number))) (tail : SpacedText (u :: rest) text) :
      SpacedText (t :: u :: rest) (t.lexeme ++ text)

theorem Token.isWord_iff (t : Token) :
    t.isWord = true ↔ t.kind = .identifier ∨ t.kind = .number := by
  simp [Token.isWord]

theorem spacedText_joinTypeLexemes (t : Token) (rest : List Token) :
    SpacedText (t :: rest) (joinTypeLexemes (t :: rest)) := by
  induction rest generalizing t with
  | nil => exact .single
  | cons u rest ih =>
    rw [joinTypeLexemes]
    split
    · rename_i words
      rcases Bool.and_eq_true_iff.mp words with ⟨first, second⟩
      exact .apart (t.isWord_iff.mp first) (u.isWord_iff.mp second) (ih u)
    · rename_i notWords
      rw [String.append_empty]
      refine .joined (fun words => notWords ?_) (ih u)
      rw [t.isWord_iff.mpr words.1, u.isWord_iff.mpr words.2]
      rfl

namespace Cursor

/-- A type that is spelled with plain names and well nested arguments is read up to its end, unless
    what follows could be a part of it. Whatever is read as a type is spelled as one, and its text
    has blanks between words only. -/
theorem typeName_spelled (tokens : List Token) (start : Nat) (fits : ∀ t ∈ tokens, t.Fits) :
    (∀ name suffix d, SpelledType Token.IsPlainName (Region .generic) name suffix →
      (ofPosition tokens start).Passes (name ++ suffix) d → d.EndsType →
      ∃ text, (ofPosition tokens start).typeName = .ok ⟨text, d⟩) ∧
    ∀ type, (ofPosition tokens start).typeName = .ok type →
      ∃ name suffix, SpelledType (·.kind = .identifier) (Region .body) name suffix ∧
        (ofPosition tokens start).Passes (name ++ suffix) type.next ∧
        (suffix = [] → type.next.lexeme ≠ "::") ∧ SpacedText (name ++ suffix) type.text := by
  have fitsAhead : (ofPosition tokens start).Fits := fun t member =>
    fits t (List.mem_of_mem_drop member)
  constructor
  · intro name suffix d spelled pass ends
    exact ⟨_, typeName_of_passes spelled.typeForm fitsAhead pass ends⟩
  · intro type read
    rcases exists_typeParts fitsAhead read with ⟨const, path, reference, pointer, parts, pass, text⟩
    rw [← List.append_assoc const path] at pass text
    refine ⟨const ++ path, reference ++ pointer, ?_, pass, parts.noScope, ?_⟩
    · exact .mk parts.qualified.maybe parts.named.spelled parts.referred parts.pointed
    · rw [text]
      cases span : const ++ path with
      | nil => exact absurd (List.append_eq_nil_iff.mp span).2 parts.named.ne_nil
      | cons t rest => exact spacedText_joinTypeLexemes t _

theorem typeName_spelled_of_comparison :
    let symbol (written : String) : Token := ⟨.other, written, 1, 1⟩
    let word (written : String) : Token := ⟨.identifier, written, 1, 1⟩
    let comparison := [symbol "(", word "aa", symbol "<", word "bb", symbol ")"]
    let arguments := symbol "<" :: comparison ++ [symbol ">"]
    let name := word "const" :: (word "Map" :: arguments
      ++ symbol "::" :: [word "typename", word "Item"])
    let tokens := name ++ [symbol "*", word "xx"]
    ∃ text, (ofPosition tokens 0).typeName = .ok ⟨text, ⟨13, [word "xx"]⟩⟩ ∧
      SpacedText (name ++ [symbol "*"]) text := by
  intro symbol word comparison arguments name tokens
  have plain : (word "Map").IsPlainName ∧ (word "Item").IsPlainName :=
    ⟨⟨rfl, by decide⟩, ⟨rfl, by decide⟩⟩
  have ordinary : (word "aa").role.isOrdinary .body = true ∧
      (symbol "<").role.isOrdinary .body = true ∧ (word "bb").role.isOrdinary .body = true := by
    decide
  have compared : Region .body [word "aa", symbol "<", word "bb"] :=
    .cons ordinary.1 (.cons ordinary.2.1 (.cons ordinary.2.2 .nil))
  have inParentheses : Region .generic comparison :=
    .group (show Bracket.round ≠ .angle by decide) (by decide) (by decide) compared .nil
  have outer : SpelledComponent Token.IsPlainName (Region .generic) (word "Map" :: arguments) :=
    .mk .leftOut .leftOut plain.1 (.list (by decide) (by decide) inParentheses)
  have inner : SpelledComponent Token.IsPlainName (Region .generic)
      [word "typename", word "Item"] :=
    .mk (.written ⟨rfl, rfl⟩) .leftOut plain.2 .none
  have spelled : SpelledType Token.IsPlainName (Region .generic) name [symbol "*"] :=
    .mk (.written ⟨rfl, rfl⟩) (.scope outer ⟨rfl, rfl⟩ (.last inner)) .absent (.present (by decide))
  have pass : (ofPosition tokens 0).Passes (name ++ [symbol "*"]) ⟨13, [word "xx"]⟩ := ⟨rfl, rfl⟩
  have both := typeName_spelled tokens 0 (by decide +kernel)
  have ends : EndsType ⟨13, [word "xx"]⟩ :=
    ⟨⟨by decide, by decide⟩, by decide, by decide⟩
  rcases both.1 name _ _ spelled pass ends with ⟨text, read⟩
  rcases both.2 _ read with ⟨found, suffix, _, sameEnd, _, spaced⟩
  rw [(pass.eq_of_position sameEnd rfl).1] at spaced
  exact ⟨text, read, spaced⟩

end Cursor
end ContractLang
