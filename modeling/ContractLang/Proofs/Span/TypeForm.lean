import ContractLang.Proofs.Span.Enclosed
import ContractLang.Proofs.Token.Fits
import ContractLang.Span.TypeName

namespace ContractLang

def Token.Spells (t : Token) (word : String) : Prop := t.kind = .identifier ∧ t.lexeme = word

def Token.IsScope (t : Token) : Prop := t.kind = .other ∧ t.lexeme = "::"

/-- A word that may stand before the tokens `after`. It is left out only where they do not start
    with it, since it would be read there. -/
inductive OptionalWord (word : String) : List Token → List Token → Prop
  | present {t : Token} {after : List Token} (spells : t.Spells word) : OptionalWord word [t] after
  | absent {after : List Token} (other : ∀ t ∈ after.head?, ¬ t.Spells word) :
      OptionalWord word [] after

inductive OptionalSymbol (symbol : Char) : List Token → Prop
  | present {t : Token} (found : t.symbol? = some symbol) : OptionalSymbol symbol [t]
  | absent : OptionalSymbol symbol []

inductive TypeArguments : List Token → Prop
  | none : TypeArguments []
  | list {opening closing : Token} {span code : List Token} (opens : opening.symbol? = some '<')
      (closes : closing.symbol? = some '>') (inner : Enclosed .generic span code) :
      TypeArguments (opening :: span ++ [closing])

inductive TypeComponent : List Token → Prop
  | mk {typename template arguments : List Token} {name : Token}
      (first : OptionalWord "typename" typename (template ++ name :: arguments))
      (second : OptionalWord "template" template (name :: arguments))
      (identifier : name.kind = .identifier) (generic : TypeArguments arguments) :
      TypeComponent (typename ++ (template ++ name :: arguments))

inductive TypePath : List Token → Prop
  | last {span : List Token} (component : TypeComponent span) : TypePath span
  | scope {span others : List Token} {colons : Token} (component : TypeComponent span)
      (isScope : colons.IsScope) (rest : TypePath others) : TypePath (span ++ colons :: others)

inductive TypeForm : List Token → Prop
  | mk {const path reference pointer : List Token} (qualified : OptionalWord "const" const path)
      (named : TypePath path) (referred : OptionalSymbol '&' reference)
      (pointed : OptionalSymbol '*' pointer) : TypeForm (const ++ (path ++ (reference ++ pointer)))

theorem OptionalWord.congr {word : String} {span after other : List Token}
    (optional : OptionalWord word span after) (same : after.head? = other.head?) :
    OptionalWord word span other := by
  cases optional with
  | present spells => exact .present spells
  | absent absent =>
    apply OptionalWord.absent
    rw [← same]
    exact absent

/-- A single name is a type, unless it is one of the words that may stand in front of a name. -/
theorem TypeForm.of_name {t : Token} (identifier : t.kind = .identifier)
    (plain : t.lexeme ≠ "const" ∧ t.lexeme ≠ "typename" ∧ t.lexeme ≠ "template") :
    TypeForm [t] := by
  have absent : ∀ word, t.lexeme ≠ word → OptionalWord word [] [t] := by
    intro word other
    refine .absent fun u head spells => ?_
    cases head
    exact other spells.2
  have component : TypeComponent [t] :=
    .mk (absent _ plain.2.1) (absent _ plain.2.2) identifier .none
  exact .mk (absent _ plain.1) (.last component) .absent .absent

namespace Cursor

theorem Passes.fits {c d : Cursor} {span : List Token} (pass : c.Passes span d) (fits : c.Fits) :
    d.Fits := by
  intro t member
  apply fits
  rw [pass.1]
  exact List.mem_append_right _ member

theorem Passes.cons {c d e : Cursor} {t : Token} {span : List Token} (first : c.Passes [t] d)
    (rest : d.Passes span e) : c.Passes (t :: span) e := first.trans rest

theorem passes_skipLexeme (c : Cursor) (word : String) (fits : c.Fits) (named : word ≠ "")
    (only : OnlyOfKind .identifier word) :
    ∃ span, c.Passes span (c.skipLexeme word) ∧
      OptionalWord word span (c.skipLexeme word).ahead := by
  rcases c with ⟨position, ahead⟩
  cases ahead with
  | nil =>
    have absent : (⟨position, []⟩ : Cursor).skipLexeme word = ⟨position, []⟩ := by
      rw [skipLexeme, if_neg]
      exact fun same => named same.symm
    rw [absent]
    exact ⟨[], .refl _, .absent fun t head => by cases head⟩
  | cons t rest =>
    have pass : (⟨position, t :: rest⟩ : Cursor).Passes [t] ⟨position + 1, rest⟩ := ⟨rfl, rfl⟩
    by_cases same : t.lexeme = word
    · have present : (⟨position, t :: rest⟩ : Cursor).skipLexeme word = ⟨position + 1, rest⟩ := by
        rw [skipLexeme, pass.lexeme, if_pos same]
        exact pass.next.symm
      have kind : t.kind = .identifier := by
        apply (fits t (List.mem_cons_self ..)).kind_eq
        rw [same]
        exact only
      rw [present]
      exact ⟨[t], pass, .present ⟨kind, same⟩⟩
    · have absent : (⟨position, t :: rest⟩ : Cursor).skipLexeme word = ⟨position, t :: rest⟩ := by
        rw [skipLexeme, pass.lexeme, if_neg same]
      rw [absent]
      refine ⟨[], .refl _, .absent fun u head spells => ?_⟩
      cases head
      exact same spells.2

theorem skipLexeme_of_optionalWord {c d : Cursor} {word : String} {span : List Token}
    (fits : c.Fits) (named : word ≠ "") (only : OnlyOfKind .identifier word)
    (optional : OptionalWord word span d.ahead) (pass : c.Passes span d) :
    c.skipLexeme word = d := by
  cases optional with
  | present spells =>
    rw [skipLexeme, pass.lexeme, if_pos spells.2]
    exact pass.next.symm
  | absent other =>
    rcases passes_skipLexeme c word fits named only with ⟨skipped, move, found⟩
    have same : d = c := pass.eq (.refl c)
    subst same
    cases found with
    | absent _ => exact move.eq (.refl d)
    | present spells =>
      apply absurd spells
      apply other
      rw [move.1]
      rfl

theorem passes_skipSymbol (c : Cursor) (symbol : Char) :
    ∃ span, c.Passes span (c.skipSymbol symbol) ∧ OptionalSymbol symbol span := by
  unfold skipSymbol
  split
  · rename_i found
    rcases passes_of_symbol? found with ⟨t, pass, same⟩
    exact ⟨[t], pass, .present same⟩
  · exact ⟨[], .refl c, .absent⟩

theorem skipSymbol_of_optionalSymbol {c d : Cursor} {symbol : Char} {span : List Token}
    (optional : OptionalSymbol symbol span) (pass : c.Passes span d)
    (ends : d.symbol? ≠ some symbol) : c.skipSymbol symbol = d := by
  cases optional with
  | present found =>
    rw [skipSymbol, pass.symbol?, if_pos found]
    exact pass.next.symm
  | absent =>
    have same : d = c := pass.eq (.refl c)
    rw [skipSymbol, ← same, if_neg ends]

end Cursor
end ContractLang
