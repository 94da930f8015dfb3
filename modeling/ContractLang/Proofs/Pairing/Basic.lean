import Mathlib.Data.List.Forall2
import ContractLang.Proofs.Cursor.Passage
import ContractLang.Proofs.Token.Longest
import ContractLang.Settings.Basic

namespace ContractLang

/-- The lexemes that mean something to the readers whatever the settings are. -/
def reservedLexemes : List String := ["const", "typename", "template", "::", "0"]

/-- Under the other settings the readers cannot tell the second token from the first one: of a
    lexeme they only ask whether it is a symbol, a reserved lexeme or a word of the settings. -/
structure Counterpart (settings other : Settings) (t u : Token) : Prop where
  kind : u.kind = t.kind
  symbol? : u.symbol? = t.symbol?
  reserved : ∀ lexeme ∈ reservedLexemes, u.lexeme = lexeme ↔ t.lexeme = lexeme
  chosen : t.kind = .identifier →
    ∀ field, u.lexeme = other.word field ↔ t.lexeme = settings.word field

/-- The texts of the same span of two lists of tokens. -/
inductive SameSpan (tokens others : List Token) (join : List Token → String) :
    String → String → Prop
  | mk (first last : Nat) : SameSpan tokens others join (join ((tokens.take last).drop first))
      (join ((others.take last).drop first))

/-- Two lists of tokens that are read side by side, each under its own settings. -/
structure Pairing where
  settings : Settings
  other : Settings
  tokens : List Token
  others : List Token
  counterparts : List.Forall₂ (Counterpart settings other) tokens others

namespace Pairing

variable {p : Pairing}

/-- Nothing but lines and columns tells the two sides apart. -/
structure Exact (p : Pairing) : Prop where
  settings : p.other = p.settings
  shapes : p.others.map Token.shape = p.tokens.map Token.shape

structure Abreast (p : Pairing) (c d : Cursor) : Prop where
  position : d.position = c.position
  left : c.ahead = p.tokens.drop c.position
  right : d.ahead = p.others.drop c.position

abbrev SameText (p : Pairing) (join : List Token → String) : String → String → Prop :=
  SameSpan p.tokens p.others join

/-- The lexemes of the identifiers at the same position of both lists. -/
inductive SameWord (p : Pairing) : String → String → Prop
  | mk {position : Nat} {t u : Token} (left : p.tokens[position]? = some t)
      (right : p.others[position]? = some u) (identifier : t.kind = .identifier) :
      p.SameWord t.lexeme u.lexeme

structure SameError (p : Pairing) (e e' : SyntaxError) : Prop where
  position : e'.place.position = e.place.position
  complaint : p.Exact → e'.complaint = e.complaint

/-- Both readers fail in the same way, or what they give is alike. -/
inductive Twin (p : Pairing) {α : Type} (alike : α → α → Prop) (x y : Except SyntaxError α) : Prop
  | error {e e' : SyntaxError} (left : x = .error e) (right : y = .error e')
      (same : p.SameError e e')
  | ok {a b : α} (left : x = .ok a) (right : y = .ok b) (same : alike a b)

theorem sameText_eq {join : List Token → String} {text text' : String}
    (same : p.SameText join text text') (exact : p.Exact)
    (kept : ∀ span span' : List Token, span'.map Token.shape = span.map Token.shape →
      join span' = join span) : text' = text := by
  cases same with
  | mk first last =>
    apply kept
    simp only [List.map_drop, List.map_take, exact.shapes]

theorem SameWord.eq {word word' : String} (same : p.SameWord word word') (exact : p.Exact) :
    word' = word := by
  rcases same with @⟨position, t, u, left, right, _⟩
  have shapes := congrArg (·[position]?) exact.shapes
  simp only [List.getElem?_map, left, right, Option.map_some, Option.some.injEq] at shapes
  exact congrArg Prod.snd shapes

namespace Abreast

variable {c d : Cursor} (abreast : p.Abreast c d)

theorem start : p.Abreast (.start p.tokens) (.start p.others) := ⟨rfl, rfl, rfl⟩

include abreast

theorem advance (count : Nat) : p.Abreast (c.advance count) (d.advance count) := by
  refine ⟨congrArg (· + count) abreast.position, ?_, ?_⟩
  · simp only [Cursor.advance, abreast.left, List.drop_drop]
  · simp only [Cursor.advance, abreast.right, List.drop_drop]

theorem next : p.Abreast c.next d.next := abreast.advance 1

theorem counterparts : List.Forall₂ (Counterpart p.settings p.other) c.ahead d.ahead := by
  rw [abreast.left, abreast.right]
  exact List.forall₂_drop c.position p.counterparts

theorem token? :
    (c.place.token? = none ∧ d.place.token? = none) ∨
    ∃ t u, c.place.token? = some t ∧ d.place.token? = some u ∧
      Counterpart p.settings p.other t u := by
  have related := abreast.counterparts
  rcases c with ⟨position, _ | ⟨t, rest⟩⟩ <;> rcases d with ⟨position', _ | ⟨u, rest'⟩⟩
  · exact .inl ⟨rfl, rfl⟩
  · cases related
  · cases related
  · exact .inr ⟨t, u, rfl, rfl, (List.forall₂_cons.mp related).1⟩

theorem symbol? : d.symbol? = c.symbol? := by
  rcases abreast.token? with ⟨left, right⟩ | ⟨t, u, left, right, related⟩
  · simp only [Cursor.symbol?, Place.symbol?, left, right]
  · rw [(Cursor.passes_next left).symbol?, (Cursor.passes_next right).symbol?, related.symbol?]

theorem isKind (kind : Kind) : d.place.isKind kind = c.place.isKind kind := by
  rcases abreast.token? with ⟨left, right⟩ | ⟨t, u, left, right, related⟩
  · simp only [Place.isKind, left, right]
  · rw [(Cursor.passes_next left).isKind, (Cursor.passes_next right).isKind, related.kind]

theorem isIdentifier : d.isIdentifier = c.isIdentifier := abreast.isKind .identifier

theorem identifiers (identifier : c.isIdentifier = true) :
    ∃ t u, c.place.token? = some t ∧ d.place.token? = some u ∧ t.kind = .identifier ∧
      Counterpart p.settings p.other t u := by
  rcases abreast.token? with ⟨left, _⟩ | ⟨t, u, left, right, related⟩
  · simp [Cursor.isIdentifier, Place.isKind, left] at identifier
  · rw [Cursor.isIdentifier, (Cursor.passes_next left).isKind] at identifier
    exact ⟨t, u, left, right, eq_of_beq identifier, related⟩

theorem reserved {lexeme : String} (member : lexeme ∈ reservedLexemes) :
    d.lexeme = lexeme ↔ c.lexeme = lexeme := by
  rcases abreast.token? with ⟨left, right⟩ | ⟨t, u, left, right, related⟩
  · simp only [Cursor.lexeme, Place.lexeme, left, right]
  · rw [(Cursor.passes_next left).lexeme, (Cursor.passes_next right).lexeme]
    exact related.reserved lexeme member

theorem chosen (identifier : c.isIdentifier = true) (field : WordField) :
    d.lexeme = p.other.word field ↔ c.lexeme = p.settings.word field := by
  rcases abreast.identifiers identifier with ⟨t, u, left, right, kind, related⟩
  rw [(Cursor.passes_next left).lexeme, (Cursor.passes_next right).lexeme]
  exact related.chosen kind field

theorem lexeme_eq (exact : p.Exact) : d.lexeme = c.lexeme := by
  have shapes : d.ahead.map Token.shape = c.ahead.map Token.shape := by
    simp only [abreast.left, abreast.right, List.map_drop, exact.shapes]
  have heads := congrArg List.head? shapes
  simp only [List.head?_map] at heads
  have lexemes := congrArg (Option.map Prod.snd) heads
  simp only [Option.map_map] at lexemes
  exact congrArg (Option.getD · "") lexemes

theorem sameWord (identifier : c.isIdentifier = true) : p.SameWord c.lexeme d.lexeme := by
  rcases abreast.identifiers identifier with ⟨t, u, left, right, kind, _⟩
  rw [(Cursor.passes_next left).lexeme, (Cursor.passes_next right).lexeme]
  simp only [Cursor.place, abreast.left, List.head?_drop] at left
  simp only [Cursor.place, abreast.right, List.head?_drop] at right
  exact .mk left right kind

theorem sameText (join : List Token → String) (count : Nat) :
    p.SameText join (join (c.ahead.take count)) (join (d.ahead.take count)) := by
  have text : p.SameText join _ _ := .mk c.position (c.position + count)
  rw [List.drop_take, List.drop_take, Nat.add_sub_cancel_left, ← abreast.left,
    ← abreast.right] at text
  exact text

theorem sameError (complaint complaint' : Complaint)
    (same : p.Exact → complaint' = complaint) :
    p.SameError ⟨complaint, c.place⟩ ⟨complaint', d.place⟩ :=
  ⟨congrArg Int.ofNat abreast.position, same⟩

theorem pass (holds holds' : Bool) (complaint complaint' : Complaint) (same : holds' = holds)
    (complained : p.Exact → complaint' = complaint) :
    p.Twin p.Abreast (c.pass holds complaint) (d.pass holds' complaint') := by
  subst same
  cases holds' with
  | false => exact .error rfl rfl (abreast.sameError _ _ complained)
  | true => exact .ok rfl rfl abreast.next

theorem passIdentifier (complaint complaint' : Complaint)
    (complained : p.Exact → complaint' = complaint) :
    p.Twin p.Abreast (c.passIdentifier complaint) (d.passIdentifier complaint') :=
  abreast.pass _ _ _ _ abreast.isIdentifier complained

theorem passSymbol (symbol : Char) (complaint complaint' : Complaint)
    (complained : p.Exact → complaint' = complaint) :
    p.Twin p.Abreast (c.passSymbol symbol complaint) (d.passSymbol symbol complaint') :=
  abreast.pass _ _ _ _ (by rw [abreast.symbol?]) complained

theorem skipSymbol (symbol : Char) : p.Abreast (c.skipSymbol symbol) (d.skipSymbol symbol) := by
  unfold Cursor.skipSymbol
  rw [abreast.symbol?]
  split
  · exact abreast.next
  · exact abreast

theorem skipLexeme {lexeme : String} (member : lexeme ∈ reservedLexemes) :
    p.Abreast (c.skipLexeme lexeme) (d.skipLexeme lexeme) := by
  unfold Cursor.skipLexeme
  rw [if_congr (abreast.reserved member) rfl rfl]
  split
  · exact abreast.next
  · exact abreast

end Abreast

end Pairing
end ContractLang
