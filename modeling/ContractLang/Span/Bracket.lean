import ContractLang.Token.Basic

namespace ContractLang

inductive Bracket where
  | round
  | square
  | curly
  | angle
  deriving DecidableEq, Repr

namespace Bracket

def opener : Bracket → Char
  | round => '('
  | square => '['
  | curly => '\x7b'
  | angle => '<'

def closer : Bracket → Char
  | round => ')'
  | square => ']'
  | curly => '\x7d'
  | angle => '>'

end Bracket

/-- What a token means to a reader of bracketed code. -/
inductive Role where
  | opens (bracket : Bracket)
  | closes (bracket : Bracket)
  | semicolon
  | plain
  deriving DecidableEq, Repr

def Role.ofSymbol (c : Char) : Role :=
  if c = '(' then .opens .round
  else if c = '[' then .opens .square
  else if c = '\x7b' then .opens .curly
  else if c = '<' then .opens .angle
  else if c = ')' then .closes .round
  else if c = ']' then .closes .square
  else if c = '\x7d' then .closes .curly
  else if c = '>' then .closes .angle
  else if c = ';' then .semicolon
  else .plain

def Token.role (t : Token) : Role :=
  match t.symbol? with
  | some c => .ofSymbol c
  | none => .plain

theorem Role.ofSymbol_opener (b : Bracket) : Role.ofSymbol b.opener = .opens b := by
  cases b <;> rfl

theorem Role.ofSymbol_closer (b : Bracket) : Role.ofSymbol b.closer = .closes b := by
  cases b <;> rfl

theorem Role.ofSymbol_eq_opens_iff (c : Char) (b : Bracket) :
    Role.ofSymbol c = .opens b ↔ c = b.opener := by
  constructor
  · intro h
    unfold Role.ofSymbol at h
    cases b <;> simp only [Bracket.opener] <;> grind
  · intro same
    subst same
    exact Role.ofSymbol_opener b

theorem Role.ofSymbol_eq_closes_iff (c : Char) (b : Bracket) :
    Role.ofSymbol c = .closes b ↔ c = b.closer := by
  constructor
  · intro h
    unfold Role.ofSymbol at h
    cases b <;> simp only [Bracket.closer] <;> grind
  · intro same
    subst same
    exact Role.ofSymbol_closer b

theorem Token.role_eq_opens_iff (t : Token) (bracket : Bracket) :
    t.role = .opens bracket ↔ t.symbol? = some bracket.opener := by
  unfold Token.role
  cases t.symbol? with
  | none => simp
  | some c => simpa using Role.ofSymbol_eq_opens_iff c bracket

theorem Token.role_eq_closes_iff (t : Token) (bracket : Bracket) :
    t.role = .closes bracket ↔ t.symbol? = some bracket.closer := by
  unfold Token.role
  cases t.symbol? with
  | none => simp
  | some c => simpa using Role.ofSymbol_eq_closes_iff c bracket

theorem Role.ofSymbol_eq_semicolon_iff (c : Char) : Role.ofSymbol c = .semicolon ↔ c = ';' := by
  constructor
  · intro h
    unfold Role.ofSymbol at h
    grind
  · intro same
    subst same
    rfl

theorem Token.role_eq_semicolon_iff (t : Token) : t.role = .semicolon ↔ t.symbol? = some ';' := by
  unfold Token.role
  cases t.symbol? with
  | none => simp
  | some c => simpa using Role.ofSymbol_eq_semicolon_iff c

end ContractLang
