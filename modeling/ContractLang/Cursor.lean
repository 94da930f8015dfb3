import ContractLang.SyntaxError

namespace ContractLang

/-- A reading position: the number of tokens passed, and the tokens ahead. -/
structure Cursor where
  position : Nat
  ahead : List Token
  deriving DecidableEq, Repr

namespace Cursor

def start (tokens : List Token) : Cursor := ⟨0, tokens⟩

/-- The position may lie beyond the end, where nothing is ahead. -/
def ofPosition (tokens : List Token) (position : Nat) : Cursor := ⟨position, tokens.drop position⟩

def place (c : Cursor) : Place := ⟨c.position, c.ahead.head?⟩

def symbol? (c : Cursor) : Option Char := c.place.symbol?

def lexeme (c : Cursor) : String := c.place.lexeme

def isIdentifier (c : Cursor) : Bool := c.place.isKind .identifier

def advance (c : Cursor) (count : Nat) : Cursor := ⟨c.position + count, c.ahead.drop count⟩

def next (c : Cursor) : Cursor := c.advance 1

/-- The tokens that `d` has passed and `c` has not. -/
def upTo (c d : Cursor) : List Token := c.ahead.take (d.position - c.position)

def pass (c : Cursor) (holds : Bool) (complaint : Complaint) : Except SyntaxError Cursor :=
  (c.place.demand holds complaint).map fun _ => c.next

def passIdentifier (c : Cursor) (complaint : Complaint) : Except SyntaxError Cursor :=
  c.pass c.isIdentifier complaint

def passSymbol (c : Cursor) (symbol : Char) (complaint : Complaint) : Except SyntaxError Cursor :=
  c.pass (c.symbol? == some symbol) complaint

def skipLexeme (c : Cursor) (lexeme : String) : Cursor :=
  if c.lexeme = lexeme then c.next else c

def skipSymbol (c : Cursor) (symbol : Char) : Cursor :=
  if c.symbol? = some symbol then c.next else c

def names (c : Cursor) : List String × Cursor :=
  let run := c.ahead.takeWhile (·.kind == .identifier)
  (run.map (·.lexeme), c.advance run.length)

theorem pass_eq_ok (c d : Cursor) (holds : Bool) (complaint : Complaint) :
    c.pass holds complaint = .ok d ↔ holds = true ∧ d = c.next := by
  cases holds <;> simp [pass, Place.demand, Except.map, eq_comm]

theorem ahead_next_length (c : Cursor) : c.next.ahead.length = c.ahead.length - 1 := by
  simp [next, advance]

theorem ahead_next_length_le (c : Cursor) : c.next.ahead.length ≤ c.ahead.length := by
  simp [ahead_next_length]

theorem ahead_skipLexeme_length_le (c : Cursor) (lexeme : String) :
    (c.skipLexeme lexeme).ahead.length ≤ c.ahead.length := by
  unfold skipLexeme
  split
  · exact c.ahead_next_length_le
  · exact Nat.le_refl _

theorem ahead_skipSymbol_length_le (c : Cursor) (symbol : Char) :
    (c.skipSymbol symbol).ahead.length ≤ c.ahead.length := by
  unfold skipSymbol
  split
  · exact c.ahead_next_length_le
  · exact Nat.le_refl _

theorem ahead_next_length_lt_of_isIdentifier (c : Cursor) (h : c.isIdentifier = true) :
    c.next.ahead.length < c.ahead.length := by
  cases c with
  | mk position ahead =>
    cases ahead with
    | nil => simp [isIdentifier, place, Place.isKind] at h
    | cons t rest => simp [next, advance]

theorem ahead_length_lt_of_passIdentifier (c d : Cursor) (complaint : Complaint)
    (h : c.passIdentifier complaint = .ok d) : d.ahead.length < c.ahead.length := by
  obtain ⟨found, rfl⟩ := (c.pass_eq_ok d _ complaint).mp h
  exact c.ahead_next_length_lt_of_isIdentifier found

theorem ahead_length_le_of_passSymbol (c d : Cursor) (symbol : Char) (complaint : Complaint)
    (h : c.passSymbol symbol complaint = .ok d) : d.ahead.length ≤ c.ahead.length := by
  obtain ⟨_, rfl⟩ := (c.pass_eq_ok d _ complaint).mp h
  exact c.ahead_next_length_le

end Cursor
end ContractLang
