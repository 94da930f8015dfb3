import ContractLang.Token.Basic

namespace ContractLang

/-- A position in a list of tokens, with the token there if the position lies in the list. -/
structure Place where
  position : Int
  token? : Option Token
  deriving DecidableEq, Repr

def placeAt (tokens : List Token) (position : Int) : Place :=
  ⟨position, if position < 0 then none else tokens[position.toNat]?⟩

inductive Complaint where
  | contractExpected
  | unknownKeyword (found keyword : String)
  | contractName
  | contractColon
  | baseName
  | contractBody
  | memberExpected
  | memberName
  | contractEnd
  | typeExpected (found : String)
  | angleEnd
  | aliasName (keyword : String)
  | aliasValue
  | aliasEnd
  | dataEnd
  | argumentsEnd
  | bodyExpected
  | markerExpected (required default : String)
  | markerEnd (marker : String)
  | bodyEnd (found : String)
  | mismatched (closer opener wanted : Char) (openedAt : Nat)
  | unclosed (opener : Char)
  | valueExpected
  | stated (message : String) (expected? : Option String)
  deriving DecidableEq, Repr

namespace Complaint

def quotedChar (c : Char) : String := Text.quoted (String.singleton c)

def message : Complaint → String
  | contractExpected => "statements in outer scope must begin with an identifier or keyword"
  | unknownKeyword found _ => "unknown keyword " ++ Text.quoted found
  | contractName => "contract declaration must be followed by name identifier"
  | contractColon => "contract names must be followed by a colon (':')"
  | baseName => "contract declaration must include name of base class"
  | contractBody => "contracts must be defined in braces ('\x7b' and '\x7d')"
  | memberExpected => "contract members can be either functions, variables, or using-statements"
  | memberName =>
    "functions and variables in contract definition must provide identifier after type name"
  | contractEnd => "contract definitions must end in a semi-colon"
  | typeExpected found => "expecting type, but found " ++ Text.quoted found
  | angleEnd => "templates must end in a close angle bracket"
  | aliasName keyword =>
    "a " ++ Text.quoted keyword ++ " statement must first specify the new type name"
  | aliasValue => "a using statement must provide an equals ('=') to assign the type"
  | aliasEnd => "a using statement must end in a semi-colon"
  | dataEnd => "variable declarations must end in a semi-colon"
  | argumentsEnd => "function arguments must end with a close-parenthesis (')')"
  | bodyExpected => "function body must begin with open brace or assignment ('\x7b' or '=')"
  | markerExpected required default =>
    "functions can only be set to " ++ Text.quoted required ++ " or " ++ Text.quoted default
  | markerEnd marker => marker ++ " functions must end in a semi-colon"
  | bodyEnd found => "function body must end with close brace ('\x7d') not " ++ Text.quoted found
  | mismatched closer opener _ openedAt =>
    "'" ++ String.singleton closer ++ "' does not match '" ++ String.singleton opener
      ++ "' opened at token " ++ toString openedAt
  | unclosed opener => "unclosed '" ++ String.singleton opener ++ "' at end of input"
  | valueExpected => "expected a value before ';'"
  | stated message _ => message

/-- What would have been right, where that can be named. -/
def expected? : Complaint → Option String
  | contractExpected | contractName | baseName | memberExpected | memberName | typeExpected _
  | aliasName _ => some "identifier"
  | unknownKeyword _ keyword => some (Text.quoted keyword)
  | contractColon => some (quotedChar ':')
  | contractBody => some (quotedChar '\x7b')
  | contractEnd | aliasEnd | dataEnd | markerEnd _ => some (quotedChar ';')
  | angleEnd => some (quotedChar '>')
  | aliasValue => some (quotedChar '=')
  | argumentsEnd => some (quotedChar ')')
  | bodyExpected => some (quotedChar '\x7b' ++ " or " ++ quotedChar '=')
  | markerExpected required default => some (Text.quoted required ++ " or " ++ Text.quoted default)
  | bodyEnd _ => some (quotedChar '\x7d')
  | mismatched _ _ wanted _ => some (quotedChar wanted)
  | unclosed _ => none
  | valueExpected => some "value"
  | stated _ expected? => expected?

end Complaint

structure SyntaxError where
  complaint : Complaint
  place : Place
  deriving DecidableEq, Repr

namespace SyntaxError

def message (e : SyntaxError) : String := e.complaint.message

def expected? (e : SyntaxError) : Option String := e.complaint.expected?

/-- The message after the number of the token and, if there is such a token, its line and
    column. -/
def text (e : SyntaxError) : String :=
  let site := match e.place.token? with
    | some t => " (L" ++ toString t.line ++ ":" ++ toString t.column ++ ")"
    | none => ""
  "token " ++ toString e.place.position ++ site ++ ": " ++ e.message

end SyntaxError

namespace Place

def isKind (p : Place) (kind : Kind) : Bool := p.token?.any (·.kind == kind)

def symbol? (p : Place) : Option Char := p.token?.bind Token.symbol?

def lexeme (p : Place) : String := (p.token?.map (·.lexeme)).getD ""

def symbolText (p : Place) : String := (p.symbol?.map String.singleton).getD ""

def demand (p : Place) (holds : Bool) (complaint : Complaint) : Except SyntaxError Unit :=
  if holds then .ok () else .error ⟨complaint, p⟩

theorem demand_eq_ok_iff (p : Place) (holds : Bool) (complaint : Complaint) :
    p.demand holds complaint = .ok () ↔ holds = true := by
  cases holds <;> simp [demand]

end Place
end ContractLang
