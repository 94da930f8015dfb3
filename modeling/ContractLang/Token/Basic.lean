import ContractLang.Text.Quoted

namespace ContractLang

inductive Kind where
  | identifier
  | number
  | string
  | other
  deriving DecidableEq, Repr

def Kind.tag : Kind → String
  | .identifier => "ID"
  | .number => "NUMBER"
  | .string => "STRING"
  | .other => "OTHER"

def Kind.title : Kind → String
  | .identifier => "ID"
  | .number => "Number"
  | .string => "String"
  | .other => "Other"

/-- A piece of the source with the line and the column of its first character. -/
structure Token where
  kind : Kind
  lexeme : String
  line : Int
  column : Int
  deriving DecidableEq, Repr

namespace Token

def summary (t : Token) : String :=
  "Token(" ++ t.kind.tag ++ ", " ++ Text.quoted t.lexeme ++ ", L" ++ toString t.line ++ ")"

def listing (t : Token) : String := t.kind.title ++ " : \"" ++ t.lexeme ++ "\""

/-- The character of a token of the kind `other` that has just one. -/
def symbol? (t : Token) : Option Char :=
  match t.kind, t.lexeme.toList with
  | .other, [c] => some c
  | _, _ => none

/-- Identifiers and numbers are words: written side by side, two of them would run together. -/
def isWord (t : Token) : Bool := t.kind == .identifier || t.kind == .number

end Token

/-- One numbered line for each token. The lexeme is written as it is. -/
def listTokens (tokens : List Token) : List String :=
  tokens.zipIdx.map fun (t, position) => toString position ++ ": " ++ t.listing

def joinLexemes (tokens : List Token) : String :=
  " ".intercalate (tokens.map (·.lexeme))

/-- The lexemes with one space between two words that are neighbours and nothing elsewhere. -/
def joinTypeLexemes : List Token → String
  | [] => ""
  | [t] => t.lexeme
  | t :: u :: rest =>
    t.lexeme ++ (if t.isWord && u.isWord then " " else "") ++ joinTypeLexemes (u :: rest)

end ContractLang
