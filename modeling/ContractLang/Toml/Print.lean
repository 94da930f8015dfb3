import ContractLang.Text.Hex

namespace ContractLang.Toml

/-- Control characters other than the tab are written by a letter or by number. -/
def escapeChar (c : Char) : List Char :=
  if c = '"' ∨ c = '\\' then ['\\', c]
  else if c = '\n' then ['\\', 'n']
  else if c = '\r' then ['\\', 'r']
  else if c = '\x08' then ['\\', 'b']
  else if c = '\x0c' then ['\\', 'f']
  else if (c.toNat < 32 ∧ c ≠ '\t') ∨ c.toNat = 127 then '\\' :: 'u' :: Text.fixedHex 4 c.toNat
  else [c]

def printString (s : String) : List Char := '"' :: s.toList.flatMap escapeChar ++ ['"']

def printBoolean : Bool → List Char
  | true => ['t', 'r', 'u', 'e']
  | false => ['f', 'a', 'l', 's', 'e']

def printPair (key : String) (value : List Char) : List Char :=
  key.toList ++ ' ' :: '=' :: ' ' :: value ++ ['\n']

def printHeader (key : String) : List Char := '[' :: key.toList ++ [']', '\n']

end ContractLang.Toml
