import ContractLang.Json.Basic
import ContractLang.Text.Hex

namespace ContractLang.Json

/-- A code point beyond U+FFFF as two units of sixteen bits, high one first. -/
def surrogates (n : Nat) : Nat × Nat :=
  (0xD800 + (n - 0x10000) / 0x400, 0xDC00 + (n - 0x10000) % 0x400)

def escapeUnit (n : Nat) : List Char := '\\' :: 'u' :: Text.fixedHex 4 n

/-- The characters from the space to the tilde stand for themselves, except the quote and the
    backslash. -/
def escapeChar (c : Char) : List Char :=
  if c = '"' ∨ c = '\\' then ['\\', c]
  else if c = '\n' then ['\\', 'n']
  else if c = '\r' then ['\\', 'r']
  else if c = '\t' then ['\\', 't']
  else if c = '\x08' then ['\\', 'b']
  else if c = '\x0c' then ['\\', 'f']
  else if ' ' ≤ c ∧ c ≤ '~' then [c]
  else if c.toNat < 0x10000 then escapeUnit c.toNat
  else escapeUnit (surrogates c.toNat).1 ++ escapeUnit (surrogates c.toNat).2

def printText (s : String) : List Char := '"' :: s.toList.flatMap escapeChar ++ ['"']

def newLine (depth : Nat) : List Char := '\n' :: List.replicate (2 * depth) ' '

mutual

/-- Every item and every field stands on a line of its own, indented by two spaces for each level.
    Nothing stands between the brackets of what is empty. -/
def print (depth : Nat) : Json → List Char
  | .text s => printText s
  | .flag true => ['t', 'r', 'u', 'e']
  | .flag false => ['f', 'a', 'l', 's', 'e']
  | .list [] => ['[', ']']
  | .list (item :: items) =>
    '[' :: newLine (depth + 1) ++ print (depth + 1) item ++ printItems (depth + 1) items
      ++ newLine depth ++ [']']
  | .object [] => ['\x7b', '\x7d']
  | .object ((name, value) :: fields) =>
    '\x7b' :: newLine (depth + 1) ++ printText name ++ ':' :: ' ' :: print (depth + 1) value
      ++ printFields (depth + 1) fields ++ newLine depth ++ ['\x7d']

def printItems (depth : Nat) : List Json → List Char
  | [] => []
  | item :: items => ',' :: newLine depth ++ print depth item ++ printItems depth items

def printFields (depth : Nat) : List (String × Json) → List Char
  | [] => []
  | (name, value) :: fields =>
    ',' :: newLine depth ++ printText name ++ ':' :: ' ' :: print depth value
      ++ printFields depth fields

end

def lines (j : Json) : String := String.ofList (j.print 0)

end ContractLang.Json
