import ContractLang.Toml.Fault
import ContractLang.Toml.Text
import ContractLang.Toml.Value

namespace ContractLang.Toml

def isDecimal (c : Char) : Bool := '0' ≤ c && c ≤ '9'

/-- The digits directly ahead. A single underscore may stand before a digit. -/
def digitsAhead (isDigit : Char → Bool) : List Char → List Char × List Char
  | '_' :: c :: rest =>
    if isDigit c then
      let (digits, rest) := digitsAhead isDigit rest
      (c :: digits, rest)
    else ([], '_' :: c :: rest)
  | c :: rest =>
    if isDigit c then
      let (digits, rest) := digitsAhead isDigit rest
      (c :: digits, rest)
    else ([], c :: rest)
  | [] => ([], [])

def digitRun? (isDigit : Char → Bool) : List Char → Option (List Char × List Char)
  | c :: rest => if isDigit c then some (digitsAhead isDigit (c :: rest)) else none
  | [] => none

def valueInBase (base : Nat) (digits : List Char) : Nat :=
  digits.foldl (fun value c => base * value + (Text.hexValue? c).getD 0) 0

def inBase? (base : Nat) (isDigit : Char → Bool) (text : List Char) :
    Option (Value × List Char) := do
  let (digits, rest) ← digitRun? isDigit text
  return (.integer (valueInBase base digits), rest)

def based? : List Char → Option (Value × List Char)
  | '0' :: 'x' :: rest => inBase? 16 (fun c => (Text.hexValue? c).isSome) rest
  | '0' :: 'o' :: rest => inBase? 8 (fun c => '0' ≤ c && c ≤ '7') rest
  | '0' :: 'b' :: rest => inBase? 2 (fun c => c == '0' || c == '1') rest
  | _ => none

def signAhead : List Char → List Char × List Char
  | '+' :: rest => (['+'], rest)
  | '-' :: rest => (['-'], rest)
  | text => ([], text)

/-- A zero on its own, or digits of which the first is not zero. -/
def wholePart? : List Char → Option (List Char × List Char)
  | '0' :: rest => some (['0'], rest)
  | text => digitRun? isDecimal text

/-- Empty where no full stop with a digit after it is ahead. -/
def fraction : List Char → List Char × List Char
  | '.' :: text =>
    match digitRun? isDecimal text with
    | some (digits, rest) => ('.' :: digits, rest)
    | none => ([], '.' :: text)
  | text => ([], text)

def exponent : List Char → List Char × List Char
  | e :: text =>
    if e = 'e' ∨ e = 'E' then
      let (sign, digits) := signAhead text
      match digitRun? isDecimal digits with
      | some (digits, rest) => ('e' :: sign ++ digits, rest)
      | none => ([], e :: text)
    else ([], e :: text)
  | [] => ([], [])

/-- A number in decimal notation. It is an integer if it has neither a fraction nor an exponent. -/
structure Decimal where
  sign : List Char
  whole : List Char
  fraction : List Char
  exponent : List Char
  deriving DecidableEq, Repr

namespace Decimal

def value (d : Decimal) : Except Fault Value :=
  if d.fraction.isEmpty && d.exponent.isEmpty then
    if d.whole.length ≤ maxDigits then
      let n := valueInBase 10 d.whole
      .ok (.integer (if d.sign = ['-'] then -n else n))
    else .error (.tooManyDigits d.whole.length)
  else .ok (.float (String.ofList (d.sign ++ d.whole ++ d.fraction ++ d.exponent)))

end Decimal

def decimal? (text : List Char) : Option (Decimal × List Char) := do
  let (sign, text) := signAhead text
  let (whole, text) ← wholePart? text
  let (fraction, text) := fraction text
  let (exponent, text) := exponent text
  return (⟨sign, whole, fraction, exponent⟩, text)

def special? (text : List Char) : Option (Value × List Char) :=
  let (sign, text) := signAhead text
  match text with
  | 'i' :: 'n' :: 'f' :: rest => some (.float (String.ofList (sign ++ ['i', 'n', 'f'])), rest)
  | 'n' :: 'a' :: 'n' :: rest => some (.float (String.ofList (sign ++ ['n', 'a', 'n'])), rest)
  | _ => none

def number (text : List Char) : Except Fault (Value × List Char) :=
  match based? text, decimal? text with
  | some based, _ => .ok based
  | none, some (decimal, rest) => decimal.value.map (·, rest)
  | none, none => wellFormed (special? text)

end ContractLang.Toml
