import ContractLang.Toml.Number

namespace ContractLang.Toml

def fixed? (count : Nat) (text : List Char) : Option (Nat × List Char) :=
  let digits := text.take count
  if digits.length = count ∧ digits.all isDecimal then
    some (valueInBase 10 digits, text.drop count)
  else none

def mark? (c : Char) : List Char → Option (List Char)
  | d :: rest => if c = d then some rest else none
  | [] => none

def isLeapYear (year : Nat) : Bool := year % 4 == 0 && (year % 100 != 0 || year % 400 == 0)

def daysIn (year month : Nat) : Nat :=
  if month = 2 then if isLeapYear year then 29 else 28
  else if month = 4 ∨ month = 6 ∨ month = 9 ∨ month = 11 then 30
  else 31

/-- There is no year zero. -/
def Date.isValid (d : Date) : Bool :=
  1 ≤ d.year && 1 ≤ d.month && d.month ≤ 12 && 1 ≤ d.day && d.day ≤ daysIn d.year d.month

def date? (text : List Char) : Option (Date × List Char) := do
  let (year, text) ← fixed? 4 text
  let text ← mark? '-' text
  let (month, text) ← fixed? 2 text
  let text ← mark? '-' text
  let (day, text) ← fixed? 2 text
  let date : Date := ⟨year, month, day⟩
  if date.isValid then some (date, text) else none

/-- The microseconds that a fraction of a second gives. Digits after the sixth do not count. -/
def secondFraction : List Char → Nat × List Char
  | '.' :: text =>
    let digits := text.takeWhile isDecimal
    if digits.isEmpty then (0, '.' :: text)
    else (valueInBase 10 ((digits ++ List.replicate 6 '0').take 6), text.drop digits.length)
  | text => (0, text)

def time? (text : List Char) : Option (Time × List Char) := do
  let (hour, text) ← fixed? 2 text
  let text ← mark? ':' text
  let (minute, text) ← fixed? 2 text
  let text ← mark? ':' text
  let (second, text) ← fixed? 2 text
  let (microsecond, text) := secondFraction text
  if hour < 24 ∧ minute < 60 ∧ second < 60 then some (⟨hour, minute, second, microsecond⟩, text)
  else none

def offset? : List Char → Option (Int × List Char)
  | c :: text =>
    if c = 'Z' ∨ c = 'z' then some (0, text)
    else if c = '+' ∨ c = '-' then do
      let (hours, text) ← fixed? 2 text
      let text ← mark? ':' text
      let (minutes, text) ← fixed? 2 text
      let total : Int := 60 * hours + minutes
      if hours < 24 ∧ minutes < 60 then some (if c = '-' then -total else total, text) else none
    else none
  | [] => none

/-- The time of day that may follow a date after a space or the letter T. -/
def timeOfDate? : List Char → Option (Time × List Char)
  | c :: text => if c = 'T' ∨ c = 't' ∨ c = ' ' then time? text else none
  | [] => none

def dateTime? (text : List Char) : Option (Value × List Char) := do
  let (date, text) ← date? text
  match timeOfDate? text with
  | none => return (.date date, text)
  | some (time, text) =>
    match offset? text with
    | none => return (.dateTime date time none, text)
    | some (offset, text) => return (.dateTime date time (some offset), text)

def moment? (text : List Char) : Option (Value × List Char) :=
  dateTime? text <|> (time? text).map fun (time, rest) => (.time time, rest)

end ContractLang.Toml
