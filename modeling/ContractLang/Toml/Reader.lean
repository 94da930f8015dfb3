import ContractLang.Text.Newline
import ContractLang.Toml.Build
import ContractLang.Toml.Calendar

namespace ContractLang.Toml

def isBareKeyChar (c : Char) : Bool := c.isAlphanum || c == '-' || c == '_'

def keyPart? (text : List Char) : Option (String × List Char) :=
  match text with
  | '"' :: rest => (basicString rest).map fun (cs, rest) => (String.ofList cs, rest)
  | '\x27' :: rest => (literalString rest).map fun (cs, rest) => (String.ofList cs, rest)
  | _ =>
    let bare := text.takeWhile isBareKeyChar
    if bare.isEmpty then none else some (String.ofList bare, text.drop bare.length)

/-- The parts of a key, at most `limit` of them, and the blanks after it. -/
def keyParts? : Nat → List Char → Option (List String × List Char)
  | 0, _ => none
  | limit + 1, text => do
    let (part, text) ← keyPart? text
    match skipBlanks text with
    | '.' :: text =>
      let (parts, text) ← keyParts? limit (skipBlanks text)
      return (part :: parts, text)
    | text => return ([part], text)

/-- A key has fewer parts than there are characters left. -/
def key? (text : List Char) : Option (List String × List Char) := keyParts? text.length text

/-- Passes over blanks, line ends and comments between the items of an array. -/
def skipBetweenItems : Bool → List Char → Option (List Char)
  | _, [] => some []
  | false, c :: rest =>
    if isBlank c || c == '\n' then skipBetweenItems false rest
    else if c = '#' then skipBetweenItems true rest
    else some (c :: rest)
  | true, c :: rest =>
    if c = '\n' then skipBetweenItems false rest
    else if isControl c then none
    else skipBetweenItems true rest

def boolean? : List Char → Option (Value × List Char)
  | 't' :: 'r' :: 'u' :: 'e' :: rest => some (.boolean true, rest)
  | 'f' :: 'a' :: 'l' :: 's' :: 'e' :: rest => some (.boolean false, rest)
  | _ => none

def scalar (text : List Char) : Except Fault (Value × List Char) :=
  match text with
  | '"' :: _ | '\x27' :: _ => wellFormed ((string? text).map fun (s, rest) => (.string s, rest))
  | _ =>
    match boolean? text <|> moment? text with
    | some reading => .ok reading
    | none => number text

mutual

/-- A value that has no more parts than `limit` admits, and nests within `levels`. -/
def valueWithin : Nat → Nat → List Char → Except Fault (Value × List Char)
  | 0, _, _ => .error .malformed
  | limit + 1, levels, text =>
    match text with
    | '[' :: rest =>
      if levels ≤ 2 then .error .tooDeep
      else do
        let rest ← wellFormed (skipBetweenItems false rest)
        let (items, rest) ← itemsWithin limit (levels - 2) rest
        return (.array items, rest)
    | '\x7b' :: rest =>
      if levels ≤ 3 then .error .tooDeep
      else
        match skipBlanks rest with
        | '\x7d' :: rest => .ok (.table [], rest)
        | rest => do
          let (table, rest) ← pairsWithin limit (levels - 3) .empty rest
          return (.table table, rest)
    | _ => scalar text

/-- Items up to the closing bracket. A comma may stand after the last one. -/
def itemsWithin : Nat → Nat → List Char → Except Fault (List Value × List Char)
  | 0, _, _ => .error .malformed
  | limit + 1, levels, text =>
    match text with
    | ']' :: rest => .ok ([], rest)
    | _ => do
      let (item, rest) ← valueWithin limit levels text
      match ← wellFormed (skipBetweenItems false rest) with
      | ']' :: rest => return ([item], rest)
      | ',' :: rest =>
        let rest ← wellFormed (skipBetweenItems false rest)
        let (items, rest) ← itemsWithin limit levels rest
        return (item :: items, rest)
      | _ => .error .malformed

/-- Adds the pairs of an inline table up to the closing brace. No comma may stand after the last
    one. -/
def pairsWithin : Nat → Nat → InlineTable → List Char → Except Fault (Table × List Char)
  | 0, _, _, _ => .error .malformed
  | limit + 1, levels, table, text => do
    let (key, rest) ← wellFormed (key? text)
    match rest with
    | '=' :: rest =>
      let (value, rest) ← valueWithin limit levels (skipBlanks rest)
      let table ← wellFormed (table.add? key value)
      match skipBlanks rest with
      | '\x7d' :: rest => return (table.table, rest)
      | ',' :: rest => pairsWithin limit levels table (skipBlanks rest)
      | _ => .error .malformed
    | _ => .error .malformed

end

/-- Every opening bracket and every item takes at least one character. -/
def value (text : List Char) : Except Fault (Value × List Char) :=
  valueWithin (2 * text.length + 1) maxLevels text

def statement (text : List Char) : Except Fault (Statement × List Char) :=
  match text with
  | '[' :: '[' :: rest => do
    let (key, rest) ← wellFormed (key? (skipBlanks rest))
    match rest with
    | ']' :: ']' :: rest => return (.tableArray key, rest)
    | _ => .error .malformed
  | '[' :: rest => do
    let (key, rest) ← wellFormed (key? (skipBlanks rest))
    match rest with
    | ']' :: rest => return (.table key, rest)
    | _ => .error .malformed
  | _ => do
    let (key, rest) ← wellFormed (key? text)
    match rest with
    | '=' :: rest =>
      let (value, rest) ← value (skipBlanks rest)
      return (.pair key value, rest)
    | _ => .error .malformed

def skipComment? : List Char → Option (List Char)
  | '#' :: rest =>
    let comment := rest.takeWhile (· != '\n')
    if comment.any isControl then none else some (rest.drop comment.length)
  | text => some text

def lineStart (document : Document) (text : List Char) : Except Fault (Document × List Char) :=
  match text with
  | [] => .ok (document, [])
  | c :: rest =>
    if c = '\n' ∨ c = '#' then .ok (document, c :: rest)
    else do
      let (statement, rest) ← statement (c :: rest)
      let document ← wellFormed (document.add? statement)
      return (document, rest)

/-- Adds the statements of at most `limit` lines to a document. A fault in a line is found before
    those in the lines after it. -/
def linesWithin : Nat → Document → List Char → Except Fault Document
  | 0, _, _ => .error .malformed
  | limit + 1, document, text => do
    let (document, rest) ← lineStart document (skipBlanks text)
    match ← wellFormed (skipComment? (skipBlanks rest)) with
    | [] => return document
    | '\n' :: rest => linesWithin limit document rest
    | _ => .error .malformed

def read (written : List Char) : Except Fault Table :=
  let text := Text.dropReturnsBeforeNewline written
  (linesWithin (text.length + 1) .empty text).map (·.table)

end ContractLang.Toml
