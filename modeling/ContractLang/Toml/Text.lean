import ContractLang.Text.Hex

namespace ContractLang.Toml

/-- Adds a character in front of what has been read from a text; the second part is the text
    after that. -/
def push (c : Char) (r : Option (List Char × List Char)) : Option (List Char × List Char) :=
  r.map fun (cs, rest) => (c :: cs, rest)

def pushSome (c? : Option Char) (r : Option (List Char × List Char)) :
    Option (List Char × List Char) :=
  c?.bind fun c => push c r

def isControl (c : Char) : Bool := (c.toNat < 32 && c != '\t') || c.toNat == 127

def isBlank (c : Char) : Bool := c == ' ' || c == '\t'

def skipBlanks (text : List Char) : List Char := text.dropWhile isBlank

def escaped? (c : Char) : Option Char :=
  if c = 'b' then some '\x08'
  else if c = 't' then some '\t'
  else if c = 'n' then some '\n'
  else if c = 'f' then some '\x0c'
  else if c = 'r' then some '\r'
  else if c = '"' ∨ c = '\\' then some c
  else none

/-- The character whose number hexadecimal digits write, if there is one. -/
def numbered? (digits : List Char) : Option Char := do
  let n ← Text.hexNumber? digits
  if n.isValidChar then some (Char.ofNat n) else none

def basicString : List Char → Option (List Char × List Char)
  | [] => none
  | '"' :: rest => some ([], rest)
  | '\\' :: 'u' :: a :: b :: c :: d :: rest =>
    pushSome (numbered? [a, b, c, d]) (basicString rest)
  | '\\' :: 'U' :: a :: b :: c :: d :: e :: f :: g :: h :: rest =>
    pushSome (numbered? [a, b, c, d, e, f, g, h]) (basicString rest)
  | '\\' :: c :: rest => pushSome (escaped? c) (basicString rest)
  | c :: rest => if isControl c || c == '\\' then none else push c (basicString rest)

def literalString : List Char → Option (List Char × List Char)
  | [] => none
  | c :: rest =>
    if c = '\x27' then some ([], rest)
    else if isControl c then none
    else push c (literalString rest)

/-- Up to two quotes directly after the three that end a string belong to it. -/
def trailingQuotes (quote : Char) : List Char → List Char × List Char
  | c :: d :: rest =>
    if c = quote then if d = quote then ([c, d], rest) else ([c], d :: rest) else ([], c :: d :: rest)
  | [c] => if c = quote then ([c], []) else ([], [c])
  | [] => ([], [])

/-- Where in a folded line a string is read: in no such line, before its end, where only blanks
    may stand, or after it, where blanks and line ends are passed over. -/
inductive Fold where
  | none
  | seeking
  | trimming
  deriving DecidableEq, Repr

def multilineString : Fold → List Char → Option (List Char × List Char)
  | .seeking, c :: rest =>
    if c = '\n' then multilineString .trimming rest
    else if isBlank c then multilineString .seeking rest
    else none
  | .trimming, ' ' :: rest => multilineString .trimming rest
  | .trimming, '\t' :: rest => multilineString .trimming rest
  | .trimming, '\n' :: rest => multilineString .trimming rest
  | _, '"' :: '"' :: '"' :: rest => some (trailingQuotes '"' rest)
  | _, '\\' :: 'u' :: a :: b :: c :: d :: rest =>
    pushSome (numbered? [a, b, c, d]) (multilineString .none rest)
  | _, '\\' :: 'U' :: a :: b :: c :: d :: e :: f :: g :: h :: rest =>
    pushSome (numbered? [a, b, c, d, e, f, g, h]) (multilineString .none rest)
  | _, '\\' :: c :: rest =>
    if c = '\n' then multilineString .trimming rest
    else if isBlank c then multilineString .seeking rest
    else pushSome (escaped? c) (multilineString .none rest)
  | _, c :: rest =>
    if (isControl c && c != '\n') || c == '\\' then none else push c (multilineString .none rest)
  | _, [] => none

def multilineLiteral : List Char → Option (List Char × List Char)
  | '\x27' :: '\x27' :: '\x27' :: rest => some (trailingQuotes '\x27' rest)
  | c :: rest => if isControl c && c != '\n' then none else push c (multilineLiteral rest)
  | [] => none

/-- A newline directly after three opening quotes is not part of the string. -/
def dropFirstNewline : List Char → List Char
  | '\n' :: rest => rest
  | text => text

def string? : List Char → Option (String × List Char)
  | '"' :: '"' :: '"' :: rest => finish (multilineString .none (dropFirstNewline rest))
  | '"' :: rest => finish (basicString rest)
  | '\x27' :: '\x27' :: '\x27' :: rest => finish (multilineLiteral (dropFirstNewline rest))
  | '\x27' :: rest => finish (literalString rest)
  | _ => none
where
  finish (r : Option (List Char × List Char)) : Option (String × List Char) :=
    r.map fun (cs, rest) => (String.ofList cs, rest)

end ContractLang.Toml
