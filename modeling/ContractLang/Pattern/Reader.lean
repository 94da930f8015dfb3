import ContractLang.Pattern.Basic

namespace ContractLang.Pattern

inductive Symbol where
  | one (set : CharSet)
  | groupStart
  | groupEnd
  | bar
  | star
  | plus
  | optional
  deriving DecidableEq, Repr

/-- A character set under construction. `last?` is the latest single character, which a dash
    may still make the start of a range, and `dashed` tells that this dash has been read. -/
structure SetDraft where
  negated : Bool
  ranges : List (Char × Char)
  last? : Option Char
  dashed : Bool

namespace SetDraft

def start (negated : Bool) : SetDraft := ⟨negated, [], none, false⟩

def isFresh (d : SetDraft) : Bool := d.ranges.isEmpty && d.last?.isNone

def settled (d : SetDraft) : List (Char × Char) :=
  d.ranges ++ (d.last?.toList.map fun c => (c, c)) ++ (if d.dashed then [('-', '-')] else [])

/-- The end of a range must not lie before its start. -/
def add? (d : SetDraft) (c : Char) : Option SetDraft :=
  match d.last?, d.dashed with
  | some first, true => if first ≤ c then some ⟨d.negated, d.ranges ++ [(first, c)], none, false⟩
    else none
  | _, _ => some ⟨d.negated, d.settled, some c, false⟩

def dash? (d : SetDraft) : Option SetDraft :=
  if d.last?.isSome && !d.dashed then some { d with dashed := true } else d.add? '-'

def finish (d : SetDraft) : CharSet := ⟨d.negated, d.settled⟩

end SetDraft

def escaped? (c : Char) : Option Char :=
  if c = 'n' then some '\n'
  else if c = 't' then some '\t'
  else if c = 'r' then some '\r'
  else if c.isAlphanum then none
  else some c

/-- Anchors are not part of the notation. -/
def symbolOf? (c : Char) : Option Symbol :=
  if c = '(' then some .groupStart
  else if c = ')' then some .groupEnd
  else if c = '|' then some .bar
  else if c = '*' then some .star
  else if c = '+' then some .plus
  else if c = '?' then some .optional
  else if c = '.' then some (.one .anyOnLine)
  else if c = '^' ∨ c = '$' then none
  else some (.one (.single c))

/-- The symbols of a written pattern; the first argument is the set that is open. A closing
    bracket that comes first in a set belongs to it. -/
def symbols? : Option SetDraft → List Char → Option (List Symbol)
  | none, [] => some []
  | some _, [] => none
  | none, '\\' :: c :: rest => do
    let literal ← escaped? c
    let others ← symbols? none rest
    return .one (.single literal) :: others
  | none, ['\\'] => none
  | none, '[' :: '^' :: rest => symbols? (some (.start true)) rest
  | none, '[' :: rest => symbols? (some (.start false)) rest
  | none, c :: rest => do
    let symbol ← symbolOf? c
    let others ← symbols? none rest
    return symbol :: others
  | some d, '\\' :: c :: rest => do
    let literal ← escaped? c
    let d ← d.add? literal
    symbols? (some d) rest
  | some _, ['\\'] => none
  | some d, '-' :: rest => do
    let d ← d.dash?
    symbols? (some d) rest
  | some d, c :: rest =>
    if c = ']' ∧ d.isFresh = false then do
      let others ← symbols? none rest
      return .one d.finish :: others
    else do
      let d ← d.add? c
      symbols? (some d) rest

/-- A group under construction: the alternatives before the last bar, the items after it, and
    the latest item apart, to which a repetition may still apply unless it is one already. -/
structure Level where
  before? : Option Pattern
  items? : Option Pattern
  last? : Option (Pattern × Bool)

namespace Level

def start : Level := ⟨none, none, none⟩

def sequence? (level : Level) : Option Pattern :=
  match level.items?, level.last? with
  | items?, none => items?
  | none, some (item, _) => some item
  | some items, some (item, _) => some (.seq items item)

def whole (level : Level) : Pattern :=
  let sequence := level.sequence?.getD .empty
  match level.before? with
  | none => sequence
  | some before => .alt before sequence

def push (level : Level) (item : Pattern) : Level :=
  ⟨level.before?, level.sequence?, some (item, false)⟩

def branch (level : Level) : Level := ⟨some level.whole, none, none⟩

def repeat? (level : Level) (make : Pattern → Pattern) : Option Level :=
  match level.last? with
  | some (item, false) => some { level with last? := some (make item, true) }
  | _ => none

end Level

def assemble? (outer : List Level) (level : Level) : List Symbol → Option Pattern
  | [] => if outer.isEmpty then some level.whole else none
  | .one set :: rest => assemble? outer (level.push (.one set)) rest
  | .groupStart :: rest => assemble? (level :: outer) .start rest
  | .groupEnd :: rest =>
    match outer with
    | [] => none
    | enclosing :: outer => assemble? outer (enclosing.push level.whole) rest
  | .bar :: rest => assemble? outer level.branch rest
  | .star :: rest => do assemble? outer (← level.repeat? .star) rest
  | .plus :: rest => do assemble? outer (← level.repeat? .plus) rest
  | .optional :: rest => do assemble? outer (← level.repeat? .optional) rest

/-- Reads a written pattern: literal characters, a full stop, backslash escapes, sets in square
    brackets, groups, bars, and greedy repetitions. -/
def read? (written : String) : Option Pattern := do
  let symbols ← symbols? none written.toList
  assemble? [] .start symbols

end ContractLang.Pattern
