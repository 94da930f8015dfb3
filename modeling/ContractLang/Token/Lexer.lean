import ContractLang.Pattern.Reader
import ContractLang.Token.Basic

namespace ContractLang

/-- A named class of lexemes. `reach` gives the length of the match at the start of a text.
    Matches yield tokens only if they are kept and have a kind. -/
structure Rule where
  name : String
  pattern : String
  reach : List Char → Option Nat
  keep : Bool
  kind? : Option Kind

abbrev RuleTable := List Rule

structure Position where
  line : Nat
  column : Nat
  deriving DecidableEq, Repr

namespace Position

def start : Position := ⟨1, 1⟩

def step (here : Position) (c : Char) : Position :=
  if c = '\n' then ⟨here.line + 1, 1⟩ else ⟨here.line, here.column + 1⟩

end Position

namespace Rule

def ofPattern (name written : String) (pattern : Pattern) (keep : Bool) (kind? : Option Kind) :
    Rule :=
  ⟨name, written, pattern.reach, keep, kind?⟩

def read? (name written : String) (keep : Bool) (kind? : Option Kind) : Option Rule := do
  let pattern ← Pattern.read? written
  return ofPattern name written pattern keep kind?

def summary (rule : Rule) : String :=
  rule.name ++ " /" ++ rule.pattern ++ "/" ++ (if rule.keep then "" else " (dropped)")

def token? (rule : Rule) (here : Position) (lexeme : List Char) : Option Token :=
  if rule.keep then
    rule.kind?.map fun kind => ⟨kind, String.ofList lexeme, here.line, here.column⟩
  else none

end Rule

namespace RuleTable

def listing (rules : RuleTable) : List String :=
  rules.zipIdx.map fun (rule, position) => toString position ++ ": " ++ rule.summary

/-- The longest non-empty match, and of several equally long ones that of the first rule. -/
def longest? : RuleTable → List Char → Option (Rule × Nat)
  | [], _ => none
  | rule :: rules, text =>
    match rule.reach text with
    | none | some 0 => longest? rules text
    | some (n + 1) =>
      match longest? rules text with
      | some (other, m) => if n + 1 < m then some (other, m) else some (rule, n + 1)
      | none => some (rule, n + 1)

/-- The tokens of a text whose first `pending` characters belong to a match that has been dealt
    with. A character that no rule matches is passed over. -/
def tokensFrom (rules : RuleTable) (here : Position) : Nat → List Char → List Token
  | _, [] => []
  | pending + 1, c :: rest => tokensFrom rules (here.step c) pending rest
  | 0, c :: rest =>
    match rules.longest? (c :: rest) with
    | none => tokensFrom rules (here.step c) 0 rest
    | some (rule, length) =>
      (rule.token? here ((c :: rest).take length)).toList
        ++ tokensFrom rules (here.step c) (length - 1) rest

def tokens (rules : RuleTable) (source : List Char) : List Token :=
  rules.tokensFrom .start 0 source

end RuleTable
end ContractLang
