import ContractLang.Declaration.Contract
import ContractLang.Node.Basic

namespace ContractLang

/-- A list of tokens that is read in several steps: the settings in force, and the contracts that
    have been attached so far. -/
structure Session where
  tokens : List Token
  settings : Settings
  contracts : List Contract
  deriving DecidableEq, Repr

inductive Request where
  | hasToken (position : Int)
  | isKind (kind : Kind) (position : Int)
  | symbol (position : Int)
  | lexeme (position : Int)
  | join (first last : Nat)
  | requireKind (kind : Kind) (position : Int) (message : String)
  | requireSymbol (symbol : String) (position : Int) (message : String)
  | requireLexeme (lexeme : String) (position : Int) (message : String)
  | reject (message : String) (position : Int) (expected? : Option String)
  | trace (message : String)
  | code (position : Nat) (mode : ScanMode)
  | statement (position : Nat) (message : String)
  | typeName (position : Nat)
  | names (position : Nat)
  | readAll
  | readFrom (position : Nat)
  | readContract (position : Nat) (name base : String)
  | change (assignments : List Assignment)

inductive Reply where
  | holds (value : Bool)
  | text (value : String)
  | done
  | rejected (e : SyntaxError)
  | span (position : Nat) (text : String)
  | names (position : Nat) (names : List String)
  | whole (outcome : Except SyntaxError Unit) (root : Node)
  | root (outcome : Except SyntaxError Nat) (root : Node)
  | contract (outcome : Except SyntaxError Nat) (contract : Node)

/-- A reply, the trace of the step as it is shown, and the session after it. -/
structure Step where
  reply : Reply
  trace : List String
  session : Session

namespace Session

def start (tokens : List Token) (settings : Settings) : Session := ⟨tokens, settings, []⟩

def place (s : Session) (position : Int) : Place := placeAt s.tokens position

def cursor (s : Session) (position : Nat) : Cursor := .ofPosition s.tokens position

def root (s : Session) : Node := .ofContracts s.contracts

def demanded : Except SyntaxError Unit → Reply
  | .ok () => .done
  | .error e => .rejected e

def scanned : Except SyntaxError Stretch → Reply
  | .ok s => .span s.next.position s.text
  | .error e => .rejected e

def kindName : Kind → String
  | .identifier => "identifier"
  | .number => "number"
  | .string => "string"
  | .other => "symbol"

def answer (s : Session) : Request → Reply
  | .hasToken position => .holds (s.place position).token?.isSome
  | .isKind kind position => .holds ((s.place position).isKind kind)
  | .symbol position => .text (s.place position).symbolText
  | .lexeme position => .text (s.place position).lexeme
  | .join first last => .text (joinLexemes ((s.tokens.take last).drop first))
  | .requireKind kind position message =>
    let p := s.place position
    demanded (p.demand (p.isKind kind) (.stated message (some (kindName kind))))
  | .requireSymbol symbol position message =>
    let p := s.place position
    demanded (p.demand (p.symbolText == symbol) (.stated message (some (Text.quoted symbol))))
  | .requireLexeme lexeme position message =>
    let p := s.place position
    demanded (p.demand (p.lexeme == lexeme) (.stated message (some (Text.quoted lexeme))))
  | .reject message position expected? => .rejected ⟨.stated message expected?, s.place position⟩
  | .code position mode => scanned ((s.cursor position).code mode)
  | .statement position message =>
    scanned ((s.cursor position).statement
      (.stated message (some (Complaint.quotedChar ';'))))
  | .typeName position =>
    match (s.cursor position).typeName with
    | .ok type => .span type.next.position type.text
    | .error e => .rejected e
  | .names position =>
    let (names, next) := (s.cursor position).names
    .names next.position (sortNames names)
  | _ => .done

/-- Attaches the contracts that an attempt has built, complete or not. -/
def attach (s : Session) (a : Attempt (List Contract)) : Session :=
  { s with contracts := s.contracts ++ a.built }

def perform (s : Session) : Request → Step
  | .trace message => ⟨.done, s.settings.shown [message], s⟩
  | .readAll =>
    let a := readContracts s.settings (.start s.tokens)
    let after := s.attach a
    ⟨.whole (a.outcome.map fun _ => ()) after.root, s.settings.shown a.trace, after⟩
  | .readFrom position =>
    let a := readContracts s.settings (s.cursor position)
    let after := s.attach a
    ⟨.root (a.outcome.map (·.position)) after.root, s.settings.shown a.trace, after⟩
  | .readContract position name base =>
    let a := readContract s.settings ⟨name, base, []⟩ (s.cursor position)
    ⟨.contract (a.outcome.map (·.position)) (.ofContract a.built), s.settings.shown a.trace, s⟩
  | .change assignments =>
    ⟨.done, [], { s with settings := assignments.foldl Settings.assign s.settings }⟩
  | request => ⟨s.answer request, [], s⟩

def run (s : Session) : List Request → List Step
  | [] => []
  | request :: requests =>
    let step := s.perform request
    step :: step.session.run requests

theorem contracts_perform (s : Session) (request : Request) :
    s.contracts <+: (s.perform request).session.contracts := by
  cases request <;> first | exact List.prefix_refl _ | exact List.prefix_append _ _

end Session
end ContractLang
