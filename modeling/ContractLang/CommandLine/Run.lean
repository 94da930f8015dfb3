import ContractLang.CommandLine.Invocation
import ContractLang.Declaration.Contract
import ContractLang.Failure
import ContractLang.Json.Print
import ContractLang.Node.Dump

namespace ContractLang.CommandLine

inductive Ending where
  | exit (code : Nat)
  | died (failure : Failure)

structure Report where
  ending : Ending
  out : String
  err : String

inductive Plan where
  | finish (report : Report)
  | write (path : Path) (bytes : List UInt8) (out : String)

abbrev Contents := Path → Except FileError (List UInt8)

def lines (texts : List String) : String := String.join (texts.map (· ++ "\n"))

namespace Report

def success (out err : String) : Report := ⟨.exit 0, out, err⟩

def refusal (err : List String) : Report := ⟨.exit 1, "", lines err⟩

def death (failure : Failure) : Report := ⟨.died failure, "", ""⟩

end Report

def defaultConfigPath (env? : Option String) : Path := .ofString (env?.getD "contractgen.toml")

/-- An empty path counts as none. -/
def configPath (env? : Option String) (given? : Option String) : Path :=
  match given? with
  | none | some "" => defaultConfigPath env?
  | some given => .ofString given

def loadFailure (path : Path) (e : LoadError) : Report :=
  match e.complaint path with
  | .ok complaint => .refusal ["error: " ++ complaint]
  | .error failure => .death failure

def sourceFailure (path : Path) (e : SourceError) : Report :=
  let refusal (verb : String) : Report :=
    .refusal ["error: cannot " ++ verb ++ " " ++ path.text ++ ": " ++ e.reason]
  match e with
  | .unreadable .zeroCharacter => .death (e.failure path)
  | .unreadable _ => refusal "read"
  | .undecodable _ => refusal "decode"

/-- The tree on success. The trace comes first in any case. -/
def parseReport (settings : Settings) (source : List Char) : Report :=
  let a := readSource settings source
  let traced := settings.shown a.trace
  match a.outcome with
  | .ok _ => .success (lines [(Node.ofContracts a.built).dump.lines]) (lines traced)
  | .error e => .refusal (traced ++ ["error: " ++ e.text, "Aborting."])

def parse (env? : Option String) (contents : Contents) (file : String) (debug : Bool)
    (config? : Option String) : Report :=
  let path := configPath env? config?
  match Settings.load (contents path) with
  | .error e => loadFailure path e
  | .ok settings =>
  match sourceText (contents (.ofString file)) with
  | .error e => sourceFailure (.ofString file) e
  | .ok source => parseReport { settings with debug := debug || settings.debug } source

def tokens (contents : Contents) (file : String) : Report :=
  match sourceText (contents (.ofString file)) with
  | .error e => sourceFailure (.ofString file) e
  | .ok source => .success (lines (listTokens (tokenize source))) ""

def exists? (contents : Contents) (path : Path) : Except FileError Bool :=
  match contents path with
  | .ok _ | .error .isDirectory => .ok true
  | .error .notFound | .error .notDirectory | .error .zeroCharacter => .ok false
  | .error .nameTooLong => .error .nameTooLong

/-- Writes the standard settings. Without `force`, what exists stays as it is. -/
def initConfig (env? : Option String) (contents : Contents) (path? : Option String) (force : Bool) :
    Plan :=
  let path := configPath env? path?
  match exists? contents path with
  | .error e => .finish (.death (.file e path))
  | .ok true =>
    if force then written path
    else
      .finish <| .refusal ["error: " ++ path.text ++ " already exists (use --force to overwrite)"]
  | .ok false => written path
where
  written (path : Path) : Plan :=
    .write path Settings.standard.toBytes (lines ["Wrote " ++ path.text])

def Invocation.plan (env? : Option String) (contents : Contents) : Invocation → Plan
  | .parse file debug config? => .finish (CommandLine.parse env? contents file debug config?)
  | .tokens file => .finish (CommandLine.tokens contents file)
  | .rules => .finish (.success (lines RuleTable.standard.listing) "")
  | .initConfig path? force => CommandLine.initConfig env? contents path? force

namespace Stop

def report : Stop → Report
  | help form => .success (lines (form.usage :: form.help)) ""
  | misuse form message => ⟨.exit 2, "", lines [form.usage, form.program ++ ": error: " ++ message]⟩

end Stop

def plan (env? : Option String) (contents : Contents) (arguments : List String) : Plan :=
  match Invocation.read arguments with
  | .error stop => .finish stop.report
  | .ok invocation => invocation.plan env? contents

def Invocation.paths (env? : Option String) : Invocation → List Path
  | .parse file _ config? => [configPath env? config?, .ofString file]
  | .tokens file => [.ofString file]
  | .rules => []
  | .initConfig path? _ => [configPath env? path?]

/-- Carries a plan out. A file that cannot be written is a fault. -/
def Plan.perform (store : Store) : Plan → Report × Store
  | .finish report => (report, store)
  | .write path bytes out =>
    match store.write path bytes with
    | .ok store => (.success out "", store)
    | .error e => (.death (.file e path), store)

def run (env? : Option String) (store : Store) (arguments : List String) : Report × Store :=
  (plan env? store.read arguments).perform store

/-- Runs the program several times, each time on the files that the runs before have left. -/
def runAll (env? : Option String) (store : Store) : List (List String) → List (Report × Store)
  | [] => []
  | arguments :: rest =>
    let (report, after) := run env? store arguments
    (report, after) :: runAll env? after rest

end ContractLang.CommandLine
