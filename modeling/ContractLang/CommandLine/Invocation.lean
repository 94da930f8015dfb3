import ContractLang.CommandLine.Reader

namespace ContractLang.CommandLine

inductive Invocation where
  | parse (file : String) (debug : Bool) (config? : Option String)
  | tokens (file : String)
  | rules
  | initConfig (path? : Option String) (force : Bool)
  deriving DecidableEq, Repr

namespace Form

def main : Form where
  program := "contractgen"
  usage := "usage: contractgen [-h] \x7bparse,tokens,rules,init-config\x7d ..."
  help :=
    ["",
     "Contract definition front end",
     "",
     "positional arguments:",
     "  \x7bparse,tokens,rules,init-config\x7d",
     "    parse               parse a contract file and print its tree",
     "    tokens              print the token stream",
     "    rules               print the lexer rules",
     "    init-config         write a default configuration file",
     "",
     "options:",
     "  -h, --help            show this help message and exit"]
  switches := [.help]
  operand? := some (.command "command")

def debugSwitch : Switch := ⟨["--debug"], false⟩

def configSwitch : Switch := ⟨["--config"], true⟩

def forceSwitch : Switch := ⟨["--force"], false⟩

def parse : Form where
  program := "contractgen parse"
  usage := "usage: contractgen parse [-h] [--debug] [--config CONFIG] file"
  help :=
    ["",
     "positional arguments:",
     "  file             contract definition file",
     "",
     "options:",
     "  -h, --help       show this help message and exit",
     "  --debug          trace each construct as it is recognized",
     "  --config CONFIG  configuration file (default: $CONTRACTGEN_CONFIG or",
     "                   ./contractgen.toml)"]
  switches := [.help, debugSwitch, configSwitch]
  operand? := some (.required "file")

def tokens : Form where
  program := "contractgen tokens"
  usage := "usage: contractgen tokens [-h] file"
  help :=
    ["",
     "positional arguments:",
     "  file        contract definition file",
     "",
     "options:",
     "  -h, --help  show this help message and exit"]
  switches := [.help]
  operand? := some (.required "file")

def rules : Form where
  program := "contractgen rules"
  usage := "usage: contractgen rules [-h]"
  help :=
    ["",
     "options:",
     "  -h, --help  show this help message and exit"]
  switches := [.help]
  operand? := none

def initConfig : Form where
  program := "contractgen init-config"
  usage := "usage: contractgen init-config [-h] [--force] [path]"
  help :=
    ["",
     "positional arguments:",
     "  path        where to write (default: ./contractgen.toml)",
     "",
     "options:",
     "  -h, --help  show this help message and exit",
     "  --force     overwrite an existing file"]
  switches := [.help, forceSwitch]
  operand? := some (.optional "path")

end Form

inductive Command where
  | parse
  | tokens
  | rules
  | initConfig
  deriving DecidableEq, Repr

namespace Command

def name : Command → String
  | parse => "parse"
  | tokens => "tokens"
  | rules => "rules"
  | initConfig => "init-config"

def all : List Command := [parse, tokens, rules, initConfig]

def ofName? (name : String) : Option Command := all.find? (·.name == name)

def form : Command → Form
  | parse => .parse
  | tokens => .tokens
  | rules => .rules
  | initConfig => .initConfig

def invoke (command : Command) (t : Taken) : Invocation :=
  let operand? := t.operand?.bind id
  match command with
  | parse => .parse (operand?.getD "") (t.has "--debug") (t.value? "--config")
  | tokens => .tokens (operand?.getD "")
  | rules => .rules
  | initConfig => .initConfig operand? (t.has "--force")

end Command

def unknownCommand (name : String) : Stop :=
  .misuse .main <| "argument command: invalid choice: " ++ Text.quoted name ++ " (choose from "
    ++ ", ".intercalate (Command.all.map fun command => Text.quoted command.name) ++ ")"

/-- Reads the arguments of the program. Extras are refused last, those before the command and
    those after it together. -/
def Invocation.read (arguments : List String) : Except Stop Invocation := do
  let outer ← Form.main.read arguments
  match outer.command? with
  | none => .error (.misuse .main "the following arguments are required: command")
  | some (name, arguments) =>
    match Command.ofName? name with
    | none => .error (unknownCommand name)
    | some command =>
      let inner ← command.form.read arguments
      match outer.extras ++ inner.extras with
      | [] => .ok (command.invoke inner)
      | extras =>
        .error (.misuse .main ("unrecognized arguments: " ++ " ".intercalate extras))

end ContractLang.CommandLine
