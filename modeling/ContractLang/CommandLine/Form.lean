import ContractLang.Text.Quoted

namespace ContractLang.CommandLine

/-- An option under all its names. A name of one letter after one dash takes no value. -/
structure Switch where
  names : List String
  takesValue : Bool
  deriving DecidableEq, Repr

/-- What a command takes besides its options: one word, at most one, or the name of another
    command with everything after it. -/
inductive Operand where
  | required (name : String)
  | optional (name : String)
  | command (name : String)
  deriving DecidableEq, Repr

structure Form where
  program : String
  usage : String
  help : List String
  switches : List Switch
  operand? : Option Operand
  deriving DecidableEq, Repr

/-- Why reading a command line ends early: help was asked for, or the form is not met. -/
inductive Stop where
  | help (form : Form)
  | misuse (form : Form) (message : String)
  deriving DecidableEq, Repr

namespace Switch

def help : Switch := ⟨["-h", "--help"], false⟩

def title (s : Switch) : String := "/".intercalate s.names

end Switch

def Operand.name : Operand → String
  | required name | optional name | command name => name

namespace Form

def switchNamed? (form : Form) (name : String) : Option Switch :=
  form.switches.find? (·.names.contains name)

def switchNames (form : Form) : List (String × Switch) :=
  form.switches.flatMap fun s => s.names.map fun name => (name, s)

end Form
end ContractLang.CommandLine
