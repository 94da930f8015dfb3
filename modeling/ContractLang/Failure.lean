import ContractLang.Settings.File
import ContractLang.Text.Newline
import ContractLang.Text.Quoted

namespace ContractLang

inductive Failure where
  | undecodable (e : Text.Utf8.DecodeError)
  | notATable (value : Toml.Value)
  | tooManyDigits (count : Nat)
  | tooDeep
  | file (e : FileError) (path : Path)

/-- The name of the type of a value, with the place where the type is defined. -/
def Toml.Value.qualifiedTypeName : Value → String
  | value@(.date _) | value@(.time _) | value@(.dateTime _ _ _) => "datetime." ++ value.typeName
  | value => value.typeName

def Failure.message : Failure → String
  | undecodable e => e.message
  | notATable value => "'" ++ value.qualifiedTypeName ++ "' object has no attribute 'items'"
  | tooManyDigits count =>
    "Exceeds the limit (" ++ toString Toml.maxDigits
      ++ " digits) for integer string conversion: value has " ++ toString count
      ++ " digits; use sys.set_int_max_str_digits() to increase the limit"
  | tooDeep => "maximum recursion depth exceeded"
  | file e path =>
    match e.number? with
    | some number =>
      "[Errno " ++ toString number ++ "] " ++ e.reason ++ ": " ++ Text.quoted path.text
    | none => e.reason

/-- What is wrong with a file of settings, unless it is a fault that no command reports. -/
def LoadError.complaint (path : Path) : LoadError → Except Failure String
  | .unreadable e => .error (.file e path)
  | .undecodable e => .error (.undecodable e)
  | .unread .malformed => .ok (path.text ++ ": not a TOML document")
  | .unread (.tooManyDigits count) => .error (.tooManyDigits count)
  | .unread .tooDeep => .error .tooDeep
  | .fault (.notATable value) => .error (.notATable value)
  | .fault (.unknownKey key) =>
    .ok (path.text ++ ": unknown key '" ++ Settings.sectionKey ++ "." ++ key ++ "'")
  | .fault (.wrongType field value) =>
    .ok (path.text ++ ": '" ++ Settings.sectionKey ++ "." ++ field.key ++ "' must be "
      ++ field.typeName ++ ", got " ++ value.typeName)

inductive SourceError where
  | unreadable (e : FileError)
  | undecodable (e : Text.Utf8.DecodeError)
  deriving DecidableEq, Repr

namespace SourceError

def reason : SourceError → String
  | unreadable e => e.reason
  | undecodable e => e.reason.text

def failure (path : Path) : SourceError → Failure
  | unreadable e => .file e path
  | undecodable e => .undecodable e

end SourceError

/-- The text of a source file, given what reading the file gives. Every line end is a newline. -/
def sourceText (contents : Except FileError (List UInt8)) : Except SourceError (List Char) :=
  match contents with
  | .error e => .error (.unreadable e)
  | .ok bytes =>
    match Text.Utf8.decode bytes with
    | .error e => .error (.undecodable e)
    | .ok source => .ok (Text.unifyLineEnds source)

end ContractLang
