import ContractLang.Settings.Table
import ContractLang.Store.Basic
import ContractLang.Text.Utf8
import ContractLang.Toml.Print
import ContractLang.Toml.Reader

namespace ContractLang

inductive LoadError where
  | unreadable (e : FileError)
  | undecodable (e : Text.Utf8.DecodeError)
  | unread (fault : Toml.Fault)
  | fault (f : SettingsFault)

namespace Settings

def ofBytes (bytes : List UInt8) : Except LoadError Settings :=
  match Text.Utf8.decode bytes with
  | .error e => .error (.undecodable e)
  | .ok document =>
    match Toml.read document with
    | .error fault => .error (.unread fault)
    | .ok table => (ofTable table).mapError .fault

/-- The settings in a file, given what reading the file gives. A file that does not exist, or
    cannot, stands for the standard settings. -/
def load (contents : Except FileError (List UInt8)) : Except LoadError Settings :=
  match contents with
  | .ok bytes => ofBytes bytes
  | .error .notFound | .error .notDirectory | .error .zeroCharacter => .ok standard
  | .error e => .error (.unreadable e)

def print (settings : Settings) : List Char :=
  Toml.printHeader sectionKey ++ Field.all.flatMap fun field =>
    Toml.printPair field.key <|
      match field with
      | .word word => Toml.printString (settings.word word)
      | .debug => Toml.printBoolean settings.debug

def toBytes (settings : Settings) : List UInt8 := Text.Utf8.encode settings.print

end Settings
end ContractLang
