import ContractLang.Settings.Basic
import ContractLang.Toml.Value

namespace ContractLang

namespace Toml.Value

def typeName : Value → String
  | string _ => "str"
  | integer _ => "int"
  | float _ => "float"
  | boolean _ => "bool"
  | date _ => "date"
  | time _ => "time"
  | dateTime _ _ _ => "datetime"
  | array _ => "list"
  | table _ => "dict"

end Toml.Value

inductive Field where
  | word (field : WordField)
  | debug
  deriving DecidableEq, Repr

namespace Field

def key : Field → String
  | word .contractKeyword => "contract_keyword"
  | word .aliasKeyword => "alias_keyword"
  | word .requiredMarker => "required_marker"
  | word .defaultMarker => "default_marker"
  | debug => "debug"

def all : List Field :=
  [.word .contractKeyword, .word .aliasKeyword, .word .requiredMarker, .word .defaultMarker, .debug]

def ofKey? (key : String) : Option Field := all.find? (·.key == key)

def typeName : Field → String
  | word _ => "str"
  | debug => "bool"

def assignment? : Field → Toml.Value → Option Assignment
  | word field, .string text => some (.word field text)
  | debug, .boolean value => some (.debug value)
  | _, _ => none

theorem mem_all (field : Field) : field ∈ all := by
  cases field with
  | word field => cases field <;> decide
  | debug => decide

theorem ofKey?_key (field : Field) : ofKey? field.key = some field := by
  cases field with
  | word field => cases field <;> decide
  | debug => decide

end Field

inductive SettingsFault where
  | notATable (value : Toml.Value)
  | unknownKey (key : String)
  | wrongType (field : Field) (value : Toml.Value)

namespace Settings

def sectionKey : String := "parser"

/-- Entries are taken one after the other; the first one that does not fit is the fault. -/
def assignEntries (settings : Settings) : List (String × Toml.Value) → Except SettingsFault Settings
  | [] => .ok settings
  | (key, value) :: rest =>
    match Field.ofKey? key with
    | none => .error (.unknownKey key)
    | some field =>
      match field.assignment? value with
      | none => .error (.wrongType field value)
      | some assignment => (settings.assign assignment).assignEntries rest

/-- The settings in the section of a table. What is not given there has its standard value. -/
def ofTable (table : Toml.Table) : Except SettingsFault Settings :=
  match table.get? sectionKey with
  | none => .ok standard
  | some (.table entries) => standard.assignEntries entries
  | some value => .error (.notATable value)

end Settings
end ContractLang
