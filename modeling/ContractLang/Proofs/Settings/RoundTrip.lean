import ContractLang.Proofs.Text.Utf8
import ContractLang.Proofs.Toml.Section
import ContractLang.Settings.File

namespace ContractLang

def Field.value (settings : Settings) : Field → Toml.Value
  | word field => .string (settings.word field)
  | debug => .boolean settings.debug

def Field.written (settings : Settings) : Field → List Char
  | word field => Toml.printString (settings.word field)
  | debug => Toml.printBoolean settings.debug

theorem Field.writes (settings : Settings) (field : Field) :
    Toml.Writes (field.written settings) (field.value settings) := by
  cases field with
  | word field => exact Toml.writes_string _
  | debug => exact Toml.writes_boolean _

theorem Field.isBare_key (field : Field) : Toml.IsBare field.key := by
  cases field with
  | word field => cases field <;> decide
  | debug => decide

namespace Settings

theorem print_eq (settings : Settings) :
    settings.print = Toml.printHeader sectionKey
      ++ Field.all.flatMap fun field => Toml.printPair field.key (field.written settings) :=
  rfl

theorem read_print (settings : Settings) :
    Toml.read settings.print = .ok [(sectionKey, .table
      (Field.all.map fun field => (field.key, field.value settings)))] := by
  rw [print_eq]
  exact Toml.read_section (by decide) (fun field _ => field.isBare_key)
    (fun field _ => field.writes settings) (by decide)

theorem assignEntries_cons {settings : Settings} {field : Field} {value : Toml.Value}
    {assignment : Assignment} (fits : field.assignment? value = some assignment)
    (rest : List (String × Toml.Value)) :
    settings.assignEntries ((field.key, value) :: rest)
      = (settings.assign assignment).assignEntries rest := by
  rw [assignEntries, Field.ofKey?_key]
  simp only [fits]

/-- Entries for all fields leave nothing of what was there before. -/
theorem assignEntries_all (before settings : Settings) :
    before.assignEntries (Field.all.map fun field => (field.key, field.value settings))
      = .ok settings := by
  simp only [Field.all, List.map_cons, List.map_nil, Field.value]
  rw [assignEntries_cons rfl, assignEntries_cons rfl, assignEntries_cons rfl,
    assignEntries_cons rfl, assignEntries_cons rfl]
  cases settings
  rfl

theorem ofBytes_toBytes (settings : Settings) : ofBytes settings.toBytes = .ok settings := by
  rw [ofBytes, toBytes, Text.Utf8.decode_encode]
  simp only [read_print]
  have found : Toml.Table.get? [(sectionKey, .table
      (Field.all.map fun field => (field.key, field.value settings)))] sectionKey
      = some (.table (Field.all.map fun field => (field.key, field.value settings))) := by
    rw [Toml.Table.get?, if_pos rfl]
  simp only [ofTable, found, assignEntries_all]
  rfl

end Settings
end ContractLang
