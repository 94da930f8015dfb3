import ContractLang.Failure
import ContractLang.Proofs.Settings.Entries
import ContractLang.Proofs.Toml.Digits
import ContractLang.Proofs.Toml.FileOrder

namespace ContractLang

open Toml (Value Table)

/-- The error is about a key: no field has it, or what it is given has the wrong type. -/
inductive LoadError.Names (key : String) (value : Value) (e : LoadError) : Prop
  | unknown (new : ∀ field : Field, field.key ≠ key)
      (complaint : ∀ path, e.complaint path
        = .ok (path.text ++ ": unknown key '" ++ Settings.sectionKey ++ "." ++ key ++ "'"))
  | wrongType (field : Field) (known : field.key = key) (refused : ¬ field.Admits value)
      (complaint : ∀ path, e.complaint path
        = .ok (path.text ++ ": '" ++ Settings.sectionKey ++ "." ++ key ++ "' must be "
          ++ field.typeName ++ ", got " ++ value.typeName))

namespace Settings

/-- The entries in the section of a document, none where it has no section. -/
inductive HasSection (bytes : List UInt8) (document : List Char) : Table → Prop
  | found {table entries : Table} (decoded : Text.Utf8.decode bytes = .ok document)
      (read : Toml.read document = .ok table)
      (given : table.get? sectionKey = some (.table entries)) : HasSection bytes document entries
  | missing {table : Table} (decoded : Text.Utf8.decode bytes = .ok document)
      (read : Toml.read document = .ok table) (missing : table.get? sectionKey = none) :
      HasSection bytes document []

namespace HasSection

variable {bytes bytes' : List UInt8} {document document' : List Char} {entries entries' : Table}

theorem load_eq (has : HasSection bytes document entries) :
    load (.ok bytes) = (standard.assignEntries entries).mapError .fault := by
  cases has with
  | found decoded read found => simp only [load, ofBytes, decoded, read, ofTable, found]
  | missing decoded read missing =>
    simp only [load, ofBytes, decoded, read, ofTable, missing, assignEntries]

theorem exists_statements (has : HasSection bytes document entries) :
    ∃ statements, Toml.statements document = .ok statements ∧
      entries.keys = (Toml.mentionedKeys sectionKey [] statements).foldl Table.note [] := by
  cases has with
  | found decoded read found =>
    exact Toml.exists_statements_of_read read (by rw [Table.sectionKeys?, found])
  | missing decoded read missing =>
    exact Toml.exists_statements_of_read read (by rw [Table.sectionKeys?, missing]; rfl)

theorem distinct (has : HasSection bytes document entries) : entries.keys.Nodup := by
  obtain ⟨statements, -, keys⟩ := has.exists_statements
  rw [keys]
  exact Table.nodup_foldl_note List.nodup_nil _

theorem load_of_fit (has : HasSection bytes document entries)
    (fit : ∀ entry ∈ entries, Fits entry) :
    ∃ settings, load (.ok bytes) = .ok settings ∧ Updated standard entries settings := by
  obtain ⟨settings, taken, updated⟩ := exists_assignEntries fit has.distinct standard
  exact ⟨settings, by rw [has.load_eq, taken]; rfl, updated⟩

theorem load_of_offence (has : HasSection bytes document entries) {good rest : Table}
    {key : String} {value : Value} (split : entries = good ++ (key, value) :: rest)
    (fit : ∀ entry ∈ good, Fits entry) (bad : ¬ Fits (key, value)) :
    ∃ e, load (.ok bytes) = .error e ∧ e.Names key value := by
  refine ⟨.fault (offence key value), ?_, ?_⟩
  · rw [has.load_eq, split, assignEntries_of_offence fit bad]
    rfl
  · rcases found : Field.ofKey? key with _ | field
    · refine .unknown ((Field.ofKey?_eq_none_iff key).mp found) fun path => ?_
      simp only [offence, found, LoadError.complaint]
    · have known := (Field.ofKey?_eq_some_iff key field).mp found
      refine .wrongType field known (fun admits => bad ⟨field, known, admits⟩) fun path => ?_
      simp only [offence, found, LoadError.complaint, known]

/-- Entries in another order are the same to settings that they update. -/
theorem load_of_perm (has : HasSection bytes document entries)
    (other : HasSection bytes' document' entries') (perm : entries'.Perm entries)
    (fit : ∀ entry ∈ entries, Fits entry) : load (.ok bytes') = load (.ok bytes) := by
  obtain ⟨settings, loaded, updated⟩ := has.load_of_fit fit
  obtain ⟨settings', loaded', updated'⟩ :=
    other.load_of_fit fun entry member => fit entry (perm.mem_iff.mp member)
  have same : settings' = settings := eq_of_values fun field => by
    rw [updated, updated', Table.get?_of_perm perm other.distinct]
  rw [loaded, loaded', same]

end HasSection

/-- How a document with a section is loaded. Its keys count in the order in which the file first
    mentions them. -/
structure Loads (bytes : List UInt8) (document : List Char) (entries : Table) : Prop where
  ordered : ∃ statements, Toml.statements document = .ok statements ∧
    entries.keys = (Toml.mentionedKeys sectionKey [] statements).foldl Table.note []
  accepted : (∃ settings, load (.ok bytes) = .ok settings) ↔ ∀ entry ∈ entries, Fits entry
  updated : ∀ settings, load (.ok bytes) = .ok settings → Updated standard entries settings
  refused : (¬ ∀ entry ∈ entries, Fits entry) → ∃ good key value rest e,
    entries = good ++ (key, value) :: rest ∧ (∀ entry ∈ good, Fits entry) ∧ ¬ Fits (key, value) ∧
      load (.ok bytes) = .error e ∧ e.Names key value
  reordered : ∀ bytes' document' entries', HasSection bytes' document' entries' →
    entries'.Perm entries → ∀ settings, load (.ok bytes) = .ok settings →
      load (.ok bytes') = .ok settings

theorem HasSection.loads {bytes : List UInt8} {document : List Char} {entries : Table}
    (has : HasSection bytes document entries) : Loads bytes document entries := by
  have fit_of_loaded : (∃ settings, load (.ok bytes) = .ok settings) →
      ∀ entry ∈ entries, Fits entry := by
    rintro ⟨settings, loaded⟩
    rcases fit_or_exists_offence entries with fit | ⟨good, key, value, rest, split, fit, bad⟩
    · exact fit
    · obtain ⟨e, failed, -⟩ := has.load_of_offence split fit bad
      cases loaded.symm.trans failed
  constructor
  · exact has.exists_statements
  · refine ⟨fit_of_loaded, fun fit => ?_⟩
    obtain ⟨settings, loaded, -⟩ := has.load_of_fit fit
    exact ⟨settings, loaded⟩
  · intro settings loaded
    obtain ⟨settings', loaded', updated⟩ := has.load_of_fit (fit_of_loaded ⟨settings, loaded⟩)
    cases loaded.symm.trans loaded'
    exact updated
  · intro unfit
    rcases fit_or_exists_offence entries with fit | ⟨good, key, value, rest, split, fit, bad⟩
    · exact absurd fit unfit
    · obtain ⟨e, failed, names⟩ := has.load_of_offence split fit bad
      exact ⟨good, key, value, rest, e, split, fit, bad, failed, names⟩
  · intro bytes' document' entries' other perm settings loaded
    rw [has.load_of_perm other perm (fit_of_loaded ⟨settings, loaded⟩), loaded]

/-- A document whose section, if it has one, is a table is loaded entry by entry, unless it exceeds
    a limit of the reader: then there is no answer to the user. -/
theorem loads_or_exceeds {bytes : List UInt8} {document : List Char}
    (decoded : Text.Utf8.decode bytes = .ok document)
    (valid : Toml.read document ≠ .error .malformed)
    (isTable : ∀ table value, Toml.read document = .ok table →
      table.get? sectionKey = some value → ∃ entries, value = .table entries) :
    (∃ entries, HasSection bytes document entries ∧ Loads bytes document entries) ∨
    ∃ fault, Toml.read document = .error fault ∧ load (.ok bytes) = .error (.unread fault) ∧
      ∀ path, ∃ failure, (LoadError.unread fault).complaint path = .error failure := by
  rcases read : Toml.read document with fault | table
  · refine .inr ⟨fault, rfl, by simp only [load, ofBytes, decoded, read], ?_⟩
    cases fault with
    | malformed => exact absurd read valid
    | tooManyDigits | tooDeep => exact fun path => ⟨_, rfl⟩
  · left
    rcases found : table.get? sectionKey with _ | value
    · have has := HasSection.missing decoded read found
      exact ⟨[], has, has.loads⟩
    · obtain ⟨entries, rfl⟩ := isTable table value read found
      have has := HasSection.found decoded read found
      exact ⟨entries, has, has.loads⟩

/-- A document of one section with one entry. -/
def withEntry (key : String) (text : List Char) : List Char :=
  Toml.printHeader sectionKey ++ Toml.printPair key text

theorem read_withEntry {key : String} {text : List Char} {value : Value} (bare : Toml.IsBare key)
    (writes : Toml.Writes text value) :
    Toml.read (withEntry key text) = .ok [(sectionKey, .table [(key, value)])] := by
  have read : Toml.read (Toml.printHeader sectionKey ++ [()].flatMap fun _ => Toml.printPair key text)
      = .ok [(sectionKey, .table ([()].map fun _ => (key, value)))] :=
    Toml.read_section (by decide) (fun _ _ => bare) (fun _ _ => writes) (by simp)
  rwa [List.flatMap_singleton] at read

theorem loads_of_alias_keyword :
    ∃ settings, load (.ok (Text.Utf8.encode (withEntry "alias_keyword" (Toml.printString "type"))))
        = .ok settings ∧
      settings.aliasKeyword = "type" ∧ settings.contractKeyword = "contract" := by
  have read := read_withEntry (show Toml.IsBare "alias_keyword" by decide)
    (Toml.writes_string "type")
  have isTable : ∀ table value,
      Toml.read (withEntry "alias_keyword" (Toml.printString "type")) = .ok table →
      table.get? sectionKey = some value → ∃ entries, value = .table entries := by
    intro table value read' found
    cases read.symm.trans read'
    exact ⟨_, (Option.some.inj found).symm⟩
  rcases loads_or_exceeds (Text.Utf8.decode_encode _) (by rw [read]; nofun) isTable with
    ⟨entries, has, loads⟩ | ⟨fault, other, -⟩
  · have same : entries = [("alias_keyword", .string "type")] := by
      cases has with
      | found _ read' found =>
        cases read.symm.trans read'
        exact (Value.table.inj (Option.some.inj found)).symm
      | missing _ read' missing =>
        cases read.symm.trans read'
        cases missing
    subst same
    have fits : Fits ("alias_keyword", .string "type") := ⟨.word .aliasKeyword, rfl, .word _ _⟩
    obtain ⟨settings, loaded⟩ := loads.accepted.mpr (by simpa using fits)
    have updated := loads.updated settings loaded
    exact ⟨settings, loaded, Value.string.inj (updated (.word .aliasKeyword)),
      Value.string.inj (updated (.word .contractKeyword))⟩
  · cases read.symm.trans other

theorem load_of_many_digits {count : Nat} (many : Toml.maxDigits < count + 5) :
    load (.ok (Text.Utf8.encode (withEntry "debug" (Toml.nines (count + 5)))))
      = .error (.unread (.tooManyDigits (count + 5))) := by
  have read : Toml.read (withEntry "debug" (Toml.nines (count + 5)))
      = .error (.tooManyDigits (count + 5)) :=
    Toml.read_of_fault (by decide) (by decide) (Toml.starts_nines _) (Toml.return_not_mem_nines _)
      (Toml.value_nines_of_many many [])
  simp only [load, ofBytes, Text.Utf8.decode_encode, read]

/-- One digit more, and the wrong type of the value is no longer reported. -/
theorem load_dies_of_digits :
    (∃ n e, load (.ok (Text.Utf8.encode (withEntry "debug" (Toml.nines 4300)))) = .error e ∧
      e.Names "debug" (.integer n)) ∧
    load (.ok (Text.Utf8.encode (withEntry "debug" (Toml.nines 4301))))
      = .error (.unread (.tooManyDigits 4301)) ∧
    ∀ path, (LoadError.unread (.tooManyDigits 4301)).complaint path
      = .error (.tooManyDigits 4301) := by
  obtain ⟨n, writes⟩ := Toml.exists_writes_nines (show 4295 + 5 ≤ Toml.maxDigits by decide)
  have has := HasSection.found (Text.Utf8.decode_encode _)
    (read_withEntry (show Toml.IsBare "debug" by decide) writes) rfl
  have bad : ¬ Fits ("debug", .integer n) := by
    rintro ⟨field, known, admits⟩
    cases Field.key_inj (known.trans (show "debug" = Field.debug.key from rfl))
    cases admits
  obtain ⟨e, failed, names⟩ := has.load_of_offence (show _ = [] ++ _ :: [] from rfl) nofun bad
  exact ⟨⟨n, e, failed, names⟩,
    load_of_many_digits (show Toml.maxDigits < 4296 + 5 by decide), fun _ => rfl⟩

end Settings
end ContractLang
