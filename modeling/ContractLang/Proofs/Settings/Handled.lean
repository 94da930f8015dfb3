import ContractLang.Failure

namespace ContractLang.Settings

/-- Contents of a file of settings that are read, or in which a mistake is reported: a document,
    well-formed or not, whose section, if it has one, is a table. -/
inductive Handled : Except FileError (List UInt8) → Prop
  | missing {e : FileError} (absent : e = .notFound ∨ e = .notDirectory ∨ e = .zeroCharacter) :
      Handled (.error e)
  | malformed {bytes : List UInt8} {document : List Char}
      (decoded : Text.Utf8.decode bytes = .ok document)
      (unread : Toml.read document = .error .malformed) : Handled (.ok bytes)
  | table {bytes : List UInt8} {document : List Char} {table : Toml.Table}
      (decoded : Text.Utf8.decode bytes = .ok document) (read : Toml.read document = .ok table)
      (entries : ∀ value, table.get? sectionKey = some value → ∃ entries, value = .table entries) :
      Handled (.ok bytes)

/-- Settings are loaded from the contents, or a mistake in them is reported. -/
def Answered (contents : Except FileError (List UInt8)) : Prop :=
  (∃ settings, load contents = .ok settings)
    ∨ ∃ e, load contents = .error e ∧ ∀ path, ∃ complaint, e.complaint path = .ok complaint

def Unanswered (contents : Except FileError (List UInt8)) : Prop :=
  ∃ e, load contents = .error e ∧ ∀ path, ∃ failure, e.complaint path = .error failure

theorem assignEntries_ne_notATable (settings : Settings) (entries : List (String × Toml.Value))
    (value : Toml.Value) : settings.assignEntries entries ≠ .error (.notATable value) := by
  induction entries generalizing settings with
  | nil => nofun
  | cons entry rest ih =>
    rw [assignEntries]
    split
    · nofun
    · split
      · nofun
      · exact ih _

theorem ofTable_cases (table : Toml.Table) :
    (∀ value, table.get? sectionKey = some value → ∃ entries, value = .table entries)
        ∧ (∀ value, ofTable table ≠ .error (.notATable value))
      ∨ ∃ value, table.get? sectionKey = some value ∧ (∀ entries, value ≠ .table entries)
        ∧ ofTable table = .error (.notATable value) := by
  rw [ofTable]
  split
  · rename_i missing
    exact .inl ⟨fun value found => absurd (missing.symm.trans found) nofun, nofun⟩
  · rename_i entries present
    refine .inl ⟨fun value found => ⟨entries, ?_⟩, assignEntries_ne_notATable standard entries⟩
    exact (Option.some.inj (present.symm.trans found)).symm
  · rename_i value noTable present
    exact .inr ⟨value, present, noTable, rfl⟩

theorem handled_iff_of_decoded {bytes : List UInt8} {document : List Char}
    (decoded : Text.Utf8.decode bytes = .ok document) :
    Handled (.ok bytes) ↔ Toml.read document = .error .malformed
      ∨ ∃ table, Toml.read document = .ok table
        ∧ ∀ value, table.get? sectionKey = some value → ∃ entries, value = .table entries := by
  constructor
  · intro handled
    cases handled with
    | malformed decoded' unread =>
      cases decoded.symm.trans decoded'
      exact .inl unread
    | table decoded' read entries =>
      cases decoded.symm.trans decoded'
      exact .inr ⟨_, read, entries⟩
  · rintro (unread | ⟨table, read, entries⟩)
    · exact .malformed decoded unread
    · exact .table decoded read entries

theorem handled_or_unanswered_of_decoded {bytes : List UInt8} {document : List Char}
    (decoded : Text.Utf8.decode bytes = .ok document) :
    Handled (.ok bytes) ∧ Answered (.ok bytes) ∨ ¬ Handled (.ok bytes) ∧ Unanswered (.ok bytes) := by
  rw [handled_iff_of_decoded decoded]
  rcases read : Toml.read document with fault | table
  · have loaded : load (.ok bytes) = .error (.unread fault) := by
      simp only [load, ofBytes, decoded, read]
    cases fault with
    | malformed => exact .inl ⟨.inl rfl, .inr ⟨_, loaded, fun path => ⟨_, rfl⟩⟩⟩
    | tooManyDigits | tooDeep =>
      refine .inr ⟨?_, _, loaded, fun path => ⟨_, rfl⟩⟩
      rintro (other | ⟨_, other, _⟩) <;> cases other
  · have loaded : load (.ok bytes) = (ofTable table).mapError .fault := by
      simp only [load, ofBytes, decoded, read]
    rcases ofTable_cases table with ⟨entries, other⟩ | ⟨value, present, noTable, fault⟩
    · refine .inl ⟨.inr ⟨table, rfl, entries⟩, ?_⟩
      rcases taken : ofTable table with fault | settings
      · rw [taken] at loaded
        cases fault with
        | notATable value => exact absurd taken (other value)
        | unknownKey | wrongType => exact .inr ⟨_, loaded, fun path => ⟨_, rfl⟩⟩
      · rw [taken] at loaded
        exact .inl ⟨settings, loaded⟩
    · rw [fault] at loaded
      refine .inr ⟨?_, _, loaded, fun path => ⟨_, rfl⟩⟩
      rintro (malformed | ⟨_, same, entries⟩)
      · cases malformed
      · cases same
        rcases entries value present with ⟨inside, isTable⟩
        exact noTable inside isTable

theorem handled_or_unanswered (contents : Except FileError (List UInt8)) :
    Handled contents ∧ Answered contents ∨ ¬ Handled contents ∧ Unanswered contents := by
  rcases contents with e | bytes
  · cases e with
    | notFound => exact .inl ⟨.missing (.inl rfl), .inl ⟨standard, rfl⟩⟩
    | notDirectory => exact .inl ⟨.missing (.inr (.inl rfl)), .inl ⟨standard, rfl⟩⟩
    | zeroCharacter => exact .inl ⟨.missing (.inr (.inr rfl)), .inl ⟨standard, rfl⟩⟩
    | isDirectory | nameTooLong =>
      refine .inr ⟨?_, _, rfl, fun path => ⟨_, rfl⟩⟩
      rintro (⟨other | other | other⟩) <;> cases other
  · rcases decoded : Text.Utf8.decode bytes with e | document
    · refine .inr ⟨?_, .undecodable e, ?_, fun path => ⟨_, rfl⟩⟩
      · rintro (_ | ⟨other, _⟩ | ⟨other, _⟩) <;> cases decoded.symm.trans other
      · simp only [load, ofBytes, decoded]
    · exact handled_or_unanswered_of_decoded decoded

end ContractLang.Settings
