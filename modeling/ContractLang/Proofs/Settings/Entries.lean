import ContractLang.Proofs.Settings.RoundTrip

namespace ContractLang

open Toml (Value Table)

namespace Field

/-- What a field may be given: a word is a string, and `debug` is a truth value. -/
inductive Admits : Field → Value → Prop
  | word (field : WordField) (text : String) : Admits (.word field) (.string text)
  | debug (value : Bool) : Admits .debug (.boolean value)

theorem key_inj {field other : Field} (same : field.key = other.key) : field = other := by
  have found := ofKey?_key field
  rw [same, ofKey?_key] at found
  exact (Option.some.inj found).symm

theorem ofKey?_eq_some_iff (key : String) (field : Field) :
    ofKey? key = some field ↔ field.key = key := by
  constructor
  · intro found
    simpa using List.find?_some found
  · rintro rfl
    exact ofKey?_key field

theorem ofKey?_eq_none_iff (key : String) : ofKey? key = none ↔ ∀ field : Field, field.key ≠ key := by
  constructor
  · intro missing field same
    cases missing.symm.trans ((ofKey?_eq_some_iff key field).mpr same)
  · intro missing
    cases found : ofKey? key with
    | none => rfl
    | some field => exact absurd ((ofKey?_eq_some_iff key field).mp found) (missing field)

theorem admits_iff (field : Field) (value : Value) :
    field.Admits value ↔ ∃ assignment, field.assignment? value = some assignment := by
  constructor
  · rintro (⟨field, text⟩ | ⟨value⟩)
    · exact ⟨_, rfl⟩
    · exact ⟨_, rfl⟩
  · rintro ⟨assignment, assigned⟩
    unfold assignment? at assigned
    split at assigned
    · exact .word _ _
    · exact .debug _
    · cases assigned

theorem value_assign {field : Field} {value : Value} {assignment : Assignment}
    (assigned : field.assignment? value = some assignment) (settings : Settings) (other : Field) :
    other.value (settings.assign assignment)
      = if other = field then value else other.value settings := by
  unfold assignment? at assigned
  split at assigned
  · rename_i field text
    cases assigned
    cases other with
    | word other =>
      simp only [Field.value, Settings.word_assign_word, Field.word.injEq]
      split <;> rfl
    | debug => simp [Field.value, Settings.debug_assign_word]
  · cases assigned
    cases other with
    | word other => simp [Field.value, Settings.word_assign_debug]
    | debug => rfl
  · cases assigned

end Field

namespace Settings

theorem eq_of_values {settings other : Settings}
    (same : ∀ field : Field, field.value settings = field.value other) : settings = other := by
  have words (field : WordField) : settings.word field = other.word field :=
    Value.string.inj (same (.word field))
  have debug : settings.debug = other.debug := Value.boolean.inj (same .debug)
  rcases settings with ⟨_, _, _, _, _⟩
  rcases other with ⟨_, _, _, _, _⟩
  cases words .contractKeyword
  cases words .aliasKeyword
  cases words .requiredMarker
  cases words .defaultMarker
  cases debug
  rfl

/-- An entry gives a field something that the field admits. -/
def Fits (entry : String × Value) : Prop :=
  ∃ field : Field, field.key = entry.1 ∧ field.Admits entry.2

/-- Settings that have what entries give, and are as before in all other fields. -/
def Updated (before : Settings) (entries : Table) (settings : Settings) : Prop :=
  ∀ field : Field, field.value settings = (entries.get? field.key).getD (field.value before)

theorem exists_assignEntries {entries : Table} (fit : ∀ entry ∈ entries, Fits entry)
    (distinct : entries.keys.Nodup) (before : Settings) :
    ∃ settings, before.assignEntries entries = .ok settings ∧ Updated before entries settings := by
  induction entries generalizing before with
  | nil => exact ⟨before, rfl, fun field => rfl⟩
  | cons entry rest ih =>
    obtain ⟨key, value⟩ := entry
    obtain ⟨field, rfl, admits⟩ := fit (key, value) (by simp)
    obtain ⟨assignment, assigned⟩ := (field.admits_iff value).mp admits
    have new : Table.get? rest field.key = none :=
      (Table.get?_eq_none_iff rest field.key).mpr (List.nodup_cons.mp distinct).1
    obtain ⟨settings, taken, updated⟩ := ih (fun entry member => fit entry (List.mem_cons_of_mem _ member))
      (List.nodup_cons.mp distinct).2 (before.assign assignment)
    refine ⟨settings, (assignEntries_cons assigned rest).trans taken, fun other => ?_⟩
    rw [updated other, Field.value_assign assigned, Table.get?]
    by_cases same : field.key = other.key
    · cases Field.key_inj same
      rw [if_pos rfl, if_pos rfl, new]
      rfl
    · rw [if_neg same, if_neg fun equal => same (congrArg Field.key equal.symm)]

/-- What is wrong with an entry that does not fit. -/
def offence (key : String) (value : Value) : SettingsFault :=
  match Field.ofKey? key with
  | none => .unknownKey key
  | some field => .wrongType field value

/-- Whatever follows the first entry that does not fit, that entry is the fault. -/
theorem assignEntries_of_offence {good rest : Table} {key : String} {value : Value}
    (fit : ∀ entry ∈ good, Fits entry) (bad : ¬ Fits (key, value)) (before : Settings) :
    before.assignEntries (good ++ (key, value) :: rest) = .error (offence key value) := by
  induction good generalizing before with
  | nil =>
    rcases found : Field.ofKey? key with _ | field
    · simp only [List.nil_append, assignEntries, offence, found]
    · rcases assigned : field.assignment? value with _ | assignment
      · simp only [List.nil_append, assignEntries, offence, found, assigned]
      · exact absurd ⟨field, (Field.ofKey?_eq_some_iff key field).mp found,
          (field.admits_iff value).mpr ⟨assignment, assigned⟩⟩ bad
  | cons entry good ih =>
    obtain ⟨name, given⟩ := entry
    obtain ⟨field, rfl, admits⟩ := fit (name, given) (by simp)
    obtain ⟨assignment, assigned⟩ := (field.admits_iff given).mp admits
    rw [List.cons_append, assignEntries_cons assigned]
    exact ih (fun entry member => fit entry (List.mem_cons_of_mem _ member)) _

theorem fit_or_exists_offence (entries : Table) :
    (∀ entry ∈ entries, Fits entry) ∨ ∃ good key value rest,
      entries = good ++ (key, value) :: rest ∧ (∀ entry ∈ good, Fits entry) ∧ ¬ Fits (key, value) := by
  induction entries with
  | nil => exact .inl nofun
  | cons entry rest ih =>
    by_cases fits : Fits entry
    · rcases ih with fit | ⟨good, key, value, later, rfl, fit, bad⟩
      · exact .inl (List.forall_mem_cons.mpr ⟨fits, fit⟩)
      · exact .inr ⟨entry :: good, key, value, later, rfl, List.forall_mem_cons.mpr ⟨fits, fit⟩, bad⟩
    · exact .inr ⟨[], entry.1, entry.2, rest, rfl, nofun, fits⟩

end Settings
end ContractLang
