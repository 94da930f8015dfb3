import Mathlib.Data.List.Nodup
import ContractLang.Toml.Reader

namespace ContractLang.Toml

namespace Table

def keys (t : Table) : List String := t.map (·.1)

/-- Notes a key: a new one comes last. -/
def note (keys : List String) (key : String) : List String :=
  if key ∈ keys then keys else keys ++ [key]

theorem nodup_note {keys : List String} (distinct : keys.Nodup) (key : String) :
    (note keys key).Nodup := by
  unfold note
  split
  · exact distinct
  · rename_i new
    exact distinct.append (List.nodup_singleton key) (List.disjoint_singleton.mpr new)

theorem nodup_foldl_note {known : List String} (distinct : known.Nodup) (noted : List String) :
    (noted.foldl note known).Nodup := by
  induction noted generalizing known with
  | nil => exact distinct
  | cons key noted ih => exact ih (nodup_note distinct key)

theorem foldl_note_of_nodup {known keys : List String} (distinct : (known ++ keys).Nodup) :
    keys.foldl note known = known ++ keys := by
  induction keys generalizing known with
  | nil => exact (List.append_nil known).symm
  | cons key keys ih =>
    have new : key ∉ known := by
      intro member
      exact List.disjoint_of_nodup_append distinct member (List.mem_cons_self ..)
    have more : (known ++ [key] ++ keys).Nodup := by simpa using distinct
    rw [List.foldl_cons, note, if_neg new, ih more]
    simp

theorem note_cons {name key : String} (different : name ≠ key) (keys : List String) :
    note (name :: keys) key = name :: note keys key := by
  simp only [note, List.mem_cons, Ne.symm different, false_or]
  split <;> rfl

theorem keys_set (t : Table) (key : String) (value : Value) :
    (t.set key value).keys = note t.keys key := by
  induction t with
  | nil => rfl
  | cons entry rest ih =>
    obtain ⟨name, old⟩ := entry
    simp only [set]
    split
    · rename_i same
      simp [keys, note, same]
    · rename_i different
      exact (congrArg (name :: ·) ih).trans (note_cons different (keys rest)).symm

theorem get?_eq_none_iff (t : Table) (key : String) : t.get? key = none ↔ key ∉ t.keys := by
  induction t with
  | nil => simp [get?, keys]
  | cons entry rest ih =>
    obtain ⟨name, old⟩ := entry
    simp only [get?]
    split
    · rename_i same
      simp [keys, same]
    · rename_i different
      rw [ih]
      simp [keys, Ne.symm different]

theorem get?_eq_some_iff {t : Table} (distinct : t.keys.Nodup) (key : String) (value : Value) :
    t.get? key = some value ↔ (key, value) ∈ t := by
  induction t with
  | nil => simp [get?]
  | cons entry rest ih =>
    obtain ⟨name, old⟩ := entry
    have new : name ∉ keys rest := (List.nodup_cons.mp distinct).1
    simp only [get?]
    split
    · rename_i same
      subst same
      have absent : (name, value) ∉ rest := fun member =>
        new (List.mem_map_of_mem (f := (·.1)) member)
      simp [absent, eq_comm]
    · rename_i different
      rw [ih (List.nodup_cons.mp distinct).2]
      simp [Ne.symm different]

theorem get?_of_perm {t t' : Table} (perm : t.Perm t') (distinct : t.keys.Nodup) (key : String) :
    t.get? key = t'.get? key := by
  have distinct' : t'.keys.Nodup := (perm.map Prod.fst).nodup_iff.mp distinct
  ext value
  rw [get?_eq_some_iff distinct, get?_eq_some_iff distinct', perm.mem_iff]

/-- What a change at a path makes of the first table on it. -/
theorem exists_of_update? {throughArrays : Bool} {change : Table → Option Table} {key : String}
    {path : List String} {t t' : Table}
    (updated : t.update? throughArrays change (key :: path) = some t') :
    (∃ inner inner', (t.get? key = none ∧ inner = [] ∨ t.get? key = some (.table inner)) ∧
      update? throughArrays change path inner = some inner' ∧ t' = t.set key (.table inner')) ∨
    ∃ items items', t.get? key = some (.array items) ∧ t' = t.set key (.array items') := by
  unfold update? at updated
  split at updated
  · rename_i missing
    obtain ⟨inner, changed, same⟩ := Option.bind_eq_some_iff.mp updated
    exact .inl ⟨[], inner, .inl ⟨missing, rfl⟩, changed, (Option.some.inj same).symm⟩
  · rename_i inner found
    obtain ⟨inner', changed, same⟩ := Option.bind_eq_some_iff.mp updated
    exact .inl ⟨inner, inner', .inr found, changed, (Option.some.inj same).symm⟩
  · rename_i items found
    split at updated
    · obtain ⟨inner', changed, same⟩ := Option.bind_eq_some_iff.mp updated
      exact .inr ⟨items, _, found, (Option.some.inj same).symm⟩
    · cases updated
  · cases updated

theorem keys_of_update? {throughArrays : Bool} {change : Table → Option Table} {key : String}
    {path : List String} {t t' : Table}
    (updated : t.update? throughArrays change (key :: path) = some t') :
    t'.keys = note t.keys key := by
  rcases exists_of_update? updated with ⟨_, _, -, -, rfl⟩ | ⟨_, _, -, rfl⟩ <;> exact keys_set _ _ _

theorem add?_eq_some {key : String} {value : Value} {t t' : Table}
    (added : t.add? key value = some t') : t.get? key = none ∧ t' = t.set key value := by
  unfold add? at added
  split at added
  · cases added
  · rename_i missing
    exact ⟨missing, (Option.some.inj added).symm⟩

theorem addItem?_eq_some {key : String} {t t' : Table} (added : t.addItem? key = some t') :
    ∃ items, t' = t.set key (.array items) := by
  unfold addItem? at added
  split at added
  · exact ⟨_, (Option.some.inj added).symm⟩
  · exact ⟨_, (Option.some.inj added).symm⟩
  · cases added

/-- A change that keeps keys apart keeps them apart wherever it is made. -/
theorem nodup_keys_of_update? {throughArrays : Bool} {change : Table → Option Table}
    (changes : ∀ t t', change t = some t' → t.keys.Nodup → t'.keys.Nodup) {path : List String}
    {t t' : Table} (updated : t.update? throughArrays change path = some t')
    (distinct : t.keys.Nodup) : t'.keys.Nodup := by
  cases path with
  | nil => exact changes t t' updated distinct
  | cons key path =>
    rw [keys_of_update? updated]
    exact nodup_note distinct key

end Table

/-- A table in the place of a value has no key twice. -/
def Value.KeysDiffer (value : Value) : Prop :=
  ∀ entries, value = .table entries → (Table.keys entries).Nodup

theorem Value.keysDiffer_of_not_isClosed {value : Value} (plain : value.isClosed = false) :
    value.KeysDiffer := by
  rintro entries rfl
  cases plain

theorem InlineTable.nodup_keys_of_add? {t t' : InlineTable} {key : List String} {value : Value}
    (added : t.add? key value = some t') (distinct : t.table.keys.Nodup) :
    t'.table.keys.Nodup := by
  obtain ⟨last, -, added⟩ := Option.bind_eq_some_iff.mp added
  split at added
  · cases added
  · obtain ⟨table, updated, same⟩ := Option.bind_eq_some_iff.mp added
    cases same
    refine Table.nodup_keys_of_update? ?_ updated distinct
    intro s s' added distinct
    rw [(Table.add?_eq_some added).2, Table.keys_set]
    exact Table.nodup_note distinct last

theorem bind_eq_ok {α β : Type} {r : Except Fault α} {next : α → Except Fault β} {b : β}
    (ran : (r >>= next) = .ok b) : ∃ a, r = .ok a ∧ next a = .ok b := by
  cases r with
  | error fault => cases ran
  | ok a => exact ⟨a, rfl, ran⟩

theorem nodup_keys_of_pairsWithin {limit levels : Nat} {t : InlineTable} {text rest : List Char}
    {table : Table} (distinct : t.table.keys.Nodup)
    (ran : pairsWithin limit levels t text = .ok (table, rest)) : table.keys.Nodup := by
  induction limit generalizing t text with
  | zero => cases ran
  | succ limit ih =>
    rw [pairsWithin] at ran
    obtain ⟨⟨key, afterKey⟩, -, ran⟩ := bind_eq_ok ran
    simp only at ran
    split at ran
    · obtain ⟨⟨value, afterValue⟩, -, ran⟩ := bind_eq_ok ran
      obtain ⟨t', added, ran⟩ := bind_eq_ok ran
      have distinct' := InlineTable.nodup_keys_of_add? ((wellFormed_eq_ok_iff _ _).mp added) distinct
      split at ran
      · cases ran
        exact distinct'
      · exact ih distinct' ran
      · cases ran
    · cases ran

theorem not_isClosed_of_boolean? {text rest : List Char} {value : Value}
    (ran : boolean? text = some (value, rest)) : value.isClosed = false := by
  unfold boolean? at ran
  split at ran <;> cases ran <;> rfl

theorem not_isClosed_of_moment? {text rest : List Char} {value : Value}
    (ran : moment? text = some (value, rest)) : value.isClosed = false := by
  unfold moment? at ran
  rcases dated : dateTime? text with _ | ⟨value', rest'⟩
  · rw [dated] at ran
    obtain ⟨_, -, same⟩ := Option.map_eq_some_iff.mp ran
    cases same
    rfl
  · rw [dated] at ran
    cases ran
    obtain ⟨_, -, dated⟩ := Option.bind_eq_some_iff.mp dated
    simp only at dated
    split at dated
    · cases dated
      rfl
    · split at dated <;> cases dated <;> rfl

theorem not_isClosed_of_based? {text rest : List Char} {value : Value}
    (ran : based? text = some (value, rest)) : value.isClosed = false := by
  have digits (base : Nat) (isDigit : Char → Bool) (text : List Char)
      (ran : inBase? base isDigit text = some (value, rest)) : value.isClosed = false := by
    obtain ⟨_, -, same⟩ := Option.bind_eq_some_iff.mp ran
    cases same
    rfl
  unfold based? at ran
  split at ran
  · exact digits _ _ _ ran
  · exact digits _ _ _ ran
  · exact digits _ _ _ ran
  · cases ran

theorem not_isClosed_of_decimal {d : Decimal} {value : Value} (ran : d.value = .ok value) :
    value.isClosed = false := by
  unfold Decimal.value at ran
  split at ran
  · split at ran <;> cases ran
    rfl
  · cases ran
    rfl

theorem not_isClosed_of_special? {text rest : List Char} {value : Value}
    (ran : special? text = some (value, rest)) : value.isClosed = false := by
  unfold special? at ran
  simp only at ran
  split at ran <;> cases ran <;> rfl

theorem not_isClosed_of_number {text rest : List Char} {value : Value}
    (ran : number text = .ok (value, rest)) : value.isClosed = false := by
  unfold number at ran
  split at ran
  · rename_i based
    cases ran
    exact not_isClosed_of_based? based
  · rename_i d after _ _
    rcases read : d.value with fault | decimal
    · rw [read] at ran
      cases ran
    · rw [read] at ran
      cases ran
      exact not_isClosed_of_decimal read
  · exact not_isClosed_of_special? ((wellFormed_eq_ok_iff _ _).mp ran)

theorem not_isClosed_of_scalar {text rest : List Char} {value : Value}
    (ran : scalar text = .ok (value, rest)) : value.isClosed = false := by
  have quoted (r : Option (String × List Char))
      (ran : wellFormed (r.map fun read => (.string read.1, read.2)) = .ok (value, rest)) :
      value.isClosed = false := by
    obtain ⟨_, -, same⟩ := Option.map_eq_some_iff.mp ((wellFormed_eq_ok_iff _ _).mp ran)
    cases same
    rfl
  unfold scalar at ran
  split at ran
  · exact quoted _ ran
  · exact quoted _ ran
  · split at ran
    · rename_i reading read
      cases ran
      rw [Option.orElse_eq_orElse, Option.orElse_eq_or] at read
      rcases Option.or_eq_some_iff.mp read with read | ⟨-, read⟩
      · exact not_isClosed_of_boolean? read
      · exact not_isClosed_of_moment? read
    · exact not_isClosed_of_number ran

theorem keysDiffer_of_valueWithin {limit levels : Nat} {text rest : List Char} {value : Value}
    (ran : valueWithin limit levels text = .ok (value, rest)) : value.KeysDiffer := by
  cases limit with
  | zero => cases ran
  | succ limit =>
    rw [valueWithin.eq_def] at ran
    simp only at ran
    split at ran
    · split at ran
      · cases ran
      · obtain ⟨_, -, ran⟩ := bind_eq_ok ran
        obtain ⟨_, -, ran⟩ := bind_eq_ok ran
        cases ran
        nofun
    · split at ran
      · cases ran
      · split at ran
        · cases ran
          rintro entries same
          cases same
          exact List.nodup_nil
        · obtain ⟨⟨table, _⟩, pairs, ran⟩ := bind_eq_ok ran
          cases ran
          rintro entries same
          cases same
          exact nodup_keys_of_pairsWithin (t := .empty) List.nodup_nil pairs
    · exact Value.keysDiffer_of_not_isClosed (not_isClosed_of_scalar ran)

end ContractLang.Toml
