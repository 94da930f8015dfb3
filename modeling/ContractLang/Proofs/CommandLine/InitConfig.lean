import ContractLang.CommandLine.Run
import ContractLang.Proofs.Settings.RoundTrip
import ContractLang.Proofs.Store.Beside

namespace ContractLang.CommandLine

/-- What may be written over. -/
def isReplaceable (force : Bool) : Option Item → Bool
  | none => true
  | some (.file _) => force
  | some .directory => false

theorem item?_ne_directory_of_isReplaceable {force : Bool} {item? : Option Item}
    (h : isReplaceable force item? = true) : item? ≠ some .directory := by
  rintro rfl
  cases h

theorem item?_eq_none_of_isReplaceable {item? : Option Item}
    (h : isReplaceable false item? = true) : item? = none := by
  cases item? with
  | none => rfl
  | some item => cases item <;> cases h

section

variable {env? : Option String} {store : Store} {arguments : List String}

theorem Report.death_ending_ne (failure : Failure) : (death failure).ending ≠ .exit 0 := by
  intro ended
  cases ended

theorem Report.refusal_ending_ne (err : List String) : (refusal err).ending ≠ .exit 0 := by
  intro ended
  cases ended

theorem perform_finish_ne {report : Report} (h : report.ending ≠ .exit 0) :
    ((Plan.finish report).perform store).1.ending ≠ .exit 0
      ∧ ((Plan.finish report).perform store).2 = store :=
  ⟨h, rfl⟩

theorem perform_write_of_error {e : FileError} {path : Path} (bytes : List UInt8) (out : String)
    (h : store.write path bytes = .error e) :
    ((Plan.write path bytes out).perform store).1.ending ≠ .exit 0
      ∧ ((Plan.write path bytes out).perform store).2 = store := by
  simp only [Plan.perform, h, and_true]
  exact Report.death_ending_ne _

theorem perform_write_of_locate {l : Location} {path : Path} (bytes : List UInt8) (out : String)
    (hlocate : store.locate path = .ok l) (hitem : store.item? l ≠ some .directory) :
    (Plan.write path bytes out).perform store
      = (.success out "", store.put l (.file bytes)) := by
  simp only [Plan.perform, Store.write_of_locate bytes hlocate hitem]

variable {path? : Option String} {force : Bool} {l : Location}

theorem perform_initConfig_of_error {e : FileError}
    (located : store.locate (configPath env? path?) = .error e) :
    ((initConfig env? store.read path? force).perform store).1.ending ≠ .exit 0
      ∧ ((initConfig env? store.read path? force).perform store).2 = store := by
  have read : store.read (configPath env? path?) = .error e := by simp only [Store.read, located]
  have write (bytes : List UInt8) : store.write (configPath env? path?) bytes = .error e := by
    simp only [Store.write, located]
  simp only [initConfig, exists?, read]
  cases e with
  | notFound => exact perform_write_of_error _ _ (write _)
  | notDirectory => exact perform_write_of_error _ _ (write _)
  | zeroCharacter => exact perform_write_of_error _ _ (write _)
  | nameTooLong => exact perform_finish_ne (Report.death_ending_ne _)
  | isDirectory =>
    cases force with
    | false => exact perform_finish_ne (Report.refusal_ending_ne _)
    | true => exact perform_write_of_error _ _ (write _)

theorem perform_initConfig_of_not_isReplaceable
    (located : store.locate (configPath env? path?) = .ok l)
    (taken : isReplaceable force (store.item? l) = false) :
    ((initConfig env? store.read path? force).perform store).1.ending ≠ .exit 0
      ∧ ((initConfig env? store.read path? force).perform store).2 = store := by
  rcases item : store.item? l with _ | known
  · rw [item] at taken
    cases taken
  · cases known with
    | file bytes =>
      have read := Store.read_of_file located item
      rw [item] at taken
      cases (taken : force = false)
      simp only [initConfig, exists?, read]
      exact perform_finish_ne (Report.refusal_ending_ne _)
    | directory =>
      have read : store.read (configPath env? path?) = .error .isDirectory := by
        simp only [Store.read, located, item]
      have write (bytes : List UInt8) :
          store.write (configPath env? path?) bytes = .error .isDirectory := by
        simp only [Store.write, located, item]
      simp only [initConfig, exists?, read]
      cases force with
      | false => exact perform_finish_ne (Report.refusal_ending_ne _)
      | true => exact perform_write_of_error _ _ (write _)

theorem perform_initConfig_of_isReplaceable
    (located : store.locate (configPath env? path?) = .ok l)
    (free : isReplaceable force (store.item? l) = true) :
    (initConfig env? store.read path? force).perform store
      = (.success (lines ["Wrote " ++ (configPath env? path?).text]) "",
          store.put l (.file Settings.standard.toBytes)) := by
  have written := perform_write_of_locate Settings.standard.toBytes
    (lines ["Wrote " ++ (configPath env? path?).text]) located
    (item?_ne_directory_of_isReplaceable free)
  rcases item : store.item? l with _ | known
  · have read := Store.read_of_missing located item
    simp only [initConfig, exists?, read]
    exact written
  · cases known with
    | file bytes =>
      have read := Store.read_of_file located item
      rw [item] at free
      cases (free : force = true)
      simp only [initConfig, exists?, read]
      exact written
    | directory => exact absurd item (item?_ne_directory_of_isReplaceable free)

/-- The standard settings are written to a place that may be written over, or nothing is changed
    and the run fails. -/
theorem run_initConfig (env? : Option String) (store : Store)
    (h : Invocation.read arguments = .ok (.initConfig path? force)) :
    (∃ l, store.locate (configPath env? path?) = .ok l
      ∧ isReplaceable force (store.item? l) = true
      ∧ run env? store arguments = (.success (lines ["Wrote " ++ (configPath env? path?).text]) "",
          store.put l (.file Settings.standard.toBytes)))
    ∨ (∀ l, store.locate (configPath env? path?) = .ok l
        → isReplaceable force (store.item? l) = false)
      ∧ (run env? store arguments).1.ending ≠ .exit 0 ∧ (run env? store arguments).2 = store := by
  have planned : run env? store arguments
      = (initConfig env? store.read path? force).perform store := by
    simp only [run, plan, h, Invocation.plan]
  rw [planned]
  rcases located : store.locate (configPath env? path?) with e | l
  · right
    refine ⟨fun l found => ?_, perform_initConfig_of_error located⟩
    cases found
  · rcases free : isReplaceable force (store.item? l) with _ | _
    · right
      refine ⟨fun l' found => ?_, perform_initConfig_of_not_isReplaceable located free⟩
      cases found
      exact free
    · exact .inl ⟨l, rfl, free, perform_initConfig_of_isReplaceable located free⟩

theorem run_store_of_not_initConfig
    (h : ∀ path? force, Invocation.read arguments ≠ .ok (.initConfig path? force)) :
    (run env? store arguments).2 = store := by
  rw [run, plan]
  cases read : Invocation.read arguments with
  | error stop => rfl
  | ok invocation =>
    cases invocation with
    | initConfig path? force => exact absurd read (h path? force)
    | parse => rfl
    | tokens => rfl
    | rules => rfl

/-- A run leaves the files as they are, or writes the standard settings to one place. -/
theorem run_store (env? : Option String) (store : Store) (arguments : List String) :
    (run env? store arguments).2 = store
      ∨ ∃ path? force l, Invocation.read arguments = .ok (.initConfig path? force)
        ∧ store.locate (configPath env? path?) = .ok l
        ∧ isReplaceable force (store.item? l) = true
        ∧ (run env? store arguments).2 = store.put l (.file Settings.standard.toBytes) := by
  by_cases inits : ∃ path? force, Invocation.read arguments = .ok (.initConfig path? force)
  · rcases inits with ⟨path?, force, read⟩
    rcases run_initConfig env? store read with
      ⟨l, located, replaceable, ran⟩ | ⟨_, _, unchanged⟩
    · exact .inr ⟨path?, force, l, read, located, replaceable, by rw [ran]⟩
    · exact .inl unchanged
  · exact .inl (run_store_of_not_initConfig fun path? force read => inits ⟨path?, force, read⟩)

theorem keepsDirectories_run (env? : Option String) (store : Store) (arguments : List String) :
    store.KeepsDirectories (run env? store arguments).2 := by
  rcases run_store env? store arguments with same | ⟨_, _, l, _, located, replaceable, written⟩
  · rw [same]
    exact .refl store
  · rw [written]
    exact Store.keepsDirectories_put _ (Store.directoriesAbove_of_locate located)
      (item?_ne_directory_of_isReplaceable replaceable)

theorem extends_run (env? : Option String) (store : Store)
    (unforced : ∀ path?, Invocation.read arguments ≠ .ok (.initConfig path? true)) :
    store.Extends (run env? store arguments).2 := by
  rcases run_store env? store arguments with
    same | ⟨path?, force, l, read, located, replaceable, written⟩
  · rw [same]
    exact .refl store
  · cases force with
    | true => exact absurd read (unforced path?)
    | false =>
      rw [written]
      exact Store.extends_put _ (Store.directoriesAbove_of_locate located)
        (item?_eq_none_of_isReplaceable replaceable)

end
end ContractLang.CommandLine
