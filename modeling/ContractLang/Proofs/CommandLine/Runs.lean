import ContractLang.Proofs.CommandLine.InitConfig
import ContractLang.Proofs.Settings.Saved

namespace ContractLang.CommandLine

theorem exists_item_of_exists? {store : Store} {path : Path}
    (h : exists? store.read path = .ok true) :
    ∃ l item, store.locate path = .ok l ∧ store.item? l = some item := by
  rcases located : store.locate path with e | l
  · have read : store.read path = .error e := by simp only [Store.read, located]
    simp only [exists?, read] at h
    cases e with
    | isDirectory =>
      rcases Store.locate_eq_error located with ⟨other, _⟩ | ⟨_, other | other | other⟩ <;>
        cases other
    | notFound | notDirectory | nameTooLong | zeroCharacter => cases h
  · rcases item : store.item? l with _ | known
    · simp only [exists?, Store.read_of_missing located item] at h
      cases h
    · exact ⟨l, known, rfl, item⟩

theorem item?_eq_none_of_exists? {store : Store} {path : Path} {l : Location}
    (h : exists? store.read path = .ok false) (located : store.locate path = .ok l) :
    store.item? l = none := by
  rcases item : store.item? l with _ | known
  · rfl
  · cases known with
    | file bytes =>
      simp only [exists?, Store.read_of_file located item] at h
      cases h
    | directory =>
      simp only [exists?, Store.read, located, item] at h
      cases h

/-- The files after several runs, each on what the runs before have left. -/
def storeAfter (env? : Option String) (store : Store) (runs : List (List String)) : Store :=
  runs.foldl (fun store arguments => (run env? store arguments).2) store

theorem runAll_append_singleton (env? : Option String) (store : Store) (runs : List (List String))
    (arguments : List String) :
    runAll env? store (runs ++ [arguments])
      = runAll env? store runs ++ [run env? (storeAfter env? store runs) arguments] := by
  induction runs generalizing store with
  | nil => rfl
  | cons first rest ih => exact congrArg (run env? store first :: ·) (ih (run env? store first).2)

theorem keepsDirectories_storeAfter (env? : Option String) (store : Store)
    (runs : List (List String)) : store.KeepsDirectories (storeAfter env? store runs) := by
  induction runs generalizing store with
  | nil => exact .refl store
  | cons arguments rest ih => exact (keepsDirectories_run env? store arguments).trans (ih _)

theorem extends_storeAfter (env? : Option String) (store : Store) {runs : List (List String)}
    (unforced : ∀ arguments ∈ runs, ∀ path?,
      Invocation.read arguments ≠ .ok (.initConfig path? true)) :
    store.Extends (storeAfter env? store runs) := by
  induction runs generalizing store with
  | nil => exact .refl store
  | cons arguments rest ih =>
    have first := extends_run env? store (unforced arguments (List.mem_cons_self ..))
    exact first.trans (ih _ fun other member => unforced other (List.mem_cons_of_mem _ member))

section

variable {env? : Option String} {l : Location} {s t : Store}

/-- Both runs write to the one place, or only one of them does and then at `l`. -/
theorem beside_run_of_initConfig (env? : Option String)
    (beside : Store.Beside l Settings.standard.toBytes s t) {arguments : List String}
    {path? : Option String} {force : Bool}
    (read : Invocation.read arguments = .ok (.initConfig path? force)) :
    Store.Beside l Settings.standard.toBytes (run env? s arguments).2 (run env? t arguments).2 := by
  rcases run_initConfig env? s read with
    ⟨left, located, replaceable, ran⟩ | ⟨kept, _, ran⟩
  · have above := Store.directoriesAbove_of_locate located
    have located' := beside.locate_right located
    rcases run_initConfig env? t read with ⟨right, same, _, ran'⟩ | ⟨kept', _, ran'⟩
    · cases located'.symm.trans same
      rw [ran, ran']
      exact beside.put_both above (Store.directoriesAbove_of_locate same)
    · have here : left = l := beside.eq_of_item?_ne fun same => by
        rw [same, kept' left located'] at replaceable
        cases replaceable
      subst here
      rw [ran, ran']
      exact beside.put_left above
  · rcases run_initConfig env? t read with ⟨right, located, replaceable, ran'⟩ | ⟨_, _, ran'⟩
    · have here : right = l := beside.eq_of_item?_ne fun same => by
        rw [← same, kept right (beside.locate_left located)] at replaceable
        cases replaceable
      subst here
      rw [ran, ran']
      exact beside.put_right (Store.directoriesAbove_of_locate located)
    · rw [ran, ran']
      exact beside

theorem beside_run (env? : Option String)
    (beside : Store.Beside l Settings.standard.toBytes s t) (arguments : List String) :
    Store.Beside l Settings.standard.toBytes (run env? s arguments).2 (run env? t arguments).2 := by
  by_cases inits : ∃ path? force, Invocation.read arguments = .ok (.initConfig path? force)
  · rcases inits with ⟨path?, force, read⟩
    exact beside_run_of_initConfig env? beside read
  · have other path? force : Invocation.read arguments ≠ .ok (.initConfig path? force) :=
      fun read => inits ⟨path?, force, read⟩
    rw [run_store_of_not_initConfig other, run_store_of_not_initConfig other]
    exact beside

theorem beside_storeAfter (env? : Option String)
    (beside : Store.Beside l Settings.standard.toBytes s t) (runs : List (List String)) :
    Store.Beside l Settings.standard.toBytes (storeAfter env? s runs) (storeAfter env? t runs) := by
  induction runs generalizing s t with
  | nil => exact beside
  | cons arguments rest ih => exact ih (beside_run env? beside arguments)

/-- The source that a run reads, if it reads one, is there. -/
def Invocation.ReadsFrom (store : Store) : Invocation → Prop
  | .parse file _ _ | .tokens file => exists? store.read (.ofString file) = .ok true
  | .rules => True
  | .initConfig _ _ => False

theorem report_eq_of_beside (beside : Store.Beside l Settings.standard.toBytes s t)
    {before : Store} (kept : before.KeepsDirectories t) (absent : before.item? l = none)
    {arguments : List String} (reads : ∀ invocation,
      Invocation.read arguments = .ok invocation → invocation.ReadsFrom before) :
    (run env? s arguments).1 = (run env? t arguments).1 := by
  have sameSource {file : String} (there : exists? before.read (.ofString file) = .ok true) :
      s.read (.ofString file) = t.read (.ofString file) := by
    rcases exists_item_of_exists? there with ⟨found, known, located, item⟩
    refine beside.read_of_locate_ne (Store.locate_of_keepsDirectories kept located) ?_
    rintro rfl
    cases item.symm.trans absent
  rcases read : Invocation.read arguments with stop | invocation
  · simp only [run, plan, read, Plan.perform]
  · have reads := reads invocation read
    simp only [run, plan, read]
    cases invocation with
    | parse file debug config? =>
      have sameSettings := Settings.load_of_beside beside (configPath env? config?)
      simp only [Invocation.plan, Plan.perform, parse, sameSettings, sameSource reads]
    | tokens file => simp only [Invocation.plan, Plan.perform, tokens, sameSource reads]
    | rules => rfl
    | initConfig path? force => cases reads

/-- The standard settings are in the place of a path, and everything else is as before. -/
def Installs (path : Path) (before after : Store) : Prop :=
  ∃ l, before.locate path = .ok l ∧ after.item? l = some (.file Settings.standard.toBytes)
    ∧ (∀ other, other ≠ l → after.item? other = before.item? other)
    ∧ Settings.load (after.read path) = .ok .standard

theorem installs_put {store : Store} {path : Path} (located : store.locate path = .ok l)
    (free : store.item? l ≠ some .directory) :
    Installs path store (store.put l (.file Settings.standard.toBytes)) := by
  have written := Store.write_of_locate Settings.standard.toBytes located free
  refine ⟨l, located, Store.item?_put_self store l _, fun other different => ?_, ?_⟩
  · exact Store.item?_put_of_ne _ (Store.directoriesAbove_of_locate located) different
  · rw [Store.read_of_write written, Settings.load, Settings.ofBytes_toBytes]

/-- Of all runs only `init-config` changes files, one at a time and, unforced, none that is there.
    What it writes changes nothing in later runs on files that were there before it. -/
theorem runs_keep_files (env? : Option String) :
    (∀ store arguments,
      (∀ path? force, Invocation.read arguments ≠ .ok (.initConfig path? force)) →
      (run env? store arguments).2 = store)
    ∧ (∀ store runs,
      (∀ arguments ∈ runs, ∀ path?, Invocation.read arguments ≠ .ok (.initConfig path? true)) →
      ∀ path bytes, store.read path = .ok bytes →
        (storeAfter env? store runs).read path = .ok bytes)
    ∧ (∀ store arguments path? force,
      Invocation.read arguments = .ok (.initConfig path? force) →
      ((run env? store arguments).1.ending = .exit 0 →
        Installs (configPath env? path?) store (run env? store arguments).2)
      ∧ ((run env? store arguments).1.ending ≠ .exit 0 → (run env? store arguments).2 = store))
    ∧ (∀ store arguments force between later,
      Invocation.read arguments = .ok (.initConfig none force) →
      exists? store.read (defaultConfigPath env?) = .ok false →
      (run env? store arguments).1.ending = .exit 0 →
      (∀ invocation, Invocation.read later = .ok invocation → invocation.ReadsFrom store) →
      (run env? (storeAfter env? (run env? store arguments).2 between) later).1
        = (run env? (storeAfter env? store between) later).1) := by
  refine ⟨fun store arguments => run_store_of_not_initConfig, ?_, ?_, ?_⟩
  · intro store runs unforced path bytes read
    exact Store.read_of_extends (extends_storeAfter env? store unforced) read
  · intro store arguments path? force read
    rcases run_initConfig env? store read with
      ⟨l, located, replaceable, ran⟩ | ⟨_, failed, unchanged⟩
    · rw [ran]
      have free := item?_ne_directory_of_isReplaceable replaceable
      exact ⟨fun _ => installs_put located free, fun failed => absurd rfl failed⟩
    · exact ⟨fun succeeded => absurd succeeded failed, fun _ => unchanged⟩
  · intro store arguments force between later read missing succeeded reads
    rcases run_initConfig env? store read with
      ⟨l, located, _, ran⟩ | ⟨_, failed, _⟩
    · rw [ran]
      have absent := item?_eq_none_of_exists? missing located
      have above := Store.directoriesAbove_of_locate located
      have beside := beside_storeAfter env? (.of_put _ above absent) between
      exact report_eq_of_beside beside (keepsDirectories_storeAfter env? store between) absent reads
    · exact absurd succeeded failed

theorem runs_keep_files_of_one :
    let store : Store := ⟨[(⟨.here, ["a.contract"]⟩, .file [0x41])]⟩
    let written := (run none store ["init-config"]).2
    (run none store ["rules"]).2 = store
      ∧ (storeAfter none store [["init-config"], ["init-config", "a.contract"]]).read
          (.ofString "a.contract") = .ok [0x41]
      ∧ Installs (.ofString "contractgen.toml") store written
      ∧ (run none written ["init-config"]).2 = written
      ∧ (run none (storeAfter none written [["init-config", "b.toml"]]) ["parse", "a.contract"]).1
          = (run none (storeAfter none store [["init-config", "b.toml"]])
              ["parse", "a.contract"]).1 := by
  intro store written
  rcases runs_keep_files none with ⟨others, unforced, writes, unseen⟩
  have plain : Invocation.read ["init-config"] = .ok (.initConfig none false) := rfl
  refine ⟨others store ["rules"] ?_, ?_, (writes store _ _ _ plain).1 rfl,
    (writes written _ _ _ plain).2 nofun, ?_⟩
  · rw [show Invocation.read ["rules"] = .ok .rules from rfl]
    nofun
  · refine unforced store _ (fun arguments member path? => ?_) _ _ rfl
    simp only [List.mem_cons, List.not_mem_nil, or_false] at member
    rcases member with rfl | rfl
    · rw [plain]
      nofun
    · rw [show Invocation.read ["init-config", "a.contract"]
        = .ok (.initConfig (some "a.contract") false) from rfl]
      nofun
  · refine unseen store _ _ _ _ plain rfl rfl fun invocation read => ?_
    cases (show Invocation.read ["parse", "a.contract"]
      = .ok (.parse "a.contract" false none) from rfl).symm.trans read
    rfl

/-- A request for help ends well and writes nothing. -/
theorem help_of_initConfig_installs_nothing :
    (run none .empty ["init-config", "-h"]).1.ending = .exit 0
      ∧ ∀ path, ¬ Installs path .empty (run none .empty ["init-config", "-h"]).2 := by
  refine ⟨rfl, ?_⟩
  rintro path ⟨l, _, item, _⟩
  have empty : (run none .empty ["init-config", "-h"]).2 = .empty := rfl
  rw [empty, Store.item?] at item
  split at item
  · rename_i found
    cases found
  · split at item
    · cases item
    · cases item

end
end ContractLang.CommandLine
