import ContractLang.CommandLine.Run
import ContractLang.Proofs.CommandLine.Arguments
import ContractLang.Proofs.Settings.Handled
import ContractLang.Proofs.Store.Write

namespace ContractLang.CommandLine

theorem lines_append (first second : List String) :
    lines (first ++ second) = lines first ++ lines second := by
  rw [lines, List.map_append, String.join_append]
  rfl

theorem lines_cons (text : String) (texts : List String) :
    lines (text :: texts) = text ++ "\n" ++ lines texts := by
  rw [lines, List.map_cons, String.join_cons]
  rfl

/-- One of the lines starts like a complaint. -/
def HasErrorLine (err : String) : Prop :=
  ∃ before after, err = lines before ++ "error: " ++ after

theorem hasErrorLine_lines (before : List String) (message : String) (after : List String) :
    HasErrorLine (lines (before ++ ("error: " ++ message) :: after)) := by
  refine ⟨before, message ++ "\n" ++ lines after, ?_⟩
  rw [lines_append, lines_cons]
  simp only [String.append_assoc]

/-- How a run of `parse` may end: with a word on its arguments, with the tree of the source, or
    with a complaint and nothing else. -/
inductive FailFast (env? : Option String) (store : Store) (arguments : List String) : Report → Prop
  | usage {stop : Stop} (read : Invocation.read arguments = .error stop) :
      FailFast env? store arguments stop.report
  | tree {file : String} {debug : Bool} {config? : Option String} {settings : Settings}
      {source : List Char} {next : Cursor}
      (read : Invocation.read arguments = .ok (.parse file debug config?))
      (loaded : Settings.load (store.read (configPath env? config?)) = .ok settings)
      (decoded : sourceText (store.read (.ofString file)) = .ok source)
      (parsed : (readSource { settings with debug := debug || settings.debug } source).outcome
        = .ok next) (err : String) :
      FailFast env? store arguments ⟨.exit 0, lines [(Node.ofContracts
        (readSource { settings with debug := debug || settings.debug } source).built).dump.lines],
        err⟩
  | refusal {err : String} (line : HasErrorLine err) :
      FailFast env? store arguments ⟨.exit 1, "", err⟩

theorem FailFast.ending_ne {env? : Option String} {store : Store} {arguments : List String}
    {report : Report} (h : FailFast env? store arguments report) (failure : Failure) :
    report.ending ≠ .died failure := by
  cases h with
  | @usage stop => cases stop <;> nofun
  | tree => nofun
  | refusal => nofun

section

variable {env? : Option String} {store : Store} {arguments : List String} {file : String}
  {debug : Bool} {config? : Option String}

theorem sourceText_eq_zeroCharacter_iff (store : Store) (path : Path) :
    sourceText (store.read path) = .error (.unreadable .zeroCharacter)
      ↔ '\x00' ∈ path.text.toList := by
  rw [← store.read_eq_zeroCharacter_iff]
  rcases store.read path with e | bytes
  · simp [sourceText]
  · simp only [sourceText]
    split <;> simp

theorem sourceFailure_zeroCharacter (path : Path) :
    sourceFailure path (.unreadable .zeroCharacter)
      = .death (.file .zeroCharacter path) := rfl

theorem exists_sourceFailure_eq (path : Path) {e : SourceError}
    (other : e ≠ .unreadable .zeroCharacter) :
    ∃ complaint, sourceFailure path e = .refusal ["error: " ++ complaint] := by
  have refused (verb : String) :
      Report.refusal ["error: cannot " ++ verb ++ " " ++ path.text ++ ": " ++ e.reason]
        = .refusal ["error: " ++ ("cannot " ++ verb ++ " " ++ path.text ++ ": " ++ e.reason)] := by
    have start : "error: cannot " = "error: " ++ "cannot " := rfl
    simp only [start, String.append_assoc]
  cases e with
  | unreadable e =>
    cases e with
    | zeroCharacter => exact absurd rfl other
    | notFound | notDirectory | isDirectory | nameTooLong => exact ⟨_, refused "read"⟩
  | undecodable e => exact ⟨_, refused "decode"⟩

theorem hasErrorLine_refusal (complaint : String) : HasErrorLine (lines ["error: " ++ complaint]) :=
  hasErrorLine_lines [] complaint []

variable (read : Invocation.read arguments = .ok (.parse file debug config?))
include read

theorem run_of_parse :
    (run env? store arguments).1 = parse env? store.read file debug config? := by
  simp only [run, plan, read, Invocation.plan, Plan.perform]

theorem failFast_of_source {settings : Settings} {source : List Char}
    (loaded : Settings.load (store.read (configPath env? config?)) = .ok settings)
    (decoded : sourceText (store.read (.ofString file)) = .ok source) :
    FailFast env? store arguments
      (parseReport { settings with debug := debug || settings.debug } source) := by
  rw [parseReport]
  split
  · rename_i next parsed
    exact .tree read loaded decoded parsed _
  · rename_i e _
    exact .refusal (hasErrorLine_lines _ e.text _)

theorem run_refuses {e : LoadError} {complaint : String}
    (loaded : Settings.load (store.read (configPath env? config?)) = .error e)
    (answered : e.complaint (configPath env? config?) = .ok complaint) :
    (run env? store arguments).1 = .refusal ["error: " ++ complaint] := by
  rw [run_of_parse read, parse]
  simp only [loaded, loadFailure, answered]

theorem run_dies {e : LoadError} {failure : Failure}
    (loaded : Settings.load (store.read (configPath env? config?)) = .error e)
    (unanswered : e.complaint (configPath env? config?) = .error failure) :
    (run env? store arguments).1 = .death failure := by
  rw [run_of_parse read, parse]
  simp only [loaded, loadFailure, unanswered]

theorem failFast_of_loaded {settings : Settings}
    (loaded : Settings.load (store.read (configPath env? config?)) = .ok settings)
    (noZero : '\x00' ∉ (Path.ofString file).text.toList) :
    FailFast env? store arguments (run env? store arguments).1 := by
  rw [run_of_parse read, parse]
  simp only [loaded]
  rcases decoded : sourceText (store.read (.ofString file)) with e | source
  · have other : e ≠ .unreadable .zeroCharacter := by
      rintro rfl
      exact noZero ((sourceText_eq_zeroCharacter_iff store _).mp decoded)
    rcases exists_sourceFailure_eq (.ofString file) other with ⟨complaint, refused⟩
    simp only [refused]
    exact .refusal (hasErrorLine_refusal complaint)
  · exact failFast_of_source read loaded decoded

/-- A run that reads its files to the end, or finds a mistake in them. -/
theorem failFast_of_handled
    (handled : Settings.Handled (store.read (configPath env? config?)))
    (noZero : ∀ settings, Settings.load (store.read (configPath env? config?)) = .ok settings →
      '\x00' ∉ (Path.ofString file).text.toList) :
    FailFast env? store arguments (run env? store arguments).1 := by
  rcases Settings.handled_or_unanswered (store.read (configPath env? config?)) with
    ⟨_, ⟨settings, loaded⟩ | ⟨e, loaded, complains⟩⟩ | ⟨unhandled, _⟩
  · exact failFast_of_loaded read loaded (noZero settings loaded)
  · rcases complains (configPath env? config?) with ⟨complaint, answered⟩
    rw [run_refuses read loaded answered]
    exact .refusal (hasErrorLine_refusal complaint)
  · exact absurd handled unhandled

theorem run_dies_of_not_handled
    (unhandled : ¬ Settings.Handled (store.read (configPath env? config?))) :
    ∃ failure, (run env? store arguments).1 = .death failure := by
  rcases Settings.handled_or_unanswered (store.read (configPath env? config?)) with
    ⟨handled, _⟩ | ⟨_, e, loaded, fails⟩
  · exact absurd handled unhandled
  · rcases fails (configPath env? config?) with ⟨failure, unanswered⟩
    exact ⟨failure, run_dies read loaded unanswered⟩

theorem run_dies_of_zeroCharacter {settings : Settings}
    (loaded : Settings.load (store.read (configPath env? config?)) = .ok settings)
    (zero : '\x00' ∈ (Path.ofString file).text.toList) :
    ∃ failure, (run env? store arguments).1 = .death failure := by
  have undecoded := (sourceText_eq_zeroCharacter_iff store (.ofString file)).mpr zero
  rw [run_of_parse read, parse]
  simp only [loaded, undecoded, sourceFailure_zeroCharacter]
  exact ⟨_, rfl⟩

omit read

/-- `parse` ends with a word to its user unless its settings are no file, no text, no table or
    beyond the limits of numbers and nesting, or its source has a path that cannot be. Settings with
    a mistake are refused. -/
theorem parse_failFast_iff (env? : Option String) (store : Store) (rest : List String) :
    (FailFast env? store ("parse" :: rest) (run env? store ("parse" :: rest)).1
      ↔ ∀ file debug config?,
        Invocation.read ("parse" :: rest) = .ok (.parse file debug config?) →
        Settings.Handled (store.read (configPath env? config?))
        ∧ ∀ settings, Settings.load (store.read (configPath env? config?)) = .ok settings →
          '\x00' ∉ (Path.ofString file).text.toList)
    ∧ ∀ file debug config? e,
      Invocation.read ("parse" :: rest) = .ok (.parse file debug config?) →
      Settings.Handled (store.read (configPath env? config?)) →
      Settings.load (store.read (configPath env? config?)) = .error e →
      ∃ complaint, e.complaint (configPath env? config?) = .ok complaint
        ∧ (run env? store ("parse" :: rest)).1 = .refusal ["error: " ++ complaint] := by
  refine ⟨⟨fun failFast file debug config? read => ?_, fun sound => ?_⟩, ?_⟩
  · have alive (died : ∃ failure, (run env? store ("parse" :: rest)).1 = .death failure) :
        False := by
      rcases died with ⟨failure, died⟩
      rw [died] at failFast
      exact failFast.ending_ne failure rfl
    refine ⟨Classical.byContradiction fun unhandled => ?_, fun settings loaded zero => ?_⟩
    · exact alive (run_dies_of_not_handled read unhandled)
    · exact alive (run_dies_of_zeroCharacter read loaded zero)
  · rcases Invocation.read_name .parse rest with ⟨stop, read⟩ | ⟨taken, read⟩
    · have stopped : (run env? store ("parse" :: rest)).1 = stop.report := by
        simp only [run, plan, show "parse" = Command.parse.name from rfl, read, Plan.perform]
      rw [stopped]
      exact .usage read
    · have sound := sound _ _ _ read
      exact failFast_of_handled read sound.1 sound.2
  · intro file debug config? e read handled loaded
    rcases Settings.handled_or_unanswered (store.read (configPath env? config?)) with
      ⟨_, ⟨settings, other⟩ | ⟨e', other, complains⟩⟩ | ⟨unhandled, _⟩
    · cases loaded.symm.trans other
    · cases loaded.symm.trans other
      rcases complains (configPath env? config?) with ⟨complaint, answered⟩
      exact ⟨complaint, answered, run_refuses read loaded answered⟩
    · exact absurd handled unhandled

/-- An empty source, and something in the place of the settings. -/
def withSettings (item : Item) : Store :=
  ⟨[(⟨.here, ["contractgen.toml"]⟩, item), (⟨.here, ["in.contract"]⟩, .file [])]⟩

theorem parse_failFast_of_equals_sign :
    FailFast none (withSettings (.file [0x3d])) ["parse", "in.contract"]
        (run none (withSettings (.file [0x3d])) ["parse", "in.contract"]).1
      ∧ ∃ complaint, (run none (withSettings (.file [0x3d])) ["parse", "in.contract"]).1
        = .refusal ["error: " ++ complaint] := by
  have read : Invocation.read ["parse", "in.contract"] = .ok (.parse "in.contract" false none) :=
    rfl
  have handled : Settings.Handled
      ((withSettings (.file [0x3d])).read (configPath none none)) :=
    .malformed (show Text.Utf8.decode [0x3d] = .ok ['='] from rfl) rfl
  have loaded : Settings.load ((withSettings (.file [0x3d])).read (configPath none none))
      = .error (.unread .malformed) := rfl
  rcases parse_failFast_iff none (withSettings (.file [0x3d])) ["in.contract"] with
    ⟨ends, refuses⟩
  constructor
  · refine ends.mpr fun file debug config? other => ?_
    cases read.symm.trans other
    exact ⟨handled, fun settings other => by cases loaded.symm.trans other⟩
  · rcases refuses _ _ _ _ read handled loaded with ⟨complaint, _, refused⟩
    exact ⟨complaint, refused⟩

/-- A directory in the place of the settings, and settings that are no text. -/
theorem parse_dies_of_unreadable_settings :
    ¬ FailFast none (withSettings .directory) ["parse", "in.contract"]
        (run none (withSettings .directory) ["parse", "in.contract"]).1
      ∧ ¬ FailFast none (withSettings (.file [0xff])) ["parse", "in.contract"]
        (run none (withSettings (.file [0xff])) ["parse", "in.contract"]).1 :=
  ⟨fun ended => ended.ending_ne (.file .isDirectory ⟨0, ["contractgen.toml"]⟩) rfl,
    fun ended => ended.ending_ne (.undecodable ⟨0, [0xff], .invalidStart⟩) rfl⟩

end
end ContractLang.CommandLine
