import ContractLang.Proofs.CommandLine.DebugSwitch
import ContractLang.Proofs.CommandLine.ParseRun
import ContractLang.Proofs.Declaration.Debug

namespace ContractLang.CommandLine

/-- The same report, with messages shown before anything else. -/
def Report.led (report : Report) (messages : List String) : Report :=
  { report with err := lines messages ++ report.err }

theorem Report.led_nil (report : Report) : report.led [] = report := by
  have unchanged : lines [] ++ report.err = report.err := String.empty_append
  rw [led, unchanged]

theorem parseReport_debug (settings : Settings) (source : List Char) :
    parseReport { settings with debug := true } source
      = (parseReport { settings with debug := false } source).led
        (messages { settings with debug := true } source) := by
  have loud : messages { settings with debug := true } source
      = (readSource { settings with debug := true } source).trace.map ("DEBUG: " ++ ·) :=
    messages_of_debug rfl
  simp only [parseReport, loud, readSource_debug, Settings.shown, if_true, Bool.false_eq_true,
    if_false]
  rcases (readSource settings source).outcome with e | next
  · simp only [Report.refusal, Report.led, lines_append, List.nil_append]
  · simp only [Report.success, Report.led, ← lines_append, List.append_nil]

section

variable {env? : Option String} {contents : Contents} {file : String} {config? : Option String}
  {settings : Settings}

theorem parse_debug_of_source {source : List Char}
    (loaded : Settings.load (contents (configPath env? config?)) = .ok settings)
    (off : settings.debug = false) (decoded : sourceText (contents (.ofString file)) = .ok source) :
    parse env? contents file true config?
      = (parse env? contents file false config?).led
        (messages { settings with debug := true } source) := by
  simp only [parse, loaded, decoded, off, Bool.or_false]
  exact parseReport_debug settings source

theorem parse_debug_of_no_source {e : SourceError}
    (undecoded : sourceText (contents (.ofString file)) = .error e) :
    parse env? contents file true config? = parse env? contents file false config? := by
  simp only [parse, undecoded]

/-- Whatever the files hold, a run that shows its trace differs in nothing else. -/
theorem exists_parse_debug (env? : Option String) (contents : Contents) (file : String)
    (config? : Option String) :
    ∃ messages, parse env? contents file true config?
      = (parse env? contents file false config?).led messages := by
  rcases loaded : Settings.load (contents (configPath env? config?)) with e | settings
  · refine ⟨[], ?_⟩
    simp only [Report.led_nil, parse, loaded]
  · rcases decoded : sourceText (contents (.ofString file)) with e | source
    · exact ⟨[], (parse_debug_of_no_source decoded).trans (Report.led_nil _).symm⟩
    · cases debug : settings.debug with
      | false => exact ⟨_, parse_debug_of_source loaded debug decoded⟩
      | true =>
        refine ⟨[], ?_⟩
        simp only [Report.led_nil, parse, loaded, decoded, debug, Bool.or_true]

end

section

variable {env? : Option String} {store : Store} {loud quiet : List String}

theorem exists_run_debug (env? : Option String) (store : Store)
    (added : Invocation.read loud = (Invocation.read quiet).map .debugged) :
    ∃ messages, (run env? store loud).1 = (run env? store quiet).1.led messages := by
  rcases read : Invocation.read quiet with stop | invocation
  · rw [read] at added
    refine ⟨[], ?_⟩
    simp only [run, plan, read, added, Except.map, Report.led_nil]
  · rw [read] at added
    cases invocation with
    | parse file debug config? =>
      rw [run_of_parse read, run_of_parse added]
      cases debug with
      | false => exact exists_parse_debug env? store.read file config?
      | true => exact ⟨[], (Report.led_nil _).symm⟩
    | tokens | rules | initConfig =>
      refine ⟨[], ?_⟩
      simp only [run, plan, read, added, Except.map, Invocation.debugged, Report.led_nil]

theorem run_debug {file : String} {config? : Option String} {settings : Settings}
    (added : Invocation.read loud = (Invocation.read quiet).map .debugged)
    (read : Invocation.read quiet = .ok (.parse file false config?))
    (loaded : Settings.load (store.read (configPath env? config?)) = .ok settings)
    (off : settings.debug = false) :
    (∀ source, sourceText (store.read (.ofString file)) = .ok source →
      (run env? store loud).1.err
        = lines (messages { settings with debug := true } source) ++ (run env? store quiet).1.err)
    ∧ ∀ e, sourceText (store.read (.ofString file)) = .error e →
      (run env? store loud).1.err = (run env? store quiet).1.err := by
  rw [read] at added
  rw [run_of_parse read, run_of_parse added]
  constructor
  · intro source decoded
    rw [parse_debug_of_source loaded off decoded]
    rfl
  · intro e undecoded
    rw [parse_debug_of_no_source undecoded]

end

/-- Showing the trace changes no tree and no error. The messages are told by the tree alone: all of
    them where the source is read, a beginning of them where it is not. On the command line they
    come first on the error output, and the rest is as without `--debug`. -/
theorem debug_observes :
    (∀ (settings : Settings) (source : List Char),
      readSource { settings with debug := true } source
        = readSource { settings with debug := false } source
      ∧ messages { settings with debug := false } source = [])
    ∧ (∀ (settings : Settings) (source : List Char) (next : Cursor), settings.debug = true →
      (readSource settings source).outcome = .ok next →
      messages settings source
        = (toldBy (readSource settings source).built).map ("DEBUG: " ++ ·))
    ∧ (∀ (settings : Settings) (source : List Char) (e : SyntaxError), settings.debug = true →
      (readSource settings source).outcome = .error e →
      messages settings source
        <+: (toldBy (readSource settings source).built).map ("DEBUG: " ++ ·))
    ∧ (∀ (env? : Option String) (store : Store) (loud quiet : List String),
      Invocation.read loud = (Invocation.read quiet).map .debugged →
      (run env? store loud).1.ending = (run env? store quiet).1.ending
      ∧ (run env? store loud).1.out = (run env? store quiet).1.out
      ∧ ∀ file config? settings, Invocation.read quiet = .ok (.parse file false config?) →
        Settings.load (store.read (configPath env? config?)) = .ok settings →
        settings.debug = false →
        (∀ source, sourceText (store.read (.ofString file)) = .ok source →
          (run env? store loud).1.err
            = lines (messages { settings with debug := true } source)
              ++ (run env? store quiet).1.err)
        ∧ ∀ e, sourceText (store.read (.ofString file)) = .error e →
          (run env? store loud).1.err = (run env? store quiet).1.err)
    ∧ ∀ rest, Invocation.read ("parse" :: "--debug" :: rest)
      = (Invocation.read ("parse" :: rest)).map .debugged := by
  refine ⟨fun settings source => ⟨?_, messages_of_not_debug rfl⟩,
    fun settings source next on ran => messages_eq_told on ran,
    fun settings source e on _ => messages_prefix_told on,
    fun env? store loud quiet added => ?_, Invocation.read_debug⟩
  · rw [readSource_debug settings true, readSource_debug settings false]
  · obtain ⟨messages, same⟩ := exists_run_debug env? store added
    refine ⟨by rw [same]; rfl, by rw [same]; rfl, ?_⟩
    intro file config? settings read loaded off
    exact run_debug added read loaded off

/-- One file, with a contract of one member. -/
def withMember : Store :=
  ⟨[(⟨.here, ["in.contract"]⟩, .file (Text.Utf8.encode "contract Aa : Bb { int xx; };".toList))]⟩

theorem debug_observes_of_member :
    (run none withMember ["parse", "--debug", "in.contract"]).1.err
      = lines ["DEBUG: defining contract 'Aa' with base class 'Bb'",
          "DEBUG: ...adding a variable 'int xx'"]
        ++ (run none withMember ["parse", "in.contract"]).1.err := by
  have built : (readSource { Settings.standard with debug := true }
      "contract Aa : Bb { int xx; };".toList).built = [⟨"Aa", "Bb", [.data "int" "xx" ""]⟩] := by
    decide +kernel
  have ran : (readSource { Settings.standard with debug := true }
      "contract Aa : Bb { int xx; };".toList).outcome = .ok ⟨10, []⟩ := by decide +kernel
  obtain ⟨-, told, -, shown, added⟩ := debug_observes
  obtain ⟨-, -, err⟩ := shown none withMember _ _ (added ["in.contract"])
  obtain ⟨first, -⟩ := err "in.contract" none .standard rfl rfl rfl
  rw [first "contract Aa : Bb { int xx; };".toList rfl, told _ _ _ rfl ran, built]
  rfl

end ContractLang.CommandLine
