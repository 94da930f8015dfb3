import ContractLang.Proofs.CommandLine.Arguments

namespace ContractLang.CommandLine

/-- The same words with an option in front of them. -/
def Taken.preceded (t : Taken) (s : Switch) : Taken :=
  { t with switches := (s, none) :: t.switches }

namespace Form

variable (form : Form) (t : Taken) (s : Switch)

theorem record_preceded (switches : List (Switch × Option String)) :
    form.record (t.preceded s) switches = (form.record t switches).map (·.preceded s) := by
  unfold record
  split
  · rfl
  · rfl

theorem bind_preceded {s : Switch} {taken : Except Stop Taken} {next : Taken → Except Stop Taken}
    (same : ∀ t, next (t.preceded s) = (next t).map (·.preceded s)) :
    taken.map (·.preceded s) >>= next = (taken >>= next).map (·.preceded s) := by
  cases taken with
  | error stop => rfl
  | ok t => exact same t

/-- What has been taken so far decides on nothing but the place of operands. -/
theorem take_preceded (words : List Word) :
    form.take (t.preceded s) words = (form.take t words).map (·.preceded s) := by
  have same (t : Taken) : (t.preceded s).operand? = t.operand? := rfl
  induction t, words using Form.take.induct form with
  | case1 t => rfl
  | case2 t text rest ih => exact ih
  | case3 t text other name takes value rest ih =>
    simp only [take, takes, if_true, record_preceded]
    exact bind_preceded ih
  | case4 t text other name rest takes missing =>
    unfold take
    simp only [takes, if_true]
    rfl
  | case5 t text other name rest plain ih =>
    unfold take
    simp only [plain, if_false, Bool.false_eq_true, record_preceded]
    exact bind_preceded ih
  | case6 t text other name attached rest ih =>
    simp only [take]
    rcases form.unbundle other name attached with stop | switches
    · rfl
    · simp only [bind, Except.bind, record_preceded]
      exact bind_preceded ih
  | case7 t text rest name command =>
    simp only [take, command]
    rfl
  | case8 t text operand noCommand free due taken separator rest ih
  | case9 t text operand noCommand free due taken rest noSeparator ih =>
    simp only [take, due, free, same]
    exact ih
  | case10 t text rest noCommand full ih =>
    simp only [take, same]
    exact ih
  | case11 t text name head tail command =>
    unfold take
    simp only [command]
    rfl
  | case12 t text name value meaning rest free due ih
  | case13 t text name value meaning rest free due ih =>
    unfold take
    simp only [due, free, same]
    exact ih
  | case14 t text name free due =>
    unfold take
    simp only [due, free, same]
    rfl
  | case15 t text rest noCommand noRequired noOptional noneLeft ih =>
    unfold take
    rw [same]
    split
    · exact absurd rfl (noCommand _ _ _ ‹_›)
    · exact absurd rfl (noRequired _ _ _ _ ‹_› ‹_›)
    · exact absurd rfl (noOptional _ _ _ _ ‹_› ‹_›)
    · exact absurd rfl (noneLeft _ ‹_› ‹_›)
    · exact ih

theorem complete_preceded :
    form.complete (t.preceded s) = (form.complete t).map (·.preceded s) := by
  have operand : (t.preceded s).operand? = t.operand? := rfl
  have command : (t.preceded s).command? = t.command? := rfl
  simp only [complete, operand, command]
  split
  · rfl
  · rfl

theorem read_parse_debug (rest : List String) :
    Form.parse.read ("--debug" :: rest)
      = (Form.parse.read rest).map (·.preceded Form.debugSwitch) := by
  have means : Form.parse.meaning "--debug" = .ok (.switch Form.debugSwitch "--debug" none) := rfl
  simp only [read, words_cons (by decide) means]
  rcases Form.parse.words rest with stop | words
  · rfl
  · have first : Form.parse.take .nothing (⟨"--debug", .switch debugSwitch "--debug" none⟩ :: words)
        = Form.parse.take (Taken.nothing.preceded debugSwitch) words := by
      rw [take.eq_def]
      rfl
    simp only [Except.map, bind, Except.bind, first, take_preceded]
    exact bind_preceded (complete_preceded .parse · debugSwitch)

end Form

/-- The same command, but `parse` shows its trace. -/
def Invocation.debugged : Invocation → Invocation
  | .parse file _ config? => .parse file true config?
  | other => other

theorem Command.invoke_preceded (taken : Taken) :
    Command.parse.invoke (taken.preceded Form.debugSwitch)
      = (Command.parse.invoke taken).debugged := by
  have noConfig : (taken.preceded Form.debugSwitch).value? "--config" = taken.value? "--config" := by
    simp [Taken.value?, Taken.preceded, Form.debugSwitch]
  simp only [Command.invoke, noConfig]
  rfl

/-- The option `--debug` in front of all other words changes nothing of what is read but the
    trace. -/
theorem Invocation.read_debug (rest : List String) :
    Invocation.read ("parse" :: "--debug" :: rest)
      = (Invocation.read ("parse" :: rest)).map Invocation.debugged := by
  have name : "parse" = Command.parse.name := rfl
  have means : Form.main.meaning "--debug" = .ok .unknown := rfl
  rw [name, Invocation.read_command, Invocation.read_command, Form.words_cons (by decide) means]
  rcases Form.main.words rest with stop | _
  · rfl
  · have taken : Command.parse.form.read ("--debug" :: rest)
        = (Command.parse.form.read rest).map (·.preceded Form.debugSwitch) :=
      Form.read_parse_debug rest
    simp only [Except.map, bind, Except.bind, taken]
    rcases Command.parse.form.read rest with stop | taken
    · rfl
    · have extras : (taken.preceded Form.debugSwitch).extras = taken.extras := rfl
      simp only [Command.conclude, extras]
      split
      · rw [Command.invoke_preceded]
      · rfl

end ContractLang.CommandLine
