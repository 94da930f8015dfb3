import ContractLang.CommandLine.Invocation

namespace ContractLang.CommandLine

theorem Command.ofName?_name (command : Command) : ofName? command.name = some command := by
  cases command <;> decide

theorem Form.text_of_words {form : Form} {arguments : List String} {words : List Word}
    (h : form.words arguments = .ok words) : words.map (·.text) = arguments := by
  induction arguments generalizing words with
  | nil =>
    cases h
    rfl
  | cons text rest ih =>
    rw [Form.words] at h
    split at h
    · cases h
      simp [Function.comp_def]
    · rcases means : form.meaning text with stop | meaning
      · rw [means] at h
        cases h
      · rcases later : form.words rest with stop | others
        · rw [means, later] at h
          cases h
        · rw [means, later] at h
          cases h
          rw [List.map_cons, ih later]

theorem Form.words_cons {form : Form} {text : String} {meaning : Meaning} (plain : text ≠ "--")
    (means : form.meaning text = .ok meaning) (rest : List String) :
    form.words (text :: rest) = (form.words rest).map (⟨text, meaning⟩ :: ·) := by
  rw [words, if_neg plain, means]
  rfl

/-- What a command makes of the words after its name. Words that it has no use for are refused. -/
def Command.conclude (command : Command) (taken : Taken) : Except Stop Invocation :=
  match taken.extras with
  | [] => .ok (command.invoke taken)
  | extras => .error (.misuse .main ("unrecognized arguments: " ++ " ".intercalate extras))

/-- The words after the name of a command are read twice: they get a meaning as words of the
    program, of which only a complaint is left, and are taken as words of the command. -/
theorem Invocation.read_command (command : Command) (rest : List String) :
    Invocation.read (command.name :: rest)
      = Form.main.words rest >>= fun _ => command.form.read rest >>= command.conclude := by
  have plain : command.name ≠ "--" := by cases command <;> decide
  have meaning : Form.main.meaning command.name = .ok .operand := by cases command <;> rfl
  have words := Form.words_cons plain meaning rest
  rcases outer : Form.main.words rest with stop | others
  · rw [outer] at words
    simp only [Invocation.read, Form.read, words, Except.map, bind, Except.bind]
  · rw [outer] at words
    have named : Form.main.read (command.name :: rest)
        = .ok { Taken.nothing with command? := some (command.name, others.map (·.text)) } := by
      simp only [Form.read, words, Except.map, bind, Except.bind]
      rfl
    simp only [Invocation.read, named, Form.text_of_words outer, bind, Except.bind,
      Command.ofName?_name]
    rfl

/-- Words after the name of a command are read for that command, or not at all. -/
theorem Invocation.read_name (command : Command) (rest : List String) :
    (∃ stop, Invocation.read (command.name :: rest) = .error stop)
      ∨ ∃ taken, Invocation.read (command.name :: rest) = .ok (command.invoke taken) := by
  rw [Invocation.read_command]
  rcases Form.main.words rest with stop | _
  · exact .inl ⟨stop, rfl⟩
  · rcases command.form.read rest with stop | taken
    · exact .inl ⟨stop, rfl⟩
    · simp only [bind, Except.bind, Command.conclude]
      split
      · exact .inr ⟨taken, rfl⟩
      · exact .inl ⟨_, rfl⟩

end ContractLang.CommandLine
