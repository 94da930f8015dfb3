import ContractLang.CommandLine.Word

namespace ContractLang.CommandLine

structure Taken where
  switches : List (Switch × Option String)
  operand? : Option (Option String)
  command? : Option (String × List String)
  extras : List String
  deriving DecidableEq, Repr

namespace Taken

def nothing : Taken := ⟨[], none, none, []⟩

def has (t : Taken) (name : String) : Bool := t.switches.any fun (s, _) => s.names.contains name

def value? (t : Taken) (name : String) : Option String :=
  (t.switches.reverse.find? fun (s, _) => s.names.contains name).bind (·.2)

def addExtra (t : Taken) (text : String) : Taken := { t with extras := t.extras ++ [text] }

end Taken

namespace Form

def reject (form : Form) (s : Switch) (complaint : String) : Stop :=
  .misuse form ("argument " ++ s.title ++ ": " ++ complaint)

def rejectAttached (form : Form) (s : Switch) (text : List Char) : Stop :=
  form.reject s ("ignored explicit argument " ++ Text.quoted (String.ofList text))

/-- Two dashes that are attached to an option are no value. -/
def attachedValue (text : List Char) : Option String :=
  if text = ['-', '-'] then none else some (String.ofList text)

/-- Takes an option with what is attached to its name: its value, or after a letter that takes
    none, further letters. -/
def unbundle (form : Form) (s : Switch) (name : String) :
    List Char → Except Stop (List (Switch × Option String))
  | [] => if s.takesValue then .ok [(s, some "")] else .error (form.rejectAttached s [])
  | c :: rest =>
    if s.takesValue then .ok [(s, attachedValue (c :: rest))]
    else if name.toList[1]? = some '-' then .error (form.rejectAttached s (c :: rest))
    else
      let letter := String.ofList ['-', c]
      match form.switchNamed? letter with
      | none => .error (form.rejectAttached s (c :: rest))
      | some other =>
        if rest.isEmpty then .ok [(s, none), (other, none)]
        else (form.unbundle other letter rest).map ((s, none) :: ·)

/-- Records options. The first one that asks for help ends the reading. -/
def record (form : Form) (t : Taken) (switches : List (Switch × Option String)) :
    Except Stop Taken :=
  if switches.any (·.1 == Switch.help) then .error (.help form)
  else .ok { t with switches := t.switches ++ switches }

/-- Reads words in their order. Words that find no place are extras. -/
def take (form : Form) (t : Taken) : List Word → Except Stop Taken
  | [] => .ok t
  | ⟨text, .unknown⟩ :: rest => form.take (t.addExtra text) rest
  | ⟨_, .switch s _ none⟩ :: rest =>
    if s.takesValue then
      match rest with
      | ⟨value, .operand⟩ :: rest => do form.take (← form.record t [(s, some value)]) rest
      | _ => .error (form.reject s "expected one argument")
    else do form.take (← form.record t [(s, none)]) rest
  | ⟨_, .switch s name (some attached)⟩ :: rest => do
    let switches ← form.unbundle s name attached
    form.take (← form.record t switches) rest
  | ⟨text, .operand⟩ :: rest =>
    match form.operand?, t.operand? with
    | some (.command _), _ => .ok { t with command? := some (text, rest.map (·.text)) }
    | some _, none =>
      let t := { t with operand? := some (some text) }
      match rest with
      | ⟨_, .separator⟩ :: rest => form.take t rest
      | rest => form.take t rest
    | _, _ => form.take (t.addExtra text) rest
  | ⟨text, .separator⟩ :: rest =>
    match form.operand?, t.operand?, rest with
    | some (.command _), _, _ :: _ => .ok { t with command? := some (text, rest.map (·.text)) }
    | some (.required _), none, ⟨value, _⟩ :: rest =>
      form.take { t with operand? := some (some value) } rest
    | some (.optional _), none, ⟨value, _⟩ :: rest =>
      form.take { t with operand? := some (some value) } rest
    | some (.optional _), none, [] => .ok { t with operand? := some none }
    | _, _, rest => form.take (t.addExtra text) rest

/-- The operand that is due has to be there. -/
def complete (form : Form) (t : Taken) : Except Stop Taken :=
  let missing : Option String :=
    match form.operand?, t.operand?, t.command? with
    | some (.required name), none, _ => some name
    | some (.command name), _, none => some name
    | _, _, _ => none
  match missing with
  | some name => .error (.misuse form ("the following arguments are required: " ++ name))
  | none => .ok t

/-- All words get their meaning before any of them is taken. -/
def read (form : Form) (arguments : List String) : Except Stop Taken := do
  let words ← form.words arguments
  let t ← form.take .nothing words
  form.complete t

end Form
end ContractLang.CommandLine
