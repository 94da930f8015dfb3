import ContractLang.CommandLine.Form

namespace ContractLang.CommandLine

/-- What a word is on its own. Text may be joined to the name of an option, with an equals sign or,
    after a single letter, without one. -/
inductive Meaning where
  | operand
  | separator
  | switch (s : Switch) (name : String) (attached? : Option (List Char))
  | unknown
  deriving DecidableEq, Repr

structure Word where
  text : String
  meaning : Meaning
  deriving DecidableEq, Repr

/-- The text before the first equals sign, and the text after it if there is one. -/
def splitEquals : List Char → List Char × Option (List Char)
  | [] => ([], none)
  | c :: rest =>
    if c = '=' then ([], some rest)
    else
      let (before, after?) := splitEquals rest
      (c :: before, after?)

/-- A dash with digits after it, of which some may stand behind a full stop. A newline may end
    the text. -/
def looksNegative (cs : List Char) : Bool :=
  match cs with
  | '-' :: digits =>
    let digits := if digits.getLast? = some '\n' then digits.dropLast else digits
    let whole := digits.takeWhile Text.isDigit
    match digits.drop whole.length with
    | [] => !whole.isEmpty
    | '.' :: rest => !rest.isEmpty && rest.all Text.isDigit
    | _ => false
  | _ => false

/-- The options that an unfinished name after two dashes, or a letter after one dash with
    something attached, may mean. -/
def Form.candidates (form : Form) (cs : List Char) : List (Switch × String × Option (List Char)) :=
  match cs with
  | '-' :: '-' :: _ =>
    let (start, after?) := splitEquals cs
    (form.switchNames.filter fun (name, _) => start.isPrefixOf name.toList).map
      fun (name, s) => (s, name, after?)
  | _ =>
    form.switchNames.filterMap fun (name, s) =>
      if name.toList = cs.take 2 then some (s, name, some (cs.drop 2))
      else if cs.isPrefixOf name.toList then some (s, name, none)
      else none

/-- What a word that starts with a dash means where it is not the name of an option. A negative
    number or a text with a space is no option. -/
def Form.meaningOfDashed (form : Form) (text : String) : Except Stop Meaning :=
  let cs := text.toList
  let (before, after?) := splitEquals cs
  match after?, form.switchNamed? (String.ofList before) with
  | some after, some s => .ok (.switch s (String.ofList before) (some after))
  | _, _ =>
    match form.candidates cs with
    | [(s, name, attached?)] => .ok (.switch s name attached?)
    | [] => .ok (if looksNegative cs || cs.contains ' ' then .operand else .unknown)
    | several =>
      .error <| .misuse form <| "ambiguous option: " ++ text ++ " could match "
        ++ ", ".intercalate (several.map fun (_, name, _) => name)

def Form.meaning (form : Form) (text : String) : Except Stop Meaning :=
  match text.toList with
  | '-' :: rest =>
    match form.switchNamed? text with
    | some s => .ok (.switch s text none)
    | none => if rest.isEmpty then .ok .operand else form.meaningOfDashed text
  | _ => .ok .operand

/-- After the separator, two dashes on their own, every word is an operand. -/
def Form.words (form : Form) : List String → Except Stop (List Word)
  | [] => .ok []
  | text :: rest =>
    if text = "--" then .ok (⟨text, .separator⟩ :: rest.map (⟨·, .operand⟩))
    else do
      let meaning ← form.meaning text
      let others ← form.words rest
      return ⟨text, meaning⟩ :: others

end ContractLang.CommandLine
