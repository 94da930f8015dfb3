import Mathlib.Tactic.SplitIfs
import ContractLang.Json.Print

namespace ContractLang.Json

/-- The number that a unit of sixteen bits writes, and the text after it. -/
def readUnit? : List Char → Option (Nat × List Char)
  | '\\' :: 'u' :: a :: b :: c :: d :: rest => (Text.hexNumber? [a, b, c, d]).map (·, rest)
  | _ => none

theorem readUnit?_escapeUnit {n : Nat} (short : n < 0x10000) (rest : List Char) :
    readUnit? (escapeUnit n ++ rest) = some (n, rest) := by
  have size := Text.length_fixedHex 4 n
  have number := Text.hexNumber?_fixedHex 4 n short
  rw [escapeUnit]
  generalize Text.fixedHex 4 n = digits at size number
  match digits, size with
  | [a, b, c, d], _ =>
    simp only [List.cons_append, List.nil_append, readUnit?, number]
    rfl

/-- The code point that units write: one of them, or two where the first is a high surrogate. -/
def readUnits? (text : List Char) : Option (Char × List Char) := do
  let (high, rest) ← readUnit? text
  if 0xD800 ≤ high ∧ high < 0xDC00 then
    let (low, rest) ← readUnit? rest
    return (Char.ofNat (0x10000 + 0x400 * (high - 0xD800) + (low - 0xDC00)), rest)
  else return (Char.ofNat high, rest)

def unescapeLetter (c : Char) : Char :=
  if c = 'n' then '\n'
  else if c = 'r' then '\r'
  else if c = 't' then '\t'
  else if c = 'b' then '\x08'
  else if c = 'f' then '\x0c'
  else c

/-- Reads one character of a text back. -/
def unescape? : List Char → Option (Char × List Char)
  | '\\' :: c :: rest =>
    if c = 'u' then readUnits? ('\\' :: c :: rest) else some (unescapeLetter c, rest)
  | c :: rest => some (c, rest)
  | [] => none

theorem readUnits?_of_short {c : Char} (short : c.toNat < 0x10000) (rest : List Char) :
    readUnits? (escapeUnit c.toNat ++ rest) = some (c, rest) := by
  have noSurrogate : ¬ (0xD800 ≤ c.toNat ∧ c.toNat < 0xDC00) := by
    have valid := c.valid
    simp only [UInt32.isValidChar, Nat.isValidChar] at valid
    have same : c.val.toNat = c.toNat := rfl
    omega
  simp only [readUnits?, readUnit?_escapeUnit short, Option.bind_eq_bind, Option.bind_some,
    if_neg noSurrogate, Char.ofNat_toNat, Option.pure_def]

/-- Two units write a code point that one is too short for. -/
theorem surrogates_spec {n : Nat} (long : 0x10000 ≤ n) (bound : n < 0x110000) :
    (0xD800 ≤ (surrogates n).1 ∧ (surrogates n).1 < 0xDC00) ∧ (surrogates n).2 < 0x10000 ∧
      0x10000 + 0x400 * ((surrogates n).1 - 0xD800) + ((surrogates n).2 - 0xDC00) = n := by
  simp only [surrogates]
  refine ⟨⟨?_, ?_⟩, ?_, ?_⟩ <;> omega

theorem readUnits?_of_surrogates {high low : Nat} (isHigh : 0xD800 ≤ high ∧ high < 0xDC00)
    (short : low < 0x10000) (rest : List Char) :
    readUnits? (escapeUnit high ++ (escapeUnit low ++ rest))
      = some (Char.ofNat (0x10000 + 0x400 * (high - 0xD800) + (low - 0xDC00)), rest) := by
  have first : high < 0x10000 := by omega
  simp only [readUnits?, readUnit?_escapeUnit first, readUnit?_escapeUnit short,
    Option.bind_eq_bind, Option.bind_some, if_pos isHigh, Option.pure_def]

theorem readUnits?_of_long {c : Char} (long : ¬ c.toNat < 0x10000) (rest : List Char) :
    readUnits? (escapeUnit (surrogates c.toNat).1 ++ (escapeUnit (surrogates c.toNat).2 ++ rest))
      = some (c, rest) := by
  have bound : c.toNat < 0x110000 := by
    have valid := c.valid
    simp only [UInt32.isValidChar, Nat.isValidChar] at valid
    have same : c.val.toNat = c.toNat := rfl
    omega
  obtain ⟨isHigh, short, whole⟩ := surrogates_spec (Nat.not_lt.mp long) bound
  rw [readUnits?_of_surrogates isHigh short, whole, Char.ofNat_toNat]

/-- How a character is written in a text. -/
inductive Escape (c : Char) : List Char → Prop
  | letter (letter : Char) (noUnit : letter ≠ 'u') (stands : unescapeLetter letter = c) :
      Escape c ['\\', letter]
  | plain (noQuote : c ≠ '"') (noBackslash : c ≠ '\\') : Escape c [c]
  | unit (short : c.toNat < 0x10000) : Escape c (escapeUnit c.toNat)
  | units (long : ¬ c.toNat < 0x10000) :
      Escape c (escapeUnit (surrogates c.toNat).1 ++ escapeUnit (surrogates c.toNat).2)

theorem escape_escapeChar (c : Char) : Escape c (escapeChar c) := by
  unfold escapeChar
  split_ifs with quoted newline return_ tab backspace feed printed short
  · rcases quoted with rfl | rfl <;> exact .letter _ (by decide) rfl
  · exact newline ▸ .letter 'n' (by decide) rfl
  · exact return_ ▸ .letter 'r' (by decide) rfl
  · exact tab ▸ .letter 't' (by decide) rfl
  · exact backspace ▸ .letter 'b' (by decide) rfl
  · exact feed ▸ .letter 'f' (by decide) rfl
  · exact .plain (not_or.mp quoted).1 (not_or.mp quoted).2
  · exact .unit short
  · exact .units short

theorem Escape.unescape? {c : Char} {text : List Char} (escape : Escape c text)
    (rest : List Char) : unescape? (text ++ rest) = some (c, rest) := by
  cases escape with
  | letter letter noUnit stands =>
    simp only [List.cons_append, List.nil_append, Json.unescape?, if_neg noUnit, stands]
  | plain _ noBackslash =>
    rw [List.singleton_append, Json.unescape?]
    exact fun _ _ same => absurd same noBackslash
  | unit short => exact readUnits?_of_short short rest
  | units long =>
    rw [List.append_assoc]
    exact readUnits?_of_long long rest

/-- No character is written like the quote that ends a text. -/
theorem Escape.exists_cons {c : Char} {text : List Char} (escape : Escape c text) :
    ∃ first more, text = first :: more ∧ first ≠ '"' := by
  cases escape with
  | letter => exact ⟨_, _, rfl, by decide⟩
  | plain noQuote => exact ⟨_, _, rfl, noQuote⟩
  | unit => exact ⟨_, _, rfl, by decide⟩
  | units => exact ⟨_, _, rfl, by decide⟩

theorem escaped_inj {cs cs' rest rest' : List Char}
    (same : cs.flatMap escapeChar ++ '"' :: rest = cs'.flatMap escapeChar ++ '"' :: rest') :
    cs = cs' ∧ rest = rest' := by
  induction cs generalizing cs' with
  | nil =>
    cases cs' with
    | nil => exact ⟨rfl, (List.cons.inj same).2⟩
    | cons c' cs' =>
      obtain ⟨first, more, written, noQuote⟩ := (escape_escapeChar c').exists_cons
      rw [List.flatMap_cons, written] at same
      exact absurd (List.cons.inj same).1.symm noQuote
  | cons c cs ih =>
    cases cs' with
    | nil =>
      obtain ⟨first, more, written, noQuote⟩ := (escape_escapeChar c).exists_cons
      rw [List.flatMap_cons, written] at same
      exact absurd (List.cons.inj same).1 noQuote
    | cons c' cs' =>
      simp only [List.flatMap_cons, List.append_assoc] at same
      have read := congrArg unescape? same
      rw [(escape_escapeChar c).unescape?, (escape_escapeChar c').unescape?] at read
      obtain ⟨rfl, later⟩ := Prod.mk.inj (Option.some.inj read)
      obtain ⟨rfl, rests⟩ := ih later
      exact ⟨rfl, rests⟩

theorem printText_inj {s s' : String} {rest rest' : List Char}
    (same : printText s ++ rest = printText s' ++ rest') : s = s' ∧ rest = rest' := by
  simp only [printText, List.cons_append, List.append_assoc, List.nil_append] at same
  obtain ⟨chars, rests⟩ := escaped_inj (List.cons.inj same).2
  exact ⟨String.toList_injective chars, rests⟩

/-- The character that shows of which kind a value is. -/
def opener : Json → Char
  | .text _ => '"'
  | .flag true => 't'
  | .flag false => 'f'
  | .list _ => '['
  | .object _ => '\x7b'

theorem head?_print (j : Json) (depth : Nat) (rest : List Char) :
    (j.print depth ++ rest).head? = some j.opener := by
  cases j with
  | text => rfl
  | flag b => cases b <;> rfl
  | list items => cases items <;> rfl
  | object fields =>
    cases fields with
    | nil => rfl
    | cons field fields => rfl

/-- A comma in the place of the bracket makes the items of a list what may follow others. -/
theorem print_list (item : Json) (items : List Json) (depth : Nat) (rest : List Char) :
    ',' :: (print depth (.list (item :: items)) ++ rest).tail
      = printItems (depth + 1) (item :: items)
        ++ '\n' :: (List.replicate (2 * depth) ' ' ++ ']' :: rest) := by
  simp [print, printItems, newLine]

theorem print_object (field : String × Json) (fields : List (String × Json)) (depth : Nat)
    (rest : List Char) :
    ',' :: (print depth (.object (field :: fields)) ++ rest).tail
      = printFields (depth + 1) (field :: fields)
        ++ '\n' :: (List.replicate (2 * depth) ' ' ++ '\x7d' :: rest) := by
  simp [print, printFields, newLine]

mutual

theorem print_inj (j k : Json) (depth : Nat) {rest rest' : List Char}
    (same : j.print depth ++ rest = k.print depth ++ rest') : j = k ∧ rest = rest' := by
  have opener : j.opener = k.opener := by
    have heads := congrArg List.head? same
    rw [head?_print, head?_print] at heads
    exact Option.some.inj heads
  -- Values of different kinds differ in their first character already.
  cases j with
  | text s =>
    cases k with
    | text s' =>
      obtain ⟨rfl, rests⟩ := printText_inj same
      exact ⟨rfl, rests⟩
    | flag b => cases b <;> cases opener
    | list => cases opener
    | object => cases opener
  | flag b =>
    cases k with
    | flag b' =>
      cases b <;> cases b' <;> first | exact ⟨rfl, List.append_cancel_left same⟩ | cases opener
    | text => cases b <;> cases opener
    | list => cases b <;> cases opener
    | object => cases b <;> cases opener
  | list items =>
    cases k with
    | list items' =>
      cases items with
      | nil =>
        cases items' with
        | nil => exact ⟨rfl, List.append_cancel_left same⟩
        | cons => cases (List.cons.inj (List.cons.inj same).2).1
      | cons item items =>
        cases items' with
        | nil => cases (List.cons.inj (List.cons.inj same).2).1
        | cons item' items' =>
          have inside := (print_list item items depth rest).symm.trans
            ((congrArg (',' :: List.tail ·) same).trans (print_list item' items' depth rest'))
          obtain ⟨items, closed⟩ := printItems_inj (item :: items) (item' :: items') _ inside
          exact ⟨congrArg list items, (List.cons.inj (List.append_cancel_left closed)).2⟩
    | text => cases opener
    | flag b => cases b <;> cases opener
    | object => cases opener
  | object fields =>
    cases k with
    | object fields' =>
      cases fields with
      | nil =>
        cases fields' with
        | nil => exact ⟨rfl, List.append_cancel_left same⟩
        | cons => cases (List.cons.inj (List.cons.inj same).2).1
      | cons field fields =>
        cases fields' with
        | nil => cases (List.cons.inj (List.cons.inj same).2).1
        | cons field' fields' =>
          have inside := (print_object field fields depth rest).symm.trans
            ((congrArg (',' :: List.tail ·) same).trans (print_object field' fields' depth rest'))
          obtain ⟨fields, closed⟩ := printFields_inj (field :: fields) (field' :: fields') _ inside
          exact ⟨congrArg object fields, (List.cons.inj (List.append_cancel_left closed)).2⟩
    | text => cases opener
    | flag b => cases b <;> cases opener
    | list => cases opener

theorem printItems_inj (items items' : List Json) (depth : Nat) {rest rest' : List Char}
    (same : printItems depth items ++ '\n' :: rest = printItems depth items' ++ '\n' :: rest') :
    items = items' ∧ rest = rest' := by
  cases items with
  | nil =>
    cases items' with
    | nil => exact ⟨rfl, (List.cons.inj same).2⟩
    | cons => cases (List.cons.inj same).1
  | cons item items =>
    cases items' with
    | nil => cases (List.cons.inj same).1
    | cons item' items' =>
      simp only [printItems, newLine, List.append_assoc, List.cons_append] at same
      have opened := List.append_cancel_left (List.cons.inj (List.cons.inj same).2).2
      obtain ⟨rfl, more⟩ := print_inj item item' depth opened
      obtain ⟨rfl, rests⟩ := printItems_inj items items' depth more
      exact ⟨rfl, rests⟩

theorem printFields_inj (fields fields' : List (String × Json)) (depth : Nat)
    {rest rest' : List Char}
    (same : printFields depth fields ++ '\n' :: rest = printFields depth fields' ++ '\n' :: rest') :
    fields = fields' ∧ rest = rest' := by
  cases fields with
  | nil =>
    cases fields' with
    | nil => exact ⟨rfl, (List.cons.inj same).2⟩
    | cons => cases (List.cons.inj same).1
  | cons field fields =>
    cases fields' with
    | nil => cases (List.cons.inj same).1
    | cons field' fields' =>
      obtain ⟨name, value⟩ := field
      obtain ⟨name', value'⟩ := field'
      simp only [printFields, newLine, List.append_assoc, List.cons_append] at same
      have opened := List.append_cancel_left (List.cons.inj (List.cons.inj same).2).2
      obtain ⟨rfl, given⟩ := printText_inj opened
      have given := (List.cons.inj (List.cons.inj given).2).2
      obtain ⟨rfl, more⟩ := print_inj value value' depth given
      obtain ⟨rfl, rests⟩ := printFields_inj fields fields' depth more
      exact ⟨rfl, rests⟩

end

end ContractLang.Json
