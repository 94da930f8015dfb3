import ContractLang.Toml.Print
import ContractLang.Toml.Text

namespace ContractLang.Toml

theorem numbered?_fixedHex (c : Char) (short : c.toNat < 0x10000) :
    numbered? (Text.fixedHex 4 c.toNat) = some c := by
  have valid : c.toNat.isValidChar := c.valid
  have digits := Text.hexNumber?_fixedHex 4 c.toNat short
  simp [numbered?, digits, valid]

theorem basicString_numbered (c : Char) (short : c.toNat < 0x10000) (rest : List Char) :
    basicString ('\\' :: 'u' :: Text.fixedHex 4 c.toNat ++ rest) = push c (basicString rest) := by
  have number := numbered?_fixedHex c short
  have size := Text.length_fixedHex 4 c.toNat
  generalize Text.fixedHex 4 c.toNat = digits at number size
  match digits with
  | [a, b, d, e] =>
    rw [List.cons_append, List.cons_append, List.cons_append, List.cons_append, List.cons_append,
      List.cons_append, List.nil_append, basicString, number]
    rfl

theorem basicString_cons {c : Char} (quote : c ≠ '"') (backslash : c ≠ '\\')
    (printed : isControl c = false) (rest : List Char) :
    basicString (c :: rest) = push c (basicString rest) := by
  rw [basicString.eq_def]
  split <;> simp_all

theorem isControl_eq_false {c : Char} (printed : ¬ (c.toNat < 32 ∧ c ≠ '\t' ∨ c.toNat = 127)) :
    isControl c = false := by
  cases control : isControl c with
  | false => rfl
  | true => exact absurd (by simpa [isControl] using control) printed

/-- A character is read back from its escape. -/
theorem basicString_escapeChar (c : Char) (rest : List Char) :
    basicString (escapeChar c ++ rest) = push c (basicString rest) := by
  unfold escapeChar
  split
  · rename_i special
    rcases special with rfl | rfl <;> rfl
  split
  · rename_i newline
    subst newline
    rfl
  split
  · rename_i carriageReturn
    subst carriageReturn
    rfl
  split
  · rename_i backspace
    subst backspace
    rfl
  split
  · rename_i formFeed
    subst formFeed
    rfl
  split
  · rename_i control
    exact basicString_numbered c (by omega) rest
  · rename_i special _ _ _ _ printed
    exact basicString_cons (fun same => special (.inl same)) (fun same => special (.inr same))
      (isControl_eq_false printed) rest

theorem basicString_flatMap (cs rest : List Char) :
    basicString (cs.flatMap escapeChar ++ '"' :: rest) = some (cs, rest) := by
  induction cs with
  | nil => rfl
  | cons c cs ih =>
    rw [List.flatMap_cons, List.append_assoc, basicString_escapeChar, ih]
    rfl

/-- No escape starts with a quote, so that two quotes in front end an empty string. -/
theorem head?_escapeChar (c : Char) (rest : List Char) :
    (escapeChar c ++ rest).head? ≠ some '"' := by
  unfold escapeChar
  split
  · simp
  · rename_i special
    repeat' split
    all_goals simp
    exact fun same => special (.inl same)

theorem string?_of_single {text : List Char} (single : ∀ rest, text ≠ '"' :: '"' :: rest) :
    string? ('"' :: text) = string?.finish (basicString text) := by
  rw [string?.eq_def]
  split <;> simp_all

theorem printString_append (s : String) (rest : List Char) :
    printString s ++ rest = '"' :: (s.toList.flatMap escapeChar ++ '"' :: rest) := by
  simp [printString]

theorem string?_printString (s : String) (rest : List Char) (ends : rest.head? ≠ some '"') :
    string? (printString s ++ rest) = some (s, rest) := by
  have single : ∀ tail, s.toList.flatMap escapeChar ++ '"' :: rest ≠ '"' :: '"' :: tail := by
    intro tail same
    cases written : s.toList with
    | nil =>
      rw [written] at same
      cases same
      exact ends rfl
    | cons c cs =>
      rw [written, List.flatMap_cons, List.append_assoc] at same
      exact head?_escapeChar c _ (by rw [same]; rfl)
  rw [printString_append, string?_of_single single, basicString_flatMap]
  simp [string?.finish]

theorem return_not_mem_fixedHex (width n : Nat) : '\r' ∉ Text.fixedHex width n := by
  induction width generalizing n with
  | zero => exact List.not_mem_nil
  | succ width ih =>
    have digits : ∀ d, d < 16 → '\r' ≠ Nat.digitChar d := by decide
    rw [Text.fixedHex, List.mem_append, List.mem_singleton]
    rintro (front | last)
    · exact ih (n / 16) front
    · exact digits _ (Nat.mod_lt n (by decide)) last

theorem return_not_mem_escapeChar (c : Char) : '\r' ∉ escapeChar c := by
  have hex := return_not_mem_fixedHex 4 c.toNat
  unfold escapeChar
  split
  · rename_i special
    rcases special with rfl | rfl <;> decide
  split
  · decide
  split
  · decide
  rename_i carriageReturn
  split
  · decide
  split
  · decide
  split
  · simpa using hex
  · simpa using fun same => carriageReturn same.symm

theorem return_not_mem_printString (s : String) : '\r' ∉ printString s := by
  simp only [printString, List.cons_append, List.mem_cons, List.mem_append, List.mem_flatMap,
    List.mem_nil_iff, or_false]
  rintro (quote | ⟨c, _, written⟩ | quote)
  · cases quote
  · exact return_not_mem_escapeChar c written
  · cases quote

end ContractLang.Toml
