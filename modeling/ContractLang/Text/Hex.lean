namespace ContractLang.Text

/-- The last `width` hexadecimal digits of a number, in lower case. -/
def fixedHex : Nat → Nat → List Char
  | 0, _ => []
  | width + 1, n => fixedHex width (n / 16) ++ [Nat.digitChar (n % 16)]

def hexValue? (c : Char) : Option Nat :=
  if '0' ≤ c ∧ c ≤ '9' then some (c.toNat - 48)
  else if 'a' ≤ c ∧ c ≤ 'f' then some (c.toNat - 87)
  else if 'A' ≤ c ∧ c ≤ 'F' then some (c.toNat - 55)
  else none

/-- The number that hexadecimal digits write, most significant first. -/
def hexNumber? (digits : List Char) : Option Nat :=
  digits.foldlM (fun value c => (hexValue? c).map (16 * value + ·)) 0

@[simp] theorem length_fixedHex (width n : Nat) : (fixedHex width n).length = width := by
  induction width generalizing n with
  | zero => rfl
  | succ width ih => simp [fixedHex, ih]

theorem hexValue?_digitChar (d : Nat) (h : d < 16) : hexValue? (Nat.digitChar d) = some d := by
  have all : ∀ d, d < 16 → hexValue? (Nat.digitChar d) = some d := by decide
  exact all d h

theorem hexNumber?_fixedHex (width n : Nat) (h : n < Nat.pow 16 width) :
    hexNumber? (fixedHex width n) = some n := by
  induction width generalizing n with
  | zero =>
    have zero : n = 0 := Nat.lt_one_iff.mp h
    subst zero
    rfl
  | succ width ih =>
    have high : n / 16 < Nat.pow 16 width := by
      rw [Nat.div_lt_iff_lt_mul (by decide)]
      exact h
    have first := ih (n / 16) high
    simp only [hexNumber?] at first
    have value : 16 * (n / 16) + n % 16 = n := by omega
    simp only [hexNumber?, fixedHex, List.foldlM_append, first, Option.bind_eq_bind,
      Option.bind_some, List.foldlM_cons, List.foldlM_nil,
      hexValue?_digitChar _ (Nat.mod_lt n (by decide : 0 < 16)), Option.map_some, value]
    rfl

end ContractLang.Text
