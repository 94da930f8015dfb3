import ContractLang.Text.Utf8

namespace ContractLang.Text.Utf8

theorem toNat_trailByte (n : Nat) : (trailByte n).toNat = 0x80 + n % 64 := by
  rw [trailByte, UInt8.toNat_ofNat']
  omega

theorem lead_eq (b : UInt8) :
    lead b =
      if b.toNat < 0x80 then .whole b.toNat
      else if b.toNat < 0xC2 then .invalid
      else if b.toNat < 0xE0 then .opens (b.toNat - 0xC0) 1 0x80 0xBF
      else if b.toNat = 0xE0 then .opens 0 2 0xA0 0xBF
      else if b.toNat = 0xED then .opens 13 2 0x80 0x9F
      else if b.toNat < 0xF0 then .opens (b.toNat - 0xE0) 2 0x80 0xBF
      else if b.toNat = 0xF0 then .opens 0 3 0x90 0xBF
      else if b.toNat < 0xF4 then .opens (b.toNat - 0xF0) 3 0x80 0xBF
      else if b.toNat = 0xF4 then .opens 4 3 0x80 0x8F
      else .invalid := by
  simp only [lead, UInt8.lt_iff_toNat_lt, ← UInt8.toNat_inj, UInt8.reduceToNat]

theorem toNat_ofNat_of_lt {n : Nat} (small : n < 256) : (UInt8.ofNat n).toNat = n := by
  rw [UInt8.toNat_ofNat']
  exact Nat.mod_eq_of_lt small

theorem lead_of_two {n : Nat} (low : 2 ≤ n) (high : n < 32) :
    lead (UInt8.ofNat (0xC0 + n)) = .opens n 1 0x80 0xBF := by
  rw [lead_eq, toNat_ofNat_of_lt (by omega), if_neg (by omega), if_neg (by omega),
    if_pos (by omega), Nat.add_sub_cancel_left]

theorem lead_of_three {n : Nat} (high : n < 16) :
    lead (UInt8.ofNat (0xE0 + n)) =
      .opens n 2 (if n = 0 then 0xA0 else 0x80) (if n = 13 then 0x9F else 0xBF) := by
  by_cases zero : n = 0
  · subst zero
    rfl
  · by_cases surrogates : n = 13
    · subst surrogates
      rfl
    · rw [lead_eq, toNat_ofNat_of_lt (by omega), if_neg (by omega), if_neg (by omega),
        if_neg (by omega), if_neg (by omega), if_neg (by omega), if_pos (by omega),
        Nat.add_sub_cancel_left, if_neg zero, if_neg surrogates]

theorem lead_of_four {n : Nat} (high : n < 5) :
    lead (UInt8.ofNat (0xF0 + n)) =
      .opens n 3 (if n = 0 then 0x90 else 0x80) (if n = 4 then 0x8F else 0xBF) := by
  by_cases zero : n = 0
  · subst zero
    rfl
  · by_cases last : n = 4
    · subst last
      rfl
    · rw [lead_eq, toNat_ofNat_of_lt (by omega), if_neg (by omega), if_neg (by omega),
        if_neg (by omega), if_neg (by omega), if_neg (by omega), if_neg (by omega),
        if_neg (by omega), if_pos (by omega), Nat.add_sub_cancel_left, if_neg zero, if_neg last]

theorem decodeFrom_lead {b : UInt8} {value due : Nat} {least greatest : UInt8}
    (opens : lead b = .opens value due least greatest) (position : Nat) (rest : List UInt8) :
    decodeFrom position none (b :: rest)
      = decodeFrom (position + 1) (some ⟨position, [b], value, due, least, greatest⟩) rest := by
  rw [decodeFrom, opens]

/-- The byte that writes the last six bits of a number lies in this range. -/
def InRange (least greatest : UInt8) (n : Nat) : Prop :=
  least.toNat ≤ 0x80 + n % 64 ∧ 0x80 + n % 64 ≤ greatest.toNat

theorem inRange_whole (n : Nat) : InRange 0x80 0xBF n := by
  show 0x80 ≤ 0x80 + n % 64 ∧ 0x80 + n % 64 ≤ 0xBF
  omega

section
variable {start value n : Nat} {bytes rest : List UInt8} {least greatest : UInt8}

theorem InRange.within (inRange : InRange least greatest n) :
    least ≤ trailByte n ∧ trailByte n ≤ greatest := by
  rw [UInt8.le_iff_toNat_le, UInt8.le_iff_toNat_le, toNat_trailByte]
  exact inRange

theorem decodeFrom_trail (due position : Nat) (inRange : InRange least greatest n) :
    decodeFrom position (some ⟨start, bytes, value, due + 2, least, greatest⟩) (trailByte n :: rest)
      = decodeFrom (position + 1)
          (some ⟨start, bytes ++ [trailByte n], 64 * value + n % 64, due + 1, 0x80, 0xBF⟩) rest := by
  have more : ¬ due + 2 ≤ 1 := by omega
  have digits : (0x80 + n % 64) % 64 = n % 64 := by omega
  simp only [decodeFrom, if_pos inRange.within, if_neg more, toNat_trailByte, digits,
    Nat.add_one_sub_one]

theorem decodeFrom_last (position : Nat) (inRange : InRange least greatest n) :
    decodeFrom position (some ⟨start, bytes, value, 1, least, greatest⟩) (trailByte n :: rest)
      = (decodeFrom (position + 1) none rest).map (Char.ofNat (64 * value + n % 64) :: ·) := by
  have digits : (0x80 + n % 64) % 64 = n % 64 := by omega
  simp only [decodeFrom, if_pos inRange.within, Nat.le_refl, if_true, toNat_trailByte, digits]

end

section
variable {n : Nat} (position : Nat) (rest : List UInt8)

theorem decodeFrom_one (high : n < 0x80) :
    decodeFrom position none (UInt8.ofNat n :: rest)
      = (decodeFrom (position + 1) none rest).map (Char.ofNat n :: ·) := by
  rw [decodeFrom, lead_eq, toNat_ofNat_of_lt (by omega), if_pos high]

theorem decodeFrom_two (low : 0x80 ≤ n) (high : n < 0x800) :
    decodeFrom position none (UInt8.ofNat (0xC0 + n / 64) :: trailByte n :: rest)
      = (decodeFrom (position + 2) none rest).map (Char.ofNat n :: ·) := by
  have value : 64 * (n / 64) + n % 64 = n := by omega
  rw [decodeFrom_lead (lead_of_two (by omega) (by omega)), decodeFrom_last _ (inRange_whole n), value]

/-- The second byte keeps clear of the surrogates and of what two bytes can write. -/
theorem decodeFrom_three (low : 0x800 ≤ n) (high : n < 0x10000)
    (scalar : n < 0xD800 ∨ 0xDFFF < n) :
    decodeFrom position none
        (UInt8.ofNat (0xE0 + n / 4096) :: trailByte (n / 64) :: trailByte n :: rest)
      = (decodeFrom (position + 3) none rest).map (Char.ofNat n :: ·) := by
  have value : 64 * (64 * (n / 4096) + n / 64 % 64) + n % 64 = n := by omega
  have second : InRange (if n / 4096 = 0 then 0xA0 else 0x80)
      (if n / 4096 = 13 then 0x9F else 0xBF) (n / 64) := by
    unfold InRange
    split <;> split <;> simp only [UInt8.reduceToNat] <;> omega
  rw [decodeFrom_lead (lead_of_three (by omega)), decodeFrom_trail 0 _ second,
    decodeFrom_last _ (inRange_whole n), value]

/-- The second byte keeps clear of what three bytes can write and of what lies beyond the last
    character. -/
theorem decodeFrom_four (low : 0x10000 ≤ n) (high : n < 0x110000) :
    decodeFrom position none
        (UInt8.ofNat (0xF0 + n / 262144) :: trailByte (n / 4096) :: trailByte (n / 64)
          :: trailByte n :: rest)
      = (decodeFrom (position + 4) none rest).map (Char.ofNat n :: ·) := by
  have value : 64 * (64 * (64 * (n / 262144) + n / 4096 % 64) + n / 64 % 64) + n % 64 = n := by
    omega
  have second : InRange (if n / 262144 = 0 then 0x90 else 0x80)
      (if n / 262144 = 4 then 0x8F else 0xBF) (n / 4096) := by
    unfold InRange
    split <;> split <;> simp only [UInt8.reduceToNat] <;> omega
  rw [decodeFrom_lead (lead_of_four (by omega)), decodeFrom_trail 1 _ second,
    decodeFrom_trail 0 _ (inRange_whole (n / 64)), decodeFrom_last _ (inRange_whole n), value]

theorem decodeFrom_encodeChar (c : Char) :
    decodeFrom position none (encodeChar c ++ rest)
      = (decodeFrom (position + (encodeChar c).length) none rest).map (c :: ·) := by
  have back : Char.ofNat c.toNat = c := Char.ofNat_toNat c
  have valid : c.toNat < 0xD800 ∨ 0xDFFF < c.toNat ∧ c.toNat < 0x110000 := c.valid
  unfold encodeChar
  by_cases one : c.toNat < 0x80
  · rw [if_pos one]
    have run := decodeFrom_one position rest one
    rw [back] at run
    exact run
  · by_cases two : c.toNat < 0x800
    · rw [if_neg one, if_pos two]
      have run := decodeFrom_two position rest (by omega) two
      rw [back] at run
      exact run
    · by_cases three : c.toNat < 0x10000
      · rw [if_neg one, if_neg two, if_pos three]
        have run := decodeFrom_three position rest (by omega) three (by omega)
        rw [back] at run
        exact run
      · rw [if_neg one, if_neg two, if_neg three]
        have run := decodeFrom_four position rest (by omega) (by omega : c.toNat < 0x110000)
        rw [back] at run
        exact run

end

theorem decode_encode (cs : List Char) : decode (encode cs) = .ok cs := by
  have anywhere : ∀ position, decodeFrom position none (encode cs) = .ok cs := by
    induction cs with
    | nil => exact fun _ => rfl
    | cons c cs ih =>
      intro position
      rw [encode, List.flatMap_cons, decodeFrom_encodeChar, ← encode, ih]
      rfl
  exact anywhere 0

end ContractLang.Text.Utf8
