import ContractLang.Proofs.Toml.Section

namespace ContractLang.Toml

/-- The nine so many times. -/
def nines (count : Nat) : List Char := List.replicate count '9'

theorem digitsAhead_nines (count : Nat) (rest : List Char) :
    digitsAhead isDecimal (nines count ++ '\n' :: rest) = (nines count, '\n' :: rest) := by
  induction count with
  | zero => cases rest <;> rfl
  | succ count ih =>
    have first : nines (count + 1) ++ '\n' :: rest = '9' :: (nines count ++ '\n' :: rest) := rfl
    rw [first, digitsAhead, ih]
    · rfl
    · nofun

theorem decimal?_nines (count : Nat) (rest : List Char) :
    decimal? (nines (count + 1) ++ '\n' :: rest)
      = some (⟨[], nines (count + 1), [], []⟩, '\n' :: rest) := by
  have run : digitRun? isDecimal (nines (count + 1) ++ '\n' :: rest)
      = some (nines (count + 1), '\n' :: rest) := by
    have digits := congrArg some (digitsAhead_nines (count + 1) rest)
    exact digits
  have whole : wholePart? (nines (count + 1) ++ '\n' :: rest)
      = some (nines (count + 1), '\n' :: rest) := run
  have sign : signAhead (nines (count + 1) ++ '\n' :: rest)
      = ([], nines (count + 1) ++ '\n' :: rest) := rfl
  simp only [decimal?, sign, whole]
  rfl

theorem value_nines (count : Nat) (rest : List Char) :
    value (nines (count + 5) ++ '\n' :: rest)
      = (Decimal.value ⟨[], nines (count + 5), [], []⟩).map (·, '\n' :: rest) := by
  have noBoolean : boolean? (nines (count + 5) ++ '\n' :: rest) = none := rfl
  have noMoment : moment? (nines (count + 5) ++ '\n' :: rest) = none := rfl
  have noBase : based? (nines (count + 5) ++ '\n' :: rest) = none := rfl
  have number : number (nines (count + 5) ++ '\n' :: rest)
      = (Decimal.value ⟨[], nines (count + 5), [], []⟩).map (·, '\n' :: rest) := by
    simp only [Toml.number, noBase, decimal?_nines]
  have scalar : scalar (nines (count + 5) ++ '\n' :: rest)
      = (Decimal.value ⟨[], nines (count + 5), [], []⟩).map (·, '\n' :: rest) := by
    rw [Toml.scalar]
    · simp only [noBoolean, noMoment, number]
      rfl
    · intro _ same
      cases same
    · intro _ same
      cases same
  rw [← scalar, value, valueWithin]
  · intro _ same
    cases same
  · intro _ same
    cases same

theorem Decimal.value_whole (whole : List Char) : Decimal.value ⟨[], whole, [], []⟩
    = if whole.length ≤ maxDigits then .ok (.integer (valueInBase 10 whole))
      else .error (.tooManyDigits whole.length) := rfl

theorem starts_nines (count : Nat) : ∀ c ∈ (nines count).head?, isBlank c = false := by
  intro c member
  cases count with
  | zero => cases member
  | succ count =>
    cases member
    rfl

theorem return_not_mem_nines (count : Nat) : '\r' ∉ nines count := by
  intro member
  cases List.eq_of_mem_replicate member

/-- A number within the limit of digits is an integer. -/
theorem exists_writes_nines {count : Nat} (within : count + 5 ≤ maxDigits) :
    ∃ n, Writes (nines (count + 5)) (.integer n) := by
  have size : (nines (count + 5)).length ≤ maxDigits := by simpa [nines] using within
  refine ⟨valueInBase 10 (nines (count + 5)), starts_nines _, rfl, return_not_mem_nines _, ?_⟩
  intro rest
  rw [value_nines, Decimal.value_whole, if_pos size]
  rfl

theorem value_nines_of_many {count : Nat} (many : maxDigits < count + 5) (rest : List Char) :
    value (nines (count + 5) ++ '\n' :: rest) = .error (.tooManyDigits (count + 5)) := by
  have size : (nines (count + 5)).length = count + 5 := List.length_replicate
  rw [value_nines, Decimal.value_whole, size, if_neg (by omega)]
  rfl

end ContractLang.Toml
