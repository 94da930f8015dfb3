namespace ContractLang.Toml

inductive Fault where
  | malformed
  | tooManyDigits (count : Nat)
  | tooDeep
  deriving DecidableEq, Repr

/-- What is not there breaks the rules of the format. -/
def wellFormed {α : Type} : Option α → Except Fault α
  | some a => .ok a
  | none => .error .malformed

theorem wellFormed_eq_ok_iff {α : Type} (r : Option α) (a : α) :
    wellFormed r = .ok a ↔ r = some a := by
  cases r <;> simp [wellFormed]

def maxDigits : Nat := 4300

/-- How deeply values may nest, where an array takes two levels and an inline table three. -/
def maxLevels : Nat := 987

end ContractLang.Toml
