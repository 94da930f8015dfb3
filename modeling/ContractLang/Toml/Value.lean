namespace ContractLang.Toml

structure Date where
  year : Nat
  month : Nat
  day : Nat
  deriving DecidableEq, Repr

structure Time where
  hour : Nat
  minute : Nat
  second : Nat
  microsecond : Nat
  deriving DecidableEq, Repr

/-- A float is held as it is written. The offset of a date with a time is in minutes. A table
    holds its keys in the order of their first appearance. -/
inductive Value where
  | string (s : String)
  | integer (n : Int)
  | float (written : String)
  | boolean (b : Bool)
  | date (d : Date)
  | time (t : Time)
  | dateTime (d : Date) (t : Time) (offset? : Option Int)
  | array (items : List Value)
  | table (entries : List (String × Value))

abbrev Table := List (String × Value)

namespace Table

def get? : Table → String → Option Value
  | [], _ => none
  | (name, value) :: rest, key => if name = key then some value else get? rest key

/-- Replaces the value of a key in its place, or adds the key at the end. -/
def set (key : String) (value : Value) : Table → Table
  | [] => [(key, value)]
  | (name, old) :: rest =>
    if name = key then (name, value) :: rest else (name, old) :: set key value rest

theorem get?_set (t : Table) (key other : String) (value : Value) :
    (t.set key value).get? other = if key = other then some value else t.get? other := by
  induction t with
  | nil => simp only [set, get?]
  | cons entry rest ih =>
    obtain ⟨name, old⟩ := entry
    simp only [set]
    split
    · rename_i same
      subst same
      simp only [get?]
      split <;> rfl
    · rename_i different
      simp only [get?, ih]
      split
      · rename_i found
        subst found
        rw [if_neg (fun same => different same.symm)]
      · rfl

end Table

inductive Statement where
  | pair (key : List String) (value : Value)
  | table (key : List String)
  | tableArray (key : List String)

end ContractLang.Toml
