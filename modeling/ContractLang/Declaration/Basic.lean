import ContractLang.Text.Quoted

namespace ContractLang

/-- A method. A set flag says that no body is given: the method has to be supplied, or has a
    default. The attributes are in the order in which they were read. -/
structure Method where
  returnType : String
  name : String
  arguments : String
  attributes : List String
  body : String
  isRequired : Bool
  isDefault : Bool
  deriving DecidableEq, Repr

def Method.declared (returnType name : String) : Method :=
  ⟨returnType, name, "", [], "", false, false⟩

inductive Member where
  | associatedType (name value : String)
  | data (type name initial : String)
  | method (m : Method)
  deriving DecidableEq, Repr

/-- Members are in the order of their declaration. -/
structure Contract where
  name : String
  base : String
  members : List Member
  deriving DecidableEq, Repr

/-- Inserts a name into names in increasing order, unless it is one of them. -/
def insertName (name : String) : List String → List String
  | [] => [name]
  | other :: rest =>
    if name < other then name :: other :: rest
    else if name = other then other :: rest
    else other :: insertName name rest

/-- The names in increasing order of their code points, each of them once. -/
def sortNames (names : List String) : List String := names.foldr insertName []

def joinNames (names : List String) : String := " ".intercalate (sortNames names)

theorem mem_insertName (name x : String) (names : List String) :
    x ∈ insertName name names ↔ x = name ∨ x ∈ names := by
  induction names with
  | nil => simp [insertName]
  | cons other rest ih =>
    unfold insertName
    split
    · simp
    · split
      · rename_i same
        subst same
        simp
      · simp only [List.mem_cons, ih]
        exact or_left_comm

theorem mem_sortNames (x : String) (names : List String) : x ∈ sortNames names ↔ x ∈ names := by
  induction names with
  | nil => simp [sortNames]
  | cons name rest ih =>
    simp only [sortNames, List.foldr_cons, List.mem_cons, mem_insertName] at ih ⊢
    rw [ih]

end ContractLang
