namespace ContractLang

/-- A path in its normal form: up to two slashes in front, then names of which none is empty or a
    single dot. -/
structure Path where
  slashes : Nat
  names : List String
  deriving DecidableEq, Repr

namespace Path

def splitSlashes : List Char → List (List Char)
  | [] => [[]]
  | c :: rest =>
    match c == '/', splitSlashes rest with
    | true, parts => [] :: parts
    | false, part :: parts => (c :: part) :: parts
    | false, [] => [[c]]

/-- Three slashes in front or more mean the same as one. -/
def ofString (s : String) : Path :=
  let leading := (s.toList.takeWhile (· == '/')).length
  let parts := (splitSlashes s.toList).filter fun part => part != [] && part != ['.']
  ⟨if leading > 2 then 1 else leading, parts.map String.ofList⟩

def isAbsolute (p : Path) : Bool := p.slashes != 0

def text (p : Path) : String :=
  if p.slashes = 0 ∧ p.names = [] then "."
  else String.ofList (List.replicate p.slashes '/') ++ "/".intercalate p.names

end Path
end ContractLang
