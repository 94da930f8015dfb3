import ContractLang.Cursor

namespace ContractLang

/-- How reading a declaration went: what has been built of it, which stays after an error, what
    has been traced, and where reading goes on or why it stopped. -/
structure Attempt (α : Type) where
  built : α
  trace : List String
  outcome : Except SyntaxError Cursor

namespace Attempt

def failed (built : α) (trace : List String) (e : SyntaxError) : Attempt α :=
  ⟨built, trace, .error e⟩

def done (built : α) (trace : List String) (next : Cursor) : Attempt α := ⟨built, trace, .ok next⟩

def followedBy (first : Attempt (List α)) (rest : Attempt (List α)) : Attempt (List α) :=
  ⟨first.built ++ rest.built, first.trace ++ rest.trace, rest.outcome⟩

end Attempt
end ContractLang
