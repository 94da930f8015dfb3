import Mathlib.Data.List.Basic
import ContractLang.Proofs.Token.Follow

namespace ContractLang

open CharSet

/-- Texts without quotes end at the first quote. -/
theorem append_inj_at_quote {text text' rest rest' : List Char} (plain : '"' ∉ text)
    (plain' : '"' ∉ text') (same : text ++ '"' :: rest = text' ++ '"' :: rest') :
    text = text' ∧ rest = rest' := by
  have place := congrArg (List.idxOf '"') same
  rw [List.idxOf_append_of_notMem plain, List.idxOf_append_of_notMem plain', List.idxOf_cons_self,
    List.idxOf_cons_self] at place
  rcases List.append_inj same place with ⟨texts, rests⟩
  exact ⟨texts, (List.cons.inj rests).2⟩

theorem Cut.quote_not_mem {kind : Kind} {lexeme rest : List Char}
    (cut : Cut (some kind) lexeme rest) (word : kind = .identifier ∨ kind = .number) :
    '"' ∉ lexeme := by
  cases cut with
  | identifier starts fills =>
    have first := ne_of_contains starts (show letter.contains '"' = false by decide)
    have others := fills.not_mem '"' (by decide)
    simp [first.symm, others]
  | integer fills => exact fills.not_mem '"' (by decide)
  | fraction fills _ placesFill =>
    have whole := fills.not_mem '"' (by decide)
    have places := placesFill.not_mem '"' (by decide)
    simp [whole, places]
  | string | scope | symbol => rcases word with same | same <;> cases same

/-- A lexeme between quotes can be told from what comes after it if its kind is known, although a
    string brings quotes of its own and a single quote is a lexeme too. -/
theorem Cut.append_quote_inj {kind : Kind} {lexeme lexeme' rest rest' : List Char}
    (cut : Cut (some kind) lexeme []) (cut' : Cut (some kind) lexeme' [])
    (same : lexeme ++ '"' :: rest = lexeme' ++ '"' :: rest') : lexeme = lexeme' ∧ rest = rest' := by
  cases kind with
  | identifier =>
    have plain := cut.quote_not_mem (.inl rfl)
    exact append_inj_at_quote plain (cut'.quote_not_mem (.inl rfl)) same
  | number =>
    have plain := cut.quote_not_mem (.inr rfl)
    exact append_inj_at_quote plain (cut'.quote_not_mem (.inr rfl)) same
  | string =>
    cases cut with
    | @string body _ fills =>
    cases cut' with
    | @string body' _ fills' =>
      have plain := fills.not_mem '"' (by decide)
      have plain' := fills'.not_mem '"' (by decide)
      have bodies : body ++ '"' :: ('"' :: rest) = body' ++ '"' :: ('"' :: rest') := by
        simpa using same
      rcases append_inj_at_quote plain plain' bodies with ⟨rfl, rests⟩
      exact ⟨rfl, (List.cons.inj rests).2⟩
  | other =>
    cases cut with
    | scope =>
      cases cut' with
      | scope => exact ⟨rfl, by simpa using same⟩
      | symbol => simp at same
    | symbol =>
      cases cut' with
      | scope => simp at same
      | symbol => simpa using same

theorem Kind.title_append_inj {kind kind' : Kind} {rest rest' : String}
    (same : kind.title ++ rest = kind'.title ++ rest') : kind = kind' ∧ rest = rest' := by
  have letters := congrArg String.toList same
  cases kind <;> cases kind'
  all_goals first
    | exact ⟨rfl, (String.append_right_inj _).mp same⟩
    | simp [Kind.title] at letters

/-- A token with its kind and between quotes can be told from whatever comes after it. -/
theorem Token.listing_append_inj {t u : Token} (first : t.IsCut) (second : u.IsCut)
    (rest rest' : String) :
    t.listing ++ rest = u.listing ++ rest' ↔ t.shape = u.shape ∧ rest = rest' := by
  constructor
  · intro same
    rw [listing, listing] at same
    simp only [String.append_assoc] at same
    rcases Kind.title_append_inj same with ⟨kind, quoted⟩
    have opened := (String.append_right_inj _).mp quoted
    have lexemes : t.lexeme.toList ++ '"' :: rest.toList
        = u.lexeme.toList ++ '"' :: rest'.toList := by
      simpa using congrArg String.toList opened
    rw [IsCut, kind] at first
    rcases first.append_quote_inj second lexemes with ⟨lexeme, after⟩
    exact ⟨Prod.ext kind (String.toList_inj.mp lexeme), String.toList_inj.mp after⟩
  · rintro ⟨same, rfl⟩
    have kind : t.kind = u.kind := congrArg Prod.fst same
    have lexeme : t.lexeme = u.lexeme := congrArg Prod.snd same
    rw [listing, listing, kind, lexeme]

/-- The lines of tokens of which the first one has this number. -/
def listTokensFrom (start : Nat) (tokens : List Token) : List String :=
  (tokens.zipIdx start).map fun (t, position) => toString position ++ ": " ++ t.listing

theorem listTokensFrom_cons (start : Nat) (t : Token) (rest : List Token) :
    listTokensFrom start (t :: rest)
      = (toString start ++ ": " ++ t.listing) :: listTokensFrom (start + 1) rest := by
  rw [listTokensFrom, List.zipIdx_cons]
  rfl

end ContractLang
