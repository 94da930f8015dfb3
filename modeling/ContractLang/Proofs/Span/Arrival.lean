import ContractLang.Proofs.Cursor.Passage
import ContractLang.Proofs.Span.Enclosed
import ContractLang.Proofs.Span.Lookahead
import ContractLang.Proofs.Span.Nesting
import ContractLang.Proofs.Span.TypeForm

namespace ContractLang

namespace Cursor

/-- Where a reader that starts at `c` ends: it goes on from a cursor ahead of `c`, or complains
    about the token that is next there. -/
inductive Arrives (c : Cursor) : Except SyntaxError Cursor → Prop
  | passed {span : List Token} {d : Cursor} (pass : c.Passes span d) : Arrives c (.ok d)
  | refused {span : List Token} {d : Cursor} {e : SyntaxError} (pass : c.Passes span d)
      (place : e.place = d.place) : Arrives c (.error e)

section Rules

variable {c d : Cursor} {e : SyntaxError} {outcome : Except SyntaxError Cursor}

theorem Arrives.refusal (c : Cursor) (complaint : Complaint) :
    c.Arrives (.error ⟨complaint, c.place⟩) := .refused (.refl c) rfl

theorem Arrives.here (c : Cursor) : c.Arrives (.ok c) := .passed (.refl c)

theorem Arrives.exists_passes (arrives : c.Arrives (.ok d)) : ∃ span, c.Passes span d := by
  cases arrives with
  | passed pass => exact ⟨_, pass⟩

theorem Arrives.after (first : c.Arrives (.ok d)) (rest : d.Arrives outcome) :
    c.Arrives outcome := by
  rcases first.exists_passes with ⟨span, pass⟩
  cases rest with
  | passed later => exact .passed (pass.trans later)
  | refused later place => exact .refused (pass.trans later) place

theorem arrives_next {t : Token} (found : c.place.token? = some t) : c.Arrives (.ok c.next) :=
  .passed (passes_next found)

theorem arrives_of_symbol? {symbol : Char} (found : c.symbol? = some symbol) :
    c.Arrives (.ok c.next) := by
  rcases exists_token_of_symbol? found with ⟨t, next⟩
  exact arrives_next next

theorem arrives_passIdentifier (c : Cursor) (complaint : Complaint) :
    c.Arrives (c.passIdentifier complaint) := by
  cases identifier : c.isIdentifier with
  | true =>
    rcases exists_token_of_isKind identifier with ⟨t, found⟩
    rw [passIdentifier_of_isIdentifier identifier]
    exact arrives_next found
  | false =>
    rw [passIdentifier_of_not identifier]
    exact .refusal c complaint

theorem arrives_passSymbol (c : Cursor) (symbol : Char) (complaint : Complaint) :
    c.Arrives (c.passSymbol symbol complaint) := by
  by_cases found : c.symbol? = some symbol
  · rw [passSymbol_of_symbol? found]
    exact arrives_of_symbol? found
  · rw [passSymbol_of_not found]
    exact .refusal c complaint

theorem arrives_skipSymbol (c : Cursor) (symbol : Char) : c.Arrives (.ok (c.skipSymbol symbol)) := by
  rcases passes_skipSymbol c symbol with ⟨span, pass, -⟩
  exact .passed pass

theorem arrives_skipLexeme (c : Cursor) {word : String} (filled : word ≠ "") :
    c.Arrives (.ok (c.skipLexeme word)) := by
  rcases settles_skipLexeme word filled c with ⟨span, pass, -⟩
  exact .passed pass

end Rules
end Cursor

open Cursor

/-- A scan fails at an opening from before its start, or at a token that it has come to. -/
theorem place_of_stretchFrom {mode : ScanMode} {opened : List Opening} {position : Nat}
    {ahead : List Token} {e : SyntaxError}
    (failed : stretchFrom mode opened position ahead = .error e) :
    (∃ o ∈ opened, e = o.unclosed) ∨ Arrives ⟨position, ahead⟩ (.error e) := by
  induction ahead generalizing opened position with
  | nil =>
    cases opened with
    | nil => cases failed
    | cons o outer =>
      cases failed
      exact .inl ⟨o, List.mem_cons_self .., rfl⟩
  | cons t rest ih =>
    have forward : Arrives ⟨position, t :: rest⟩ (.ok ⟨position + 1, rest⟩) :=
      .passed (show Passes _ [t] _ from ⟨rfl, rfl⟩)
    rcases scan_cases mode opened position t rest with
      ⟨next, step⟩ | ⟨s, stop⟩ | ⟨bracket, o, clash⟩
    · rw [step.stretchFrom] at failed
      -- An opening that is left unclosed was open before, or is the token just passed.
      rcases ih (map_eq_error failed) with ⟨o, member, rfl⟩ | later
      · rcases step.mem member with before | ⟨-, -, same⟩
        · exact .inl ⟨o, before, rfl⟩
        · refine .inr (.refused (.refl _) ?_)
          rw [same]
          rfl
      · exact .inr (forward.after later)
    · rw [stop.stretchFrom] at failed
      cases failed
    · rw [clash.stretchFrom] at failed
      cases failed
      exact .inr (.refused (.refl _) rfl)

namespace Cursor

theorem arrives_code (c : Cursor) (mode : ScanMode) :
    c.Arrives ((c.code mode).map Stretch.next) := by
  rcases ran : c.code mode with e | s
  · rcases place_of_stretchFrom ran with ⟨o, member, -⟩ | arrives
    · cases member
    · exact arrives
  · rcases exists_passes_of_code ran with ⟨span, pass⟩
    exact .passed pass

theorem arrives_statement (c : Cursor) (complaint : Complaint) :
    c.Arrives ((c.statement complaint).map Stretch.next) := by
  have code := c.arrives_code .statement
  rw [statement]
  rcases ran : c.code .statement with e | s
  · rw [ran] at code
    exact code
  · rw [ran] at code
    simp only
    split
    · split
      · exact .refusal c _
      · exact code
    · exact code.after (.refusal s.next complaint)

theorem arrives_typeArguments (c : Cursor) : c.Arrives c.typeArguments := by
  unfold typeArguments
  split
  · rename_i opens
    have inside := (arrives_of_symbol? opens).after (c.next.arrives_code .generic)
    rcases ran : c.next.code .generic with e | arguments
    · rw [ran] at inside
      exact inside
    · rw [ran] at inside
      exact inside.after (arrives_passSymbol _ _ _)
  · exact .here c

theorem arrives_typeComponent (c : Cursor) : c.Arrives c.typeComponent := by
  have words : c.Arrives (.ok c.componentName) :=
    (c.arrives_skipLexeme (by decide)).after (arrives_skipLexeme _ (by decide))
  have name := words.after (c.componentName.arrives_passIdentifier
    (.typeExpected c.componentName.lexeme))
  unfold typeComponent
  split
  · rename_i e refused
    rw [refused] at name
    exact name
  · rename_i d passed
    rw [passed] at name
    exact name.after d.arrives_typeArguments

theorem arrives_typeComponents (c : Cursor) : c.Arrives c.typeComponents := by
  have first := c.arrives_typeComponent
  rcases ran : c.typeComponent with e | d
  · rw [typeComponents_of_error ran]
    rw [ran] at first
    exact first
  · rw [typeComponents_of_ok ran]
    rw [ran] at first
    split
    · rename_i scope
      rcases exists_token_of_lexeme scope (by decide) with ⟨t, found⟩
      have shorter := ahead_length_lt_of_typeComponent c d ran
      have later := ahead_next_length_le d
      exact first.after ((arrives_next found).after d.next.arrives_typeComponents)
    · exact first
termination_by c.ahead.length

theorem arrives_typeName (c : Cursor) : c.Arrives (c.typeName.map TypeSpan.next) := by
  have const := c.arrives_skipLexeme (show "const" ≠ "" by decide)
  have path := const.after (arrives_typeComponents _)
  rw [typeName]
  rcases ran : (c.skipLexeme "const").typeComponents with e | d
  · rw [ran] at path
    exact path
  · rw [ran] at path
    exact path.after ((d.arrives_skipSymbol '&').after (arrives_skipSymbol _ '*'))

end Cursor
end ContractLang
