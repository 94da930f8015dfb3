import ContractLang.Proofs.Token.Cut
import ContractLang.Proofs.Token.Segment

namespace ContractLang

open CharSet

/-- The tokens of a text that stands behind the text `before`, with their places in the whole. -/
def tokensAfter (before text : List Char) : List Token :=
  RuleTable.standard.tokensFrom (.after before) 0 text

def Kind.tokenAfter (kind : Kind) (before lexeme : List Char) : Token :=
  ⟨kind, String.ofList lexeme, (Position.after before).line, (Position.after before).column⟩

theorem tokenize_eq_tokensAfter (source : List Char) : tokenize source = tokensAfter [] source :=
  rfl

theorem Cut.ne_nil {kind? : Option Kind} {lexeme rest : List Char}
    (cut : Cut kind? lexeme rest) : lexeme ≠ [] := by
  cases cut with
  | blanks fills filled => exact filled
  | integer fills filled => exact filled
  | fraction => simp
  | _ => exact List.cons_ne_nil _ _

theorem Cut.tokensAfter {kind? : Option Kind} {lexeme rest : List Char}
    (cut : Cut kind? lexeme rest) (before : List Char) :
    tokensAfter before (lexeme ++ rest)
      = kind?.toList.map (·.tokenAfter before lexeme)
        ++ ContractLang.tokensAfter (before ++ lexeme) rest := by
  rcases cut.isLongest with ⟨rule, found, keep, ofKind⟩
  have wins := RuleTable.firstLongest_of_longest? found
  rw [ContractLang.tokensAfter, RuleTable.tokensFrom_of_firstLongest cut.ne_nil wins]
  simp only [Segment.token?, keep, ofKind]
  cases kind? <;> rfl

/-- Blanks may be taken off one by one. -/
theorem tokensAfter_blank {c : Char} (isBlank : blank.contains c = true) (before text : List Char) :
    tokensAfter before (c :: text) = tokensAfter (before ++ [c]) text := by
  rcases blank.exists_run text with ⟨run, rest, rfl, fills, stops⟩
  have longer : Cut none (c :: run) rest :=
    .blanks ((fills_cons _ _ _).mpr ⟨isBlank, fills⟩) (List.cons_ne_nil _ _) stops
  have whole := longer.tokensAfter before
  by_cases filled : run = []
  · subst filled
    exact whole
  · have later := (Cut.blanks fills filled stops).tokensAfter (before ++ [c])
    rw [List.append_assoc] at later
    exact whole.trans later.symm

end ContractLang
