import ContractLang.Token.Lexer

namespace ContractLang

/-- A token without its place. -/
def Token.shape (t : Token) : Kind × String := (t.kind, t.lexeme)

theorem Rule.shape_token? (rule : Rule) (here there : Position) (lexeme : List Char) :
    (rule.token? here lexeme).toList.map Token.shape
      = (rule.token? there lexeme).toList.map Token.shape := by
  unfold Rule.token?
  cases rule.keep with
  | false => rfl
  | true => cases rule.kind? <;> rfl

namespace RuleTable

variable {rule : Rule} {rules : RuleTable} {text : List Char}

theorem longest?_cons_of_none (missing : rule.reach text = none) :
    longest? (rule :: rules) text = rules.longest? text := by
  rw [longest?, missing]

theorem reach_of_longest? {n : Nat} (h : rules.longest? text = some (rule, n)) :
    rule ∈ rules ∧ rule.reach text = some n ∧ 0 < n := by
  induction rules with
  | nil => cases h
  | cons first others ih =>
    have later : longest? others text = some (rule, n) →
        rule ∈ first :: others ∧ rule.reach text = some n ∧ 0 < n := by
      intro found
      rcases ih found with ⟨member, reach⟩
      exact ⟨List.mem_cons_of_mem _ member, reach⟩
    unfold longest? at h
    split at h
    · exact later h
    · exact later h
    · rename_i m reach
      split at h
      · rename_i other k found
        split at h
        · cases h
          exact later found
        · cases h
          exact ⟨List.mem_cons_self .., reach, Nat.succ_pos m⟩
      · cases h
        exact ⟨List.mem_cons_self .., reach, Nat.succ_pos m⟩

theorem longest?_cons_of_some {n : Nat} (wins : rule.reach text = some n) (filled : 0 < n)
    (later : ∀ other ∈ rules, ∀ m, other.reach text = some m → m ≤ n) :
    longest? (rule :: rules) text = some (rule, n) := by
  obtain ⟨k, rfl⟩ : ∃ k, n = k + 1 := ⟨n - 1, by omega⟩
  rw [longest?, wins]
  cases found : rules.longest? text with
  | none => rfl
  | some best =>
    rcases best with ⟨other, m⟩
    rcases reach_of_longest? found with ⟨member, reach, _⟩
    have bound := later other member m reach
    simp only [if_neg (Nat.not_lt.mpr bound)]

theorem shapes_tokensFrom (rules : RuleTable) (here there : Position) (pending : Nat)
    (text : List Char) :
    (rules.tokensFrom here pending text).map Token.shape
      = (rules.tokensFrom there 0 (text.drop pending)).map Token.shape := by
  induction text generalizing here there pending with
  | nil =>
    rw [List.drop_nil]
    cases pending <;> rfl
  | cons c rest ih =>
    cases pending with
    | succ pending =>
      rw [tokensFrom, List.drop_succ_cons]
      exact ih _ _ _
    | zero =>
      rw [List.drop_zero, tokensFrom, tokensFrom]
      cases rules.longest? (c :: rest) with
      | none => exact (ih _ there 0).trans (ih _ there 0).symm
      | some best =>
        rcases best with ⟨rule, length⟩
        have first := rule.shape_token? here there ((c :: rest).take length)
        simp only [List.map_append, first]
        rw [ih (here.step c) there (length - 1), ih (there.step c) there (length - 1)]

end RuleTable
end ContractLang
