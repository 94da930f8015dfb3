import ContractLang.Proofs.Token.Layout

namespace ContractLang

open CharSet

def Position.down (here : Position) (lines : Nat) : Position := ⟨here.line + lines, here.column⟩

/-- The same token on a line further down. -/
def Token.down (t : Token) (lines : Nat) : Token := { t with line := t.line + lines }

theorem Position.step_down (here : Position) (lines : Nat) (c : Char) :
    (here.down lines).step c = (here.step c).down lines := by
  unfold step
  split
  · simp only [down, Nat.add_right_comm]
  · rfl

theorem Position.after_concat_newline (before : List Char) :
    Position.after (before ++ ['\n']) = Position.start.down (1 + before.count '\n') := by
  rw [Position.after_concat]
  simp only [Position.after, step, if_pos, start, down, Position.mk.injEq, and_true]
  omega

theorem Rule.token?_down (rule : Rule) (here : Position) (lines : Nat) (lexeme : List Char) :
    rule.token? (here.down lines) lexeme = (rule.token? here lexeme).map (·.down lines) := by
  unfold Rule.token?
  cases rule.keep with
  | false => rfl
  | true => cases rule.kind? <;> rfl

/-- A text that starts further down has all its tokens further down. -/
theorem RuleTable.tokensFrom_down (rules : RuleTable) (here : Position) (lines pending : Nat)
    (text : List Char) :
    rules.tokensFrom (here.down lines) pending text
      = (rules.tokensFrom here pending text).map (·.down lines) := by
  induction text generalizing here pending with
  | nil => cases pending <;> rfl
  | cons c rest ih =>
    cases pending with
    | succ pending =>
      rw [tokensFrom, tokensFrom, Position.step_down, ih]
    | zero =>
      rw [tokensFrom, tokensFrom]
      cases rules.longest? (c :: rest) with
      | none => rw [Position.step_down, ih]
      | some best =>
        rcases best with ⟨rule, length⟩
        simp only [Rule.token?_down, Position.step_down, ih, List.map_append]
        cases rule.token? here ((c :: rest).take length) <;> rfl

theorem tokensAfter_concat_newline (before text : List Char) :
    tokensAfter (before ++ ['\n']) text
      = (tokenize text).map (·.down (1 + before.count '\n')) := by
  rw [tokensAfter, Position.after_concat_newline]
  exact RuleTable.tokensFrom_down _ _ _ _ _

/-- A newline, alone or behind a return. -/
inductive LineEnd : List Char → Prop
  | newline : LineEnd ['\n']
  | returned : LineEnd ['\r', '\n']

variable {ending : List Char}

theorem LineEnd.tokensAfter (ends : LineEnd ending) (before more : List Char) :
    tokensAfter before (ending ++ more) = ContractLang.tokensAfter (before ++ ['\n']) more := by
  cases ends with
  | newline => exact tokensAfter_blank (by decide) before more
  | returned =>
    rw [List.cons_append, tokensAfter_blank (by decide), List.cons_append,
      tokensAfter_blank (by decide), tokensAfter_concat_newline, tokensAfter_concat_newline]
    simp

/-- A return at the end of a line goes to the comment before it, if there is one. -/
theorem Cut.tokensAfter_gap_lineEnd {lexeme rest : List Char} (cut : Cut none lexeme rest)
    (ends : LineEnd ending) (before more : List Char) :
    ContractLang.tokensAfter before (lexeme ++ (rest ++ (ending ++ more)))
      = ContractLang.tokensAfter (before ++ lexeme) (rest ++ (ending ++ more)) := by
  cases cut with
  | blanks fills => exact (Gap.of_blanks fills _).tokensAfter before
  | @comment body _ fills stops =>
    cases rest with
    | cons c rest =>
      have stops : anyOnLine.Stops (c :: rest ++ (ending ++ more)) := stops
      exact (Cut.comment fills stops).tokensAfter before
    | nil =>
      cases ends with
      | newline => exact (Cut.comment fills ((stops_cons _ _ _).mpr (by decide))).tokensAfter before
      | returned =>
        have fills : anyOnLine.Fills (body ++ ['\r']) := by
          intro c member
          rcases List.mem_append.mp member with inBody | last
          · exact fills c inBody
          · rw [List.mem_singleton.mp last]
            decide
        have longer : Cut none ('/' :: '/' :: (body ++ ['\r'])) ('\n' :: more) :=
          .comment fills ((stops_cons _ _ _).mpr (by decide))
        have whole := longer.tokensAfter before
        rw [tokensAfter_blank (by decide), tokensAfter_concat_newline] at whole
        rw [List.nil_append, LineEnd.returned.tokensAfter, tokensAfter_concat_newline]
        simpa using whole

theorem Cut.tokensAfter_lineEnd {kind? : Option Kind} {lexeme rest more : List Char}
    (cut : Cut kind? lexeme rest) (ends : LineEnd ending)
    (quotes : kind? = some .other → lexeme = ['"'] → '"' ∉ more) (before : List Char) :
    ContractLang.tokensAfter before (lexeme ++ (rest ++ (ending ++ more)))
      = kind?.toList.map (·.tokenAfter before lexeme)
        ++ ContractLang.tokensAfter (before ++ lexeme) (rest ++ (ending ++ more)) := by
  cases kind? with
  | none => exact cut.tokensAfter_gap_lineEnd ends before more
  | some kind =>
    have quotes : kind = .other → lexeme = ['"'] → '"' ∉ more := fun other =>
      quotes (congrArg some other)
    cases ends with
    | newline => exact (cut.append_blank (by decide) quotes).tokensAfter before
    | returned =>
      have quotes : kind = .other → lexeme = ['"'] → '"' ∉ '\n' :: more := by simpa using quotes
      exact (cut.append_blank (by decide) quotes).tokensAfter before

/-- A line end ends every token, but for the string that a quotation mark without a partner becomes
    the start of when there is one later. -/
theorem tokensAfter_append_lineEnd {text more : List Char} (ends : LineEnd ending)
    (quotes : (Kind.other, "\"") ∈ shapes text → '"' ∉ more) (before : List Char) :
    tokensAfter before (text ++ (ending ++ more))
      = tokensAfter before text ++ tokensAfter (before ++ text ++ ['\n']) more := by
  induction text using shapes_induction generalizing before with
  | nil =>
    rw [List.append_nil]
    exact ends.tokensAfter before more
  | cut kind? lexeme rest cut ih =>
    rw [cut.shapes, List.mem_append, or_imp] at quotes
    rcases quotes with ⟨here, later⟩
    have mark : kind? = some .other → lexeme = ['"'] → '"' ∉ more := by
      intro other quote
      refine here ?_
      rw [other, quote]
      exact List.mem_singleton.mpr rfl
    rw [List.append_assoc lexeme, cut.tokensAfter_lineEnd ends mark, cut.tokensAfter, ih later]
    simp only [List.append_assoc]

/-- A newline between two texts keeps their tokens apart, if every quotation mark in the first one
    has its partner. The second text only moves down. -/
theorem tokenize_append_newline (first second : List Char)
    (closed : ∀ t ∈ tokenize first, t.kind = .other → t.lexeme ≠ "\"") :
    tokenize (first ++ '\n' :: second)
      = tokenize first ++ (tokenize second).map (·.down (1 + first.count '\n')) := by
  have quotes : (Kind.other, "\"") ∈ shapes first → '"' ∉ second := by
    intro member
    rcases List.mem_map.mp member with ⟨t, inside, shape⟩
    exact absurd (congrArg Prod.snd shape) (closed t inside (congrArg Prod.fst shape))
  have split := tokensAfter_append_lineEnd .newline quotes []
  rw [List.nil_append, tokensAfter_concat_newline] at split
  exact split

theorem tokenize_append_newline_of_comment :
    (∀ t ∈ tokenize "ab \"c\nd\" // \"".toList, t.kind = .other → t.lexeme ≠ "\"") ∧
    tokenize ("ab \"c\nd\" // \"".toList ++ '\n' :: "  7 \"".toList)
      = tokenize "ab \"c\nd\" // \"".toList ++ (tokenize "  7 \"".toList).map (·.down 2) := by
  have closed : ∀ t ∈ tokenize "ab \"c\nd\" // \"".toList, t.kind = .other → t.lexeme ≠ "\"" := by
    decide +kernel
  exact ⟨closed, tokenize_append_newline _ _ closed⟩

/-- A quotation mark without a partner finds one in the second text. -/
example : tokenize ("\"".toList ++ '\n' :: "\"".toList)
    ≠ tokenize "\"".toList ++ (tokenize "\"".toList).map (·.down 1) := by decide +kernel

end ContractLang
