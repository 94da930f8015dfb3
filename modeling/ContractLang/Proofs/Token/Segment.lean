import ContractLang.Proofs.Token.Longest
import ContractLang.Token.Standard

namespace ContractLang

namespace RuleTable

variable {rules : RuleTable} {rule : Rule} {text : List Char} {n : Nat}

/-- No rule of the table matches more at the start of the text, and no rule above this one matches
    as much. -/
inductive FirstLongest (text : List Char) (n : Nat) : RuleTable → Rule → Prop
  | mk {above below : RuleTable} {rule : Rule} (reach : rule.reach text = some n)
      (first : ∀ other ∈ above, ∀ m, other.reach text = some m → m < n)
      (longest : ∀ other ∈ below, ∀ m, other.reach text = some m → m ≤ n) :
      FirstLongest text n (above ++ rule :: below) rule

theorem FirstLongest.le (wins : FirstLongest text n rules rule) :
    ∀ other ∈ rules, ∀ m, other.reach text = some m → m ≤ n := by
  rcases wins with ⟨reach, first, longest⟩
  intro other member m found
  rcases List.mem_append.mp member with inAbove | member
  · exact Nat.le_of_lt (first other inAbove m found)
  · rcases List.mem_cons.mp member with rfl | inBelow
    · exact Nat.le_of_eq (Option.some.inj (found.symm.trans reach))
    · exact longest other inBelow m found

theorem FirstLongest.below {other : Rule} (less : ∀ m, other.reach text = some m → m < n)
    (wins : FirstLongest text n rules rule) : FirstLongest text n (other :: rules) rule := by
  rcases wins with @⟨above, below, _, reach, first, longest⟩
  refine @FirstLongest.mk text n (other :: above) below rule reach ?_ longest
  exact List.forall_mem_cons.mpr ⟨less, first⟩

theorem longest?_eq_none_iff :
    rules.longest? text = none ↔ ∀ rule ∈ rules, ∀ n, rule.reach text = some n → n = 0 := by
  induction rules with
  | nil => simp [longest?]
  | cons other rules ih =>
    rw [List.forall_mem_cons, longest?]
    split
    · rename_i missing
      simp [missing, ih]
    · rename_i empty
      simp [empty, ih]
    · rename_i m reach
      have found : ¬ ∀ n, other.reach text = some n → n = 0 := fun none => by cases none _ reach
      split
      · split <;> simp [found]
      · simp [found]

theorem firstLongest_of_longest? (h : rules.longest? text = some (rule, n)) :
    FirstLongest text n rules rule := by
  induction rules generalizing rule n with
  | nil => cases h
  | cons first rules ih =>
    have positive := (reach_of_longest? h).2.2
    rw [longest?] at h
    split at h
    · rename_i missing
      exact (ih h).below fun m found => by cases missing.symm.trans found
    · rename_i empty
      exact (ih h).below fun m found => by cases empty.symm.trans found; exact positive
    · rename_i k reach
      have wins : (∀ other ∈ rules, ∀ m, other.reach text = some m → m ≤ k + 1) →
          FirstLongest text (k + 1) (first :: rules) first :=
        @FirstLongest.mk text (k + 1) [] rules first reach (List.forall_mem_nil _)
      split at h
      · rename_i best m later
        split at h
        · rename_i more
          cases h
          exact (ih later).below fun j found => by cases reach.symm.trans found; exact more
        · rename_i noMore
          cases h
          exact wins fun other member j found =>
            Nat.le_trans ((ih later).le other member j found) (Nat.le_of_not_lt noMore)
      · rename_i none
        cases h
        refine wins fun other member j found => ?_
        rw [longest?_eq_none_iff.mp none other member j found]
        exact Nat.zero_le _

theorem longest?_of_firstLongest (positive : 0 < n) (wins : FirstLongest text n rules rule) :
    rules.longest? text = some (rule, n) := by
  rcases wins with @⟨above, below, _, reach, first, longest⟩
  induction above with
  | nil => exact longest?_cons_of_some reach positive longest
  | cons other above ih =>
    rcases List.forall_mem_cons.mp first with ⟨less, first⟩
    rw [List.cons_append, longest?, ih first]
    cases found : other.reach text with
    | none => rfl
    | some m =>
      cases m with
      | zero => rfl
      | succ m => exact if_pos (less _ found)

end RuleTable

/-- The position of the character after this text. -/
def Position.after (before : List Char) : Position :=
  ⟨1 + before.count '\n', 1 + (before.reverse.takeWhile (· ≠ '\n')).length⟩

theorem Position.after_concat (before : List Char) (c : Char) :
    Position.after (before ++ [c]) = (Position.after before).step c := by
  by_cases newline : c = '\n'
  · subst newline
    simp [Position.after, Position.step, Nat.add_assoc]
  · simp [Position.after, Position.step, newline, Nat.add_assoc]

/-- A piece of a source, with the rule it is attributed to. A character that is passed over has
    none. -/
structure Segment where
  rule? : Option Rule
  lexeme : List Char

/-- The token of a segment that starts after the text `before`. -/
def Segment.token? (s : Segment) (before : List Char) : Option Token :=
  match s.rule? with
  | none => none
  | some rule =>
    if rule.keep then
      rule.kind?.map fun kind =>
        ⟨kind, String.ofList s.lexeme, (Position.after before).line, (Position.after before).column⟩
    else none

/-- The tokens of consecutive segments, of which the first starts after the text `before`. -/
def segmentTokens : List Char → List Segment → List Token
  | _, [] => []
  | before, s :: later => (s.token? before).toList ++ segmentTokens (before ++ s.lexeme) later

/-- The text is cut from its start to its end: each segment is the longest match where it starts,
    and a single character where no rule matches anything. -/
inductive Segmentation (rules : RuleTable) : List Char → List Segment → Prop
  | nil : Segmentation rules [] []
  | matched {rule : Rule} {lexeme rest : List Char} {later : List Segment} (filled : lexeme ≠ [])
      (wins : RuleTable.FirstLongest (lexeme ++ rest) lexeme.length rules rule)
      (others : Segmentation rules rest later) :
      Segmentation rules (lexeme ++ rest) (⟨some rule, lexeme⟩ :: later)
  | skipped {c : Char} {rest : List Char} {later : List Segment}
      (unmatched : ∀ rule ∈ rules, ∀ n, rule.reach (c :: rest) = some n → n = 0)
      (others : Segmentation rules rest later) :
      Segmentation rules (c :: rest) (⟨none, [c]⟩ :: later)

/-- At no offset of the source does a match go beyond its end. A rule may match differently at
    every offset, since what is left of the source tells the offset. -/
def RuleTable.StaysWithin (rules : RuleTable) (source : List Char) : Prop :=
  ∀ rule ∈ rules, ∀ rest, rest <:+ source → ∀ n, rule.reach rest = some n → n ≤ rest.length

namespace RuleTable

variable {rules : RuleTable} {source : List Char}

theorem tokensFrom_pending (before : List Char) (pending : Nat) (text : List Char) :
    rules.tokensFrom (.after before) pending text
      = rules.tokensFrom (.after (before ++ text.take pending)) 0 (text.drop pending) := by
  induction text generalizing before pending with
  | nil => cases pending <;> simp [tokensFrom]
  | cons c rest ih =>
    cases pending with
    | zero => simp
    | succ pending =>
      rw [tokensFrom, ← Position.after_concat, ih]
      simp

theorem tokensFrom_of_firstLongest {rule : Rule} {before lexeme rest : List Char}
    (filled : lexeme ≠ []) (wins : FirstLongest (lexeme ++ rest) lexeme.length rules rule) :
    rules.tokensFrom (.after before) 0 (lexeme ++ rest)
      = ((⟨some rule, lexeme⟩ : Segment).token? before).toList
        ++ rules.tokensFrom (.after (before ++ lexeme)) 0 rest := by
  have found := longest?_of_firstLongest (List.length_pos_iff.mpr filled) wins
  rcases List.exists_cons_of_ne_nil filled with ⟨c, others, rfl⟩
  rw [List.cons_append] at found ⊢
  rw [tokensFrom, found]
  simp only [List.length_cons, Nat.add_sub_cancel]
  rw [← Position.after_concat, tokensFrom_pending]
  simp [Rule.token?, Segment.token?]

theorem tokensFrom_of_unmatched {before rest : List Char} {c : Char}
    (unmatched : ∀ rule ∈ rules, ∀ n, rule.reach (c :: rest) = some n → n = 0) :
    rules.tokensFrom (.after before) 0 (c :: rest)
      = rules.tokensFrom (.after (before ++ [c])) 0 rest := by
  rw [tokensFrom, longest?_eq_none_iff.mpr unmatched, Position.after_concat]

end RuleTable

theorem Segmentation.tokensFrom {rules : RuleTable} {text : List Char} {segments : List Segment}
    (cut : Segmentation rules text segments) (before : List Char) :
    rules.tokensFrom (.after before) 0 text = segmentTokens before segments := by
  induction cut generalizing before with
  | nil => rfl
  | matched filled wins others ih =>
    rw [RuleTable.tokensFrom_of_firstLongest filled wins, ih, segmentTokens]
  | skipped unmatched others ih =>
    rw [RuleTable.tokensFrom_of_unmatched unmatched, ih]
    rfl

theorem Segmentation.head_of_some {rules : RuleTable} {rule : Rule} {lexeme rest : List Char}
    {segments : List Segment} (cut : Segmentation rules (lexeme ++ rest) segments)
    (found : rules.longest? (lexeme ++ rest) = some (rule, lexeme.length)) :
    ∃ later, segments = ⟨some rule, lexeme⟩ :: later ∧ Segmentation rules rest later := by
  generalize whole : lexeme ++ rest = text at cut found
  cases cut with
  | nil =>
    have filled := (RuleTable.reach_of_longest? found).2.2
    rw [(List.append_eq_nil_iff.mp whole).1] at filled
    cases filled
  | @matched other first others later filled wins cut =>
    have same := RuleTable.longest?_of_firstLongest (List.length_pos_iff.mpr filled) wins
    rcases Prod.mk.inj (Option.some.inj (same.symm.trans found)) with ⟨rfl, size⟩
    rcases List.append_inj whole size.symm with ⟨rfl, rfl⟩
    exact ⟨later, rfl, cut⟩
  | skipped unmatched =>
    rw [RuleTable.longest?_eq_none_iff.mpr unmatched] at found
    cases found

theorem Segmentation.head_of_none {rules : RuleTable} {c : Char} {rest : List Char}
    {segments : List Segment} (cut : Segmentation rules (c :: rest) segments)
    (missing : rules.longest? (c :: rest) = none) :
    ∃ later, segments = ⟨none, [c]⟩ :: later ∧ Segmentation rules rest later := by
  generalize whole : c :: rest = text at cut missing
  cases cut with
  | nil => cases whole
  | matched filled wins =>
    rw [RuleTable.longest?_of_firstLongest (List.length_pos_iff.mpr filled) wins] at missing
    cases missing
  | skipped unmatched others =>
    cases whole
    exact ⟨_, rfl, others⟩

/-- The rules leave no choice in how a text is cut. -/
theorem Segmentation.eq {rules : RuleTable} {text : List Char} {one other : List Segment}
    (first : Segmentation rules text one) (second : Segmentation rules text other) :
    other = one := by
  induction first generalizing other with
  | nil =>
    generalize whole : ([] : List Char) = text at second
    cases second with
    | nil => rfl
    | matched filled => exact absurd (List.append_eq_nil_iff.mp whole.symm).1 filled
    | skipped => cases whole
  | matched filled wins others ih =>
    have found := RuleTable.longest?_of_firstLongest (List.length_pos_iff.mpr filled) wins
    rcases second.head_of_some found with ⟨later, rfl, cut⟩
    rw [ih cut]
  | skipped unmatched others ih =>
    rcases second.head_of_none (RuleTable.longest?_eq_none_iff.mpr unmatched) with ⟨later, rfl, cut⟩
    rw [ih cut]

theorem RuleTable.exists_split_of_longest? {rules : RuleTable} {rule : Rule}
    {source text : List Char} {n : Nat} (within : rules.StaysWithin source) (left : text <:+ source)
    (found : rules.longest? text = some (rule, n)) :
    ∃ lexeme rest, text = lexeme ++ rest ∧ lexeme ≠ [] ∧
      FirstLongest (lexeme ++ rest) lexeme.length rules rule := by
  rcases reach_of_longest? found with ⟨member, reach, positive⟩
  have size : (text.take n).length = n :=
    List.length_take_of_le (within rule member text left n reach)
  refine ⟨text.take n, text.drop n, (List.take_append_drop n text).symm, ?_, ?_⟩
  · exact List.length_pos_iff.mp (by rw [size]; exact positive)
  · rw [List.take_append_drop, size]
    exact firstLongest_of_longest? found

theorem exists_segmentation {rules : RuleTable} {source : List Char}
    (within : rules.StaysWithin source) (text : List Char) (left : text <:+ source) :
    ∃ segments, Segmentation rules text segments := by
  induction size : text.length using Nat.strongRecOn generalizing text with
  | ind n shorter =>
    cases found : rules.longest? text with
    | none =>
      cases text with
      | nil => exact ⟨[], .nil⟩
      | cons c rest =>
        have less : rest.length < n := by
          rw [← size]
          exact Nat.lt_succ_self _
        have restLeft : rest <:+ source := (List.suffix_cons c rest).trans left
        rcases shorter _ less rest restLeft rfl with ⟨later, others⟩
        exact ⟨_, .skipped (RuleTable.longest?_eq_none_iff.mp found) others⟩
    | some best =>
      obtain ⟨lexeme, rest, rfl, filled, wins⟩ :=
        RuleTable.exists_split_of_longest? within left found
      have filledLength := List.length_pos_iff.mpr filled
      have less : rest.length < n := by
        rw [← size, List.length_append]
        omega
      have restLeft : rest <:+ source := (List.suffix_append lexeme rest).trans left
      rcases shorter _ less rest restLeft rfl with ⟨later, others⟩
      exact ⟨_, .matched filled wins others⟩

theorem RuleTable.staysWithin_of_patterns {rules : RuleTable}
    (patterns : ∀ rule ∈ rules, ∃ p : Pattern, rule.reach = p.reach) (source : List Char) :
    rules.StaysWithin source := by
  intro rule member rest _ n found
  rcases patterns rule member with ⟨p, same⟩
  rw [same] at found
  exact p.reach_le_length rest n found

theorem RuleTable.staysWithin_standard (source : List Char) : standard.StaysWithin source := by
  apply staysWithin_of_patterns
  simp only [standard, List.forall_mem_cons, List.not_mem_nil, false_implies, implies_true,
    and_true]
  exact ⟨⟨_, rfl⟩, ⟨_, rfl⟩, ⟨_, rfl⟩, ⟨_, rfl⟩, ⟨_, rfl⟩, ⟨_, rfl⟩⟩

/-- The source is cut by longest match, in one way only, and the tokens are those of the segments
    in their order, each at the place where its segment starts. -/
theorem RuleTable.tokens_eq_segmentTokens (rules : RuleTable) (source : List Char)
    (within : rules.StaysWithin source) :
    ∃ segments, Segmentation rules source segments ∧
      (∀ other, Segmentation rules source other → other = segments) ∧
      rules.tokens source = segmentTokens [] segments := by
  rcases exists_segmentation within source (List.suffix_refl _) with ⟨segments, cut⟩
  exact ⟨segments, cut, fun _ => cut.eq, cut.tokensFrom []⟩

theorem RuleTable.tokens_eq_segmentTokens_of_lines :
    ∃ segments, Segmentation standard "ab // c\n\"d\n\" 7".toList segments ∧
      standard.tokens "ab // c\n\"d\n\" 7".toList = segmentTokens [] segments := by
  have within := staysWithin_standard "ab // c\n\"d\n\" 7".toList
  rcases tokens_eq_segmentTokens standard _ within with ⟨segments, cut, _, same⟩
  exact ⟨segments, cut, same⟩

end ContractLang
