import ContractLang.Proofs.Declaration.Arrival
import ContractLang.Proofs.Declaration.Sound

namespace ContractLang

open Cursor

/-- What a finished member tells of its reading. -/
def Member.told : Member → List String
  | .associatedType name value => [Trace.associatedType name, Trace.value value]
  | .data type name initial =>
    Trace.data type name :: (if initial = "" then [] else [Trace.initial initial])
  | .method m =>
    Trace.method m.returnType m.name m.arguments :: Trace.attributes m.attributes ::
      (if m.isRequired || m.isDefault then [] else [Trace.body m.body])

def Contract.told (contract : Contract) : List String :=
  Trace.contract contract.name contract.base :: contract.members.flatMap Member.told

def toldBy (contracts : List Contract) : List String := contracts.flatMap Contract.told

/-- The trace is the start of what the things built tell, and all of it where reading succeeds. -/
structure Attempt.Faithful {α : Type} (told : α → List String) (attempt : Attempt α) : Prop where
  starts : attempt.trace <+: told attempt.built
  whole : ∀ d, attempt.outcome = .ok d → attempt.trace = told attempt.built

section Rules

variable {α : Type} {told : α → List String} {built : α} {trace : List String}

theorem Attempt.Faithful.of_eq (same : trace = told built) (outcome : Except SyntaxError Cursor) :
    Attempt.Faithful told ⟨built, trace, outcome⟩ :=
  ⟨same ▸ List.prefix_refl _, fun _ _ => same⟩

theorem Attempt.Faithful.of_failed (starts : trace <+: told built) (e : SyntaxError) :
    (Attempt.failed built trace e).Faithful told :=
  ⟨starts, fun _ ran => by cases ran⟩

theorem Attempt.Faithful.of_untold (told : α → List String) (built : α) (e : SyntaxError) :
    (Attempt.failed built [] e).Faithful told :=
  .of_failed List.nil_prefix e

theorem Attempt.Faithful.followedBy {told : α → List String} {first : List α} {c : Cursor}
    {rest : Attempt (List α)}
    (done : (Attempt.done first trace c).Faithful (List.flatMap told))
    (later : rest.Faithful (List.flatMap told)) :
    ((Attempt.done first trace c).followedBy rest).Faithful (List.flatMap told) := by
  have same : trace = first.flatMap told := done.whole c rfl
  refine ⟨?_, fun d ran => ?_⟩
  · simp only [Attempt.followedBy, Attempt.done, List.flatMap_append, same]
    exact (List.prefix_append_right_inj _).mpr later.starts
  · simp only [Attempt.followedBy, Attempt.done, List.flatMap_append, same]
    exact congrArg _ (later.whole d ran)

end Rules

section Members

variable {settings : Settings} {c : Cursor}

abbrev MemberAttempt.Faithful (attempt : MemberAttempt) : Prop :=
  Attempt.Faithful (List.flatMap Member.told) attempt

/-- A value that is there is not the empty text. -/
theorem faithful_readData (type name : String) (fits : c.Fits) :
    (readData type name c).Faithful := by
  have bare : [Trace.data type name] = [Member.data type name ""].flatMap Member.told := rfl
  unfold readData
  split
  · exact .of_eq bare _
  · split
    · rename_i e _
      exact .of_failed (bare ▸ List.prefix_refl _) e
    · rename_i initial read
      rcases (c.arrives_skipSymbol '=').exists_passes with ⟨sign, equals⟩
      rcases (statement_eq_ok _ _ _).mp read with ⟨-, -, filled, stop, -, pass⟩
      have inside : ∀ t ∈ initial.tokens, t.Fits := by
        intro t member
        apply equals.fits fits
        rw [pass.1]
        simp [member]
      have valued : initial.text ≠ "" := joinLexemes_ne filled inside
      refine .of_eq ?_ _
      simp only [List.flatMap_cons, List.flatMap_nil, List.append_nil, Member.told, if_neg valued]
      rfl

theorem faithful_readAssociatedType (settings : Settings) (c : Cursor) :
    (readAssociatedType settings c).Faithful := by
  unfold readAssociatedType
  split
  · exact .of_untold _ _ _
  · split
    · exact .of_untold _ _ _
    · rename_i type _
      have named : ∀ value, [Trace.associatedType type.text]
          <+: [Member.associatedType type.text value].flatMap Member.told :=
        fun value => ⟨[Trace.value value], rfl⟩
      simp only
      split
      · exact .of_failed (named _) _
      · split
        · exact .of_failed (named _) _
        · exact .of_eq rfl _

theorem faithful_readMarker {m : Method} (noRequired : m.isRequired = false)
    (noDefault : m.isDefault = false) (c : Cursor) :
    (readMarker settings m
      [Trace.method m.returnType m.name m.arguments, Trace.attributes m.attributes] c).Faithful := by
  rcases markerForm_or_failed settings m
      [Trace.method m.returnType m.name m.arguments, Trace.attributes m.attributes] c with
    ⟨marker, marked, found, mark⟩ | failed
  · rw [readMarker_of_markerForm _ found mark]
    refine .of_eq ?_ _
    cases mark <;> simp [Member.told]
  · rw [failed]
    refine .of_failed ⟨[Trace.body m.body], ?_⟩ _
    simp [Member.told, noRequired, noDefault]

theorem faithful_readBody {m : Method} (noRequired : m.isRequired = false)
    (noDefault : m.isDefault = false) (c : Cursor) :
    (readBody m
      [Trace.method m.returnType m.name m.arguments, Trace.attributes m.attributes] c).Faithful := by
  have told : ∀ body, [Member.method { m with body := body }].flatMap Member.told
      = [Trace.method m.returnType m.name m.arguments, Trace.attributes m.attributes]
        ++ [Trace.body body] := by
    intro body
    simp [Member.told, noRequired, noDefault]
  unfold readBody
  split
  · exact .of_failed ⟨[Trace.body m.body], (told m.body).symm⟩ _
  · rename_i code _
    have whole := (told code.text).symm
    simp only
    split
    · exact .of_failed (whole ▸ List.prefix_refl _) _
    · exact .of_eq whole _

theorem faithful_readMethod (returnType name : String) (c : Cursor) :
    (readMethod settings returnType name c).Faithful := by
  unfold readMethod
  simp only
  split
  · exact .of_untold _ _ _
  · rename_i arguments _
    split
    · exact .of_untold _ _ _
    · rename_i afterArguments _
      split
      · exact faithful_readMarker rfl rfl _
      · split
        · exact faithful_readBody rfl rfl _
        · refine .of_failed ?_ _
          exact ⟨[Trace.body ""], rfl⟩

theorem faithful_readMember (settings : Settings) (fits : c.Fits) :
    (readMember settings c).Faithful := by
  unfold readMember
  split
  · exact .of_untold _ _ _
  · split
    · exact faithful_readAssociatedType settings _
    · have type := c.arrives_typeName
      split
      · exact .of_untold _ _ _
      · rename_i span spanned
        rw [spanned] at type
        have name := type.after (arrives_passIdentifier _ .memberName)
        split
        · exact .of_untold _ _ _
        · rename_i afterName named
          rw [named] at name
          rcases name.exists_passes with ⟨passed, pass⟩
          simp only
          split
          · exact faithful_readMethod _ _ _
          · exact faithful_readData _ _ (pass.fits fits)

theorem faithful_readMembers (settings : Settings) (c : Cursor) (fits : c.Fits) :
    (readMembers settings c).Faithful := by
  have member := faithful_readMember settings fits
  by_cases closes : c.symbol? = some '\x7d'
  · rw [readMembers_of_brace closes]
    exact .of_eq rfl _
  · have arrives := arrives_readMember settings c
    rcases ran : readMember settings c with ⟨built, trace, e | d⟩
    · rw [readMembers_of_failed closes ran]
      rw [ran] at member
      exact member
    · have shorter := ahead_length_lt_of_readMember settings c d (by rw [ran])
      rw [readMembers_of_done closes ran]
      rw [ran] at member arrives
      rcases arrives.exists_passes with ⟨span, pass⟩
      exact .followedBy member (faithful_readMembers settings d (pass.fits fits))
termination_by c.ahead.length

end Members

section Contracts

variable {settings : Settings} {c : Cursor}

theorem faithful_readContractBody (name base : String) (fits : c.Fits) :
    (readContractBody settings ⟨name, base, []⟩ [Trace.contract name base] c).Faithful
      Contract.told := by
  have members := faithful_readMembers settings c fits
  have starts : [Trace.contract name base] ++ (readMembers settings c).trace
      <+: Contract.told ⟨name, base, (readMembers settings c).built⟩ :=
    (List.prefix_append_right_inj [Trace.contract name base]).mpr members.starts
  unfold readContractBody
  simp only
  split
  · exact .of_failed starts _
  · rename_i brace ran
    have same := members.whole brace ran
    split
    · exact .of_failed starts _
    · refine .of_eq ?_ _
      exact congrArg (Trace.contract name base :: ·) same

theorem faithful_readContract (settings : Settings) (name base : String) (fits : c.Fits) :
    (readContract settings ⟨name, base, []⟩ c).Faithful Contract.told := by
  have arrives := c.arrives_passIdentifier .contractName
  unfold readContract
  split
  · exact .of_untold _ _ _
  · rename_i afterName passed
    rw [passed] at arrives
    have arrives := arrives.after (afterName.arrives_passSymbol ':' .contractColon)
    simp only
    split
    · exact .of_untold _ _ _
    · rename_i afterColon passed
      rw [passed] at arrives
      have arrives := arrives.after (afterColon.arrives_passIdentifier .baseName)
      split
      · exact .of_untold _ _ _
      · rename_i afterBase passed
        rw [passed] at arrives
        have arrives := arrives.after (afterBase.arrives_passSymbol '\x7b' .contractBody)
        split
        · refine .of_failed ?_ _
          exact ⟨[], rfl⟩
        · rename_i start passed
          rw [passed] at arrives
          rcases arrives.exists_passes with ⟨header, pass⟩
          exact faithful_readContractBody _ _ (pass.fits fits)

theorem faithful_readNextContract (settings : Settings) (fits : c.Fits) :
    (readNextContract settings c).Faithful toldBy := by
  have keyword := c.arrives_passIdentifier .contractExpected
  unfold readNextContract
  split
  · exact .of_untold _ _ _
  · rename_i afterKeyword passed
    rw [passed] at keyword
    rcases keyword.exists_passes with ⟨word, pass⟩
    split
    · have contract := faithful_readContract settings "" "" (pass.fits fits)
      refine ⟨?_, fun d ran => ?_⟩
      · simpa [toldBy] using contract.starts
      · simpa [toldBy] using contract.whole d ran
    · exact .of_untold _ _ _

/-- A reading that succeeds traces what the contracts tell. One that fails traces a beginning of
    what the contracts tell that it leaves, the last one of them perhaps broken off. -/
theorem faithful_readContracts (settings : Settings) (c : Cursor) (fits : c.Fits) :
    (readContracts settings c).Faithful toldBy := by
  have first := faithful_readNextContract settings fits
  by_cases empty : c.ahead = []
  · rw [readContracts_of_empty empty]
    exact .of_eq rfl _
  · have arrives := arrives_readNextContract settings c
    rcases ran : readNextContract settings c with ⟨built, trace, e | d⟩
    · rw [readContracts_of_failed empty ran]
      rw [ran] at first
      exact first
    · have shorter := ahead_length_lt_of_readNextContract settings c d (by rw [ran])
      rw [readContracts_of_done empty ran]
      rw [ran] at first arrives
      rcases arrives.exists_passes with ⟨span, pass⟩
      exact .followedBy first (faithful_readContracts settings d (pass.fits fits))
termination_by c.ahead.length

end Contracts
end ContractLang
