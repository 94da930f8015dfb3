import ContractLang.Proofs.Declaration.MemberSpan

namespace ContractLang

theorem passes_readMembers {settings : Settings} {c d : Cursor} {built : List Member}
    {traced : List String} (fits : c.Fits)
    (ran : readMembers settings c = ⟨built, traced, .ok d⟩) :
    ∃ spans, c.Passes spans.flatten d ∧ List.Forall₂ (MemberForm settings) spans built ∧
      d.symbol? = some '\x7d' := by
  unfold readMembers at ran
  split at ran
  · rename_i closes
    cases ran
    exact ⟨[], .refl c, .nil, closes⟩
  · split at ran
    · cases ran
    · rename_i first trace next member
      have shorter := ahead_length_lt_of_readMember settings c next (by rw [member])
      rcases passes_readMember fits member with ⟨span, m, pass, form, rfl⟩
      simp only [Attempt.followedBy, Attempt.done, Attempt.mk.injEq] at ran
      rcases ran with ⟨rfl, _, ended⟩
      generalize others : readMembers settings next = attempt at ended
      rcases attempt with ⟨built, trace, outcome⟩
      simp only at ended
      rw [ended] at others
      rcases passes_readMembers (pass.fits fits) others with ⟨spans, rest, forms, closes⟩
      exact ⟨span :: spans, pass.trans rest, .cons form forms, closes⟩
termination_by c.ahead.length

theorem passes_readContractBody {settings : Settings} {draft built : Contract}
    {trace traced : List String} {c d : Cursor} (fits : c.Fits)
    (ran : readContractBody settings draft trace c = ⟨built, traced, .ok d⟩) :
    ∃ spans closing stop, c.Passes (spans.flatten ++ [closing, stop]) d ∧
      List.Forall₂ (MemberForm settings) spans built.members ∧
      closing.symbol? = some '\x7d' ∧ stop.symbol? = some ';' ∧
      built.name = draft.name ∧ built.base = draft.base := by
  unfold readContractBody at ran
  simp only at ran
  split at ran
  · cases ran
  · rename_i brace ended
    split at ran
    · cases ran
    · rename_i next passed
      have members : readMembers settings c
          = ⟨(readMembers settings c).built, (readMembers settings c).trace, .ok brace⟩ := by
        rw [← ended]
      rcases passes_readMembers fits members with ⟨spans, first, forms, braceNext⟩
      rcases Cursor.passes_of_symbol? braceNext with ⟨closing, second, closes⟩
      rcases (Cursor.passSymbol_eq_ok _ _ _ _).mp passed with ⟨stop, ends, last⟩
      cases ran
      exact ⟨spans, closing, stop, first.trans (second.cons last), forms, closes, ends, rfl, rfl⟩

theorem passes_readContract {settings : Settings} {draft built : Contract} {c d : Cursor}
    {traced : List String} {keyword : Token} (fits : c.Fits)
    (spells : keyword.Spells settings.contractKeyword)
    (ran : readContract settings draft c = ⟨built, traced, .ok d⟩) :
    ∃ span, c.Passes span d ∧ ContractForm settings (keyword :: span) built := by
  unfold readContract at ran
  split at ran
  · cases ran
  · rename_i afterName named
    rcases (Cursor.passIdentifier_eq_ok _ _ _).mp named with ⟨name, isName, first⟩
    simp only at ran
    split at ran
    · cases ran
    · rename_i afterColon colonPassed
      rcases (Cursor.passSymbol_eq_ok _ _ _ _).mp colonPassed with ⟨colon, isColon, second⟩
      split at ran
      · cases ran
      · rename_i afterBase based
        rcases (Cursor.passIdentifier_eq_ok _ _ _).mp based with ⟨base, isBase, third⟩
        split at ran
        · cases ran
        · rename_i start bracePassed
          rcases (Cursor.passSymbol_eq_ok _ _ _ _).mp bracePassed with ⟨opening, opens, fourth⟩
          have header := first.cons (second.cons (third.trans fourth))
          obtain ⟨spans, closing, stop, last, forms, closes, ends, sameName, sameBase⟩ :=
            passes_readContractBody (header.fits fits) ran
          rcases built with ⟨builtName, builtBase, members⟩
          simp only at forms sameName sameBase
          rw [first.lexeme] at sameName
          rw [third.lexeme] at sameBase
          subst sameName sameBase
          exact ⟨_, header.trans last,
            .mk (.mk spells isName isColon isBase opens) forms closes ends⟩

theorem passes_readNextContract {settings : Settings} {c d : Cursor} {built : List Contract}
    {traced : List String} (fits : c.Fits)
    (ran : readNextContract settings c = ⟨built, traced, .ok d⟩) :
    ∃ span contract, c.Passes span d ∧ ContractForm settings span contract ∧
      built = [contract] := by
  unfold readNextContract at ran
  split at ran
  · cases ran
  · rename_i afterKeyword passed
    rcases (Cursor.passIdentifier_eq_ok _ _ _).mp passed with ⟨keyword, identifier, first⟩
    split at ran
    · rename_i isKeyword
      simp only [Attempt.mk.injEq] at ran
      rcases ran with ⟨rfl, _, ended⟩
      have spells : keyword.Spells settings.contractKeyword :=
        ⟨identifier, by rw [← first.lexeme, isKeyword]⟩
      generalize read : readContract settings ⟨"", "", []⟩ afterKeyword = contract at ended
      rcases contract with ⟨built, trace, outcome⟩
      simp only at ended
      rw [ended] at read
      rcases passes_readContract (first.fits fits) spells read with ⟨span, rest, form⟩
      exact ⟨keyword :: span, built, first.cons rest, form, rfl⟩
    · cases ran

/-- Contracts that have been read are consecutive spans of the form of contracts, and nothing is
    left after them. -/
theorem passes_readContracts {settings : Settings} {c d : Cursor} {built : List Contract}
    {traced : List String} (fits : c.Fits)
    (ran : readContracts settings c = ⟨built, traced, .ok d⟩) :
    ∃ spans, c.Passes spans.flatten d ∧ List.Forall₂ (ContractForm settings) spans built ∧
      d.ahead = [] := by
  unfold readContracts at ran
  split at ran
  · rename_i finished
    cases ran
    exact ⟨[], .refl c, .nil, List.isEmpty_iff.mp finished⟩
  · split at ran
    · cases ran
    · rename_i first trace next contract
      have shorter := ahead_length_lt_of_readNextContract settings c next (by rw [contract])
      rcases passes_readNextContract fits contract with ⟨span, read, pass, form, rfl⟩
      simp only [Attempt.followedBy, Attempt.done, Attempt.mk.injEq] at ran
      rcases ran with ⟨rfl, _, ended⟩
      generalize others : readContracts settings next = attempt at ended
      rcases attempt with ⟨built, trace, outcome⟩
      simp only at ended
      rw [ended] at others
      rcases passes_readContracts (pass.fits fits) others with ⟨spans, rest, forms, final⟩
      exact ⟨span :: spans, pass.trans rest, .cons form forms, final⟩
termination_by c.ahead.length

end ContractLang
