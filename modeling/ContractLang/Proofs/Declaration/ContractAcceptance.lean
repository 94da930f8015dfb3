import ContractLang.Proofs.Declaration.MemberAcceptance

namespace ContractLang

theorem MemberForm.head {settings : Settings} {span : List Token} {m : Member}
    (form : MemberForm settings span m) :
    ∃ t rest, span = t :: rest ∧ t.kind = .identifier := by
  have typed : ∀ {type rest : List Token}, TypeForm type →
      ∃ t others, type ++ rest = t :: others ∧ t.kind = .identifier := by
    intro type rest named
    rcases named.head with ⟨t, others, rfl, kind⟩
    exact ⟨t, others ++ rest, rfl, kind⟩
  cases form with
  | associatedType isKeyword => exact ⟨_, _, rfl, isKeyword.1⟩
  | declared named => exact typed named
  | initialized named => exact typed named
  | method start =>
    cases start with
    | mk returned =>
      rw [List.append_assoc]
      exact typed returned

theorem readMembers_of_passes {settings : Settings} {c d : Cursor} {spans : List (List Token)}
    {members : List Member} (pass : c.Passes spans.flatten d) (fits : c.Fits)
    (forms : List.Forall₂ (MemberForm settings) spans members) (closes : d.symbol? = some '\x7d') :
    (readMembers settings c).Yields members d := by
  induction forms generalizing c with
  | nil =>
    have same : d = c := pass.eq (.refl c)
    rw [readMembers, if_pos (same ▸ closes)]
    exact ⟨rfl, by rw [same]; rfl⟩
  | @cons span m spans members form forms ih =>
    rw [List.flatten_cons] at pass
    rcases pass.split with ⟨next, first, rest⟩
    have member := readMember_of_passes first fits form
    have others := ih rest (first.fits fits)
    -- Every member begins with a name, so it is not taken for the end of the contract.
    have noBrace : c.symbol? ≠ some '\x7d' := by
      rcases form.head with ⟨t, tail, rfl, kind⟩
      rw [Cursor.Passes.symbol? first, Token.symbol?_of_kind (by rw [kind]; decide)]
      exact Option.some_ne_none _ |>.symm
    rw [readMembers, if_neg noBrace]
    split
    · rename_i failed
      have outcome := member.outcome
      rw [failed] at outcome
      cases outcome
    · rename_i built trace after ran
      rcases ran ▸ member with ⟨rfl, outcome⟩
      cases outcome
      refine ⟨?_, others.outcome⟩
      simp only [Attempt.followedBy, Attempt.done, others.built, List.singleton_append]

theorem readContractBody_of_passes {settings : Settings} {name base : String}
    {trace : List String} {c d : Cursor} {spans : List (List Token)} {members : List Member}
    {closing stop : Token} (pass : c.Passes (spans.flatten ++ [closing, stop]) d) (fits : c.Fits)
    (forms : List.Forall₂ (MemberForm settings) spans members)
    (closes : closing.symbol? = some '\x7d') (ends : stop.symbol? = some ';') :
    (readContractBody settings ⟨name, base, []⟩ trace c).Yields ⟨name, base, members⟩ d := by
  rcases pass.split with ⟨brace, first, rest⟩
  rcases rest.uncons with ⟨afterBrace, second, last⟩
  have inner := readMembers_of_passes first fits forms (second.symbol?.trans closes)
  rw [second.next] at last
  rw [readContractBody]
  simp only [inner.built, inner.outcome, last.passSymbol ends]
  exact ⟨rfl, rfl⟩

theorem readNextContract_of_passes {settings : Settings} {c d : Cursor} {span : List Token}
    {contract : Contract} (pass : c.Passes span d) (fits : c.Fits)
    (form : ContractForm settings span contract) :
    (readNextContract settings c).Yields [contract] d := by
  obtain @⟨header, spans, name, base, members, closing, stop, start, declared, closes, ends⟩ := form
  rcases pass.split with ⟨body, first, last⟩
  have inside := first.fits fits
  obtain @⟨keyword, name, colon, base, opening, isKeyword, named, colonNext, based, opens⟩ := start
  rcases first.uncons with ⟨afterKeyword, first, rest⟩
  rcases rest.uncons with ⟨afterName, second, rest⟩
  rcases rest.uncons with ⟨afterColon, third, rest⟩
  rcases rest.uncons with ⟨afterBase, fourth, fifth⟩
  have inner : ∀ trace, (readContractBody settings ⟨name.lexeme, base.lexeme, []⟩ trace body).Yields
      ⟨name.lexeme, base.lexeme, members⟩ d := by
    intro trace
    exact readContractBody_of_passes last inside declared closes ends
  rw [readNextContract, first.passIdentifier isKeyword.1]
  simp only [first.lexeme, if_pos isKeyword.2, readContract, second.passIdentifier named,
    third.passSymbol colonNext, fourth.passIdentifier based, fifth.passSymbol opens,
    second.lexeme, fourth.lexeme]
  exact ⟨by rw [(inner _).built], (inner _).outcome⟩

theorem readContracts_of_passes {settings : Settings} {c d : Cursor} {spans : List (List Token)}
    {contracts : List Contract} (pass : c.Passes spans.flatten d) (fits : c.Fits)
    (forms : List.Forall₂ (ContractForm settings) spans contracts) (finished : d.ahead = []) :
    (readContracts settings c).Yields contracts d := by
  induction forms generalizing c with
  | nil =>
    have same : d = c := pass.eq (.refl c)
    rw [readContracts, if_pos (by rw [← same, finished]; rfl)]
    exact ⟨rfl, by rw [same]; rfl⟩
  | @cons span contract spans contracts form forms ih =>
    rw [List.flatten_cons] at pass
    rcases pass.split with ⟨next, first, rest⟩
    have one := readNextContract_of_passes first fits form
    have others := ih rest (first.fits fits)
    have unfinished : ¬ c.ahead.isEmpty = true := by
      rcases form with @⟨header, _, _, _, _, _, _, start, _, _, _⟩
      cases start
      rw [first.1]
      exact Bool.false_ne_true
    rw [readContracts, if_neg unfinished]
    split
    · rename_i failed
      have outcome := one.outcome
      rw [failed] at outcome
      cases outcome
    · rename_i built trace after ran
      rcases ran ▸ one with ⟨rfl, outcome⟩
      cases outcome
      refine ⟨?_, others.outcome⟩
      simp only [Attempt.followedBy, Attempt.done, others.built, List.singleton_append]

theorem contractForm_data_member :
    ContractForm .standard (tokenize "contract Aa : Bb { int count; };".toList)
      ⟨"Aa", "Bb", [.data "int" "count" ""]⟩ := by
  have typed : TypeForm [⟨.identifier, "int", 1, 20⟩] := .of_name rfl (by decide)
  have free : NoAlias .standard [⟨.identifier, "int", 1, 20⟩] := by
    intro t head spells
    cases head
    exact absurd spells.2 (by decide)
  have member : MemberForm .standard
      [⟨.identifier, "int", 1, 20⟩, ⟨.identifier, "count", 1, 24⟩, ⟨.other, ";", 1, 29⟩]
      (.data "int" "count" "") := .declared typed free rfl rfl
  have header : ContractHeader .standard
      [⟨.identifier, "contract", 1, 1⟩, ⟨.identifier, "Aa", 1, 10⟩, ⟨.other, ":", 1, 13⟩,
        ⟨.identifier, "Bb", 1, 15⟩, ⟨.other, "\x7b", 1, 18⟩] "Aa" "Bb" :=
    .mk ⟨rfl, rfl⟩ rfl rfl rfl rfl
  have whole : ContractForm .standard _ ⟨"Aa", "Bb", [.data "int" "count" ""]⟩ :=
    @ContractForm.mk _ _ _ _ _ _ ⟨.other, "\x7d", 1, 31⟩ ⟨.other, ";", 1, 32⟩ header
      (.cons member .nil) rfl rfl
  exact whole

/-- Tokens in the form of contracts are read as exactly those contracts, and all of them are
    read. -/
theorem readContracts_of_contractForms {settings : Settings} {spans : List (List Token)}
    {contracts : List Contract} (fits : ∀ span ∈ spans, ∀ t ∈ span, t.Fits)
    (forms : List.Forall₂ (ContractForm settings) spans contracts) :
    (readContracts settings (.start spans.flatten)).built = contracts ∧
      (readContracts settings (.start spans.flatten)).outcome
        = .ok ⟨spans.flatten.length, []⟩ := by
  have inside : (Cursor.start spans.flatten).Fits := by
    intro t member
    rcases List.mem_flatten.mp member with ⟨span, spanMember, tMember⟩
    exact fits span spanMember t tMember
  have read := readContracts_of_passes (Cursor.passes_start _) inside forms rfl
  exact ⟨read.built, read.outcome⟩

theorem readContracts_of_data_member :
    (readContracts .standard
        (.start [tokenize "contract Aa : Bb { int count; };".toList].flatten)).built
      = [⟨"Aa", "Bb", [.data "int" "count" ""]⟩] ∧
    (readContracts .standard
        (.start [tokenize "contract Aa : Bb { int count; };".toList].flatten)).outcome
      = .ok ⟨10, []⟩ := by
  have fits : ∀ span ∈ [tokenize "contract Aa : Bb { int count; };".toList], ∀ t ∈ span, t.Fits := by
    decide +kernel
  exact readContracts_of_contractForms fits (.cons contractForm_data_member .nil)

/-- With the word of its type as the keyword of associated types, the data member is not read. -/
theorem readContracts_of_alias_keyword :
    ContractForm .standard (tokenize "contract Aa : Bb { int count; };".toList)
      ⟨"Aa", "Bb", [.data "int" "count" ""]⟩ ∧
    (readContracts { Settings.standard with aliasKeyword := "int" }
        (.start (tokenize "contract Aa : Bb { int count; };".toList))).outcome
      = .error ⟨.aliasValue, ⟨7, some ⟨.other, ";", 1, 29⟩⟩⟩ :=
  ⟨contractForm_data_member, by decide +kernel⟩

end ContractLang
