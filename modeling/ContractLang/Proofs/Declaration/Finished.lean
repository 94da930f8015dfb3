import ContractLang.Proofs.Declaration.Regular

namespace ContractLang

open Cursor

/-- Contracts that are read one after another, each of them up to its closing semicolon. -/
inductive Finishes (settings : Settings) : Cursor → List Contract → Cursor → Prop
  | here (c : Cursor) : Finishes settings c [] c
  | next {c d e : Cursor} {contract : Contract} {others : List Contract} {trace : List String}
      (first : readNextContract settings c = .done [contract] trace d)
      (rest : Finishes settings d others e) : Finishes settings c (contract :: others) e

/-- How reading ends where no contract can be finished any more, and what is left of one: at the end
    of the tokens, before a token that does not start a contract, or inside a contract. -/
inductive Halts (settings : Settings) (d : Cursor) :
    List Contract → Except SyntaxError Cursor → Prop
  | complete (ended : d.ahead = []) : Halts settings d [] (.ok d)
  | refused {e : SyntaxError} (filled : d.ahead ≠ [])
      (other : d.isIdentifier = false ∨ d.lexeme ≠ settings.contractKeyword)
      (place : e.place = d.place) : Halts settings d [] (.error e)
  | broken {draft : Contract} {trace : List String} {e : SyntaxError}
      (identifier : d.isIdentifier = true) (keyword : d.lexeme = settings.contractKeyword)
      (failed : readContract settings ⟨"", "", []⟩ d.next = .failed draft trace e) :
      Halts settings d [draft] (.error e)

theorem Attempt.cons_followedBy {α : Type} (first : α) (others : List α)
    (trace traced : List String) (c d : Cursor) (rest : Attempt (List α)) :
    (Attempt.done [first] trace c).followedBy ((Attempt.done others traced d).followedBy rest)
      = (Attempt.done (first :: others) (trace ++ traced) d).followedBy rest := by
  simp only [followedBy, done, List.append_assoc, List.cons_append, List.nil_append]

theorem Attempt.followedBy_nil {α : Type} (built : List α) (trace : List String) (c d : Cursor) :
    (Attempt.done built trace c).followedBy (.done [] [] d) = .done built trace d := by
  simp only [followedBy, done, List.append_nil]

section Contracts

variable {settings : Settings} {c d : Cursor}

theorem readNextContract_of_keyword (identifier : c.isIdentifier = true)
    (keyword : c.lexeme = settings.contractKeyword) :
    readNextContract settings c
      = ⟨[(readContract settings ⟨"", "", []⟩ c.next).built],
          (readContract settings ⟨"", "", []⟩ c.next).trace,
          (readContract settings ⟨"", "", []⟩ c.next).outcome⟩ := by
  rw [readNextContract, passIdentifier_of_isIdentifier identifier]
  simp only [if_pos keyword]

theorem readNextContract_of_other
    (other : c.isIdentifier = false ∨ c.lexeme ≠ settings.contractKeyword) :
    ∃ e, e.place = c.place ∧ readNextContract settings c = .failed [] [] e := by
  cases identifier : c.isIdentifier with
  | false =>
    rw [readNextContract, passIdentifier_of_not identifier]
    exact ⟨_, rfl, rfl⟩
  | true =>
    have noKeyword := other.resolve_left (by simp [identifier])
    rw [readNextContract, passIdentifier_of_isIdentifier identifier]
    simp only [if_neg noKeyword]
    exact ⟨_, rfl, rfl⟩

/-- Reading finishes some contracts and then halts. -/
theorem readContracts_cases (settings : Settings) (c : Cursor) :
    ∃ finished d left, Finishes settings c finished d ∧
      Halts settings d left (readContracts settings c).outcome ∧
      (readContracts settings c).built = finished ++ left := by
  by_cases empty : c.ahead = []
  · rw [readContracts_of_empty empty]
    exact ⟨[], c, [], .here c, .complete empty, rfl⟩
  by_cases starts : c.isIdentifier = true ∧ c.lexeme = settings.contractKeyword
  · have next := readNextContract_of_keyword starts.1 starts.2
    rcases contract : readContract settings ⟨"", "", []⟩ c.next with ⟨draft, trace, e | d⟩
    · rw [contract] at next
      rw [readContracts_of_failed empty next]
      exact ⟨[], c, [draft], .here c, .broken starts.1 starts.2 contract, rfl⟩
    · rw [contract] at next
      have shorter := ahead_length_lt_of_readNextContract settings c d (by rw [next])
      rcases readContracts_cases settings d with ⟨finished, e, left, others, halts, built⟩
      rw [readContracts_of_done empty next]
      refine ⟨draft :: finished, e, left, .next next others, halts, ?_⟩
      simp only [Attempt.followedBy, Attempt.done, built, List.cons_append, List.nil_append]
  · have other : c.isIdentifier = false ∨ c.lexeme ≠ settings.contractKeyword := by
      rw [← Bool.not_eq_true, ← not_and_or]
      exact starts
    rcases readNextContract_of_other other with ⟨e, place, failed⟩
    rw [readContracts_of_failed empty failed]
    exact ⟨[], c, [], .here c, .refused empty other place, rfl⟩
termination_by c.ahead.length

/-- Nothing after the last semicolon counts for the contracts before it. -/
theorem Finishes.fixes {finished : List Contract} (finishes : Finishes settings c finished d) :
    c.Fixes d fun c' d' => ∃ trace, readContracts settings c'
      = (Attempt.done finished trace d').followedBy (readContracts settings d') := by
  induction finishes with
  | here c =>
    refine (Fixes.refl c).imp fun c' d' same => ⟨[], ?_⟩
    rw [same]
    rfl
  | @next c d e contract others trace first rest ih =>
    have concludes := concludes_readNextContract first
    refine (concludes.fixed.trans ih).imp fun c' e' ran => ?_
    rcases ran with ⟨d', done, traced, others⟩
    have filled : c'.ahead ≠ [] := by
      have shorter := ahead_length_lt_of_readNextContract settings c' d' (by rw [done]; rfl)
      exact fun empty => by simp [empty] at shorter
    refine ⟨trace ++ traced, ?_⟩
    rw [readContracts_of_done filled done, others, Attempt.cons_followedBy]

end Contracts

section Members

variable {settings : Settings} {c d : Cursor}

theorem readMembers_of_member {built : List Member} {trace : List String}
    (done : readMember settings c = .done built trace d) :
    readMembers settings c
      = (Attempt.done built trace d).followedBy (readMembers settings d) := by
  refine readMembers_of_done (fun closes => ?_) done
  have noName : c.isIdentifier = false := by
    rcases passes_of_symbol? closes with ⟨t, pass, symbol⟩
    rw [isIdentifier, pass.isKind, ((t.symbol?_eq_some_iff _).mp symbol).1]
    rfl
  rw [readMember, passIdentifier_of_not noName] at done
  cases done

/-- The members before any one that has been built are final: nothing after them counts. -/
theorem fixes_readMembers (settings : Settings) (c : Cursor) :
    ∀ count < (readMembers settings c).built.length, ∃ d, c.Fixes d fun c' d' =>
      ∃ trace, readMembers settings c'
        = (Attempt.done ((readMembers settings c).built.take count) trace d').followedBy
            (readMembers settings d') := by
  intro count inside
  cases count with
  | zero =>
    refine ⟨c, (Fixes.refl c).imp fun c' d' same => ⟨[], ?_⟩⟩
    rw [same]
    rfl
  | succ count =>
    have single : (readMember settings c).Single (Member.Regular fun _ => True) :=
      single_readMember settings fun _ _ _ => trivial
    by_cases closes : c.symbol? = some '\x7d'
    · rw [readMembers_of_brace closes] at inside
      cases inside
    rcases ran : readMember settings c with ⟨built, trace, e | d⟩
    · rw [ran] at single
      rw [readMembers_of_failed closes ran] at inside
      cases single with
      | none => cases inside
      | one => exact absurd inside (by simp [Attempt.failed])
    · rw [ran] at single
      rw [readMembers_of_done closes ran] at inside ⊢
      cases single with
      | @one m _ =>
        have shorter := ahead_length_lt_of_readMember settings c d (by rw [ran])
        simp only [Attempt.followedBy, Attempt.done, List.singleton_append, List.length_cons,
          List.take_succ_cons] at inside ⊢
        rcases fixes_readMembers settings d count (Nat.lt_of_succ_lt_succ inside) with ⟨e, others⟩
        refine ⟨e, ((concludes_readMember ran).fixed.trans others).imp fun c' e' ran => ?_⟩
        rcases ran with ⟨d', done, traced, others⟩
        refine ⟨trace ++ traced, ?_⟩
        rw [readMembers_of_member done, others, Attempt.cons_followedBy]
        rfl
termination_by c.ahead.length

end Members

section Cut

variable {settings : Settings} {c : Cursor}

theorem built_readContractBody (settings : Settings) (draft : Contract) (trace : List String)
    (c : Cursor) : (readContractBody settings draft trace c).built
      = { draft with members := (readMembers settings c).built } := by
  unfold readContractBody
  simp only
  split
  · rfl
  · split
    · rfl
    · rfl

/-- Reading fails before the opening brace, or the tokens up to it settle the name and the base. -/
theorem fixes_header (settings : Settings) (name base : String) (c : Cursor) :
    (readContract settings ⟨name, base, []⟩ c).built.members = [] ∨
    ∃ name' base' trace start, c.Fixes start fun c' start' =>
      readContract settings ⟨name, base, []⟩ c'
        = readContractBody settings ⟨name', base', []⟩ trace start' := by
  rcases named : c.passIdentifier .contractName with e | afterName
  · refine .inl ?_
    simp only [readContract, named, Attempt.failed]
  rcases colon : afterName.passSymbol ':' .contractColon with e | afterColon
  · refine .inl ?_
    simp only [readContract, named, colon, Attempt.failed]
  rcases based : afterColon.passIdentifier .baseName with e | afterBase
  · refine .inl ?_
    simp only [readContract, named, colon, based, Attempt.failed]
  rcases opened : afterBase.passSymbol '\x7b' .contractBody with e | start
  · refine .inl ?_
    simp only [readContract, named, colon, based, opened, Attempt.failed]
  rcases (passIdentifier_eq_ok _ _ _).mp named with ⟨nameToken, isName, first⟩
  rcases (passSymbol_eq_ok _ _ _ _).mp colon with ⟨colonToken, isColon, second⟩
  rcases (passIdentifier_eq_ok _ _ _).mp based with ⟨baseToken, isBase, third⟩
  rcases (passSymbol_eq_ok _ _ _ _).mp opened with ⟨brace, isBrace, fourth⟩
  refine .inr ⟨nameToken.lexeme, baseToken.lexeme,
    [Trace.contract nameToken.lexeme baseToken.lexeme], start, _,
    first.cons (second.cons (third.cons fourth)), ?_⟩
  intro c' start' _ pass
  rcases pass.uncons with ⟨afterName, first, rest⟩
  rcases rest.uncons with ⟨afterColon, second, rest⟩
  rcases rest.uncons with ⟨afterBase, third, fourth⟩
  simp only [readContract, first.passIdentifier isName, second.passSymbol isColon,
    third.passIdentifier isBase, fourth.passSymbol isBrace, first.lexeme, third.lexeme]

theorem readContractBody_of_members {draft : Contract} {members : List Member}
    {trace traced : List String} {d e : Cursor} {closing stop : Token}
    (read : readMembers settings c
      = (Attempt.done members traced d).followedBy (readMembers settings d))
    (closes : closing.symbol? = some '\x7d') (ends : stop.symbol? = some ';')
    (pass : d.Passes [closing, stop] e) :
    readContractBody settings draft trace c
      = .done { draft with members := members } (trace ++ traced) e := by
  rcases pass.uncons with ⟨afterBrace, first, last⟩
  rw [readMembers_of_brace (first.symbol?.trans closes), Attempt.followedBy_nil] at read
  rw [first.next] at last
  simp only [readContractBody, read, Attempt.done, last.passSymbol ends]

/-- Where a closing brace and a semicolon come before one of the members that have been built, the
    contract is read with the members before that one. -/
theorem fixes_readContract {name base : String} {count : Nat}
    (inside : count < (readContract settings ⟨name, base, []⟩ c).built.members.length) :
    ∃ d, c.Fixes d fun c' d' => ∀ (closing stop : Token) (e' : Cursor),
      closing.symbol? = some '\x7d' → stop.symbol? = some ';' → d'.Passes [closing, stop] e' →
      ∃ trace, readContract settings ⟨name, base, []⟩ c'
        = .done { (readContract settings ⟨name, base, []⟩ c).built with
            members := (readContract settings ⟨name, base, []⟩ c).built.members.take count }
          trace e' := by
  rcases fixes_header settings name base c with none | ⟨name', base', trace, start, header⟩
  · rw [none] at inside
    cases inside
  · rw [header.self, built_readContractBody] at inside ⊢
    rcases fixes_readMembers settings start count inside with ⟨d, members⟩
    refine ⟨d, (header.trans members).imp fun c' d' ran => ?_⟩
    rcases ran with ⟨start', same, traced, read⟩
    intro closing stop e' closes ends pass
    exact ⟨_, same.trans (readContractBody_of_members read closes ends pass)⟩

end Cut
end ContractLang
