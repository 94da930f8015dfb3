import ContractLang.Proofs.Declaration.MemberLookahead

namespace ContractLang

open Cursor

theorem readMembers_of_brace {settings : Settings} {c : Cursor}
    (closes : c.symbol? = some '\x7d') : readMembers settings c = .done [] [] c := by
  rw [readMembers, if_pos closes]

theorem readMembers_of_failed {settings : Settings} {c : Cursor} {built : List Member}
    {trace : List String} {e : SyntaxError} (inside : c.symbol? ≠ some '\x7d')
    (failed : readMember settings c = .failed built trace e) :
    readMembers settings c = .failed built trace e := by
  rw [readMembers, if_neg inside]
  split
  · rename_i ran
    rw [failed] at ran
    cases ran
    rfl
  · rename_i ran
    rw [failed] at ran
    cases ran

theorem readMembers_of_done {settings : Settings} {c d : Cursor} {built : List Member}
    {trace : List String} (inside : c.symbol? ≠ some '\x7d')
    (done : readMember settings c = .done built trace d) :
    readMembers settings c
      = (Attempt.done built trace d).followedBy (readMembers settings d) := by
  rw [readMembers, if_neg inside]
  split
  · rename_i ran
    rw [done] at ran
    cases ran
  · rename_i ran
    rw [done] at ran
    cases ran
    rfl

theorem Reads.followedBy {α : Type} {read rest : Cursor → Attempt (List α)} {c d : Cursor}
    {before : Nat → Cursor → Cursor → Prop} (built : List α) (trace : List String)
    (first : c.Settles d before) (last : Reads rest d)
    (joined : ∀ k c' d', before k c' d' →
      read c' = (Attempt.done built trace d').followedBy (rest d')) : Reads read c := by
  rcases last with ⟨⟨others, traced, stands, settled⟩⟩ | ⟨others, traced, settled⟩
  · refine .failed (.intro (built ++ others) (trace ++ traced) stands
      ((first.trans settled).imp ?_))
    intro k c' e' ran
    rcases ran with ⟨d', ran, failed⟩
    rw [joined k c' d' ran, failed]
    rfl
  · refine .done (built ++ others) (trace ++ traced) ((first.trans settled).imp ?_)
    intro k c' e' ran
    rcases ran with ⟨d', ran, done⟩
    rw [joined k c' d' ran, done]
    rfl

theorem reads_readMembers (settings : Settings) (c : Cursor) : Reads (readMembers settings) c := by
  by_cases closes : c.symbol? = some '\x7d'
  · refine .done [] [] (.here ?_)
    intro k c' alike
    exact readMembers_of_brace (alike.symbol?.trans closes)
  · rcases reads_readMember settings c with
      ⟨⟨built, trace, stands, member⟩⟩ | @⟨built, trace, d, member⟩
    · refine .failed (.intro built trace stands (member.atStart.imp ?_))
      intro k c' d' ran
      rcases ran with ⟨alike, failed⟩
      exact readMembers_of_failed (alike.symbol?.trans_ne closes) failed
    · have shorter := ahead_length_lt_of_readMember settings c d (by rw [member.self]; rfl)
      refine .followedBy built trace member.atStart (reads_readMembers settings d) ?_
      intro k c' d' ran
      rcases ran with ⟨alike, done⟩
      exact readMembers_of_done (alike.symbol?.trans_ne closes) done
termination_by c.ahead.length

theorem symbol?_of_readMembers {settings : Settings} {c d : Cursor}
    (h : (readMembers settings c).outcome = .ok d) : d.symbol? = some '\x7d' := by
  by_cases closes : c.symbol? = some '\x7d'
  · rw [readMembers_of_brace closes] at h
    cases h
    exact closes
  · rcases member : readMember settings c with ⟨built, trace, e | next⟩
    · rw [readMembers_of_failed closes member] at h
      cases h
    · have shorter := ahead_length_lt_of_readMember settings c next (by rw [member])
      rw [readMembers_of_done closes member] at h
      exact symbol?_of_readMembers h
termination_by c.ahead.length

/-- The reader fails, or the semicolon at which it ends settles what it gives, whatever comes
    after. -/
inductive ReadsToSemicolon {α : Type} (read : Cursor → Attempt α) (c : Cursor) : Prop
  | failed (fails : Fails read c)
  | done (built : α) (trace : List String) {d : Cursor} (ends : d.symbol? = some ';')
      (settled : c.Settles d fun _ c' d' => read c' = .done built trace d'.next)

theorem ReadsToSemicolon.after {α : Type} {read rest : Cursor → Attempt α} {c d : Cursor}
    {before : Nat → Cursor → Cursor → Prop} (first : c.Settles d before)
    (last : ReadsToSemicolon rest d) (same : ∀ k c' d', before k c' d' → read c' = rest d') :
    ReadsToSemicolon read c := by
  cases last with
  | failed fails => exact .failed (.after first fails same)
  | done built trace ends settled =>
    refine .done built trace ends ((first.trans settled).imp ?_)
    intro k c' e' ran
    rcases ran with ⟨d', ran, done⟩
    rw [same k c' d' ran, done]

theorem reads_readContractBody (settings : Settings) (draft : Contract) (trace : List String)
    (c : Cursor) : ReadsToSemicolon (readContractBody settings draft trace) c := by
  rcases reads_readMembers settings c with
    ⟨⟨built, traced, stands, members⟩⟩ | @⟨built, traced, d, members⟩
  · refine .failed (.intro { draft with members := built } (trace ++ traced) stands
      (members.imp ?_))
    intro k c' d' failed
    simp only [readContractBody, failed]
    rfl
  · have brace : d.symbol? = some '\x7d' := symbol?_of_readMembers (by rw [members.self]; rfl)
    rcases exists_token_of_symbol? brace with ⟨t, found⟩
    have front := (members.trans (.next found)).atEnd
    by_cases ends : d.next.symbol? = some ';'
    · refine .done { draft with members := built } (trace ++ traced) ends (front.imp ?_)
      intro k c' d' ran
      rcases ran with ⟨⟨stop, done, _, rfl⟩, alike⟩
      have passed := passSymbol_of_symbol? (alike.symbol?.trans ends) .contractEnd
      simp only [readContractBody, done, Attempt.done, passed]
    · refine .failed (.of_refusal { draft with members := built } (trace ++ traced) .contractEnd
        (fun _ => rfl) (front.imp ?_))
      intro k c' d' ran
      rcases ran with ⟨⟨stop, done, _, rfl⟩, alike⟩
      have refused := passSymbol_of_not (alike.symbol?.trans_ne ends) .contractEnd
      simp only [readContractBody, done, Attempt.done, refused]

theorem reads_readContract (settings : Settings) (draft : Contract) (c : Cursor) :
    ReadsToSemicolon (readContract settings draft) c := by
  rcases moves_passIdentifier (fun _ => .contractName) (fun _ _ => rfl) c with
    ⟨stands, name⟩ | @⟨_, d, name⟩
  · refine .failed (.intro draft [] stands (name.imp ?_))
    intro k c' d' failed
    simp only [readContract, failed]
  · let named := { draft with name := c.lexeme }
    rcases moves_passSymbol ':' (fun _ => .contractColon) (fun _ _ => rfl) d with
      ⟨stands, colon⟩ | @⟨_, e, colon⟩
    · refine .failed (.intro named [] stands ((name.atStart.trans colon).imp ?_))
      intro k c' d' ran
      rcases ran with ⟨afterName, ⟨alike, passedName⟩, failed⟩
      simp only [readContract, passedName, failed, alike.lexeme]
      rfl
    · have front := name.atStart.trans colon
      rcases moves_passIdentifier (fun _ => .baseName) (fun _ _ => rfl) e with
        ⟨stands, base⟩ | @⟨_, f, base⟩
      · refine .failed (.intro named [] stands ((front.trans base).imp ?_))
        intro k c' d' ran
        rcases ran with ⟨afterColon, ⟨afterName, ⟨alike, passedName⟩, passedColon⟩, failed⟩
        simp only [readContract, passedName, passedColon, failed, alike.lexeme]
        rfl
      · let based := { named with base := e.lexeme }
        let traced := [Trace.contract based.name based.base]
        have front := front.trans base.atStart
        rcases moves_passSymbol '\x7b' (fun _ => .contractBody) (fun _ _ => rfl) f with
          ⟨stands, brace⟩ | @⟨_, g, brace⟩
        · refine .failed (.intro based traced stands ((front.trans brace).imp ?_))
          intro k c' d' ran
          rcases ran with ⟨afterBase, ⟨afterColon, ⟨afterName, ⟨alike, passedName⟩, passedColon⟩,
            same, passedBase⟩, failed⟩
          simp only [readContract, passedName, passedColon, passedBase, failed, alike.lexeme,
            same.lexeme]
          rfl
        · refine .after (front.trans brace) (reads_readContractBody settings based traced g) ?_
          intro k c' d' ran
          rcases ran with ⟨afterBase, ⟨afterColon, ⟨afterName, ⟨alike, passedName⟩, passedColon⟩,
            same, passedBase⟩, passedBrace⟩
          simp only [readContract, passedName, passedColon, passedBase, passedBrace, alike.lexeme,
            same.lexeme]
          rfl

theorem reads_readNextContract (settings : Settings) (c : Cursor) :
    ReadsToSemicolon (readNextContract settings) c := by
  cases identifier : c.isIdentifier with
  | false =>
    refine .failed (.of_refusal [] [] .contractExpected (fun _ => rfl) (.here ?_))
    intro k c' alike
    have other := alike.isIdentifier.trans identifier
    simp only [readNextContract, passIdentifier_of_not other]
  | true =>
    rcases exists_token_of_isKind identifier with ⟨t, found⟩
    have word : ∀ {k c'}, c.Alike k c' → c'.passIdentifier .contractExpected = .ok c'.next :=
      fun alike => passIdentifier_of_isIdentifier (alike.isIdentifier.trans identifier) _
    by_cases keyword : c.lexeme = settings.contractKeyword
    · rcases reads_readContract settings ⟨"", "", []⟩ c.next with
        ⟨⟨built, trace, stands, contract⟩⟩ | ⟨built, trace, ends, contract⟩
      · refine .failed (.intro [built] trace stands (((Settles.next found).trans contract).imp ?_))
        intro k c' d' ran
        rcases ran with ⟨start, ⟨alike, rfl⟩, failed⟩
        simp only [readNextContract, word alike, alike.lexeme, keyword, if_true, failed]
        rfl
      · refine .done [built] trace ends (((Settles.next found).trans contract).imp ?_)
        intro k c' d' ran
        rcases ran with ⟨start, ⟨alike, rfl⟩, done⟩
        simp only [readNextContract, word alike, alike.lexeme, keyword, if_true, done]
        rfl
    · refine .failed (.of_refusal [] [] (.unknownKeyword c.lexeme settings.contractKeyword)
        (fun _ => rfl) (.here ?_))
      intro k c' alike
      simp only [readNextContract, word alike, alike.lexeme, keyword, if_false]

theorem readContracts_of_empty {settings : Settings} {c : Cursor} (empty : c.ahead = []) :
    readContracts settings c = .done [] [] c := by
  rw [readContracts, empty]
  rfl

theorem readContracts_of_failed {settings : Settings} {c : Cursor} {built : List Contract}
    {trace : List String} {e : SyntaxError} (filled : c.ahead ≠ [])
    (failed : readNextContract settings c = .failed built trace e) :
    readContracts settings c = .failed built trace e := by
  rw [readContracts, if_neg (by simpa using filled)]
  split
  · rename_i ran
    rw [failed] at ran
    cases ran
    rfl
  · rename_i ran
    rw [failed] at ran
    cases ran

theorem readContracts_of_done {settings : Settings} {c d : Cursor} {built : List Contract}
    {trace : List String} (filled : c.ahead ≠ [])
    (done : readNextContract settings c = .done built trace d) :
    readContracts settings c
      = (Attempt.done built trace d).followedBy (readContracts settings d) := by
  rw [readContracts, if_neg (by simpa using filled)]
  split
  · rename_i ran
    rw [done] at ran
    cases ran
  · rename_i ran
    rw [done] at ran
    cases ran
    rfl

theorem Cursor.Alike.ahead_eq_nil_iff {k : Nat} {c d : Cursor} (alike : c.Alike k d) :
    d.ahead = [] ↔ c.ahead = [] := by
  rw [← List.head?_eq_none_iff, ← List.head?_eq_none_iff, alike.head]

/-- One token of lookahead is enough for a list of contracts. -/
theorem reads_readContracts (settings : Settings) (c : Cursor) :
    Reads (readContracts settings) c := by
  by_cases empty : c.ahead = []
  · refine .done [] [] (.here ?_)
    intro k c' alike
    exact readContracts_of_empty (alike.ahead_eq_nil_iff.mpr empty)
  · rcases reads_readNextContract settings c with
      ⟨⟨built, trace, stands, contract⟩⟩ | @⟨built, trace, d, ends, contract⟩
    · refine .failed (.intro built trace stands (contract.atStart.imp ?_))
      intro k c' d' ran
      rcases ran with ⟨alike, failed⟩
      exact readContracts_of_failed (mt alike.ahead_eq_nil_iff.mp empty) failed
    · have shorter := ahead_length_lt_of_readNextContract settings c d.next
        (by rw [contract.self]; rfl)
      rcases exists_token_of_symbol? ends with ⟨t, found⟩
      refine .followedBy built trace (contract.atStart.trans (.next found))
        (reads_readContracts settings d.next) ?_
      intro k c' d' ran
      rcases ran with ⟨stop, ⟨alike, done⟩, _, rfl⟩
      exact readContracts_of_done (mt alike.ahead_eq_nil_iff.mp empty) done
termination_by c.ahead.length

end ContractLang
