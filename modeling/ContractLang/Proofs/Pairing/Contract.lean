import ContractLang.Proofs.Declaration.ContractLookahead
import ContractLang.Proofs.Pairing.Member

namespace ContractLang.Pairing

variable {p : Pairing}

abbrev SameContract (p : Pairing) : Contract → Contract → Prop :=
  Contract.Alike p.SameWord (p.SameText joinTypeLexemes) (p.SameText joinLexemes)

theorem Parallel.followedBy {α : Type} {R : α → α → Prop} {built built' : List α}
    {trace trace' : List String} {c d : Cursor} {rest rest' : Attempt (List α)}
    (first : List.Forall₂ R built built') (exact : p.Exact → built' = built ∧ trace' = trace)
    (others : p.Parallel (List.Forall₂ R) rest rest') :
    p.Parallel (List.Forall₂ R) ((Attempt.done built trace c).followedBy rest)
      ((Attempt.done built' trace' d).followedBy rest') := by
  rcases others with ⟨rfl, rfl, same, equal⟩ | ⟨rfl, rfl, next, alike, equal⟩
  · refine .failed rfl rfl same fun exactly => ?_
    simp only [Attempt.failed, Attempt.done, (exact exactly).1, (exact exactly).2,
      (equal exactly).1, (equal exactly).2, and_self]
  · refine .done rfl rfl next (List.rel_append first alike) fun exactly => ?_
    simp only [Attempt.done, (exact exactly).1, (exact exactly).2, (equal exactly).1,
      (equal exactly).2, and_self]

namespace Abreast

variable {c d : Cursor}

theorem readMembers {c d : Cursor} (abreast : p.Abreast c d) :
    p.ParallelMembers (ContractLang.readMembers p.settings c)
      (ContractLang.readMembers p.other d) := by
  by_cases closes : c.symbol? = some '\x7d'
  · rw [readMembers_of_brace closes, readMembers_of_brace (abreast.symbol?.trans closes)]
    exact .done rfl rfl abreast .nil fun _ => ⟨rfl, rfl⟩
  · have inside := abreast.symbol?.trans_ne closes
    rcases abreast.readMember with
      ⟨left, right, same, exact⟩ | @⟨_, _, _, _, e, f, left, right, next, alike, exact⟩
    · rw [readMembers_of_failed closes left, readMembers_of_failed inside right]
      exact .failed rfl rfl same exact
    · have shorter := ahead_length_lt_of_readMember p.settings c e (by rw [left]; rfl)
      rw [readMembers_of_done closes left, readMembers_of_done inside right]
      exact .followedBy alike exact next.readMembers
termination_by c.ahead.length

theorem readContractBody (abreast : p.Abreast c d) {name name' base base' : String}
    (named : p.SameWord name name') (based : p.SameWord base base') {trace trace' : List String}
    (traced : p.Exact → trace' = trace) :
    p.Parallel p.SameContract
      (ContractLang.readContractBody p.settings ⟨name, base, []⟩ trace c)
      (ContractLang.readContractBody p.other ⟨name', base', []⟩ trace' d) := by
  rcases abreast.readMembers with
    ⟨left, right, same, exact⟩ |
      @⟨built, built', inner, inner', _, _, left, right, brace, alike, exact⟩
  · simp only [ContractLang.readContractBody, left, right, Attempt.failed]
    refine .failed rfl rfl same fun exactly => ?_
    rw [named.eq exactly, based.eq exactly, traced exactly, (exact exactly).1, (exact exactly).2]
    exact ⟨rfl, rfl⟩
  · have exactly : p.Exact → (⟨name', base', built'⟩ : Contract) = ⟨name, base, built⟩ ∧
        trace' ++ inner' = trace ++ inner := by
      intro exactly
      rw [named.eq exactly, based.eq exactly, traced exactly, (exact exactly).1,
        (exact exactly).2]
      exact ⟨rfl, rfl⟩
    simp only [ContractLang.readContractBody, left, right, Attempt.done]
    rcases brace.next.passSymbol ';' .contractEnd .contractEnd (fun _ => rfl) with
      ⟨left, right, same⟩ | ⟨left, right, next⟩
    · rw [left, right]
      exact .failed rfl rfl same exactly
    · rw [left, right]
      exact .done rfl rfl next ⟨named, based, alike⟩ exactly

theorem readContract (abreast : p.Abreast c d) (name base : String) :
    p.Parallel p.SameContract (ContractLang.readContract p.settings ⟨name, base, []⟩ c)
      (ContractLang.readContract p.other ⟨name, base, []⟩ d) := by
  rcases abreast.passIdentifier .contractName .contractName (fun _ => rfl) with
    ⟨left, right, same⟩ | ⟨first, first', afterName⟩
  · simp only [ContractLang.readContract, left, right]
    exact .failed rfl rfl same fun _ => ⟨rfl, rfl⟩
  · have named := abreast.sameWord ((Cursor.pass_eq_ok _ _ _ _).mp first).1
    rcases afterName.passSymbol ':' .contractColon .contractColon (fun _ => rfl) with
      ⟨left, right, same⟩ | @⟨e, f, second, second', afterColon⟩
    · simp only [ContractLang.readContract, first, first', left, right]
      refine .failed rfl rfl same fun exactly => ?_
      rw [named.eq exactly]
      exact ⟨rfl, rfl⟩
    · rcases afterColon.passIdentifier .baseName .baseName (fun _ => rfl) with
        ⟨left, right, same⟩ | ⟨third, third', afterBase⟩
      · simp only [ContractLang.readContract, first, first', second, second', left, right]
        refine .failed rfl rfl same fun exactly => ?_
        rw [named.eq exactly]
        exact ⟨rfl, rfl⟩
      · have based := afterColon.sameWord ((Cursor.pass_eq_ok _ _ _ _).mp third).1
        have traced : p.Exact →
            [Trace.contract d.lexeme f.lexeme] = [Trace.contract c.lexeme e.lexeme] := by
          intro exactly
          rw [named.eq exactly, based.eq exactly]
        rcases afterBase.passSymbol '\x7b' .contractBody .contractBody (fun _ => rfl) with
          ⟨left, right, same⟩ | ⟨left, right, start⟩
        · simp only [ContractLang.readContract, first, first', second, second', third, third', left,
            right]
          refine .failed rfl rfl same fun exactly => ⟨?_, traced exactly⟩
          rw [named.eq exactly, based.eq exactly]
        · simp only [ContractLang.readContract, first, first', second, second', third, third', left,
            right]
          exact start.readContractBody named based traced

theorem readNextContract (abreast : p.Abreast c d) :
    p.Parallel (List.Forall₂ p.SameContract) (ContractLang.readNextContract p.settings c)
      (ContractLang.readNextContract p.other d) := by
  cases identifier : c.isIdentifier with
  | false =>
    have left := Cursor.passIdentifier_of_not identifier .contractExpected
    have right := Cursor.passIdentifier_of_not (abreast.isIdentifier.trans identifier)
      .contractExpected
    simp only [ContractLang.readNextContract, left, right]
    exact .failed rfl rfl (abreast.sameError _ _ fun _ => rfl) fun _ => ⟨rfl, rfl⟩
  | true =>
    have left := Cursor.passIdentifier_of_isIdentifier identifier .contractExpected
    have right := Cursor.passIdentifier_of_isIdentifier (abreast.isIdentifier.trans identifier)
      .contractExpected
    have keyword := abreast.chosen identifier .contractKeyword
    simp only [Settings.word] at keyword
    simp only [ContractLang.readNextContract, left, right, keyword]
    split
    · rcases abreast.next.readContract "" "" with
        ⟨left, right, same, exact⟩ | ⟨left, right, next, alike, exact⟩
      · rw [left, right]
        refine .failed rfl rfl same fun exactly => ?_
        rw [(exact exactly).1]
        exact ⟨rfl, (exact exactly).2⟩
      · rw [left, right]
        refine .done rfl rfl next (.cons alike .nil) fun exactly => ?_
        rw [(exact exactly).1]
        exact ⟨rfl, (exact exactly).2⟩
    · refine .failed rfl rfl (abreast.sameError _ _ fun exactly => ?_) fun _ => ⟨rfl, rfl⟩
      rw [abreast.lexeme_eq exactly, exactly.settings]

/-- Contracts are read in step from tokens and their counterparts: up to the same position, and
    with the same shape. -/
theorem readContracts {c d : Cursor} (abreast : p.Abreast c d) :
    p.Parallel (List.Forall₂ p.SameContract) (ContractLang.readContracts p.settings c)
      (ContractLang.readContracts p.other d) := by
  have ends : d.ahead = [] ↔ c.ahead = [] := by
    have related := abreast.counterparts
    constructor
    · intro ended
      rw [ended] at related
      exact List.forall₂_nil_right_iff.mp related
    · intro ended
      rw [ended] at related
      exact List.forall₂_nil_left_iff.mp related
  by_cases ended : c.ahead = []
  · rw [readContracts_of_empty ended, readContracts_of_empty (ends.mpr ended)]
    exact .done rfl rfl abreast .nil fun _ => ⟨rfl, rfl⟩
  · have filled := mt ends.mp ended
    rcases abreast.readNextContract with
      ⟨left, right, same, exact⟩ | @⟨_, _, _, _, e, f, left, right, next, alike, exact⟩
    · rw [readContracts_of_failed ended left, readContracts_of_failed filled right]
      exact .failed rfl rfl same exact
    · have shorter := ahead_length_lt_of_readNextContract p.settings c e (by rw [left]; rfl)
      rw [readContracts_of_done ended left, readContracts_of_done filled right]
      exact .followedBy alike exact next.readContracts
termination_by c.ahead.length

end Abreast
end ContractLang.Pairing
