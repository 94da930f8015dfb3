import ContractLang.Proofs.Cursor.Rounds
import ContractLang.Proofs.Declaration.Arrival

namespace ContractLang

namespace Cursor

variable {c d : Cursor}

theorem Arrives.atLeast (arrives : c.Arrives (.ok d)) : c.PassesAtLeast 0 d := by
  rcases arrives.exists_passes with ⟨span, pass⟩
  exact pass.atLeast.weaken (Nat.zero_le _)

theorem passesAtLeast_of_symbol? {symbol : Char} (found : c.symbol? = some symbol) :
    c.PassesAtLeast 1 c.next := by
  rcases passes_of_symbol? found with ⟨t, pass, -⟩
  exact pass.atLeast

theorem passesAtLeast_passSymbol {symbol : Char} {complaint : Complaint}
    (passed : c.passSymbol symbol complaint = .ok d) : c.PassesAtLeast 1 d := by
  rcases (passSymbol_eq_ok _ _ _ _).mp passed with ⟨t, -, pass⟩
  exact pass.atLeast

theorem passesAtLeast_passIdentifier {complaint : Complaint}
    (passed : c.passIdentifier complaint = .ok d) : c.PassesAtLeast 1 d := by
  rcases (passIdentifier_eq_ok _ _ _).mp passed with ⟨t, -, pass⟩
  exact pass.atLeast

theorem passesAtLeast_code {mode : ScanMode} {s : Stretch} (ran : c.code mode = .ok s) :
    c.PassesAtLeast 0 s.next := by
  rcases exists_passes_of_code ran with ⟨span, pass⟩
  exact pass.atLeast.weaken (Nat.zero_le _)

theorem passesAtLeast_statement {complaint : Complaint} {s : Stretch}
    (ran : c.statement complaint = .ok s) : c.PassesAtLeast 2 s.next := by
  rcases (statement_eq_ok _ _ _).mp ran with ⟨-, -, filled, stop, -, pass⟩
  refine pass.atLeast.weaken ?_
  have value := List.length_pos_iff.mpr filled
  rw [List.length_append, List.length_singleton]
  exact Nat.succ_le_succ value

theorem passesAtLeast_typeComponent (ran : c.typeComponent = .ok d) : c.PassesAtLeast 1 d := by
  have typename := c.arrives_skipLexeme (show "typename" ≠ "" by decide)
  have words := typename.after (arrives_skipLexeme _ (show "template" ≠ "" by decide))
  unfold typeComponent at ran
  split at ran
  · cases ran
  · rename_i after passed
    have arguments := after.arrives_typeArguments
    rw [ran] at arguments
    exact words.atLeast.trans ((passesAtLeast_passIdentifier passed).trans arguments.atLeast)

/-- Already the first component has a name. -/
theorem passesAtLeast_typeComponents (ran : c.typeComponents = .ok d) : c.PassesAtLeast 1 d := by
  rcases first : c.typeComponent with e | after
  · rw [typeComponents_of_error first] at ran
    cases ran
  · have component := passesAtLeast_typeComponent first
    rw [typeComponents_of_ok first] at ran
    split at ran
    · rename_i scope
      rcases exists_token_of_lexeme scope (by decide) with ⟨t, found⟩
      have others := after.next.arrives_typeComponents
      rw [ran] at others
      exact component.trans ((arrives_next found).after others).atLeast
    · cases ran
      exact component

theorem passesAtLeast_typeName {type : TypeSpan} (ran : c.typeName = .ok type) :
    c.PassesAtLeast 1 type.next := by
  have const := (c.arrives_skipLexeme (show "const" ≠ "" by decide)).atLeast
  unfold typeName at ran
  split at ran
  · cases ran
  · rename_i last path
    have reference := last.arrives_skipSymbol '&'
    have marks := reference.after (arrives_skipSymbol _ '*')
    cases ran
    exact const.trans ((passesAtLeast_typeComponents path).trans marks.atLeast)

end Cursor

open Cursor

section Members

variable {settings : Settings} {c d : Cursor}

theorem passesAtLeast_readData {type name : String}
    (ran : (readData type name c).outcome = .ok d) : c.PassesAtLeast 1 d := by
  unfold readData at ran
  split at ran
  · rename_i semicolon
    cases ran
    exact passesAtLeast_of_symbol? semicolon
  · split at ran
    · cases ran
    · rename_i initial read
      have sign := (c.arrives_skipSymbol '=').atLeast
      have value := sign.trans (passesAtLeast_statement read)
      cases ran
      exact value.weaken (by decide)

theorem passesAtLeast_readAssociatedType
    (ran : (readAssociatedType settings c).outcome = .ok d) : c.PassesAtLeast 4 d := by
  unfold readAssociatedType at ran
  split at ran
  · cases ran
  · split at ran
    · cases ran
    · rename_i type spanned
      simp only at ran
      split at ran
      · cases ran
      · rename_i start passed
        split at ran
        · cases ran
        · rename_i value read
          have name := passesAtLeast_typeName spanned
          have sign := passesAtLeast_passSymbol passed
          cases ran
          exact name.trans (sign.trans (passesAtLeast_statement read))

theorem passesAtLeast_readMarker {m : Method} {trace : List String}
    (ran : (readMarker settings m trace c).outcome = .ok d) : c.PassesAtLeast 2 d := by
  rcases markerForm_or_failed settings m trace c with ⟨marker, marked, found, mark⟩ | failed
  · rw [readMarker_of_markerForm trace found mark] at ran
    exact (passes_next found).atLeast.trans (passesAtLeast_passSymbol ran)
  · rw [failed] at ran
    cases ran

theorem passesAtLeast_readBody {m : Method} {trace : List String}
    (ran : (readBody m trace c).outcome = .ok d) : c.PassesAtLeast 1 d := by
  unfold readBody at ran
  split at ran
  · cases ran
  · rename_i code read
    simp only at ran
    split at ran
    · cases ran
    · rename_i next passed
      cases ran
      exact (passesAtLeast_code read).trans (passesAtLeast_passSymbol passed)

theorem passesAtLeast_readMethod {returnType name : String}
    (ran : (readMethod settings returnType name c).outcome = .ok d) : c.PassesAtLeast 3 d := by
  unfold readMethod at ran
  simp only at ran
  split at ran
  · cases ran
  · rename_i arguments read
    split at ran
    · cases ran
    · rename_i afterArguments passed
      have parenthesis := (passesAtLeast_code read).trans (passesAtLeast_passSymbol passed)
      have front := parenthesis.trans afterArguments.arrives_names.atLeast
      split at ran
      · rename_i sign
        have mark := (passesAtLeast_of_symbol? sign).trans (passesAtLeast_readMarker ran)
        exact (front.trans mark).weaken (by decide)
      · split at ran
        · rename_i opens
          exact front.trans ((passesAtLeast_of_symbol? opens).trans (passesAtLeast_readBody ran))
        · cases ran

theorem passesAtLeast_readMember (ran : (readMember settings c).outcome = .ok d) :
    c.PassesAtLeast 3 d := by
  unfold readMember at ran
  split at ran
  · cases ran
  · rename_i afterKeyword passed
    split at ran
    · have keyword := passesAtLeast_passIdentifier passed
      exact (keyword.trans (passesAtLeast_readAssociatedType ran)).weaken (by decide)
    · split at ran
      · cases ran
      · rename_i type spanned
        simp only at ran
        split at ran
        · cases ran
        · rename_i afterName named
          have head := (passesAtLeast_typeName spanned).trans (passesAtLeast_passIdentifier named)
          split at ran
          · rename_i opens
            have parenthesis := head.trans (passesAtLeast_of_symbol? opens)
            exact (parenthesis.trans (passesAtLeast_readMethod ran)).weaken (by decide)
          · exact head.trans (passesAtLeast_readData ran)

end Members

section Contracts

variable {settings : Settings} {draft : Contract} {c d : Cursor}

theorem passesAtLeast_readContractBody {trace : List String}
    (ran : (readContractBody settings draft trace c).outcome = .ok d) : c.PassesAtLeast 2 d := by
  have members := arrives_readMembers settings c
  unfold readContractBody at ran
  simp only at ran
  split at ran
  · cases ran
  · rename_i brace read
    rw [read] at members
    split at ran
    · cases ran
    · rename_i next passed
      have closing := passesAtLeast_of_symbol? (symbol?_of_readMembers read)
      cases ran
      exact members.atLeast.trans (closing.trans (passesAtLeast_passSymbol passed))

theorem passesAtLeast_readContract (ran : (readContract settings draft c).outcome = .ok d) :
    c.PassesAtLeast 6 d := by
  unfold readContract at ran
  split at ran
  · cases ran
  · rename_i afterName named
    simp only at ran
    split at ran
    · cases ran
    · rename_i afterColon colon
      split at ran
      · cases ran
      · rename_i afterBase based
        split at ran
        · cases ran
        · rename_i start opened
          have name := (passesAtLeast_passIdentifier named).trans (passesAtLeast_passSymbol colon)
          have base := (passesAtLeast_passIdentifier based).trans (passesAtLeast_passSymbol opened)
          exact name.trans (base.trans (passesAtLeast_readContractBody ran))

theorem passesAtLeast_readNextContract (ran : (readNextContract settings c).outcome = .ok d) :
    c.PassesAtLeast 7 d := by
  unfold readNextContract at ran
  split at ran
  · cases ran
  · rename_i afterKeyword passed
    split at ran
    · exact (passesAtLeast_passIdentifier passed).trans (passesAtLeast_readContract ran)
    · cases ran

end Contracts
end ContractLang
