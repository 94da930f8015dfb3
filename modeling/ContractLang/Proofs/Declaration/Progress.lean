import ContractLang.Proofs.Cursor.Fixed
import ContractLang.Proofs.Declaration.ContractLookahead

namespace ContractLang

open Cursor MemberAttempt

/-- The reader gets to `d`, and the tokens that it passes settle what it gives: no token after them
    has been looked at. -/
structure Concludes {α : Type} (read : Cursor → Attempt α) (c : Cursor) (built : α)
    (trace : List String) (d : Cursor) : Prop where
  moved : c.position < d.position
  fixed : c.Fixes d fun c' d' => read c' = .done built trace d'

section Rules

variable {α : Type} {read rest : Cursor → Attempt α} {c d e : Cursor} {built : α}
  {trace : List String}

theorem Concludes.after {before : Nat → Cursor → Cursor → Prop} (first : c.Settles d before)
    (last : Concludes rest d built trace e) (same : ∀ c' d', before 0 c' d' → read c' = rest d') :
    Concludes read c built trace e := by
  refine ⟨Nat.lt_of_le_of_lt first.position_le last.moved, ?_⟩
  refine (first.fixes last.fixed last.moved).imp ?_
  intro c' e' ran
  rcases ran with ⟨d', before, done⟩
  rw [same c' d' before, done]

/-- At last the reader passes some tokens, one at least, and is done. -/
theorem Concludes.of_last {before : Nat → Cursor → Cursor → Prop} {after : Cursor → Cursor → Prop}
    (first : c.Settles d before) (moved : d.position < e.position) (last : d.Fixes e after)
    (done : ∀ c' d' e', before 0 c' d' → after d' e' → read c' = .done built trace e') :
    Concludes read c built trace e := by
  refine ⟨Nat.lt_of_le_of_lt first.position_le moved, (first.fixes last moved).imp ?_⟩
  intro c' e' ran
  rcases ran with ⟨d', before, after⟩
  exact done c' d' e' before after

end Rules

theorem Cursor.Scans.settles {α β : Type} {put : β → Cursor → α}
    {read : Cursor → Except SyntaxError α} {c : Cursor} {a : α} (scans : Scans put read c)
    (ran : read c = .ok a) :
    ∃ built d, a = put built d ∧ c.Settles d fun _ c' d' => read c' = .ok (put built d') := by
  cases scans with
  | error stands settled =>
    have failed := settled.self
    rw [ran] at failed
    cases failed
  | @ok built d settled =>
    have same := settled.self
    rw [ran] at same
    cases same
    exact ⟨built, d, rfl, settled⟩

theorem Cursor.Moves.settles {read : Cursor → Except SyntaxError Cursor} {c d : Cursor}
    (moves : Moves read c) (ran : read c = .ok d) : c.Settles d fun _ c' d' => read c' = .ok d' := by
  rcases Scans.settles moves ran with ⟨_, _, rfl, settled⟩
  exact settled

theorem Cursor.fixes_statement {complaint : Complaint} {c : Cursor} {s : Stretch}
    (ran : c.statement complaint = .ok s) : c.position < s.next.position ∧
      c.Fixes s.next fun c' d' => c'.statement complaint = .ok { s with next := d' } := by
  rcases (statement_eq_ok _ _ _).mp ran with ⟨ending, region, filled, stop, semicolon, pass⟩
  refine ⟨?_, _, pass, fun c' d' _ other => ?_⟩
  · rw [pass.2, List.length_append, List.length_singleton]
    omega
  · exact (statement_eq_ok _ _ _).mpr ⟨ending, region, filled, stop, semicolon, other⟩

theorem Cursor.fixes_passSymbol {c d : Cursor} {symbol : Char} {complaint : Complaint}
    (ran : c.passSymbol symbol complaint = .ok d) : c.position < d.position ∧
      c.Fixes d fun c' d' => ∀ complaint, c'.passSymbol symbol complaint = .ok d' := by
  rcases (passSymbol_eq_ok _ _ _ _).mp ran with ⟨t, found, pass⟩
  refine ⟨?_, [t], pass, fun c' d' _ other complaint => other.passSymbol found complaint⟩
  rw [pass.2]
  exact Nat.lt_succ_self _

section Members

variable {settings : Settings} {c d : Cursor} {built : List Member} {trace traced : List String}

theorem concludes_readData {type name : String}
    (ran : readData type name c = .done built trace d) :
    Concludes (readData type name) c built trace d := by
  unfold readData at ran
  split at ran
  · rename_i semicolon
    rcases exists_token_of_symbol? semicolon with ⟨t, found⟩
    have isSemicolon := (passes_next found).symbol?.symm.trans semicolon
    cases ran
    refine ⟨Nat.lt_succ_self _, (Fixes.next found).imp ?_⟩
    intro c' d' first
    rcases first with ⟨same, rfl⟩
    rw [readData, if_pos ((passes_next same).symbol?.trans isSemicolon)]
    rfl
  · rename_i value
    split at ran
    · cases ran
    · rename_i initial read
      rcases fixes_statement read with ⟨moved, fixed⟩
      cases ran
      refine .of_last (settles_skipSymbol '=' c).atStart moved fixed ?_
      intro c' d' e' start read
      rcases start with ⟨alike, skipped⟩
      simp only [readData, alike.symbol?, value, if_false, skipped, read]
      rfl

theorem concludes_readAssociatedType
    (ran : readAssociatedType settings c = .done built trace d) :
    Concludes (readAssociatedType settings) c built trace d := by
  unfold readAssociatedType at ran
  split at ran
  · cases ran
  · rename_i demanded
    have identifier := (Place.demand_eq_ok_iff _ _ _).mp demanded
    split at ran
    · cases ran
    · rename_i type spanned
      simp only at ran
      split at ran
      · cases ran
      · rename_i start passed
        split at ran
        · cases ran
        · rename_i value read
          rcases (scans_typeName c).settles spanned with ⟨text, after, rfl, named⟩
          have sign := (moves_passSymbol '=' (fun _ => .aliasValue) (fun _ _ => rfl) after).settles
            passed
          rcases fixes_statement read with ⟨moved, fixed⟩
          cases ran
          refine .of_last (named.atStart.trans sign) moved fixed ?_
          intro c' d' e' front valued
          rcases front with ⟨after, ⟨alike, read⟩, passed⟩
          simp only [readAssociatedType, Place.demand, alike.isIdentifier, identifier, if_true,
            read, passed, valued]
          rfl

theorem concludes_readMarker {m : Method}
    (ran : readMarker settings m trace c = .done built traced d) :
    Concludes (readMarker settings m trace) c built traced d := by
  rcases markerForm_or_failed settings m trace c with ⟨marker, marked, found, mark⟩ | failed
  · rw [readMarker_of_markerForm trace found mark] at ran
    rcases Attempt.mk.inj ran with ⟨rfl, rfl, passed⟩
    rcases fixes_passSymbol passed with ⟨moved, fixed⟩
    refine .of_last (.next found) moved fixed ?_
    intro c' d' e' first passed
    rcases first with ⟨alike, rfl⟩
    rw [readMarker_of_markerForm trace (alike.head.trans found) mark, passed]
    rfl
  · rw [failed] at ran
    cases ran

theorem concludes_readBody {m : Method} (ran : readBody m trace c = .done built traced d) :
    Concludes (readBody m trace) c built traced d := by
  unfold readBody at ran
  split at ran
  · cases ran
  · rename_i code read
    simp only at ran
    split at ran
    · cases ran
    · rename_i next passed
      rcases (scans_code .body c).settles read with ⟨tokens, after, rfl, inner⟩
      rcases fixes_passSymbol passed with ⟨moved, fixed⟩
      cases ran
      refine .of_last inner moved fixed ?_
      intro c' d' e' read passed
      simp only [readBody, read, Stretch.put, passed]
      rfl

theorem concludes_readMethod {returnType name : String}
    (ran : readMethod settings returnType name c = .done built trace d) :
    Concludes (readMethod settings returnType name) c built trace d := by
  unfold readMethod at ran
  simp only at ran
  split at ran
  · cases ran
  · rename_i arguments read
    split at ran
    · cases ran
    · rename_i afterArguments passed
      rcases (scans_code .statement c).settles read with ⟨tokens, after, rfl, inner⟩
      have closing := (moves_passSymbol ')' (fun _ => .argumentsEnd) (fun _ _ => rfl) after).settles
        passed
      have front := inner.trans (closing.trans (settles_names afterArguments).atEnd)
      split at ran
      · rename_i sign
        rcases exists_token_of_symbol? sign with ⟨t, found⟩
        refine .after (front.trans (.next found)) (concludes_readMarker ran) ?_
        intro c' d' ran
        rcases ran with ⟨after, ⟨stop, read, close, passed, named, _⟩, alike, rfl⟩
        simp only [readMethod, read, Stretch.put, passed, named, alike.symbol?, sign, if_true]
        rfl
      · split at ran
        · rename_i noSign opens
          rcases exists_token_of_symbol? opens with ⟨t, found⟩
          refine .after (front.trans (.next found)) (concludes_readBody ran) ?_
          intro c' d' ran
          rcases ran with ⟨after, ⟨stop, read, close, passed, named, _⟩, alike, rfl⟩
          simp only [readMethod, read, Stretch.put, passed, named, alike.symbol?, opens, if_true]
          rfl
        · cases ran

theorem concludes_readMember (ran : readMember settings c = .done built trace d) :
    Concludes (readMember settings) c built trace d := by
  unfold readMember at ran
  split at ran
  · cases ran
  · rename_i afterKeyword passed
    rcases (pass_eq_ok _ _ _ _).mp passed with ⟨identifier, rfl⟩
    rcases exists_token_of_isKind identifier with ⟨t, found⟩
    have word : ∀ {k c'}, c.Alike k c' → c'.passIdentifier .memberExpected = .ok c'.next :=
      fun alike => passIdentifier_of_isIdentifier (alike.isIdentifier.trans identifier) _
    split at ran
    · rename_i isAlias
      refine .after (.next found) (concludes_readAssociatedType ran) ?_
      intro c' d' ran
      rcases ran with ⟨alike, rfl⟩
      simp only [readMember, word alike, alike.lexeme, isAlias, if_true]
    · rename_i noAlias
      split at ran
      · cases ran
      · rename_i type spanned
        split at ran
        · cases ran
        · rename_i afterName named
          rcases (scans_typeName c).settles spanned with ⟨text, after, rfl, type⟩
          have name := (moves_passIdentifier (fun _ => .memberName) (fun _ _ => rfl) after).settles
            named
          have front := type.atStart.trans name.atStart.atEnd
          simp only at ran
          split at ran
          · rename_i opens
            rcases exists_token_of_symbol? opens with ⟨t, found⟩
            refine .after (front.trans (.next found)) (concludes_readMethod ran) ?_
            intro c' d' ran
            rcases ran with ⟨stop, ⟨after, ⟨alike, read⟩, ⟨same, passed⟩, _⟩, last, rfl⟩
            simp only [readMember, word alike, alike.lexeme, noAlias, if_false, read, passed,
              last.symbol?, opens, if_true, same.lexeme]
          · rename_i noParenthesis
            refine .after front (concludes_readData ran) ?_
            intro c' d' ran
            rcases ran with ⟨after, ⟨alike, read⟩, ⟨same, passed⟩, last⟩
            simp only [readMember, word alike, alike.lexeme, noAlias, if_false, read, passed,
              last.symbol?, noParenthesis, same.lexeme]

end Members

theorem ReadsToSemicolon.concludes {α : Type} {read : Cursor → Attempt α} {c d : Cursor} {built : α}
    {trace : List String} (reads : ReadsToSemicolon read c) (ran : read c = .done built trace d) :
    Concludes read c built trace d := by
  rcases reads with ⟨⟨_, _, stands, failed⟩⟩ | ⟨_, _, ends, settled⟩
  · rw [failed.self] at ran
    cases ran
  · rcases exists_token_of_symbol? ends with ⟨t, found⟩
    rw [settled.self] at ran
    cases ran
    refine .of_last settled (Nat.lt_succ_self _) (.next found) ?_
    intro c' d' e' done last
    rw [done, last.2]

theorem concludes_readNextContract {settings : Settings} {c d : Cursor} {built : List Contract}
    {trace : List String} (ran : readNextContract settings c = .done built trace d) :
    Concludes (readNextContract settings) c built trace d :=
  (reads_readNextContract settings c).concludes ran

end ContractLang
