import ContractLang.Proofs.Declaration.MemberAcceptance
import ContractLang.Proofs.Declaration.MemberSpan
import ContractLang.Proofs.Span.Lookahead

namespace ContractLang

open MemberAttempt Cursor

/-- The reader fails, and the tokens up to the one that the error names settle how. -/
inductive Fails {α : Type} (read : Cursor → Attempt α) (c : Cursor) : Prop
  | intro (built : α) (trace : List String) {e : SyntaxError} {d : Cursor} (stands : e.StandsAt d)
      (settled : c.Settles d fun k c' _ => read c' = .failed built trace (e.shift k))

/-- One token of lookahead is enough for the reader, whether it fails or goes on. -/
inductive Reads {α : Type} (read : Cursor → Attempt α) (c : Cursor) : Prop
  | failed (fails : Fails read c)
  | done (built : α) (trace : List String) {d : Cursor}
      (settled : c.Settles d fun _ c' d' => read c' = .done built trace d')

section Rules

variable {α : Type} {read rest : Cursor → Attempt α} {c d : Cursor}
  {before : Nat → Cursor → Cursor → Prop}

/-- The reader complains about the token at which it has arrived. -/
theorem Fails.of_refusal (built : α) (trace : List String) (complaint : Complaint)
    (fixed : ∀ k, complaint.shift k = complaint)
    (settled : c.Settles d fun _ c' d' => read c' = .failed built trace ⟨complaint, d'.place⟩) :
    Fails read c := by
  refine .intro built trace (e := ⟨complaint, d.place⟩) (.inl rfl) (settled.atEnd.imp ?_)
  intro k c' d' ran
  rcases ran with ⟨refused, alike⟩
  rw [refused, alike.place, SyntaxError.shift, fixed]

theorem Fails.after (first : c.Settles d before) (last : Fails rest d)
    (same : ∀ k c' d', before k c' d' → read c' = rest d') : Fails read c := by
  cases last with
  | intro built trace stands settled =>
    refine .intro built trace stands ((first.trans settled).imp ?_)
    intro k c' e' ran
    rcases ran with ⟨d', ran, failed⟩
    rw [same k c' d' ran, failed]

theorem Reads.after (first : c.Settles d before) (last : Reads rest d)
    (same : ∀ k c' d', before k c' d' → read c' = rest d') : Reads read c := by
  cases last with
  | failed fails => exact .failed (.after first fails same)
  | done built trace settled =>
    refine .done built trace ((first.trans settled).imp ?_)
    intro k c' e' ran
    rcases ran with ⟨d', ran, done⟩
    rw [same k c' d' ran, done]

end Rules

theorem isIdentifier_names (c : Cursor) : c.names.2.isIdentifier = false := by
  have split : c.ahead.takeWhile (·.kind == .identifier)
      ++ c.ahead.dropWhile (·.kind == .identifier) = c.ahead := List.takeWhile_append_dropWhile
  have dropped : c.names.2.ahead = c.ahead.dropWhile (·.kind == .identifier) :=
    (congrArg (List.drop _) split).symm.trans List.drop_left
  have stops := List.head?_dropWhile_not (·.kind == .identifier) c.ahead
  rw [← dropped] at stops
  cases head : c.names.2.ahead.head? with
  | none => rw [isIdentifier, place, head]; rfl
  | some t =>
    rw [head] at stops
    rw [isIdentifier, place, head]
    exact stops

theorem settles_names (c : Cursor) :
    c.Settles c.names.2 fun _ c' d' => c'.names = (c.names.1, d') := by
  rcases passes_names c with ⟨words, pass, identifiers, named⟩
  refine ⟨words, pass, ?_⟩
  intro k c' d' other alike
  rw [named]
  exact names_of_passes other identifiers (alike.isIdentifier.trans (isIdentifier_names c))

theorem reads_readData (type name : String) (c : Cursor) : Reads (readData type name) c := by
  by_cases semicolon : c.symbol? = some ';'
  · rcases exists_token_of_symbol? semicolon with ⟨t, found⟩
    refine .done [.data type name ""] [Trace.data type name] ((Settles.next found).imp ?_)
    intro k c' d' ran
    rcases ran with ⟨alike, rfl⟩
    rw [readData, alike.symbol?, if_pos semicolon]
    rfl
  · have sign := (settles_skipSymbol '=' c).atStart
    rcases scans_statement .dataEnd (fun _ => rfl) (c.skipSymbol '=') with
      ⟨stands, value⟩ | @⟨code, d, value⟩
    · refine .failed (.intro [.data type name ""] [Trace.data type name] stands
        ((sign.trans value).imp ?_))
      intro k c' d' ran
      rcases ran with ⟨start, ⟨alike, skipped⟩, failed⟩
      simp only [readData, alike.symbol?, semicolon, if_false, skipped, failed]
      rfl
    · refine .done [.data type name (joinLexemes code.1)]
        [Trace.data type name, Trace.initial (joinLexemes code.1)] ((sign.trans value).imp ?_)
      intro k c' d' ran
      rcases ran with ⟨start, ⟨alike, skipped⟩, read⟩
      simp only [readData, alike.symbol?, semicolon, if_false, skipped, read]
      rfl

theorem reads_readAssociatedType (settings : Settings) (c : Cursor) :
    Reads (readAssociatedType settings) c := by
  by_cases identifier : c.isIdentifier = true
  · rcases scans_typeName c with ⟨stands, type⟩ | @⟨text, d, type⟩
    · refine .failed (.intro [.associatedType "" ""] [] stands (type.atStart.imp ?_))
      intro k c' d' ran
      rcases ran with ⟨alike, failed⟩
      simp only [readAssociatedType, Place.demand, alike.isIdentifier, identifier, if_true, failed]
      rfl
    · have front := type.atStart
      rcases moves_passSymbol '=' (fun _ => .aliasValue) (fun _ _ => rfl) d with
        ⟨stands, sign⟩ | @⟨_, e, sign⟩
      · refine .failed (.intro [.associatedType text ""] [Trace.associatedType text] stands
          ((front.trans sign).imp ?_))
        intro k c' d' ran
        rcases ran with ⟨after, ⟨alike, read⟩, failed⟩
        simp only [readAssociatedType, Place.demand, alike.isIdentifier, identifier, if_true, read,
          failed]
        rfl
      · rcases scans_statement .aliasEnd (fun _ => rfl) e with ⟨stands, value⟩ | @⟨code, f, value⟩
        · refine .failed (.intro [.associatedType text ""] [Trace.associatedType text] stands
            ((front.trans (sign.trans value)).imp ?_))
          intro k c' d' ran
          rcases ran with ⟨after, ⟨alike, read⟩, start, passed, failed⟩
          simp only [readAssociatedType, Place.demand, alike.isIdentifier, identifier, if_true,
            read, passed, failed]
          rfl
        · refine .done [.associatedType text (joinLexemes code.1)]
            [Trace.associatedType text, Trace.value (joinLexemes code.1)]
            ((front.trans (sign.trans value)).imp ?_)
          intro k c' d' ran
          rcases ran with ⟨after, ⟨alike, read⟩, start, passed, valued⟩
          simp only [readAssociatedType, Place.demand, alike.isIdentifier, identifier, if_true,
            read, passed, valued]
          rfl
  · refine .failed (.of_refusal [] [] (.aliasName settings.aliasKeyword) (fun _ => rfl) (.here ?_))
    intro k c' alike
    simp only [readAssociatedType, Place.demand, alike.isIdentifier, identifier]
    rfl

theorem reads_readMarker (settings : Settings) (m : Method) (trace : List String) (c : Cursor) :
    Reads (readMarker settings m trace) c := by
  by_cases marks : ∃ marker marked, c.place.token? = some marker ∧
      MarkerForm settings m marker marked
  · rcases marks with ⟨marker, marked, found, mark⟩
    rcases moves_passSymbol ';' (fun _ => .markerEnd marker.lexeme) (fun _ _ => rfl) c.next with
      ⟨stands, stop⟩ | @⟨_, d, stop⟩
    · refine .failed (.intro [.method marked] trace stands
        (((Settles.next found).trans stop).imp ?_))
      intro k c' d' ran
      rcases ran with ⟨start, ⟨alike, rfl⟩, failed⟩
      rw [readMarker_of_markerForm trace (alike.head.trans found) mark, failed]
      rfl
    · refine .done [.method marked] trace (((Settles.next found).trans stop).imp ?_)
      intro k c' d' ran
      rcases ran with ⟨start, ⟨alike, rfl⟩, passed⟩
      rw [readMarker_of_markerForm trace (alike.head.trans found) mark, passed]
      rfl
  · refine .failed (.of_refusal [.method m] trace
      (.markerExpected settings.requiredMarker settings.defaultMarker) (fun _ => rfl) (.here ?_))
    intro k c' alike
    rcases markerForm_or_failed settings m trace c' with ⟨marker, marked, found, mark⟩ | failed
    -- The token here is the same as there, and there it was no marker.
    · exact absurd ⟨marker, marked, alike.head.symm.trans found, mark⟩ marks
    · exact failed

theorem reads_readBody (m : Method) (trace : List String) (c : Cursor) :
    Reads (readBody m trace) c := by
  rcases scans_code .body c with ⟨stands, inner⟩ | @⟨code, d, inner⟩
  · refine .failed (.intro [.method m] trace stands (inner.imp ?_))
    intro k c' d' failed
    simp only [readBody, failed]
    rfl
  · rcases moves_passSymbol '\x7d' .bodyEnd (fun _ _ => rfl) d with
      ⟨stands, brace⟩ | @⟨_, e, brace⟩
    · refine .failed (.intro [.method { m with body := joinLexemes code.1 }]
        (trace ++ [Trace.body (joinLexemes code.1)]) stands ((inner.trans brace).imp ?_))
      intro k c' d' ran
      rcases ran with ⟨stop, read, failed⟩
      simp only [readBody, read, Stretch.put, failed]
      rfl
    · refine .done [.method { m with body := joinLexemes code.1 }]
        (trace ++ [Trace.body (joinLexemes code.1)]) ((inner.trans brace).imp ?_)
      intro k c' d' ran
      rcases ran with ⟨stop, read, passed⟩
      simp only [readBody, read, Stretch.put, passed]
      rfl

theorem reads_readMethod (settings : Settings) (returnType name : String) (c : Cursor) :
    Reads (readMethod settings returnType name) c := by
  let m := Method.declared returnType name
  rcases scans_code .statement c with ⟨stands, inner⟩ | @⟨code, d, inner⟩
  · refine .failed (.intro [.method m] [] stands (inner.imp ?_))
    intro k c' d' failed
    simp only [readMethod, failed]
    rfl
  · rcases moves_passSymbol ')' (fun _ => .argumentsEnd) (fun _ _ => rfl) d with
      ⟨stands, closing⟩ | @⟨_, e, closing⟩
    · refine .failed (.intro [.method { m with arguments := joinLexemes code.1 }] [] stands
        ((inner.trans closing).imp ?_))
      intro k c' d' ran
      rcases ran with ⟨stop, read, failed⟩
      simp only [readMethod, read, Stretch.put, failed]
      rfl
    · have front := inner.trans (closing.trans (settles_names e).atEnd)
      let filled : Method := { m with arguments := joinLexemes code.1, attributes := e.names.1 }
      let traced := [Trace.method returnType name filled.arguments, Trace.attributes e.names.1]
      by_cases sign : e.names.2.symbol? = some '='
      · rcases exists_token_of_symbol? sign with ⟨t, found⟩
        refine .after (front.trans (.next found)) (reads_readMarker settings filled traced _) ?_
        intro k c' d' ran
        rcases ran with ⟨after, ⟨stop, read, close, passed, named, _⟩, alike, rfl⟩
        simp only [readMethod, read, Stretch.put, passed, named, alike.symbol?, sign, if_true]
        rfl
      · by_cases opens : e.names.2.symbol? = some '\x7b'
        · rcases exists_token_of_symbol? opens with ⟨t, found⟩
          refine .after (front.trans (.next found)) (reads_readBody filled traced _) ?_
          intro k c' d' ran
          rcases ran with ⟨after, ⟨stop, read, close, passed, named, _⟩, alike, rfl⟩
          simp only [readMethod, read, Stretch.put, passed, named, alike.symbol?, opens, if_true]
          rfl
        · refine .failed (.of_refusal [.method filled] traced .bodyExpected (fun _ => rfl)
            (front.imp ?_))
          intro k c' d' ran
          rcases ran with ⟨stop, read, close, passed, named, alike⟩
          simp only [readMethod, read, Stretch.put, passed, named, alike.symbol?, sign, opens,
            if_false]
          rfl

theorem reads_readMember (settings : Settings) (c : Cursor) : Reads (readMember settings) c := by
  cases identifier : c.isIdentifier with
  | false =>
    refine .failed (.of_refusal [] [] .memberExpected (fun _ => rfl) (.here ?_))
    intro k c' alike
    have other := alike.isIdentifier.trans identifier
    simp only [readMember, passIdentifier_of_not other]
  | true =>
    rcases exists_token_of_isKind identifier with ⟨t, found⟩
    have word : ∀ {k c'}, c.Alike k c' → c'.passIdentifier .memberExpected = .ok c'.next :=
      fun alike => passIdentifier_of_isIdentifier (alike.isIdentifier.trans identifier) _
    by_cases isAlias : c.lexeme = settings.aliasKeyword
    · refine .after (.next found) (reads_readAssociatedType settings c.next) ?_
      intro k c' d' ran
      rcases ran with ⟨alike, rfl⟩
      simp only [readMember, word alike, alike.lexeme, isAlias, if_true]
    · rcases scans_typeName c with ⟨stands, type⟩ | @⟨text, d, type⟩
      · refine .failed (.intro [] [] stands (type.atStart.imp ?_))
        intro k c' d' ran
        rcases ran with ⟨alike, failed⟩
        simp only [readMember, word alike, alike.lexeme, isAlias, if_false, failed]
      · rcases moves_passIdentifier (fun _ => .memberName) (fun _ _ => rfl) d with
          ⟨stands, name⟩ | @⟨_, e, name⟩
        · refine .failed (.intro [] [] stands ((type.atStart.trans name).imp ?_))
          intro k c' d' ran
          rcases ran with ⟨after, ⟨alike, read⟩, failed⟩
          simp only [readMember, word alike, alike.lexeme, isAlias, if_false, read, failed]
        · have front := type.atStart.trans name.atStart.atEnd
          by_cases opens : e.symbol? = some '('
          · rcases exists_token_of_symbol? opens with ⟨t, found⟩
            refine .after (front.trans (.next found)) (reads_readMethod settings text d.lexeme _) ?_
            intro k c' d' ran
            rcases ran with ⟨stop, ⟨after, ⟨alike, read⟩, ⟨same, passed⟩, _⟩, last, rfl⟩
            simp only [readMember, word alike, alike.lexeme, isAlias, if_false, read, passed,
              last.symbol?, opens, if_true, same.lexeme]
          · refine .after front (reads_readData text d.lexeme e) ?_
            intro k c' d' ran
            rcases ran with ⟨after, ⟨alike, read⟩, ⟨same, passed⟩, last⟩
            simp only [readMember, word alike, alike.lexeme, isAlias, if_false, read, passed,
              last.symbol?, opens, same.lexeme]

end ContractLang
