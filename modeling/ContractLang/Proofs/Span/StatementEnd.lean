import ContractLang.Proofs.Span.CodeEnd

namespace ContractLang

/-- A statement that starts at `start` and has its semicolon at `stop`: code that is not empty and
    well nested, with no semicolon outside of brackets. -/
structure EndsStatement (tokens : List Token) (start stop : Nat) : Prop where
  filled : start < stop
  plain : PlainCode false ((tokens.take stop).drop start)
  semicolon : (placeAt tokens stop).symbol? = some ';'

/-- Code from `start` on that no semicolon ends: at `stop` is a closing bracket that it has not
    opened, or the end of the tokens. -/
inductive BreaksOff (tokens : List Token) (start stop : Nat) : Prop
  | closer {bracket : Bracket} (firm : bracket ≠ .angle) (forward : start ≤ stop)
      (plain : PlainCode false ((tokens.take stop).drop start))
      (closes : (placeAt tokens stop).symbol? = some bracket.closer)
  | endOfInput (plain : PlainCode false (tokens.drop start)) (finished : stop = tokens.length)

namespace Cursor

/-- Reads a statement, and takes it from the token before the place where its code stops whether a
    semicolon ends it. -/
def statementByLastToken (tokens : List Token) (start : Nat) (complaint : Complaint) :
    Except SyntaxError Stretch :=
  match (ofPosition tokens start).code .statement with
  | .error e => .error e
  | .ok s =>
    let stop := s.next.position
    if stop = start ∨ (placeAt tokens (stop - 1)).symbol? ≠ some ';' then
      .error ⟨complaint, placeAt tokens stop⟩
    else if stop = start + 1 then .error ⟨.valueExpected, placeAt tokens start⟩
    else .ok s

section

variable {tokens : List Token} {start : Nat} (inside : start ≤ tokens.length)

include inside

theorem symbol?_placeAt_pred {span : List Token} {t : Token} {d : Cursor}
    (pass : (ofPosition tokens start).Passes (span ++ [t]) d) :
    (placeAt tokens (d.position - 1)).symbol? = t.symbol? := by
  rcases pass.split with ⟨before, first, last⟩
  rcases (passes_ofPosition_iff inside).mp first with ⟨stop, -, -, -, rfl⟩
  have moved : (d.position : Int) - 1 = stop := by
    have next := last.2
    simp only [ofPosition, List.length_singleton] at next
    omega
  rw [moved, ← place_ofPosition]
  exact last.symbol?

/-- The last token that code passes is a semicolon only if this ends the code: one inside of
    brackets has the closing bracket after it. -/
theorem ending_eq_semicolon_iff {s : Stretch}
    (ran : (ofPosition tokens start).code .statement = .ok s) :
    s.ending = .semicolon ↔ s.next.position ≠ start ∧
      (placeAt tokens (s.next.position - 1)).symbol? = some ';' := by
  constructor
  · intro ending
    rcases passes_of_code_semicolon ran ending with ⟨stop, semicolon, pass⟩
    have moved := pass.2
    simp only [ofPosition, List.length_append, List.length_singleton] at moved
    refine ⟨by omega, ?_⟩
    rw [symbol?_placeAt_pred inside pass]
    exact stop.role_eq_semicolon_iff.mp semicolon
  · rintro ⟨moved, found⟩
    refine Classical.byContradiction fun ending => ?_
    have pass := passes_of_code ran ending
    have region : Region .statement s.tokens := region_of_code ran fun matched => by cases matched
    rcases List.eq_nil_or_concat s.tokens with none | ⟨before, t, split⟩
    · rw [none] at pass
      exact moved pass.2
    · rw [List.concat_eq_append] at split
      rw [split] at pass region
      rw [symbol?_placeAt_pred inside pass] at found
      exact region.last_ne_semicolon rfl t List.getLast?_concat (t.role_eq_semicolon_iff.mpr found)

theorem statement_eq_byLastToken (complaint : Complaint) :
    (ofPosition tokens start).statement complaint
      = statementByLastToken tokens start complaint := by
  rw [statementByLastToken, statement]
  rcases ran : (ofPosition tokens start).code .statement with e | s
  · rfl
  have last := ending_eq_semicolon_iff inside ran
  by_cases ending : s.ending = .semicolon
  · rcases last.mp ending with ⟨moved, found⟩
    rcases passes_of_code_semicolon ran ending with ⟨stop, -, pass⟩
    have next := pass.2
    simp only [ofPosition, List.length_append, List.length_singleton] at next
    have alone : s.next.position = start + 1 ↔ s.tokens.isEmpty = true := by
      rw [List.isEmpty_iff_length_eq_zero]
      omega
    simp only [moved, found, ending, alone, place_ofPosition, ne_eq, not_true_eq_false, or_self,
      if_false, if_true]
  · have missing : s.next.position = start ∨
        (placeAt tokens (s.next.position - 1)).symbol? ≠ some ';' := by
      by_cases stays : s.next.position = start
      · exact .inl stays
      · exact .inr fun found => ending (last.mpr ⟨stays, found⟩)
    rcases (passes_ofPosition_iff inside).mp (passes_of_code ran ending) with ⟨stop, -, -, -, next⟩
    have place : s.next.place = placeAt tokens s.next.position := by
      rw [next, place_ofPosition]
      rfl
    simp only [if_pos missing, if_neg ending, place]

theorem endsStatement_of_statement {complaint : Complaint} {s : Stretch}
    (ran : (ofPosition tokens start).statement complaint = .ok s) :
    ∃ stop, s.next.position = stop + 1 ∧ EndsStatement tokens start stop ∧
      s.text = joinLexemes ((tokens.take stop).drop start) := by
  rcases (statement_eq_ok _ _ _).mp ran with ⟨-, region, filled, t, semicolon, pass⟩
  rcases pass.split with ⟨before, first, last⟩
  have moved := first.2
  rcases (passes_ofPosition_iff inside).mp first with ⟨stop, -, -, span, rfl⟩
  refine ⟨stop, last.2, ⟨?_, span ▸ region.plainCode, ?_⟩, congrArg joinLexemes span⟩
  · have size := List.length_pos_iff.mpr filled
    simp only [ofPosition] at moved
    omega
  · rw [← place_ofPosition]
    exact last.symbol?.trans (t.role_eq_semicolon_iff.mp semicolon)

theorem breaksOff_of_code {s : Stretch}
    (ran : (ofPosition tokens start).code .statement = .ok s) (ending : s.ending ≠ .semicolon) :
    ∃ stop, BreaksOff tokens start stop ∧ s.next = ofPosition tokens stop := by
  have plain := (region_of_code ran fun matched => by cases matched).plainCode
  rcases (passes_ofPosition_iff inside).mp (passes_of_code ran ending) with
    ⟨stop, forward, within, span, next⟩
  rcases stretchFrom_next ran with ⟨closer, endOfInput⟩
  rw [span] at plain
  rw [next] at closer endOfInput
  refine ⟨stop, ?_, next⟩
  cases stopped : s.ending with
  | semicolon => exact absurd stopped ending
  | closer =>
    rcases closer stopped with ⟨bracket, closes, counts⟩
    have firm : bracket ≠ .angle := fun angle => Bool.noConfusion (counts angle)
    exact .closer firm forward plain (place_ofPosition tokens stop ▸ closes)
  | endOfInput =>
    have finished : stop = tokens.length :=
      Nat.le_antisymm within (List.drop_eq_nil_iff.mp (endOfInput stopped))
    rw [finished, List.take_length] at plain
    exact .endOfInput plain finished

theorem code_of_breaksOff {stop : Nat} (breaks : BreaksOff tokens start stop) :
    ∃ span ending, ending ≠ .semicolon ∧
      (ofPosition tokens start).code .statement = .ok ⟨span, ending, ofPosition tokens stop⟩ := by
  cases breaks with
  | closer firm forward plain closes =>
    rw [← place_ofPosition] at closes
    have pass := passes_ofPosition forward (Nat.le_of_lt (lt_length_of_symbol? closes))
    exact ⟨_, .closer, nofun,
      code_of_closer plain.region (fun angle => absurd angle firm) pass closes⟩
  | endOfInput plain finished =>
    subst finished
    have pass := passes_ofPosition inside (Nat.le_refl tokens.length)
    rw [List.take_length] at pass
    exact ⟨_, .endOfInput, nofun, code_of_end plain.region pass List.drop_length⟩

omit inside

theorem statement_of_endsStatement {stop : Nat} (ends : EndsStatement tokens start stop)
    (complaint : Complaint) :
    ∃ s, (ofPosition tokens start).statement complaint = .ok s ∧ s.next.position = stop + 1 ∧
      s.text = joinLexemes ((tokens.take stop).drop start) := by
  rcases ends with ⟨filled, plain, semicolon⟩
  rw [← place_ofPosition] at semicolon
  have first := passes_ofPosition (Nat.le_of_lt filled) (Nat.le_of_lt (lt_length_of_symbol? semicolon))
  rcases passes_of_symbol? semicolon with ⟨t, last, found⟩
  have some : (tokens.take stop).drop start ≠ [] := by
    intro none
    have moved : stop = start + ((tokens.take stop).drop start).length := first.2
    rw [none] at moved
    exact Nat.ne_of_gt filled moved
  exact ⟨⟨_, .semicolon, _⟩, (statement_eq_ok _ _ _).mpr ⟨rfl, plain.region, some, t,
    t.role_eq_semicolon_iff.mpr found, first.trans last⟩, rfl, rfl⟩

theorem statement_of_semicolon {c : Cursor} (found : c.symbol? = some ';') (complaint : Complaint) :
    c.statement complaint = .error ⟨.valueExpected, c.place⟩ := by
  rcases passes_of_symbol? found with ⟨t, pass, semicolon⟩
  have empty : Region .statement [] := .nil
  have ran := code_of_semicolon empty rfl (t.role_eq_semicolon_iff.mpr semicolon) pass
  rw [statement, ran]
  rfl

include inside

theorem statement_eq_error_iff (complaint : Complaint) (e : SyntaxError) :
    (ofPosition tokens start).statement complaint = .error e ↔
      ((placeAt tokens start).symbol? = some ';' ∧ e = ⟨.valueExpected, placeAt tokens start⟩) ∨
      ((ofPosition tokens start).code .statement = .error e ∧
        (ofPosition tokens start).CodeFault e) ∨
      ∃ stop, BreaksOff tokens start stop ∧ e = ⟨complaint, placeAt tokens stop⟩ := by
  constructor
  · intro failed
    rw [statement] at failed
    rcases ran : (ofPosition tokens start).code .statement with f | s
    · rw [ran] at failed
      cases failed
      exact .inr (.inl ⟨rfl, codeFault_of_code ran⟩)
    · rw [ran] at failed
      by_cases ending : s.ending = .semicolon
      · simp only [if_pos ending] at failed
        split at failed
        · rename_i empty
          rcases passes_of_code_semicolon ran ending with ⟨t, semicolon, pass⟩
          rw [List.isEmpty_iff.mp empty] at pass
          cases failed
          rw [← place_ofPosition]
          exact .inl ⟨pass.symbol?.trans (t.role_eq_semicolon_iff.mp semicolon), rfl⟩
        · cases failed
      · simp only [if_neg ending] at failed
        cases failed
        rcases breaksOff_of_code inside ran ending with ⟨stop, breaks, next⟩
        exact .inr (.inr ⟨stop, breaks, by rw [next, place_ofPosition]⟩)
  · rintro (⟨found, rfl⟩ | ⟨failed, -⟩ | ⟨stop, breaks, rfl⟩)
    · rw [← place_ofPosition] at found ⊢
      exact statement_of_semicolon found complaint
    · rw [statement, failed]
    · rcases code_of_breaksOff inside breaks with ⟨span, ending, other, ran⟩
      rw [statement, ran]
      simp only [if_neg other, place_ofPosition]

end

theorem CodeFault.expected?_ne_value {c : Cursor} {e : SyntaxError} (fault : c.CodeFault e) :
    e.expected? ≠ some "value" := by
  cases fault with
  | @mismatched o closer d clash first =>
    simp only [SyntaxError.expected?, Opening.mismatched, Complaint.expected?]
    cases o.bracket <;> decide
  | unclosed => nofun

/-- A statement ends at the first semicolon outside of brackets that code before it leads to. It is
    an error if there is nothing before this semicolon, and if the code is not well nested or stops
    for another reason. To tell the semicolon of the statement from any other, it is enough to look
    at the last token that has been passed. -/
theorem statement_eq_iff (tokens : List Token) (start : Nat) (inside : start ≤ tokens.length)
    (complaint : Complaint) (wanted : complaint.expected? = some (Complaint.quotedChar ';')) :
    let c := ofPosition tokens start
    (∀ position text,
      (∃ s, c.statement complaint = .ok s ∧ s.next.position = position ∧ s.text = text) ↔
      ∃ stop, position = stop + 1 ∧ EndsStatement tokens start stop ∧
        text = joinLexemes ((tokens.take stop).drop start)) ∧
    ((∃ e, c.statement complaint = .error e ∧ e.message = "expected a value before ';'" ∧
        e.expected? = some "value" ∧ e.place = placeAt tokens start) ↔
      (placeAt tokens start).symbol? = some ';') ∧
    (∀ e, c.statement complaint = .error e ↔
      ((placeAt tokens start).symbol? = some ';' ∧ e = ⟨.valueExpected, placeAt tokens start⟩) ∨
      (c.code .statement = .error e ∧ c.CodeFault e) ∨
      ∃ stop, BreaksOff tokens start stop ∧ e = ⟨complaint, placeAt tokens stop⟩) ∧
    c.statement complaint = statementByLastToken tokens start complaint := by
  intro c
  have errors := statement_eq_error_iff inside complaint
  refine ⟨fun position text => ⟨?_, ?_⟩, ⟨?_, ?_⟩, errors, statement_eq_byLastToken inside complaint⟩
  · rintro ⟨s, ran, rfl, rfl⟩
    exact endsStatement_of_statement inside ran
  · rintro ⟨stop, rfl, ends, rfl⟩
    exact statement_of_endsStatement ends complaint
  · rintro ⟨e, failed, -, value, -⟩
    rcases (errors e).mp failed with ⟨found, -⟩ | ⟨-, fault⟩ | ⟨stop, -, rfl⟩
    · exact found
    · exact absurd value fault.expected?_ne_value
    · exact absurd (wanted.symm.trans value) (by decide)
  · intro found
    exact ⟨_, (errors _).mpr (.inl ⟨found, rfl⟩), rfl, rfl, rfl⟩

/-- A semicolon inside of brackets, and one right before a closing bracket that opens nothing. -/
theorem statement_eq_iff_of_brackets :
    let name : Token := ⟨.identifier, "aa", 1, 1⟩
    let symbol (written : String) : Token := ⟨.other, written, 1, 1⟩
    let tokens := [symbol ";", symbol "(", name, symbol ";", symbol ")", symbol ";", symbol ")"]
    EndsStatement tokens 1 5 ∧
      (ofPosition tokens 6).statement .dataEnd = .error ⟨.dataEnd, placeAt tokens 6⟩ := by
  intro name symbol tokens
  have read : ∃ s, (ofPosition tokens 1).statement .dataEnd = .ok s ∧ s.next.position = 6 ∧
      s.text = "( aa ; )" :=
    ⟨⟨[symbol "(", name, symbol ";", symbol ")"], .semicolon, ⟨6, [symbol ")"]⟩⟩, by cbv,
      rfl, by decide⟩
  rcases ((statement_eq_iff tokens 1 (by decide) .dataEnd rfl).1 6 "( aa ; )").mp read with
    ⟨stop, place, ends, -⟩
  cases place
  have breaks : BreaksOff tokens 6 6 :=
    .closer (show Bracket.round ≠ .angle by decide) (Nat.le_refl 6) (Region.nil.plainCode) (by decide)
  exact ⟨ends, ((statement_eq_iff tokens 6 (by decide) .dataEnd rfl).2.2.1 _).mpr
    (.inr (.inr ⟨6, breaks, rfl⟩))⟩

end Cursor
end ContractLang
