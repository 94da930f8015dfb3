import ContractLang.Proofs.Cursor.Lookahead
import ContractLang.Proofs.Span.Enclosed
import ContractLang.Span.TypeName

namespace ContractLang

/-- The same opening where `k` more tokens come before. -/
def Opening.shift (k : Nat) (o : Opening) : Opening := { o with position := o.position + k }

theorem dropAngles_shift (k : Nat) (opened : List Opening) :
    dropAngles (opened.map (.shift k)) = (dropAngles opened).map (.shift k) := by
  induction opened with
  | nil => rfl
  | cons o rest ih =>
    rw [List.map_cons, dropAngles, dropAngles, ih]
    by_cases angle : o.bracket = .angle
    · simp [angle, Opening.shift]
    · simp [angle, Opening.shift]

theorem closeAngle_shift (k : Nat) (opened : List Opening) :
    closeAngle (opened.map (.shift k)) = (closeAngle opened).map (.shift k) := by
  cases opened with
  | nil => rfl
  | cons o rest =>
    rw [List.map_cons, closeAngle, closeAngle]
    by_cases angle : o.bracket = .angle
    · simp [angle, Opening.shift]
    · simp [angle, Opening.shift]

theorem ScanStep.shift {mode : ScanMode} {opened next : List Opening} {position : Nat} {t : Token}
    (step : ScanStep mode opened position t next) (k : Nat) :
    ScanStep mode (opened.map (.shift k)) (position + k) t (next.map (.shift k)) := by
  cases step with
  | skip ordinary =>
    apply ScanStep.skip
    simpa [ScanMode.within] using ordinary
  | push opens counts => exact .push opens counts
  | pop firm closes innermost =>
    apply ScanStep.pop (o := Opening.shift k _) firm closes
    rw [dropAngles_shift, innermost]
    rfl
  | popAngle matched closes inside =>
    rw [← closeAngle_shift]
    exact .popAngle matched closes (by simpa using inside)

theorem ScanClash.shift {opened : List Opening} {t : Token} {bracket : Bracket} {o : Opening}
    (clash : ScanClash opened t bracket o) (k : Nat) :
    ScanClash (opened.map (.shift k)) t bracket (o.shift k) := by
  cases clash with
  | intro firm closes innermost other =>
    have shifted := dropAngles_shift k opened
    rw [innermost] at shifted
    exact .intro firm closes shifted other

def Stretch.put (code : List Token × Ending) (next : Cursor) : Stretch := ⟨code.1, code.2, next⟩

/-- Reads code on from a cursor, with openings that are `k` tokens further on than these. -/
def Cursor.codeAfter (mode : ScanMode) (opened : List Opening) (k : Nat) (c : Cursor) :
    Except SyntaxError Stretch :=
  stretchFrom mode (opened.map (.shift k)) c.position c.ahead

namespace Cursor

variable {mode : ScanMode} {opened : List Opening} {position : Nat} {t : Token} {rest : List Token}

theorem Alike.ahead_eq {k : Nat} {c : Cursor} (alike : Alike k ⟨position, t :: rest⟩ c) :
    c.ahead = t :: c.next.ahead :=
  (passes_next (alike.head : c.place.token? = some t)).1

theorem settles_codeAfter_of_step {next : List Opening}
    (step : ScanStep mode opened position t next) :
    Settles ⟨position, t :: rest⟩ ⟨position + 1, rest⟩ fun k c' d' =>
      c'.codeAfter mode opened k = (d'.codeAfter mode next k).map (.cons t) := by
  apply (Settles.next (c := ⟨position, t :: rest⟩) rfl).imp
  intro k c' d' same
  rcases same with ⟨alike, rfl⟩
  have ran := (step.shift k).stretchFrom c'.next.ahead
  rw [← alike.position, ← alike.ahead_eq] at ran
  exact ran

theorem settles_codeAfter_of_stop {s : Stretch}
    (stop : ScanStop mode opened position t rest s) :
    ∃ code d, Settles ⟨position, t :: rest⟩ d fun k c' d' =>
      c'.codeAfter mode opened k = .ok (.put code d') := by
  cases stop with
  | semicolon semicolon outside single =>
    refine ⟨([], .semicolon), _, (Settles.next (c := ⟨position, t :: rest⟩) rfl).imp ?_⟩
    intro k c' d' same
    rcases same with ⟨alike, rfl⟩
    have outer : opened.map (Opening.shift k) = [] := congrArg (List.map _) outside
    rw [codeAfter, alike.ahead_eq]
    exact (ScanStop.semicolon semicolon outer single).stretchFrom
  | closer closes firm marks =>
    refine ⟨([], .closer), _, .here ?_⟩
    intro k c' alike
    have shifted := dropAngles_shift k opened
    rw [marks] at shifted
    have stop : ScanStop mode _ c'.position t c'.next.ahead _ := .closer closes firm shifted
    have ran := stop.stretchFrom
    rw [← alike.ahead_eq] at ran
    exact ran
  | angle closes matched outside =>
    refine ⟨([], .closer), _, .here ?_⟩
    intro k c' alike
    have outer : opened.map (Opening.shift k) = [] := congrArg (List.map _) outside
    have stop : ScanStop mode _ c'.position t c'.next.ahead _ := .angle closes matched outer
    have ran := stop.stretchFrom
    rw [← alike.ahead_eq] at ran
    exact ran

theorem settles_codeAfter_of_clash {bracket : Bracket} {o : Opening}
    (clash : ScanClash opened t bracket o) (mode : ScanMode) :
    ∃ e : SyntaxError, e.place = Cursor.place ⟨position, t :: rest⟩ ∧
      Settles ⟨position, t :: rest⟩ ⟨position, t :: rest⟩ fun k c' _ =>
        c'.codeAfter mode opened k = .error (e.shift k) := by
  refine ⟨⟨o.mismatched bracket, ⟨position, some t⟩⟩, rfl, .here ?_⟩
  intro k c' alike
  rw [codeAfter, alike.ahead_eq, (clash.shift k).stretchFrom, alike.position]
  rfl

theorem settles_codeAfter_of_end (mode : ScanMode) (opened : List Opening) (position : Nat) :
    (∃ e : SyntaxError, e.StandsAt ⟨position, []⟩ ∧
      Settles ⟨position, []⟩ ⟨position, []⟩ fun k c' _ =>
        c'.codeAfter mode opened k = .error (e.shift k)) ∨
    Settles ⟨position, []⟩ ⟨position, []⟩ fun k c' d' =>
      c'.codeAfter mode opened k = .ok (.put ([], .endOfInput) d') := by
  have empty : ∀ {k : Nat} {c : Cursor}, Alike k ⟨position, []⟩ c → c = ⟨c.position, []⟩ := by
    intro k c alike
    rw [← List.head?_eq_none_iff.mp alike.head]
  cases opened with
  | nil =>
    refine .inr (.here ?_)
    intro k c' alike
    rw [empty alike]
    rfl
  | cons o outer =>
    refine .inl ⟨o.unclosed, .inr ⟨⟨_, rfl⟩, rfl⟩, .here ?_⟩
    intro k c' alike
    rw [empty alike]
    rfl

/-- A scan looks no further than the token at which it stops; only the end of the tokens shows that
    an opening is unclosed. -/
theorem settles_codeAfter (mode : ScanMode) (opened : List Opening) (c : Cursor) :
    (∃ (e : SyntaxError) (d : Cursor), e.StandsAt d ∧
      c.Settles d fun k c' _ => c'.codeAfter mode opened k = .error (e.shift k)) ∨
    ∃ code d, c.Settles d fun k c' d' => c'.codeAfter mode opened k = .ok (.put code d') := by
  rcases c with ⟨position, ahead⟩
  induction ahead generalizing position opened with
  | nil =>
    rcases settles_codeAfter_of_end mode opened position with ⟨e, stands, settled⟩ | settled
    · exact .inl ⟨e, _, stands, settled⟩
    · exact .inr ⟨_, _, settled⟩
  | cons t rest ih =>
    rcases scan_cases mode opened position t rest with
      ⟨next, step⟩ | ⟨stretch, stop⟩ | ⟨bracket, o, clash⟩
    · rcases ih next (position + 1) with ⟨e, d, stands, settled⟩ | ⟨code, d, settled⟩
      · refine .inl ⟨e, d, stands, ((settles_codeAfter_of_step step).trans settled).imp ?_⟩
        intro k c' d' ran
        rcases ran with ⟨next', ran, failed⟩
        rw [ran, failed]
        rfl
      · refine .inr ⟨(t :: code.1, code.2), d,
          ((settles_codeAfter_of_step step).trans settled).imp ?_⟩
        intro k c' d' ran
        rcases ran with ⟨next', ran, read⟩
        rw [ran, read]
        rfl
    · exact .inr (settles_codeAfter_of_stop stop)
    · rcases settles_codeAfter_of_clash clash mode with ⟨e, stands, settled⟩
      exact .inl ⟨e, _, .inl stands, settled⟩

theorem scans_code (mode : ScanMode) (c : Cursor) : Scans Stretch.put (·.code mode) c := by
  rcases settles_codeAfter mode [] c with ⟨e, d, stands, settled⟩ | ⟨code, d, settled⟩
  · exact .error stands settled
  · exact .ok code settled

theorem scans_statement (complaint : Complaint) (fixed : ∀ k, complaint.shift k = complaint)
    (c : Cursor) : Scans Stretch.put (·.statement complaint) c := by
  -- A missing value is reported where it should start, so this token alone has to settle it.
  by_cases semicolon : c.symbol? = some ';'
  · refine .of_refusal .valueExpected (fun _ => rfl) (.here ?_)
    intro k c' alike
    rcases passes_of_symbol? (alike.symbol?.trans semicolon) with ⟨stop, pass, ends⟩
    have ran := code_of_semicolon (Region.nil : Region .statement []) rfl
      (stop.role_eq_semicolon_iff.mpr ends) pass
    simp only [statement, ran, if_true, List.isEmpty_nil]
  · rcases scans_code .statement c with ⟨stands, settled⟩ | @⟨code, d, settled⟩
    · refine .error stands (settled.imp ?_)
      intro k c' d' ran
      simp only [statement, ran]
    · by_cases ending : code.2 = .semicolon
      · have filled : code.1 ≠ [] := by
          intro empty
          rcases passes_of_code_semicolon settled.self ending with ⟨stop, ends, pass⟩
          simp only [Stretch.put, empty, List.nil_append] at pass
          exact semicolon (pass.symbol?.trans (stop.role_eq_semicolon_iff.mp ends))
        refine .ok code (settled.imp ?_)
        intro k c' d' ran
        simp [statement, ran, Stretch.put, ending, filled]
      · refine .of_refusal complaint fixed (settled.imp ?_)
        intro k c' d' ran
        simp [statement, ran, Stretch.put, ending]

theorem moves_typeArguments (c : Cursor) : Moves typeArguments c := by
  by_cases opens : c.symbol? = some '<'
  · rcases exists_token_of_symbol? opens with ⟨t, found⟩
    rcases scans_code .generic c.next with ⟨stands, inner⟩ | @⟨code, d, inner⟩
    · refine .error stands (((Settles.next found).trans inner).imp ?_)
      intro k c' d' ran
      rcases ran with ⟨start, ⟨alike, rfl⟩, failed⟩
      simp only [typeArguments, alike.symbol?, opens, if_true, failed]
    · refine .after ((Settles.next found).trans inner)
        (moves_passSymbol '>' (fun _ => .angleEnd) (fun _ _ => rfl) d) ?_
      intro k c' d' ran
      rcases ran with ⟨start, ⟨alike, rfl⟩, ran⟩
      simp only [typeArguments, alike.symbol?, opens, if_true, ran, Stretch.put]
  · refine .ok () (.here ?_)
    intro k c' alike
    rw [typeArguments, alike.symbol?, if_neg opens]

theorem settles_componentName (c : Cursor) :
    c.Settles c.componentName fun _ c' d' => c'.componentName = d' := by
  apply ((settles_skipLexeme "typename" (by decide) c).trans
    (settles_skipLexeme "template" (by decide) _)).imp
  intro k c' d' skipped
  rcases skipped with ⟨after, first, second⟩
  rw [componentName, first, second]

theorem moves_typeComponent (c : Cursor) : Moves typeComponent c := by
  have name := settles_componentName c
  rcases moves_passIdentifier .typeExpected (fun _ _ => rfl) c.componentName with
    ⟨stands, word⟩ | @⟨_, d, word⟩
  · refine .error stands ((name.trans word).imp ?_)
    intro k c' d' ran
    rcases ran with ⟨start, skipped, failed⟩
    simp only [typeComponent, skipped, failed]
  · refine .after (name.trans word) (moves_typeArguments d) ?_
    intro k c' d' ran
    rcases ran with ⟨start, skipped, passed⟩
    simp only [typeComponent, skipped, passed]

theorem typeComponents_of_error {c : Cursor} {e : SyntaxError}
    (failed : c.typeComponent = .error e) : c.typeComponents = .error e := by
  rw [typeComponents]
  split
  · rename_i ran
    exact ran.symm.trans failed
  · rename_i ran
    rw [failed] at ran
    cases ran

theorem typeComponents_of_ok {c d : Cursor} (passed : c.typeComponent = .ok d) :
    c.typeComponents = if d.lexeme = "::" then d.next.typeComponents else .ok d := by
  rw [typeComponents]
  split
  · rename_i ran
    rw [passed] at ran
    cases ran
  · rename_i ran
    rw [passed] at ran
    cases ran
    rfl

theorem moves_typeComponents (c : Cursor) : Moves typeComponents c := by
  rcases moves_typeComponent c with ⟨stands, component⟩ | @⟨_, d, component⟩
  · exact .error stands (component.imp fun k c' d' => typeComponents_of_error)
  · by_cases scope : d.lexeme = "::"
    · have shorter := ahead_length_lt_of_typeComponent c d component.self
      have later := ahead_next_length_le d
      rcases exists_token_of_lexeme scope (by decide) with ⟨t, found⟩
      refine .after (component.trans (.next found)) (moves_typeComponents d.next) ?_
      intro k c' d' ran
      rcases ran with ⟨colon, ran, alike, rfl⟩
      rw [typeComponents_of_ok ran, alike.lexeme, if_pos scope]
    · refine .ok () (component.atEnd.imp ?_)
      intro k c' d' ran
      rcases ran with ⟨ran, alike⟩
      rw [typeComponents_of_ok ran, alike.lexeme, if_neg scope]
termination_by c.ahead.length

theorem scans_typeName (c : Cursor) : Scans TypeSpan.mk typeName c := by
  have const := settles_skipLexeme "const" (by decide) c
  rcases moves_typeComponents (c.skipLexeme "const") with ⟨stands, path⟩ | @⟨_, d, path⟩
  · refine .error stands ((const.trans path).imp ?_)
    intro k c' d' ran
    rcases ran with ⟨start, skipped, failed⟩
    simp only [typeName, skipped, failed]
  · have reference := settles_skipSymbol '&' d
    have pointer := settles_skipSymbol '*' (d.skipSymbol '&')
    refine .ok (joinTypeLexemes (c.upTo ((d.skipSymbol '&').skipSymbol '*')))
      (((const.trans path).trans (reference.trans pointer)).upTo.imp ?_)
    intro k c' d' ran
    rcases ran with ⟨⟨stop, ⟨start, skipped, passed⟩, mark, first, second⟩, same⟩
    simp only [typeName, skipped, passed, first, second, same]

end Cursor

end ContractLang
