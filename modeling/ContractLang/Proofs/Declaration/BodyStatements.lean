import ContractLang.Declaration.Member
import ContractLang.Proofs.Span.Enclosed
import ContractLang.Proofs.Token.Joined

namespace ContractLang

/-- Statements that end in a semicolon, and the code behind the last of them. -/
structure StatementRun where
  statements : List Stretch
  last : Stretch
  deriving DecidableEq, Repr

/-- A stretch without tokens has no text to be joined with others. -/
def Stretch.pieces (s : Stretch) : List String := if s.tokens.isEmpty then [] else [s.text]

namespace StatementRun

/-- The texts of the statements with a semicolon after each of them, and that of the last code. -/
def pieces (run : StatementRun) : List String :=
  (run.statements.flatMap fun s => s.pieces ++ [";"]) ++ run.last.pieces

def text (run : StatementRun) : String := " ".intercalate run.pieces

/-- All that the statements of a run and the code behind them take from `c` on. -/
def whole (run : StatementRun) (c : Cursor) : Stretch :=
  { run.last with tokens := c.upTo run.last.next }

end StatementRun

theorem Cursor.ahead_length_lt_of_statement {mode : ScanMode} {c : Cursor} {s : Stretch}
    (ran : c.code mode = .ok s) (ends : s.ending = .semicolon) :
    s.next.ahead.length < c.ahead.length := by
  rcases passes_of_code_semicolon ran ends with ⟨stop, _, pass⟩
  rw [pass.1, List.length_append, List.length_append, List.length_singleton]
  omega

/-- Reads code for one line, and goes on behind the semicolon as long as there is one. -/
def Cursor.statements (c : Cursor) (angles : Bool) : Except SyntaxError StatementRun :=
  match _ran : c.code ⟨angles, false⟩ with
  | .error e => .error e
  | .ok s =>
    if _ends : s.ending = .semicolon then
      (s.next.statements angles).map fun run => { run with statements := s :: run.statements }
    else .ok ⟨[], s⟩
termination_by c.ahead.length
decreasing_by exact Cursor.ahead_length_lt_of_statement _ran _ends

/-- Reads a method's body one statement after the other. -/
def readStatements (m : Method) (trace : List String) (c : Cursor) : MemberAttempt :=
  match c.statements false with
  | .error e => .failed [.method m] trace e
  | .ok run =>
  let filled := { m with body := run.text }
  let traced := trace ++ [Trace.body run.text]
  match run.last.next.passSymbol '\x7d' (.bodyEnd run.last.next.lexeme) with
  | .error e => .failed [.method filled] traced e
  | .ok next => .done [.method filled] traced next

theorem intercalate_append_congr {first second : List String} (before : List String)
    (left : first ≠ []) (right : second ≠ [])
    (same : " ".intercalate first = " ".intercalate second) :
    " ".intercalate (before ++ first) = " ".intercalate (before ++ second) := by
  by_cases none : before = []
  · rw [none]
    exact same
  · rw [String.intercalate_append_of_ne_nil none left, same,
      String.intercalate_append_of_ne_nil none right]

theorem Stretch.intercalate_pieces (s : Stretch) (before after : List String) :
    " ".intercalate (before ++ s.tokens.map (·.lexeme) ++ after)
      = " ".intercalate (before ++ s.pieces ++ after) := by
  by_cases none : s.tokens = []
  · simp [Stretch.pieces, none]
  · have lexemes : s.tokens.map (·.lexeme) ≠ [] := by simpa using none
    have piece : s.pieces = [s.text] := by simp [Stretch.pieces, none]
    rw [piece, List.append_assoc, List.append_assoc]
    refine intercalate_append_congr before (by simp [none]) (by simp) ?_
    by_cases last : after = []
    · rw [last, List.append_nil, List.append_nil]
      exact String.intercalate_singleton.symm
    · rw [String.intercalate_append_of_ne_nil lexemes last,
        String.intercalate_append_of_ne_nil (List.cons_ne_nil _ _) last,
        String.intercalate_singleton]
      rfl

theorem ScanStep.multiline {angles : Bool} {opened next : List Opening} {position : Nat} {t : Token}
    (step : ScanStep ⟨angles, false⟩ opened position t next) :
    ScanStep ⟨angles, true⟩ opened position t next := by
  cases step with
  | skip ordinary =>
    refine .skip ?_
    revert ordinary
    simp only [ScanMode.within, Bool.false_or, Bool.true_or]
    cases t.role with
    | semicolon => exact fun _ => rfl
    | plain => exact id
    | opens bracket => cases bracket <;> exact id
    | closes bracket => cases bracket <;> exact id
  | push opens counts => exact .push opens counts
  | pop firm closes innermost => exact .pop firm closes innermost
  | popAngle matched closes inside => exact .popAngle matched closes inside

/-- Up to the first semicolon outside of brackets there is no difference between the modes. There
    the one for several lines goes on as from a fresh start. -/
theorem stretchFrom_multiline (angles : Bool) (opened : List Opening) (position : Nat)
    (ahead : List Token) :
    (∃ s stop, stretchFrom ⟨angles, false⟩ opened position ahead = .ok s ∧
      s.ending = .semicolon ∧ stop.symbol? = some ';' ∧
      Cursor.Passes ⟨position, ahead⟩ (s.tokens ++ [stop]) s.next ∧
      stretchFrom ⟨angles, true⟩ opened position ahead
        = (s.next.code ⟨angles, true⟩).map (.prepend (s.tokens ++ [stop]))) ∨
    (stretchFrom ⟨angles, true⟩ opened position ahead
        = stretchFrom ⟨angles, false⟩ opened position ahead ∧
      ∀ s, stretchFrom ⟨angles, false⟩ opened position ahead = .ok s → s.ending ≠ .semicolon) := by
  induction ahead generalizing opened position with
  | nil =>
    refine .inr ⟨?_, fun s ran => ?_⟩
    · cases opened <;> rfl
    · cases opened with
      | nil => cases ran; exact Ending.noConfusion
      | cons o opened => cases ran
  | cons t rest ih =>
    rcases scan_cases ⟨angles, false⟩ opened position t rest with
      ⟨next, step⟩ | ⟨s, stop⟩ | ⟨bracket, o, clash⟩
    · rcases ih next (position + 1) with ⟨s, stop, ran, ends, semicolon, pass, same⟩ | ⟨same, goes⟩
      · have first : Cursor.Passes ⟨position, t :: rest⟩ [t] ⟨position + 1, rest⟩ := ⟨rfl, rfl⟩
        refine .inl ⟨s.cons t, stop, ?_, ends, semicolon, first.trans pass, ?_⟩
        · rw [step.stretchFrom, ran]
          rfl
        · rw [step.multiline.stretchFrom, same, map_prepend_cons]
          rfl
      · refine .inr ⟨by rw [step.stretchFrom, step.multiline.stretchFrom, same], fun s ran => ?_⟩
        rw [step.stretchFrom] at ran
        rcases map_eq_ok ran with ⟨tail, inner, rfl⟩
        exact goes tail inner
    · have single := stop.stretchFrom
      cases stop with
      | semicolon semicolon outside =>
        subst outside
        have step : ScanStep ⟨angles, true⟩ [] position t [] := .skip (by rw [semicolon]; rfl)
        refine .inl ⟨_, t, single, rfl, t.role_eq_semicolon_iff.mp semicolon, ⟨rfl, rfl⟩, ?_⟩
        rw [step.stretchFrom]
        rfl
      | closer closes firm marks =>
        have multi : ScanStop ⟨angles, true⟩ opened position t rest _ := .closer closes firm marks
        refine .inr ⟨multi.stretchFrom.trans single.symm, fun s ran => ?_⟩
        cases single.symm.trans ran
        exact Ending.noConfusion
      | angle closes matched outside =>
        have multi : ScanStop ⟨angles, true⟩ opened position t rest _ :=
          .angle closes matched outside
        refine .inr ⟨multi.stretchFrom.trans single.symm, fun s ran => ?_⟩
        cases single.symm.trans ran
        exact Ending.noConfusion
    · refine .inr ⟨?_, fun s ran => ?_⟩
      · rw [clash.stretchFrom, clash.stretchFrom]
      · rw [clash.stretchFrom] at ran
        cases ran

namespace Cursor

variable {c : Cursor} {angles : Bool}

theorem statements_of_error {e : SyntaxError} (ran : c.code ⟨angles, false⟩ = .error e) :
    c.statements angles = .error e := by
  rw [statements]
  split
  · rename_i other
    cases ran.symm.trans other
    rfl
  · rename_i other
    cases ran.symm.trans other

theorem statements_of_ok {s : Stretch} (ran : c.code ⟨angles, false⟩ = .ok s) :
    c.statements angles
      = if s.ending = .semicolon then
          (s.next.statements angles).map fun run => { run with statements := s :: run.statements }
        else .ok ⟨[], s⟩ := by
  rw [statements]
  split
  · rename_i other
    cases ran.symm.trans other
  · rename_i other
    cases ran.symm.trans other
    split <;> rfl

theorem statements_eq_ok_of_semicolon {s : Stretch} {run : StatementRun}
    (ran : c.code ⟨angles, false⟩ = .ok s) (ends : s.ending = .semicolon)
    (read : c.statements angles = .ok run) :
    ∃ later, s.next.statements angles = .ok later ∧
      run = { later with statements := s :: later.statements } := by
  rw [statements_of_ok ran, if_pos ends] at read
  cases behind : s.next.statements angles with
  | error e => rw [behind] at read; cases read
  | ok later => rw [behind] at read; cases read; exact ⟨later, rfl, rfl⟩

theorem exists_passes_of_statements {run : StatementRun} (read : c.statements angles = .ok run) :
    ∃ span, c.Passes span run.last.next ∧ ∀ before : List String,
      " ".intercalate (before ++ span.map (·.lexeme)) = " ".intercalate (before ++ run.pieces) := by
  induction c using statements.induct angles generalizing run with
  | case1 c e ran => cases (statements_of_error ran).symm.trans read
  | case2 c s ran ends ih =>
    rcases statements_eq_ok_of_semicolon ran ends read with ⟨later, behind, rfl⟩
    rcases ih behind with ⟨span, pass, text⟩
    rcases passes_of_code_semicolon ran ends with ⟨stop, semicolon, first⟩
    have mark : stop.lexeme = ";" :=
      Token.lexeme_of_symbol? (stop.role_eq_semicolon_iff.mp semicolon)
    refine ⟨_, first.trans pass, fun before => ?_⟩
    calc " ".intercalate (before ++ ((s.tokens ++ [stop]) ++ span).map (·.lexeme))
      _ = " ".intercalate ((before ++ s.tokens.map (·.lexeme) ++ [";"])
            ++ span.map (·.lexeme)) := by simp [mark]
      _ = " ".intercalate ((before ++ s.tokens.map (·.lexeme) ++ [";"]) ++ later.pieces) := text _
      _ = " ".intercalate (before ++ s.tokens.map (·.lexeme) ++ (";" :: later.pieces)) := by
            rw [List.append_assoc, List.singleton_append]
      _ = " ".intercalate (before ++ s.pieces ++ (";" :: later.pieces)) := s.intercalate_pieces _ _
      _ = " ".intercalate (before ++ StatementRun.pieces ⟨s :: later.statements, later.last⟩) := by
            simp [StatementRun.pieces]
  | case3 c s ran goes =>
    rw [statements_of_ok ran, if_neg goes] at read
    cases read
    refine ⟨s.tokens, passes_of_code ran goes, fun before => ?_⟩
    have text := s.intercalate_pieces before []
    rw [List.append_nil, List.append_nil] at text
    exact text

theorem text_whole {run : StatementRun} (read : c.statements angles = .ok run) :
    (run.whole c).text = run.text := by
  rcases exists_passes_of_statements read with ⟨span, pass, text⟩
  rw [Stretch.text, StatementRun.whole, pass.upTo]
  exact text []

theorem code_multiline_of_semicolon {s : Stretch} (ran : c.code ⟨angles, false⟩ = .ok s)
    (ends : s.ending = .semicolon) :
    ∃ stop, c.Passes (s.tokens ++ [stop]) s.next ∧
      c.code ⟨angles, true⟩
        = (s.next.code ⟨angles, true⟩).map (.prepend (s.tokens ++ [stop])) := by
  rcases stretchFrom_multiline angles [] c.position c.ahead with
    ⟨other, stop, single, _, _, pass, multi⟩ | ⟨_, never⟩
  · cases ran.symm.trans single
    exact ⟨stop, pass, multi⟩
  · exact absurd ends (never s ran)

theorem code_multiline_of_not_semicolon
    (goes : ∀ s, c.code ⟨angles, false⟩ = .ok s → s.ending ≠ .semicolon) :
    c.code ⟨angles, true⟩ = c.code ⟨angles, false⟩ := by
  rcases stretchFrom_multiline angles [] c.position c.ahead with ⟨s, _, ran, ends, _⟩ | ⟨same, _⟩
  · exact absurd ends (goes s ran)
  · exact same

/-- Code for several lines is what the statements and the code behind the last of them take. -/
theorem code_multiline (c : Cursor) (angles : Bool) :
    c.code ⟨angles, true⟩ = (c.statements angles).map (·.whole c) := by
  induction c using statements.induct angles with
  | case1 c e ran =>
    have never : ∀ s, c.code ⟨angles, false⟩ = .ok s → s.ending ≠ .semicolon := by
      intro s other
      cases ran.symm.trans other
    rw [code_multiline_of_not_semicolon never, ran, statements_of_error ran]
    rfl
  | case2 c s ran ends ih =>
    rcases code_multiline_of_semicolon ran ends with ⟨stop, first, multi⟩
    rw [multi, ih, statements_of_ok ran, if_pos ends]
    cases behind : s.next.statements angles with
    | error e => rfl
    | ok later =>
      rcases exists_passes_of_statements behind with ⟨span, pass, _⟩
      simp only [Except.map, StatementRun.whole, Stretch.prepend, pass.upTo]
      rw [(first.trans pass).upTo]
  | case3 c s ran goes =>
    have never : ∀ s, c.code ⟨angles, false⟩ = .ok s → s.ending ≠ .semicolon := by
      intro other again
      cases ran.symm.trans again
      exact goes
    rw [code_multiline_of_not_semicolon never, ran, statements_of_ok ran, if_neg goes]
    simp only [Except.map, StatementRun.whole, (passes_of_code ran goes).upTo]

/-- Code for several lines is what repeated reading of statements takes: it ends at the same place
    for the same reason or fails with the same error, and its text is that of all the tokens up to
    there, which is the texts of the statements with a semicolon after each of them and that of the
    code behind them. So it makes no difference in which of the two ways a body is read. -/
theorem code_multiline_eq_statements (tokens : List Token) (start : Nat) (angles : Bool) :
    (ofPosition tokens start).code ⟨angles, true⟩
      = ((ofPosition tokens start).statements angles).map (·.whole (ofPosition tokens start)) ∧
    (∀ run, (ofPosition tokens start).statements angles = .ok run →
      (run.whole (ofPosition tokens start)).text = run.text ∧
      run.text = joinLexemes ((tokens.take run.last.next.position).drop start)) ∧
    ∀ m trace, readBody m trace (ofPosition tokens start)
      = readStatements m trace (ofPosition tokens start) := by
  refine ⟨code_multiline _ angles, fun run read => ?_, fun m trace => ?_⟩
  · have text := text_whole read
    refine ⟨text, text.symm.trans ?_⟩
    rw [List.drop_take]
    rfl
  · have whole : (ofPosition tokens start).code .body = _ := code_multiline _ false
    rw [readBody, readStatements, whole]
    cases read : (ofPosition tokens start).statements false with
    | error e => rfl
    | ok run =>
      simp only [Except.map, text_whole read]
      rfl

example :
    ((start (tokenize "a; ; f(b; c); d \x7d e".toList)).statements false).map
        (fun run => (run.pieces, run.last.next.position))
      = .ok (["a", ";", ";", "f ( b ; c )", ";", "d"], 11) := by
  cbv

end Cursor

end ContractLang
