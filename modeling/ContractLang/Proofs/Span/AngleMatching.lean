import ContractLang.Proofs.Span.CodeEnd
import ContractLang.Proofs.Span.FirmOpenings

namespace ContractLang

theorem Bracket.eq_of_opener {a b : Bracket} (same : a.opener = b.opener) : a = b := by
  have roles := congrArg Role.ofSymbol same
  rw [Role.ofSymbol_opener, Role.ofSymbol_opener] at roles
  exact Role.opens.inj roles

theorem Opening.eq_of_unclosed {o other : Opening} (same : o.unclosed = other.unclosed) :
    o = other := by
  rcases o with ⟨bracket, position, t⟩
  rcases other with ⟨otherBracket, otherPosition, u⟩
  simp only [Opening.unclosed, SyntaxError.mk.injEq, Complaint.unclosed.injEq, Place.mk.injEq,
    Option.some.injEq, Int.natCast_inj] at same
  rcases same with ⟨opener, rfl, rfl⟩
  rw [Bracket.eq_of_opener opener]

/-- A bracket that is reported as unclosed was open at the start or stands among the tokens. -/
theorem unclosed_of_stretchFrom {mode : ScanMode} {opened : List Opening} {position : Nat}
    {ahead : List Token} {o : Opening}
    (h : stretchFrom mode opened position ahead = .error o.unclosed) :
    o ∈ opened ∨ ∃ passed rest, ahead = passed ++ o.token :: rest ∧
      o.position = position + passed.length ∧ o.token.role = .opens o.bracket := by
  induction ahead generalizing opened position with
  | nil =>
    cases opened with
    | nil => cases h
    | cons m outer =>
      have same : m = o := Opening.eq_of_unclosed (Except.error.inj h)
      exact .inl (same ▸ List.mem_cons_self ..)
  | cons t rest ih =>
    rcases scan_cases mode opened position t rest with
      ⟨next, step⟩ | ⟨s, stop⟩ | ⟨bracket, m, clash⟩
    · rw [step.stretchFrom] at h
      rcases ih (map_eq_error h) with member | ⟨passed, behind, split, place, opens⟩
      · rcases step.mem member with before | ⟨opens, _, same⟩
        · exact .inl before
        · refine .inr ⟨[], rest, ?_, ?_, ?_⟩
          all_goals rw [same]
          · rfl
          · rfl
          · exact opens
      · refine .inr ⟨t :: passed, behind, congrArg (t :: ·) split, ?_, opens⟩
        rw [place, List.length_cons]
        omega
    · rw [stop.stretchFrom] at h
      cases h
    · rw [clash.stretchFrom] at h
      cases h

/-- What is told of a scan: where it ends and its text, or what is wrong, where, and what would have
    been right. -/
def told : Except SyntaxError Stretch → Except (String × Int × Option String) (Nat × String)
  | .ok s => .ok (s.next.position, s.text)
  | .error e => .error (e.message, e.place.position, e.expected?)

namespace Cursor

/-- Matching angles makes no difference to the scan. -/
def SameOutcome (c : Cursor) : Prop := told (c.code .betweenAngles) = told (c.code .body)

/-- The scan that matches angles stops before a `>`, with all other brackets closed. Without angles
    it goes on behind the `>` as if it started there. -/
def StopsAtAngle (c : Cursor) : Prop :=
  ∃ span d, c.Passes span d ∧ d.symbol? = some '>' ∧ Region .body span ∧
    c.code .betweenAngles = .ok ⟨span, .closer, d⟩ ∧
    (c.code .body).map Stretch.next = (d.next.code .body).map Stretch.next

/-- The scan that matches angles is left with an open `<` at the end. Without angles it has nothing
    open there, or a bracket of another kind. -/
def LeavesAngleOpen (c : Cursor) : Prop :=
  (∃ before d, c.Passes before d ∧ d.symbol? = some '<' ∧
    c.code .betweenAngles = .error ⟨.unclosed '<', d.place⟩) ∧
  ((∃ d, c.Passes c.ahead d ∧ d.ahead = [] ∧ c.code .body = .ok ⟨c.ahead, .endOfInput, d⟩) ∨
    ∃ o d, c.Innermost o d ∧ d.ahead = [] ∧ c.code .body = .error o.unclosed)

theorem stopsAtAngle_of_code {c : Cursor} {s : Stretch} (ran : c.code .betweenAngles = .ok s)
    (closes : s.next.symbol? = some '>')
    (goesOn : (c.code .body).map Stretch.next = (s.next.next.code .body).map Stretch.next) :
    c.StopsAtAngle := by
  have settled : s.Settled .betweenAngles := by
    intro _ _ t head
    rw [symbol?, Place.symbol?, place, head] at closes
    exact (t.role_eq_closes_iff .angle).mpr closes
  have ending : s.ending = .closer := by
    cases ending : s.ending with
    | closer => rfl
    | semicolon => cases stretchFrom_ends_on_semicolon _ [] _ _ s ran ending
    | endOfInput =>
      rw [symbol?, Place.symbol?, place, (stretchFrom_next ran).2 ending] at closes
      cases closes
  have pass := passes_of_code ran (by rw [ending]; exact Ending.noConfusion)
  refine ⟨s.tokens, s.next, pass, closes, (region_of_code ran settled).toBody, ?_, goesOn⟩
  rw [ran, ← ending]

theorem exists_angle_of_unclosed {c : Cursor} {o : Opening} (angle : o.bracket = .angle)
    (failed : c.code .betweenAngles = .error o.unclosed) :
    ∃ before d, c.Passes before d ∧ d.symbol? = some '<' ∧
      c.code .betweenAngles = .error ⟨.unclosed '<', d.place⟩ := by
  rcases unclosed_of_stretchFrom failed with member | ⟨passed, rest, split, position, opens⟩
  · cases member
  · rw [angle] at opens
    refine ⟨passed, ⟨o.position, o.token :: rest⟩, ⟨split, position⟩,
      (o.token.role_eq_opens_iff .angle).mp opens, ?_⟩
    rw [failed, Opening.unclosed, angle]
    rfl

theorem whole_of_endOfInput {c : Cursor} {s : Stretch} (ran : c.code .body = .ok s)
    (ending : s.ending = .endOfInput) :
    ∃ d, c.Passes c.ahead d ∧ d.ahead = [] ∧ c.code .body = .ok ⟨c.ahead, .endOfInput, d⟩ := by
  have pass := passes_of_code ran (by rw [ending]; exact Ending.noConfusion)
  have finished := (stretchFrom_next ran).2 ending
  have whole : c.ahead = s.tokens := by rw [pass.1, finished, List.append_nil]
  exact ⟨s.next, whole ▸ pass, finished, by rw [ran, whole, ← ending]⟩

theorem innermost_of_unclosed {c : Cursor} {o : Opening}
    (failed : c.code .body = .error o.unclosed) : ∃ d, c.Innermost o d ∧ d.ahead = [] := by
  have fault := codeFault_of_code failed
  generalize same : o.unclosed = e at fault
  cases fault with
  | mismatched clash => cases same
  | unclosed innermost finished =>
    rw [Opening.eq_of_unclosed same]
    exact ⟨_, innermost, finished⟩

theorem sameOutcome_or (c : Cursor) : c.SameOutcome ∨ c.StopsAtAngle ∨ c.LeavesAngleOpen := by
  have outcome := angleOutcome_stretchFrom [] c.position c.ahead
  change AngleOutcome (c.code .betweenAngles) (c.code .body) at outcome
  generalize angled : c.code .betweenAngles = a at outcome
  generalize plain : c.code .body = p at outcome
  cases outcome with
  | same => exact .inl (by rw [SameOutcome, angled, plain])
  | stops closes goesOn => exact .inr (.inl (stopsAtAngle_of_code angled closes (plain ▸ goesOn)))
  | finished angle ending =>
    have left := exists_angle_of_unclosed angle angled
    exact .inr (.inr ⟨left, .inl (whole_of_endOfInput plain ending)⟩)
  | @unclosed o inner angle firm =>
    rcases innermost_of_unclosed plain with ⟨d, innermost, finished⟩
    have left := exists_angle_of_unclosed angle angled
    exact .inr (.inr ⟨left, .inr ⟨inner, d, innermost, finished, plain⟩⟩)

theorem StopsAtAngle.not_sameOutcome {c : Cursor} (stops : c.StopsAtAngle) : ¬ c.SameOutcome := by
  intro same
  rcases stops with ⟨span, d, pass, closes, closed, angled, goesOn⟩
  rw [SameOutcome, angled] at same
  cases plain : c.code .body with
  | error e => rw [plain] at same; cases same
  | ok s =>
    rw [plain] at same goesOn
    cases behind : d.next.code .body with
    | error e => rw [behind] at goesOn; cases goesOn
    | ok later =>
      rw [behind] at goesOn
      rcases exists_passes_of_code behind with ⟨passed, move⟩
      have place : s.next = later.next := Except.ok.inj goesOn
      have position : d.position = s.next.position := (Prod.mk.inj (Except.ok.inj same)).1
      have moved : later.next.position = d.position + 1 + passed.length := move.2
      rw [← place, ← position] at moved
      omega

theorem LeavesAngleOpen.not_sameOutcome {c : Cursor} (leaves : c.LeavesAngleOpen) :
    ¬ c.SameOutcome := by
  intro same
  rcases leaves with ⟨⟨before, d, _, _, angled⟩, ⟨e, _, _, plain⟩ | ⟨o, e, innermost, _, plain⟩⟩
  · rw [SameOutcome, angled, plain] at same
    cases same
  · rw [SameOutcome, angled, plain] at same
    have message := (Prod.mk.inj (Except.error.inj same)).1
    have firm := innermost.firm
    have others : ∀ bracket : Bracket, bracket ≠ .angle →
        Complaint.message (.unclosed '<') ≠ Complaint.message (.unclosed bracket.opener) := by
      intro bracket
      cases bracket <;> decide
    exact others o.bracket firm message

theorem StopsAtAngle.not_leavesAngleOpen {c : Cursor} (stops : c.StopsAtAngle) :
    ¬ c.LeavesAngleOpen := by
  rintro ⟨⟨_, _, _, _, failed⟩, _⟩
  rcases stops with ⟨_, _, _, _, _, ran, _⟩
  rw [ran] at failed
  cases failed

/-- Matching angles never disturbs the other brackets: it makes no difference, or the scan stops at
    a `>` that the other one passes over, or a `<` stays open at the end. -/
theorem code_betweenAngles_cases (tokens : List Token) (start : Nat) :
    let c := ofPosition tokens start
    (c.SameOutcome ∨ c.StopsAtAngle ∨ c.LeavesAngleOpen) ∧
      ¬ (c.SameOutcome ∧ c.StopsAtAngle) ∧ ¬ (c.SameOutcome ∧ c.LeavesAngleOpen) ∧
      ¬ (c.StopsAtAngle ∧ c.LeavesAngleOpen) := by
  intro c
  refine ⟨sameOutcome_or c, ?_, ?_, ?_⟩
  · exact fun both => both.2.not_sameOutcome both.1
  · exact fun both => both.2.not_sameOutcome both.1
  · exact fun both => both.1.not_leavesAngleOpen both.2

end Cursor
end ContractLang
