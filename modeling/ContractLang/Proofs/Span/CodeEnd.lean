import ContractLang.Proofs.Span.Fault

namespace ContractLang

theorem stretchFrom_next {mode : ScanMode} {opened : List Opening} {position : Nat}
    {ahead : List Token} {s : Stretch} (h : stretchFrom mode opened position ahead = .ok s) :
    (s.ending = .closer → ∃ bracket : Bracket, s.next.symbol? = some bracket.closer ∧
      (bracket = .angle → mode.angles = true)) ∧
    (s.ending = .endOfInput → s.next.ahead = []) := by
  induction ahead generalizing opened position s with
  | nil =>
    cases opened with
    | nil => cases h; exact ⟨nofun, fun _ => rfl⟩
    | cons o opened => cases h
  | cons t rest ih =>
    rcases stretchFrom_cons_eq_ok h with stop | ⟨next, tail, step, ran, rfl⟩
    · cases stop with
      | semicolon => exact ⟨nofun, nofun⟩
      | @closer bracket closes firm =>
        refine ⟨fun _ => ⟨bracket, ?_, fun angle => absurd angle firm⟩, nofun⟩
        exact (t.role_eq_closes_iff bracket).mp closes
      | angle closes matched =>
        refine ⟨fun _ => ⟨.angle, ?_, fun _ => matched⟩, nofun⟩
        exact (t.role_eq_closes_iff .angle).mp closes
    · exact @ih next (position + 1) tail ran

namespace Cursor

/-- Where code from `c` on may end after these tokens: before a closing bracket, behind a semicolon
    unless it may have several lines, or at the end of the tokens. -/
inductive EndsCode (c : Cursor) (multiline : Bool) (span : List Token) (d : Cursor) : Prop
  | closer {bracket : Bracket} (firm : bracket ≠ .angle) (pass : c.Passes span d)
      (closes : d.symbol? = some bracket.closer)
  | semicolon {stop : Token} (single : multiline = false) (found : stop.symbol? = some ';')
      (pass : c.Passes (span ++ [stop]) d)
  | endOfInput (pass : c.Passes span d) (finished : d.ahead = [])

variable {multiline : Bool} {c d : Cursor} {span : List Token}

theorem endsCode_of_code {s : Stretch} (h : c.code ⟨false, multiline⟩ = .ok s) :
    PlainCode multiline s.tokens ∧ c.EndsCode multiline s.tokens s.next := by
  refine ⟨(region_of_code h fun matched => by cases matched).plainCode, ?_⟩
  rcases stretchFrom_next h with ⟨closer, endOfInput⟩
  cases ending : s.ending with
  | semicolon =>
    rcases passes_of_code_semicolon h ending with ⟨stop, semicolon, pass⟩
    have single := stretchFrom_ends_on_semicolon _ [] _ _ s h ending
    exact .semicolon single ((stop.role_eq_semicolon_iff).mp semicolon) pass
  | closer =>
    rcases closer ending with ⟨bracket, closes, counts⟩
    have firm : bracket ≠ .angle := fun angle => Bool.noConfusion (counts angle)
    exact .closer firm (passes_of_code h (by rw [ending]; exact Ending.noConfusion)) closes
  | endOfInput =>
    exact .endOfInput (passes_of_code h (by rw [ending]; exact Ending.noConfusion))
      (endOfInput ending)

theorem code_of_endsCode (plain : PlainCode multiline span) (ends : c.EndsCode multiline span d) :
    ∃ ending, c.code ⟨false, multiline⟩ = .ok ⟨span, ending, d⟩ := by
  have region := plain.region
  cases ends with
  | closer firm pass closes =>
    exact ⟨_, code_of_closer region (fun angle => absurd angle firm) pass closes⟩
  | semicolon single found pass =>
    exact ⟨_, code_of_semicolon region single ((Token.role_eq_semicolon_iff _).mpr found) pass⟩
  | endOfInput pass finished => exact ⟨_, code_of_end region pass finished⟩

/-- Reading code from any position ends exactly where well nested tokens end; else it fails, at the
    first bracket that closes another one than the innermost, or for want of one at a bracket that
    nothing closes. -/
theorem code_eq_iff (tokens : List Token) (start : Nat) (multiline : Bool) :
    let c := ofPosition tokens start
    (∀ position text,
      (∃ s, c.code ⟨false, multiline⟩ = .ok s ∧ s.next.position = position ∧ s.text = text) ↔
      ∃ span d, PlainCode multiline span ∧ c.EndsCode multiline span d ∧
        d.position = position ∧ joinLexemes span = text) ∧
    ∀ e, c.code ⟨false, multiline⟩ = .error e ↔
      (¬ ∃ span d, PlainCode multiline span ∧ c.EndsCode multiline span d) ∧ c.CodeFault e := by
  intro c
  refine ⟨fun position text => ⟨?_, ?_⟩, fun e => ⟨fun failed => ⟨?_, codeFault_of_code failed⟩, ?_⟩⟩
  · rintro ⟨s, ran, rfl, rfl⟩
    rcases endsCode_of_code ran with ⟨plain, ends⟩
    exact ⟨s.tokens, s.next, plain, ends, rfl, rfl⟩
  · rintro ⟨span, d, plain, ends, rfl, rfl⟩
    rcases code_of_endsCode plain ends with ⟨ending, ran⟩
    exact ⟨_, ran, rfl, rfl⟩
  · rintro ⟨span, d, plain, ends⟩
    rcases code_of_endsCode plain ends with ⟨ending, ran⟩
    rw [failed] at ran
    cases ran
  · rintro ⟨stays, fault⟩
    refine code_of_codeFault fault fun s ran => stays ?_
    exact ⟨s.tokens, s.next, endsCode_of_code ran⟩

end Cursor
end ContractLang
