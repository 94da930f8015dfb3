import ContractLang.Proofs.Span.PlainCode

namespace ContractLang

/-- Brackets that tokens leave open, innermost first. What stands after each of them, and before
    the first one, is closed. -/
inductive LeavesOpen (position : Nat) : List Opening → List Token → Prop
  | nil {before : List Token} (closed : Region .body before) : LeavesOpen position [] before
  | cons {outer : List Opening} {before inside : List Token} {o : Opening}
      (around : LeavesOpen position outer before) (firm : o.bracket ≠ .angle)
      (opens : o.token.role = .opens o.bracket) (place : o.position = position + before.length)
      (inner : Region .body inside) :
      LeavesOpen position (o :: outer) (before ++ o.token :: inside)

theorem LeavesOpen.append {position : Nat} {opened : List Opening} {before span : List Token}
    (left : LeavesOpen position opened before) (closed : Region .body span) :
    LeavesOpen position opened (before ++ span) := by
  cases left with
  | nil front => exact .nil (front.append closed)
  | cons around firm opens place inner =>
    rw [List.append_assoc, List.cons_append]
    exact .cons around firm opens place (inner.append closed)

theorem LeavesOpen.dropAngles_eq {position : Nat} {opened : List Opening} {before : List Token}
    (left : LeavesOpen position opened before) : dropAngles opened = opened := by
  cases left with
  | nil front => rfl
  | cons around firm opens place inner => rw [dropAngles, if_neg firm]

theorem LeavesOpen.step {multiline : Bool} {position : Nat} {opened next : List Opening}
    {before : List Token} {t : Token} (left : LeavesOpen position opened before)
    (step : ScanStep ⟨false, multiline⟩ opened (position + before.length) t next) :
    LeavesOpen position next (before ++ [t]) := by
  cases step with
  | skip ordinary =>
    exact left.append (.cons (Role.isOrdinary_body_of_isOrdinary ordinary) .nil)
  | @push bracket opens counts =>
    have firm : bracket ≠ .angle := fun angle => Bool.noConfusion (counts angle)
    exact .cons (o := ⟨bracket, position + before.length, t⟩) left firm opens rfl .nil
  | @pop o _ firm closes innermost =>
    rw [left.dropAngles_eq] at innermost
    subst innermost
    cases left with
    | @cons _ front inside _ around firm opens place inner =>
      rw [List.append_assoc, List.cons_append]
      exact around.append (.group firm opens closes inner .nil)
  | popAngle matched => cases matched

/-- Why reading code on fails: a token that closes another bracket than the innermost one that is
    open, or a bracket that is open at the end. -/
inductive ScanFault (position : Nat) (tokens : List Token) : SyntaxError → Prop
  | mismatched {o : Opening} {outer : List Opening} {passed rest : List Token} {t : Token}
      {bracket : Bracket} (split : tokens = passed ++ t :: rest)
      (left : LeavesOpen position (o :: outer) passed) (closes : t.role = .closes bracket)
      (firm : bracket ≠ .angle) (other : o.bracket ≠ bracket) :
      ScanFault position tokens
        ⟨o.mismatched bracket, ⟨(position + passed.length : Nat), some t⟩⟩
  | unclosed {o : Opening} {outer : List Opening} (left : LeavesOpen position (o :: outer) tokens) :
      ScanFault position tokens o.unclosed

theorem scanFault_of_stretchFrom {multiline : Bool} {position : Nat} {opened : List Opening}
    {before ahead : List Token} {e : SyntaxError} (left : LeavesOpen position opened before)
    (h : stretchFrom ⟨false, multiline⟩ opened (position + before.length) ahead = .error e) :
    ScanFault position (before ++ ahead) e := by
  induction ahead generalizing opened before with
  | nil =>
    cases opened with
    | nil => cases h
    | cons o outer =>
      cases h
      rw [List.append_nil]
      exact .unclosed left
  | cons t rest ih =>
    rcases scan_cases ⟨false, multiline⟩ opened (position + before.length) t rest with
      ⟨next, step⟩ | ⟨s, stop⟩ | ⟨bracket, o, clash⟩
    · rw [step.stretchFrom] at h
      have ran := map_eq_error h
      rw [Nat.add_assoc, ← List.length_singleton (a := t), ← List.length_append] at ran
      rw [List.append_cons]
      exact ih (left.step step) ran
    · rw [stop.stretchFrom] at h
      cases h
    · rw [clash.stretchFrom] at h
      cases h
      cases clash with
      | intro firm closes innermost other =>
        rw [left.dropAngles_eq] at innermost
        subst innermost
        exact .mismatched rfl left closes firm other

/-- What comes of a scan by the time it would be behind these tokens: it has stopped, it has found
    brackets that do not fit, or it goes on with some brackets open. -/
theorem stretchFrom_append_cases (mode : ScanMode) (opened : List Opening) (position : Nat)
    (before rest : List Token) :
    (∃ s, stretchFrom mode opened position (before ++ rest) = .ok s) ∨
    (∃ o closer early found, early < position + before.length ∧
      stretchFrom mode opened position (before ++ rest)
        = .error ⟨Opening.mismatched o closer, ⟨(early : Nat), found⟩⟩) ∨
    ∃ left, stretchFrom mode opened position (before ++ rest)
      = (stretchFrom mode left (position + before.length) rest).map (.prepend before) := by
  induction before generalizing opened position with
  | nil => exact .inr (.inr ⟨opened, (map_prepend_nil _).symm⟩)
  | cons t before ih =>
    rw [List.cons_append]
    rcases scan_cases mode opened position t (before ++ rest) with
      ⟨next, step⟩ | ⟨s, stop⟩ | ⟨bracket, o, clash⟩
    · rw [step.stretchFrom]
      rcases ih next (position + 1) with ⟨s, ran⟩ | ⟨o, closer, early, found, bound, ran⟩ | ⟨left, ran⟩
      · exact .inl ⟨s.cons t, by rw [ran]; rfl⟩
      · refine .inr (.inl ⟨o, closer, early, found, ?_, by rw [ran]; rfl⟩)
        rw [List.length_cons]
        omega
      · refine .inr (.inr ⟨left, ?_⟩)
        rw [ran, map_prepend_cons, List.length_cons]
        congr 2
        omega
    · exact .inl ⟨s, stop.stretchFrom⟩
    · refine .inr (.inl ⟨o, bracket, position, some t, ?_, clash.stretchFrom ..⟩)
      rw [List.length_cons]
      omega

namespace Cursor

/-- Of the brackets since `c`, `o` is the innermost one that is still open at `d`. -/
structure Innermost (c : Cursor) (o : Opening) (d : Cursor) : Prop where
  firm : o.bracket ≠ .angle
  opens : o.token.symbol? = some o.bracket.opener
  site : ∃ before inside, c.Passes (before ++ o.token :: inside) d ∧
    o.position = c.position + before.length ∧ Region .body inside

/-- The bracket that closes at `d` is of another kind than the innermost one that is open there. -/
structure Clash (c : Cursor) (o : Opening) (closer : Bracket) (d : Cursor) : Prop where
  innermost : c.Innermost o d
  closes : d.symbol? = some closer.closer
  firm : closer ≠ .angle
  other : o.bracket ≠ closer

/-- What is wrong with code from `c` on: the first clash, or without any the innermost bracket that
    is open at the end. -/
inductive CodeFault (c : Cursor) : SyntaxError → Prop
  | mismatched {o : Opening} {closer : Bracket} {d : Cursor} (clash : c.Clash o closer d)
      (first : ∀ o' closer' d', c.Clash o' closer' d' → d.position ≤ d'.position) :
      CodeFault c ⟨o.mismatched closer, d.place⟩
  | unclosed {o : Opening} {d : Cursor} (innermost : c.Innermost o d) (finished : d.ahead = [])
      (fit : ∀ o' closer' d', ¬ c.Clash o' closer' d') : CodeFault c o.unclosed

variable {multiline : Bool} {c d : Cursor} {o : Opening} {closer : Bracket}

theorem code_of_innermost (innermost : c.Innermost o d) (multiline : Bool) :
    (∃ s, c.code ⟨false, multiline⟩ = .ok s) ∨
    (∃ o' closer' early found, early < d.position ∧
      c.code ⟨false, multiline⟩
        = .error ⟨Opening.mismatched o' closer', ⟨(early : Nat), found⟩⟩) ∨
    ∃ left span, c.code ⟨false, multiline⟩
      = (stretchFrom ⟨false, multiline⟩ (o :: left) d.position d.ahead).map (.prepend span) := by
  rcases innermost with ⟨firm, opens, before, inside, ⟨ahead, position⟩, place, inner⟩
  have length : d.position = c.position + before.length + 1 + inside.length := by
    rw [position, List.length_append, List.length_cons]
    omega
  have split : c.ahead = before ++ (o.token :: (inside ++ d.ahead)) := by
    rw [ahead, List.append_assoc, List.cons_append]
  rw [code, split]
  rcases stretchFrom_append_cases ⟨false, multiline⟩ [] c.position before
      (o.token :: (inside ++ d.ahead)) with stops | ⟨o', closer', early, found, bound, ran⟩ | ⟨left, ran⟩
  · exact .inl stops
  · exact .inr (.inl ⟨o', closer', early, found, by omega, ran⟩)
  · refine .inr (.inr ⟨left, before ++ (o.token :: inside), ?_⟩)
    have within : ScanMode.within ⟨false, multiline⟩ (o :: left) = .body := by
      simp [ScanMode.within, ScanMode.body]
    have pushed := stretchFrom_opens ⟨false, multiline⟩ left (c.position + before.length) o.token
      (inside ++ d.ahead) o.bracket ((o.token.role_eq_opens_iff _).mpr opens)
      fun angle => absurd angle firm
    have same : (⟨o.bracket, c.position + before.length, o.token⟩ : Opening) = o := by
      rw [← place]
    rw [same, stretchFrom_region _ _ _ (within ▸ inner), ← length, map_prepend_cons] at pushed
    rw [ran, pushed, map_prepend_append]

theorem code_of_clash (clash : c.Clash o closer d) (multiline : Bool) :
    (∃ s, c.code ⟨false, multiline⟩ = .ok s) ∨
    (∃ o' closer' early found, early < d.position ∧
      c.code ⟨false, multiline⟩
        = .error ⟨Opening.mismatched o' closer', ⟨(early : Nat), found⟩⟩) ∨
    c.code ⟨false, multiline⟩ = .error ⟨o.mismatched closer, d.place⟩ := by
  rcases code_of_innermost clash.innermost multiline with stops | earlier | ⟨left, span, ran⟩
  · exact .inl stops
  · exact .inr (.inl earlier)
  · refine .inr (.inr ?_)
    rcases passes_of_symbol? clash.closes with ⟨t, ⟨ahead, _⟩, found⟩
    rw [List.singleton_append] at ahead
    have marks : dropAngles (o :: left) = o :: left := by
      rw [dropAngles, if_neg clash.innermost.firm]
    have met : ScanClash (o :: left) t closer o :=
      .intro clash.firm ((t.role_eq_closes_iff closer).mpr found) marks clash.other
    rw [ran, ahead, met.stretchFrom]
    simp [Except.map, place, ahead]

theorem code_of_unclosed (innermost : c.Innermost o d) (finished : d.ahead = [])
    (multiline : Bool) :
    (∃ s, c.code ⟨false, multiline⟩ = .ok s) ∨
    (∃ o' closer' early found, c.code ⟨false, multiline⟩
        = .error ⟨Opening.mismatched o' closer', ⟨(early : Nat), found⟩⟩) ∨
    c.code ⟨false, multiline⟩ = .error o.unclosed := by
  rcases code_of_innermost innermost multiline with
    stops | ⟨o', closer', early, found, _, ran⟩ | ⟨left, span, ran⟩
  · exact .inl stops
  · exact .inr (.inl ⟨o', closer', early, found, ran⟩)
  · refine .inr (.inr ?_)
    rw [ran, finished]
    rfl

theorem innermost_of_leavesOpen {outer : List Opening} {span : List Token}
    (left : LeavesOpen c.position (o :: outer) span) (pass : c.Passes span d) :
    c.Innermost o d := by
  cases left with
  | cons around firm opens place inner =>
    exact ⟨firm, (Token.role_eq_opens_iff _ _).mp opens, _, _, pass, place, inner⟩

/-- No failure comes after a clash. -/
theorem Clash.bounds {e : SyntaxError} (clash : c.Clash o closer d)
    (h : c.code ⟨false, multiline⟩ = .error e) :
    e.place.position ≤ d.position ∧
      ∃ o' : Opening, ∃ closer', e.complaint = o'.mismatched closer' := by
  rcases code_of_clash clash multiline with ⟨s, ran⟩ | ⟨o', closer', early, _, bound, ran⟩ | ran
  · rw [h] at ran
    cases ran
  · rw [h] at ran
    cases ran
    exact ⟨Int.ofNat_le.mpr (Nat.le_of_lt bound), o', closer', rfl⟩
  · rw [h] at ran
    cases ran
    exact ⟨Int.le_refl _, o, closer, rfl⟩

theorem codeFault_of_code {e : SyntaxError} (h : c.code ⟨false, multiline⟩ = .error e) :
    c.CodeFault e := by
  have nothing : LeavesOpen c.position [] [] := .nil .nil
  have fault : ScanFault c.position c.ahead e := scanFault_of_stretchFrom nothing h
  cases fault with
  | @mismatched o outer passed rest t bracket split left closes firm other =>
    have pass : c.Passes passed ⟨c.position + passed.length, t :: rest⟩ := ⟨split, rfl⟩
    have clash : c.Clash o bracket ⟨c.position + passed.length, t :: rest⟩ :=
      ⟨innermost_of_leavesOpen left pass, (t.role_eq_closes_iff bracket).mp closes, firm, other⟩
    exact .mismatched clash fun o' closer' d' clash' => Int.ofNat_le.mp (clash'.bounds h).1
  | @unclosed o outer left =>
    have pass : c.Passes c.ahead ⟨c.position + c.ahead.length, []⟩ := ⟨by simp, rfl⟩
    refine .unclosed (innermost_of_leavesOpen left pass) rfl fun o' closer' d' clash' => ?_
    rcases (clash'.bounds h).2 with ⟨_, _, complaint⟩
    cases complaint

/-- Code that does not end fails in one way only. -/
theorem code_of_codeFault {e : SyntaxError} (fault : c.CodeFault e)
    (runs : ∀ s, c.code ⟨false, multiline⟩ ≠ .ok s) : c.code ⟨false, multiline⟩ = .error e := by
  cases fault with
  | @mismatched o closer d clash first =>
    rcases code_of_clash clash multiline with ⟨s, ran⟩ | ⟨_, _, early, _, bound, ran⟩ | ran
    · exact absurd ran (runs s)
    · generalize failed : SyntaxError.mk _ _ = e at ran
      cases codeFault_of_code ran with
      | @mismatched _ _ d' clash' =>
        injection failed with complaint place
        injection place with position
        have later := first _ _ _ clash'
        have same : early = d'.position := Int.ofNat.inj position
        omega
      | unclosed innermost finished fit => exact absurd clash (fit _ _ _)
    · exact ran
  | @unclosed o d innermost finished fit =>
    rcases code_of_unclosed innermost finished multiline with ⟨s, ran⟩ | ⟨_, _, _, _, ran⟩ | ran
    · exact absurd ran (runs s)
    · generalize failed : SyntaxError.mk _ _ = e at ran
      cases codeFault_of_code ran with
      | mismatched clash' => exact absurd clash' (fit _ _ _)
      | unclosed => cases failed
    · exact ran

end Cursor
end ContractLang
