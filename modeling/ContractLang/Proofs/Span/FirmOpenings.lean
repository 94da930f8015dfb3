import ContractLang.Proofs.Span.Nesting

namespace ContractLang

/-- The openings that a scan has made which does not match angles. -/
def firmOpenings (opened : List Opening) : List Opening := opened.filter Opening.isFirm

theorem Opening.isFirm_eq_true_iff (o : Opening) : o.isFirm = true ↔ o.bracket ≠ .angle := by
  simp [Opening.isFirm]

theorem firmOpenings_cons_of_angle {o : Opening} (outer : List Opening)
    (angle : o.bracket = .angle) : firmOpenings (o :: outer) = firmOpenings outer :=
  List.filter_cons_of_neg fun firm => o.isFirm_eq_true_iff.mp firm angle

theorem firmOpenings_cons_of_firm {o : Opening} (outer : List Opening)
    (firm : o.bracket ≠ .angle) : firmOpenings (o :: outer) = o :: firmOpenings outer :=
  List.filter_cons_of_pos (o.isFirm_eq_true_iff.mpr firm)

theorem firmOpenings_dropAngles (opened : List Opening) :
    firmOpenings (dropAngles opened) = firmOpenings opened := by
  induction opened with
  | nil => rfl
  | cons o outer ih =>
    rw [dropAngles]
    split
    · rename_i angle
      rw [ih, firmOpenings_cons_of_angle outer angle]
    · rfl

theorem firmOpenings_closeAngle (opened : List Opening) :
    firmOpenings (closeAngle opened) = firmOpenings opened := by
  cases opened with
  | nil => rfl
  | cons o outer =>
    rw [closeAngle]
    split
    · rename_i angle
      rw [firmOpenings_cons_of_angle outer angle]
    · rfl

theorem firm_of_firmOpenings {opened outer : List Opening} {o : Opening}
    (firm : firmOpenings opened = o :: outer) : o.bracket ≠ .angle := by
  have member : o ∈ firmOpenings opened := by
    rw [firm]
    exact List.mem_cons_self ..
  exact o.isFirm_eq_true_iff.mp (List.mem_filter.mp member).2

theorem dropAngles_firmOpenings (opened : List Opening) :
    dropAngles (firmOpenings opened) = firmOpenings opened := by
  cases firm : firmOpenings opened with
  | nil => rfl
  | cons o outer => rw [dropAngles, if_neg (firm_of_firmOpenings firm)]

theorem within_body (opened : List Opening) : ScanMode.body.within opened = .body := rfl

/-- A scan that does not match angles takes the same step, with the openings it has made. -/
theorem ScanStep.withoutAngles {opened next : List Opening} {position : Nat} {t : Token}
    (step : ScanStep .betweenAngles opened position t next) :
    ScanStep .body (firmOpenings opened) position t (firmOpenings next) := by
  have skipped : t.role.isOrdinary .body = true →
      ScanStep .body (firmOpenings opened) position t (firmOpenings opened) :=
    fun ordinary => .skip (by rw [within_body]; exact ordinary)
  cases step with
  | skip ordinary => exact skipped (Role.isOrdinary_body_of_isOrdinary ordinary)
  | @push bracket opens =>
    by_cases angle : bracket = .angle
    · rw [firmOpenings_cons_of_angle _ angle]
      exact skipped (by rw [opens, angle]; rfl)
    · rw [firmOpenings_cons_of_firm _ angle]
      exact .push opens fun same => absurd same angle
  | @pop o outer firm closes innermost =>
    have front : firmOpenings opened = o :: firmOpenings next := by
      rw [← firmOpenings_dropAngles, innermost, firmOpenings_cons_of_firm _ firm]
    exact .pop firm closes (by rw [dropAngles_firmOpenings, front])
  | popAngle matched closes =>
    rw [firmOpenings_closeAngle]
    exact skipped (by rw [closes]; rfl)

theorem ScanClash.withoutAngles {opened : List Opening} {t : Token} {bracket : Bracket}
    {o : Opening} (clash : ScanClash opened t bracket o) :
    ScanClash (firmOpenings opened) t bracket o := by
  cases clash with
  | @intro outer firm closes innermost other =>
    have inner := (dropAngles_eq_cons opened outer o innermost).1
    have front : dropAngles (firmOpenings opened) = o :: firmOpenings outer := by
      rw [dropAngles_firmOpenings, ← firmOpenings_dropAngles, innermost,
        firmOpenings_cons_of_firm _ inner]
    exact .intro firm closes front other

/-- What a scan that matches angles and one that does not come to over the same tokens. -/
inductive AngleOutcome : Except SyntaxError Stretch → Except SyntaxError Stretch → Prop
  | same (r : Except SyntaxError Stretch) : AngleOutcome r r
  | stops {s : Stretch} {plain : Except SyntaxError Stretch}
      (closes : s.next.symbol? = some '>')
      (goesOn : plain.map Stretch.next = (s.next.next.code .body).map Stretch.next) :
      AngleOutcome (.ok s) plain
  | finished {o : Opening} {s : Stretch} (angle : o.bracket = .angle)
      (ending : s.ending = .endOfInput) : AngleOutcome (.error o.unclosed) (.ok s)
  | unclosed {o inner : Opening} (angle : o.bracket = .angle) (firm : inner.bracket ≠ .angle) :
      AngleOutcome (.error o.unclosed) (.error inner.unclosed)

theorem map_next_cons (r : Except SyntaxError Stretch) (t : Token) :
    (r.map (Stretch.cons t)).map Stretch.next = r.map Stretch.next := by
  cases r <;> rfl

theorem AngleOutcome.cons {angled plain : Except SyntaxError Stretch}
    (outcome : AngleOutcome angled plain) (t : Token) :
    AngleOutcome (angled.map (.cons t)) (plain.map (.cons t)) := by
  cases outcome with
  | same => exact .same _
  | stops closes goesOn => exact .stops closes ((map_next_cons _ t).trans goesOn)
  | finished angle ending => exact .finished angle ending
  | unclosed angle firm => exact .unclosed angle firm

theorem ScanStop.angleOutcome {opened : List Opening} {position : Nat} {t : Token}
    {rest : List Token} {s : Stretch} (stop : ScanStop .betweenAngles opened position t rest s) :
    AngleOutcome (.ok s)
      (ContractLang.stretchFrom .body (firmOpenings opened) position (t :: rest)) := by
  cases stop with
  | semicolon _ _ single => cases single
  | closer closes firm marks =>
    have outside : dropAngles (firmOpenings opened) = [] := by
      rw [dropAngles_firmOpenings, ← firmOpenings_dropAngles, marks]
      rfl
    rw [(ScanStop.closer closes firm outside).stretchFrom]
    exact .same _
  | angle closes matched outside =>
    subst outside
    rw [stretchFrom_ordinary _ _ _ _ _ (by rw [closes]; rfl)]
    exact .stops ((t.role_eq_closes_iff .angle).mp closes) (map_next_cons _ t)

theorem angleOutcome_of_end (opened : List Opening) (position : Nat) :
    AngleOutcome (stretchFrom .betweenAngles opened position [])
      (stretchFrom .body (firmOpenings opened) position []) := by
  cases opened with
  | nil => exact .same _
  | cons o outer =>
    by_cases angle : o.bracket = .angle
    · rw [firmOpenings_cons_of_angle outer angle]
      cases firm : firmOpenings outer with
      | nil => exact .finished angle rfl
      | cons inner others => exact .unclosed angle (firm_of_firmOpenings firm)
    · rw [firmOpenings_cons_of_firm outer angle]
      exact .same _

theorem angleOutcome_stretchFrom (opened : List Opening) (position : Nat) (ahead : List Token) :
    AngleOutcome (stretchFrom .betweenAngles opened position ahead)
      (stretchFrom .body (firmOpenings opened) position ahead) := by
  induction ahead generalizing opened position with
  | nil => exact angleOutcome_of_end opened position
  | cons t rest ih =>
    rcases scan_cases .betweenAngles opened position t rest with
      ⟨next, step⟩ | ⟨s, stop⟩ | ⟨bracket, o, clash⟩
    · rw [step.stretchFrom, step.withoutAngles.stretchFrom]
      exact (ih next (position + 1)).cons t
    · rw [stop.stretchFrom]
      exact stop.angleOutcome
    · rw [clash.stretchFrom, clash.withoutAngles.stretchFrom]
      exact .same _

end ContractLang
