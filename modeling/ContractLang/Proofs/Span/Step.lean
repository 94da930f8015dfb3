import ContractLang.Proofs.Span.Region

namespace ContractLang

/-- The mode that holds where brackets are open: a semicolon no longer ends the code. -/
def ScanMode.within (mode : ScanMode) (opened : List Opening) : ScanMode :=
  ⟨mode.angles, mode.multiline || !opened.isEmpty⟩

/-- What a scan does with a token that does not stop it: the openings it goes on with. -/
inductive ScanStep (mode : ScanMode) (opened : List Opening) (position : Nat) (t : Token) :
    List Opening → Prop
  | skip (ordinary : t.role.isOrdinary (mode.within opened) = true) :
      ScanStep mode opened position t opened
  | push {bracket : Bracket} (opens : t.role = .opens bracket)
      (counts : bracket = .angle → mode.angles = true) :
      ScanStep mode opened position t (⟨bracket, position, t⟩ :: opened)
  | pop {o : Opening} {outer : List Opening} (firm : o.bracket ≠ .angle)
      (closes : t.role = .closes o.bracket) (innermost : dropAngles opened = o :: outer) :
      ScanStep mode opened position t outer
  | popAngle (matched : mode.angles = true) (closes : t.role = .closes .angle)
      (inside : opened ≠ []) : ScanStep mode opened position t (closeAngle opened)

/-- How a token stops a scan. -/
inductive ScanStop (mode : ScanMode) (opened : List Opening) (position : Nat) (t : Token)
    (rest : List Token) : Stretch → Prop
  | semicolon (semicolon : t.role = .semicolon) (outside : opened = [])
      (single : mode.multiline = false) :
      ScanStop mode opened position t rest ⟨[], .semicolon, ⟨position + 1, rest⟩⟩
  | closer {bracket : Bracket} (closes : t.role = .closes bracket) (firm : bracket ≠ .angle)
      (marks : dropAngles opened = []) :
      ScanStop mode opened position t rest ⟨[], .closer, ⟨position, t :: rest⟩⟩
  | angle (closes : t.role = .closes .angle) (matched : mode.angles = true)
      (outside : opened = []) :
      ScanStop mode opened position t rest ⟨[], .closer, ⟨position, t :: rest⟩⟩

/-- The token closes another bracket than the innermost one that is open. -/
inductive ScanClash (opened : List Opening) (t : Token) : Bracket → Opening → Prop
  | intro {bracket : Bracket} {o : Opening} {outer : List Opening} (firm : bracket ≠ .angle)
      (closes : t.role = .closes bracket) (innermost : dropAngles opened = o :: outer)
      (other : o.bracket ≠ bracket) : ScanClash opened t bracket o

theorem scan_cases (mode : ScanMode) (opened : List Opening) (position : Nat) (t : Token)
    (rest : List Token) :
    (∃ next, ScanStep mode opened position t next) ∨
    (∃ s, ScanStop mode opened position t rest s) ∨ ∃ bracket o, ScanClash opened t bracket o := by
  cases role : t.role with
  | plain => exact .inl ⟨_, .skip (by rw [role]; rfl)⟩
  | semicolon =>
    by_cases stops : opened = [] ∧ mode.multiline = false
    · exact .inr (.inl ⟨_, .semicolon role stops.1 stops.2⟩)
    · refine .inl ⟨_, .skip ?_⟩
      rw [role, Role.isOrdinary, ScanMode.within]
      revert stops
      cases mode.multiline <;> cases opened <;> simp
  | opens bracket =>
    by_cases ordinary : bracket = .angle ∧ mode.angles = false
    · refine .inl ⟨_, .skip ?_⟩
      rw [role, ordinary.1, Role.isOrdinary, ScanMode.within, ordinary.2]
      rfl
    · exact .inl ⟨_, .push role fun angle => by simpa [angle] using ordinary⟩
  | closes bracket =>
    by_cases firm : bracket = .angle
    · subst firm
      cases matched : mode.angles with
      | false =>
        refine .inl ⟨_, .skip ?_⟩
        rw [role, Role.isOrdinary, ScanMode.within, matched]
        rfl
      | true =>
        by_cases outside : opened = []
        · exact .inr (.inl ⟨_, .angle role matched outside⟩)
        · exact .inl ⟨_, .popAngle matched role outside⟩
    · cases innermost : dropAngles opened with
      | nil => exact .inr (.inl ⟨_, .closer role firm innermost⟩)
      | cons o outer =>
        by_cases same : o.bracket = bracket
        · subst same
          exact .inl ⟨_, .pop firm role innermost⟩
        · exact .inr (.inr ⟨_, _, .intro firm role innermost same⟩)

theorem stretchFrom_ordinary (mode : ScanMode) (opened : List Opening) (position : Nat) (t : Token)
    (rest : List Token) (ordinary : t.role.isOrdinary (mode.within opened) = true) :
    stretchFrom mode opened position (t :: rest)
      = (stretchFrom mode opened (position + 1) rest).map (.cons t) := by
  rw [stretchFrom]
  cases role : t.role with
  | plain => rfl
  | semicolon =>
    rw [role] at ordinary
    simp only [Role.isOrdinary, ScanMode.within] at ordinary
    have stays : (opened.isEmpty && !mode.multiline) = false := by
      revert ordinary
      cases mode.multiline <;> cases opened.isEmpty <;> simp
    simp only [stays, Bool.false_eq_true, if_false]
  | opens bracket =>
    rw [role] at ordinary
    cases bracket <;> simp_all [Role.isOrdinary, ScanMode.within]
  | closes bracket =>
    rw [role] at ordinary
    cases bracket <;> simp_all [Role.isOrdinary, ScanMode.within]

theorem stretchFrom_opens (mode : ScanMode) (opened : List Opening) (position : Nat) (t : Token)
    (rest : List Token) (bracket : Bracket) (opens : t.role = .opens bracket)
    (counts : bracket = .angle → mode.angles = true) :
    stretchFrom mode opened position (t :: rest)
      = (stretchFrom mode (⟨bracket, position, t⟩ :: opened) (position + 1) rest).map (.cons t) := by
  rw [stretchFrom]
  simp only [opens]
  have pushed : (decide (bracket = .angle) && !mode.angles) = false := by
    by_cases angle : bracket = .angle
    · rw [counts angle]; simp
    · simp [angle]
  simp only [pushed, Bool.false_eq_true, if_false]

theorem stretchFrom_closes (mode : ScanMode) (opened outer : List Opening) (o : Opening)
    (position : Nat) (t : Token) (rest : List Token) (firm : o.bracket ≠ .angle)
    (closes : t.role = .closes o.bracket) (innermost : dropAngles opened = o :: outer) :
    stretchFrom mode opened position (t :: rest)
      = (stretchFrom mode outer (position + 1) rest).map (.cons t) := by
  rw [stretchFrom]
  cases bracket : o.bracket <;> simp_all

theorem stretchFrom_closes_angle (mode : ScanMode) (opened : List Opening) (position : Nat)
    (t : Token) (rest : List Token) (matched : mode.angles = true)
    (closes : t.role = .closes .angle) (inside : opened ≠ []) :
    stretchFrom mode opened position (t :: rest)
      = (stretchFrom mode (closeAngle opened) (position + 1) rest).map (.cons t) := by
  rw [stretchFrom]
  simp [closes, matched, inside]

theorem ScanStep.stretchFrom {mode : ScanMode} {opened next : List Opening} {position : Nat}
    {t : Token} (step : ScanStep mode opened position t next) (rest : List Token) :
    stretchFrom mode opened position (t :: rest)
      = (stretchFrom mode next (position + 1) rest).map (.cons t) := by
  cases step with
  | skip ordinary => exact stretchFrom_ordinary _ _ _ _ _ ordinary
  | push opens counts => exact stretchFrom_opens _ _ _ _ _ _ opens counts
  | pop firm closes innermost => exact stretchFrom_closes _ _ _ _ _ _ _ firm closes innermost
  | popAngle matched closes inside =>
    exact stretchFrom_closes_angle _ _ _ _ _ matched closes inside

theorem ScanStop.stretchFrom {mode : ScanMode} {opened : List Opening} {position : Nat}
    {t : Token} {rest : List Token} {s : Stretch} (stop : ScanStop mode opened position t rest s) :
    stretchFrom mode opened position (t :: rest) = .ok s := by
  rw [ContractLang.stretchFrom]
  cases stop with
  | semicolon semicolon outside single => simp [semicolon, outside, single]
  | @closer bracket closes firm marks => cases bracket <;> simp_all
  | angle closes matched outside => simp [closes, matched, outside]

theorem ScanClash.stretchFrom {opened : List Opening} {t : Token} {bracket : Bracket} {o : Opening}
    (clash : ScanClash opened t bracket o) (mode : ScanMode) (position : Nat) (rest : List Token) :
    stretchFrom mode opened position (t :: rest)
      = .error ⟨o.mismatched bracket, ⟨position, some t⟩⟩ := by
  rw [ContractLang.stretchFrom]
  cases clash with
  | intro firm closes innermost other => cases bracket <;> simp_all

theorem map_eq_ok {α β : Type} {f : α → β} {r : Except SyntaxError α} {b : β}
    (h : r.map f = .ok b) : ∃ a, r = .ok a ∧ b = f a := by
  cases r with
  | error e => cases h
  | ok a => cases h; exact ⟨a, rfl, rfl⟩

theorem map_eq_error {α β : Type} {f : α → β} {r : Except SyntaxError α} {e : SyntaxError}
    (h : r.map f = .error e) : r = .error e := by
  cases r with
  | error f => cases h; rfl
  | ok a => cases h

theorem stretchFrom_cons_eq_ok {mode : ScanMode} {opened : List Opening} {position : Nat}
    {t : Token} {rest : List Token} {s : Stretch}
    (h : stretchFrom mode opened position (t :: rest) = .ok s) :
    ScanStop mode opened position t rest s ∨
    ∃ next tail, ScanStep mode opened position t next ∧
      stretchFrom mode next (position + 1) rest = .ok tail ∧ s = tail.cons t := by
  rcases scan_cases mode opened position t rest with
    ⟨next, step⟩ | ⟨stretch, stop⟩ | ⟨bracket, o, clash⟩
  · rw [step.stretchFrom] at h
    rcases map_eq_ok h with ⟨tail, ran, same⟩
    exact .inr ⟨next, tail, step, ran, same⟩
  · rw [stop.stretchFrom] at h
    cases h
    exact .inl stop
  · rw [clash.stretchFrom] at h
    cases h

end ContractLang
