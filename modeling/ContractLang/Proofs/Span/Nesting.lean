import ContractLang.Proofs.Span.Step

namespace ContractLang

def Opening.isFirm (o : Opening) : Bool := o.bracket != .angle

def Bracket.inside : Bracket → ScanMode
  | .angle => .betweenAngles
  | _ => .body

/-- The mode that holds after these openings. A `<` inside a firm bracket changes nothing. -/
def ScanMode.innermost (mode : ScanMode) : List Opening → ScanMode
  | [] => mode
  | o :: outer =>
    if o.bracket = .angle ∧ outer.any Opening.isFirm = true then mode.innermost outer
    else o.bracket.inside

/-- Tokens that close these openings, from the innermost on, and leave no other bracket open. A `<`
    inside a firm bracket needs no `>`. -/
def Closes (mode : ScanMode) : List Opening → List Token → Prop
  | [], tokens => Region mode tokens
  | o :: outer, tokens =>
    if o.bracket = .angle ∧ outer.any Opening.isFirm = true then Closes mode outer tokens
    else ∃ inside closing rest, tokens = inside ++ closing :: rest ∧
      closing.role = .closes o.bracket ∧ Region o.bracket.inside inside ∧ Closes mode outer rest

theorem Closes.prepend (mode : ScanMode) (opened : List Opening) {span tokens : List Token}
    (region : Region (mode.innermost opened) span) (rest : Closes mode opened tokens) :
    Closes mode opened (span ++ tokens) := by
  induction opened with
  | nil => exact region.append rest
  | cons o outer ih =>
    unfold ScanMode.innermost at region
    unfold Closes at rest ⊢
    split at region
    · rename_i mark
      rw [if_pos mark] at rest ⊢
      exact ih region rest
    · rename_i counts
      rw [if_neg counts] at rest ⊢
      rcases rest with ⟨inside, closing, after, rfl, closes, inner, outside⟩
      exact ⟨span ++ inside, closing, after, (List.append_assoc ..).symm, closes,
        region.append inner, outside⟩

theorem Closes.cons (mode : ScanMode) (opened : List Opening) {t : Token} {tokens : List Token}
    (ordinary : t.role.isOrdinary (mode.innermost opened) = true)
    (rest : Closes mode opened tokens) : Closes mode opened (t :: tokens) :=
  Closes.prepend mode opened (.cons ordinary .nil) rest

theorem innermost_of_firm (mode : ScanMode) (opened : List Opening)
    (firm : opened.any Opening.isFirm = true) : mode.innermost opened = .body := by
  induction opened with
  | nil => cases firm
  | cons o outer ih =>
    unfold ScanMode.innermost
    split
    · rename_i mark
      exact ih mark.2
    · rename_i counts
      cases bracket : o.bracket with
      | angle =>
        have around : outer.any Opening.isFirm = true := by
          simpa [Opening.isFirm, bracket] using firm
        exact absurd ⟨bracket, around⟩ counts
      | round => rfl
      | square => rfl
      | curly => rfl

theorem innermost_of_marks (mode : ScanMode) (o : Opening) (outer : List Opening)
    (marks : (o :: outer).any Opening.isFirm = false) :
    mode.innermost (o :: outer) = .betweenAngles := by
  simp only [List.any_cons, Bool.or_eq_false_iff] at marks
  have angle : o.bracket = .angle := by simpa [Opening.isFirm] using marks.1
  simp [ScanMode.innermost, marks.2, angle, Bracket.inside]

def AnglesCount (mode : ScanMode) (opened : List Opening) : Prop :=
  ∀ o ∈ opened, o.bracket = .angle → mode.angles = true

/-- Below the openings a token is as ordinary as the scan takes it to be. -/
theorem isOrdinary_innermost (mode : ScanMode) (opened : List Opening) {role : Role}
    (count : AnglesCount mode opened)
    (ordinary : role.isOrdinary (mode.within opened) = true) :
    role.isOrdinary (mode.innermost opened) = true := by
  cases firm : opened.any Opening.isFirm with
  | true =>
    rw [innermost_of_firm mode opened firm]
    exact Role.isOrdinary_body_of_isOrdinary ordinary
  | false =>
    cases opened with
    | nil => simpa [ScanMode.innermost, ScanMode.within] using ordinary
    | cons o outer =>
      have angle : o.bracket = .angle := by
        simp only [List.any_cons, Bool.or_eq_false_iff] at firm
        simpa [Opening.isFirm] using firm.1
      have matched := count o (List.mem_cons_self ..) angle
      rw [innermost_of_marks mode o outer firm, ScanMode.betweenAngles]
      simpa [ScanMode.within, matched] using ordinary

theorem dropAngles_eq_cons (opened outer : List Opening) (o : Opening)
    (innermost : dropAngles opened = o :: outer) :
    o.bracket ≠ .angle ∧ opened.any Opening.isFirm = true ∧ ∀ m ∈ outer, m ∈ opened := by
  induction opened with
  | nil => cases innermost
  | cons m opened ih =>
    unfold dropAngles at innermost
    split at innermost
    · rcases ih innermost with ⟨firm, some, members⟩
      refine ⟨firm, by simp [some], fun n member => List.mem_cons_of_mem _ (members n member)⟩
    · rename_i firm
      cases innermost
      exact ⟨firm, by simp [Opening.isFirm, firm], fun n member => List.mem_cons_of_mem _ member⟩

theorem mem_of_mem_closeAngle (opened : List Opening) (o : Opening) (h : o ∈ closeAngle opened) :
    o ∈ opened := by
  cases opened with
  | nil => exact h
  | cons m outer =>
    rw [closeAngle] at h
    split at h
    · exact List.mem_cons_of_mem _ h
    · exact h

theorem Closes.group (mode : ScanMode) (opened : List Opening) {o : Opening} {opening : Token}
    {tokens : List Token} (firm : o.bracket ≠ .angle) (opens : opening.role = .opens o.bracket)
    (rest : Closes mode (o :: opened) tokens) : Closes mode opened (opening :: tokens) := by
  unfold Closes at rest
  rw [if_neg fun mark => firm mark.1] at rest
  rcases rest with ⟨inside, closing, after, rfl, closes, inner, outside⟩
  have body : Region .body inside := inner.toBody
  have group := @Region.group (mode.innermost opened) _ _ _ _ _ firm opens closes body .nil
  simpa using Closes.prepend mode opened group outside

theorem Closes.angles (mode : ScanMode) (opened : List Opening) {o : Opening} {opening : Token}
    {tokens : List Token} (matched : mode.angles = true) (angle : o.bracket = .angle)
    (opens : opening.role = .opens .angle) (rest : Closes mode (o :: opened) tokens) :
    Closes mode opened (opening :: tokens) := by
  unfold Closes at rest
  split at rest
  · rename_i mark
    apply Closes.cons mode opened _ rest
    rw [innermost_of_firm mode opened mark.2, opens]
    rfl
  · rename_i counts
    have marks : opened.any Opening.isFirm = false := by
      simpa [angle] using counts
    have pairs : (mode.innermost opened).angles = true := by
      cases opened with
      | nil => exact matched
      | cons m outer => rw [innermost_of_marks mode m outer marks]; rfl
    rcases rest with ⟨inside, closing, after, rfl, closes, inner, outside⟩
    rw [angle] at closes inner
    have pair := Region.angles pairs opens closes inner .nil
    simpa using Closes.prepend mode opened pair outside

theorem Closes.closeAngle (mode : ScanMode) (opened : List Opening) {t : Token}
    {tokens : List Token} (inside : opened ≠ []) (closes : t.role = .closes .angle)
    (rest : Closes mode (closeAngle opened) tokens) : Closes mode opened (t :: tokens) := by
  cases opened with
  | nil => exact absurd rfl inside
  | cons o outer =>
    by_cases angle : o.bracket = .angle
    · rw [ContractLang.closeAngle, if_pos angle] at rest
      by_cases firm : outer.any Opening.isFirm = true
      · unfold Closes
        rw [if_pos ⟨angle, firm⟩]
        apply Closes.cons mode outer _ rest
        rw [innermost_of_firm mode outer firm, closes]
        rfl
      · unfold Closes
        rw [if_neg fun mark => firm mark.2]
        exact ⟨[], t, tokens, rfl, by rw [closes, angle], .nil, rest⟩
    · rw [ContractLang.closeAngle, if_neg angle] at rest
      apply Closes.cons mode _ _ rest
      rw [innermost_of_firm mode (o :: outer) (by simp [Opening.isFirm, angle]), closes]
      rfl

theorem Closes.closeFirm (mode : ScanMode) (opened outer : List Opening) {o : Opening} {t : Token}
    {tokens : List Token} (innermost : dropAngles opened = o :: outer)
    (closes : t.role = .closes o.bracket) (rest : Closes mode outer tokens) :
    Closes mode opened (t :: tokens) := by
  induction opened with
  | nil => cases innermost
  | cons m opened ih =>
    unfold dropAngles at innermost
    split at innermost
    · rename_i angle
      have around := (dropAngles_eq_cons opened outer o innermost).2.1
      unfold Closes
      rw [if_pos ⟨angle, around⟩]
      exact ih innermost
    · rename_i firm
      cases innermost
      unfold Closes
      rw [if_neg fun mark => firm mark.1]
      exact ⟨[], t, tokens, rfl, closes, .nil, rest⟩

/-- In a mode that matches angles, no bracket but a `>` ends the stretch. -/
def Stretch.Settled (s : Stretch) (mode : ScanMode) : Prop :=
  mode.angles = true → s.ending = .closer → ∀ t ∈ s.next.ahead.head?, t.role = .closes .angle

/-- A step makes no openings but the one of its own token. -/
theorem ScanStep.mem {mode : ScanMode} {opened next : List Opening} {position : Nat} {t : Token}
    {o : Opening} (step : ScanStep mode opened position t next) (member : o ∈ next) :
    o ∈ opened ∨ (t.role = .opens o.bracket ∧ (o.bracket = .angle → mode.angles = true) ∧
      o = ⟨o.bracket, position, t⟩) := by
  cases step with
  | skip ordinary => exact .inl member
  | push opens counts =>
    rcases List.mem_cons.mp member with rfl | member
    · exact .inr ⟨opens, counts, rfl⟩
    · exact .inl member
  | pop firm closes innermost =>
    exact .inl ((dropAngles_eq_cons opened next _ innermost).2.2 o member)
  | popAngle matched closes inside => exact .inl (mem_of_mem_closeAngle opened o member)

theorem AnglesCount.step {mode : ScanMode} {opened next : List Opening} {position : Nat}
    {t : Token} (count : AnglesCount mode opened) (step : ScanStep mode opened position t next) :
    AnglesCount mode next := by
  intro o member angle
  rcases step.mem member with before | ⟨_, counts, _⟩
  · exact count o before angle
  · exact counts angle

theorem Closes.step {mode : ScanMode} {opened next : List Opening} {position : Nat} {t : Token}
    {tokens : List Token} (count : AnglesCount mode opened)
    (step : ScanStep mode opened position t next) (rest : Closes mode next tokens) :
    Closes mode opened (t :: tokens) := by
  cases step with
  | skip ordinary => exact Closes.cons mode opened (isOrdinary_innermost mode opened count ordinary) rest
  | @push bracket opens counts =>
    by_cases angle : bracket = .angle
    · exact rest.angles mode opened (counts angle) angle (angle ▸ opens)
    · exact rest.group mode opened angle opens
  | pop firm closes innermost => exact Closes.closeFirm mode opened next innermost closes rest
  | popAngle matched closes inside => exact Closes.closeAngle mode opened inside closes rest

theorem ScanStop.closes_nil {mode : ScanMode} {opened : List Opening} {position : Nat} {t : Token}
    {rest : List Token} {s : Stretch} (count : AnglesCount mode opened)
    (stop : ScanStop mode opened position t rest s) (settled : s.Settled mode) :
    Closes mode opened s.tokens := by
  cases stop with
  | semicolon semicolon outside single => rw [outside]; exact .nil
  | angle closes matched outside => rw [outside]; exact .nil
  | @closer bracket closes firm marks =>
    cases opened with
    | nil => exact .nil
    | cons o outer =>
      have angle : o.bracket = .angle := by
        by_cases angle : o.bracket = .angle
        · exact angle
        · rw [dropAngles, if_neg angle] at marks
          cases marks
      have matched := count o (List.mem_cons_self ..) angle
      have same := settled matched rfl t rfl
      rw [closes] at same
      exact absurd (Role.closes.inj same) firm

theorem closes_of_stretchFrom (mode : ScanMode) (opened : List Opening)
    (count : AnglesCount mode opened) (position : Nat) (ahead : List Token) (s : Stretch)
    (h : stretchFrom mode opened position ahead = .ok s) (settled : s.Settled mode) :
    Closes mode opened s.tokens := by
  -- The scan goes forward and `Closes` is built backward, from where the scan stops.
  induction ahead generalizing opened position s with
  | nil =>
    cases opened with
    | nil => cases h; exact .nil
    | cons o opened => cases h
  | cons t rest ih =>
    rcases stretchFrom_cons_eq_ok h with stop | ⟨next, tail, step, ran, rfl⟩
    · exact stop.closes_nil count settled
    · exact Closes.step count step (ih next (count.step step) _ tail ran settled)

end ContractLang
