import ContractLang.Proofs.Span.Step

namespace ContractLang

def Stretch.prepend (span : List Token) (s : Stretch) : Stretch :=
  { s with tokens := span ++ s.tokens }

theorem map_prepend_nil (r : Except SyntaxError Stretch) : r.map (Stretch.prepend []) = r := by
  cases r <;> rfl

theorem map_prepend_cons (r : Except SyntaxError Stretch) (t : Token) (span : List Token) :
    (r.map (Stretch.prepend span)).map (Stretch.cons t) = r.map (Stretch.prepend (t :: span)) := by
  cases r <;> rfl

theorem map_prepend_append (r : Except SyntaxError Stretch) (first second : List Token) :
    (r.map (Stretch.prepend second)).map (Stretch.prepend first)
      = r.map (Stretch.prepend (first ++ second)) := by
  cases r with
  | error e => rfl
  | ok s => simp only [Except.map, Stretch.prepend, List.append_assoc]

theorem dropAngles_append (marks opened : List Opening) (angle : ∀ o ∈ marks, o.bracket = .angle) :
    dropAngles (marks ++ opened) = dropAngles opened := by
  induction marks with
  | nil => rfl
  | cons o marks ih =>
    rw [List.cons_append, dropAngles, if_pos (angle o (List.mem_cons_self ..))]
    exact ih fun m member => angle m (List.mem_cons_of_mem _ member)

theorem closeAngle_of_firm (o : Opening) (outer : List Opening) (firm : o.bracket ≠ .angle) :
    closeAngle (o :: outer) = o :: outer := by
  rw [closeAngle, if_neg firm]

theorem within_append_cons (mode : ScanMode) (marks outer : List Opening) (o : Opening) :
    mode.within (marks ++ o :: outer) = ⟨mode.angles, true⟩ := by
  simp [ScanMode.within]

/-- Inside a firm bracket a `<` stays open as a mark until the bracket is closed, and a `>` takes
    away a mark at most. -/
theorem stretchFrom_marks (mode : ScanMode) (o : Opening) (outer marks : List Opening)
    (firm : o.bracket ≠ .angle) (angle : ∀ m ∈ marks, m.bracket = .angle) (position : Nat)
    (t : Token) (ordinary : t.role.isOrdinary .body = true) :
    ∃ left : List Opening, (∀ m ∈ left, m.bracket = .angle) ∧ ∀ rest,
      stretchFrom mode (marks ++ o :: outer) position (t :: rest)
        = (stretchFrom mode (left ++ o :: outer) (position + 1) rest).map (Stretch.cons t) := by
  by_cases passes : t.role.isOrdinary ⟨mode.angles, true⟩ = true
  · refine ⟨marks, angle, fun rest => stretchFrom_ordinary _ _ _ _ _ ?_⟩
    rw [within_append_cons]
    exact passes
  · have angles : mode.angles = true ∧ (t.role = .opens .angle ∨ t.role = .closes .angle) := by
      revert passes ordinary
      cases mode.angles <;> cases t.role with
      | plain => simp [Role.isOrdinary]
      | semicolon => simp [Role.isOrdinary]
      | opens bracket => cases bracket <;> simp [Role.isOrdinary, ScanMode.body]
      | closes bracket => cases bracket <;> simp [Role.isOrdinary, ScanMode.body]
    rcases angles with ⟨matched, opens | closes⟩
    · refine ⟨⟨.angle, position, t⟩ :: marks, ?_, fun rest => ?_⟩
      · intro m member
        rcases List.mem_cons.mp member with rfl | member
        · rfl
        · exact angle m member
      · exact stretchFrom_opens _ _ _ _ _ .angle opens fun _ => matched
    · have step := fun rest => stretchFrom_closes_angle mode (marks ++ o :: outer) position t rest
        matched closes (by simp)
      cases marks with
      | nil =>
        refine ⟨[], angle, fun rest => ?_⟩
        rw [step, List.nil_append, closeAngle_of_firm o outer firm]
      | cons m marks =>
        refine ⟨marks, fun n member => angle n (List.mem_cons_of_mem _ member), fun rest => ?_⟩
        rw [step, List.cons_append, closeAngle, if_pos (angle m (List.mem_cons_self ..))]

def PassesInside (mode : ScanMode) (o : Opening) (outer marks : List Opening) (position : Nat)
    (span : List Token) : Prop :=
  ∃ left : List Opening, (∀ m ∈ left, m.bracket = .angle) ∧ ∀ rest,
    stretchFrom mode (marks ++ o :: outer) position (span ++ rest)
      = (stretchFrom mode (left ++ o :: outer) (position + span.length) rest).map
          (Stretch.prepend span)

theorem stretchFrom_group_of_passesInside (mode : ScanMode) (opened : List Opening)
    (position : Nat) (bracket : Bracket) (opening closing : Token) (inside rest : List Token)
    (firm : bracket ≠ .angle) (opens : opening.role = .opens bracket)
    (closes : closing.role = .closes bracket)
    (pass : PassesInside mode ⟨bracket, position, opening⟩ opened [] (position + 1) inside) :
    stretchFrom mode opened position (opening :: inside ++ closing :: rest)
      = (stretchFrom mode opened (position + (inside.length + 2)) rest).map
          (Stretch.prepend (opening :: inside ++ [closing])) := by
  rcases pass with ⟨left, angle, run⟩
  have innermost := dropAngles_append left (⟨bracket, position, opening⟩ :: opened) angle
  rw [dropAngles, if_neg firm] at innermost
  rw [List.nil_append] at run
  rw [List.cons_append,
    stretchFrom_opens _ _ _ _ _ bracket opens fun same => absurd same firm, run,
    stretchFrom_closes _ _ _ _ _ _ _ firm closes innermost, map_prepend_cons]
  rw [show position + 1 + inside.length + 1 = position + (inside.length + 2) by omega]
  exact map_prepend_append _ (opening :: inside) [closing]

/-- Code with closed brackets is passed over inside a firm bracket. It leaves marks there. -/
theorem Region.passesInside {span : List Token} (region : Region .body span) (mode : ScanMode)
    (o : Opening) (outer marks : List Opening) (firm : o.bracket ≠ .angle)
    (angle : ∀ m ∈ marks, m.bracket = .angle) (position : Nat) :
    PassesInside mode o outer marks position span := by
  generalize same : ScanMode.body = inner at region
  induction region generalizing o outer marks position with
  | nil => exact ⟨marks, angle, fun rest => (map_prepend_nil _).symm⟩
  | @cons _ t tokens ordinary region ih =>
    subst same
    obtain ⟨middle, middleAngle, step⟩ :=
      stretchFrom_marks mode o outer marks firm angle position t ordinary
    rcases ih o outer middle firm middleAngle (position + 1) rfl with ⟨left, leftAngle, run⟩
    refine ⟨left, leftAngle, fun rest => ?_⟩
    rw [List.cons_append, step, run, map_prepend_cons, List.length_cons]
    congr 2
    omega
  | @group _ bracket opening closing inside tokens inFirm opens closes inner region innerIh ih =>
    subst same
    -- The marks from before the group lie below its own opening, where no `>` of it reaches them.
    have pass := innerIh ⟨bracket, position, opening⟩ (marks ++ o :: outer) [] inFirm (by simp)
      (position + 1) rfl
    obtain ⟨left, leftAngle, run⟩ :=
      ih o outer marks firm angle (position + (inside.length + 2)) rfl
    refine ⟨left, leftAngle, fun rest => ?_⟩
    have regroup : opening :: inside ++ closing :: tokens ++ rest
      = opening :: inside ++ closing :: (tokens ++ rest) := by simp
    rw [regroup, stretchFrom_group_of_passesInside _ _ _ bracket _ _ _ _ inFirm opens closes pass,
      run, map_prepend_append, List.append_assoc]
    congr 2
    simp only [List.length_append, List.length_cons]
    omega
  | angles matched => subst same; cases matched

theorem stretchFrom_group (mode : ScanMode) (opened : List Opening) (position : Nat)
    (bracket : Bracket) (opening closing : Token) (inside rest : List Token)
    (firm : bracket ≠ .angle) (opens : opening.role = .opens bracket)
    (closes : closing.role = .closes bracket) (inner : Region .body inside) :
    stretchFrom mode opened position (opening :: inside ++ closing :: rest)
      = (stretchFrom mode opened (position + (inside.length + 2)) rest).map
          (Stretch.prepend (opening :: inside ++ [closing])) :=
  stretchFrom_group_of_passesInside mode opened position bracket opening closing inside rest firm
    opens closes (inner.passesInside mode _ opened [] firm (by simp) (position + 1))

theorem stretchFrom_region (mode : ScanMode) (opened : List Opening) (position : Nat)
    {span : List Token} (region : Region (mode.within opened) span) (rest : List Token) :
    stretchFrom mode opened position (span ++ rest)
      = (stretchFrom mode opened (position + span.length) rest).map (Stretch.prepend span) := by
  generalize same : mode.within opened = inner at region
  induction region generalizing opened position rest with
  | nil => exact (map_prepend_nil _).symm
  | @cons _ t tokens ordinary region ih =>
    subst same
    rw [List.cons_append, stretchFrom_ordinary _ _ _ _ _ ordinary, ih opened (position + 1) rest rfl,
      map_prepend_cons, List.length_cons]
    congr 2
    omega
  | @group _ bracket opening closing inside tokens firm opens closes inner region innerIh ih =>
    subst same
    have regroup : opening :: inside ++ closing :: tokens ++ rest
      = opening :: inside ++ closing :: (tokens ++ rest) := by simp
    rw [regroup, stretchFrom_group _ _ _ bracket _ _ _ _ firm opens closes inner,
      ih opened (position + (inside.length + 2)) rest rfl, map_prepend_append, List.append_assoc]
    congr 2
    simp only [List.length_append, List.length_cons]
    omega
  | @angles _ opening closing inside tokens matched opens closes inner region innerIh ih =>
    subst same
    have counts : mode.angles = true := matched
    have within : mode.within (⟨.angle, position, opening⟩ :: opened) = .betweenAngles := by
      simp [ScanMode.within, counts, ScanMode.betweenAngles]
    have close := stretchFrom_closes_angle mode (⟨.angle, position, opening⟩ :: opened)
      (position + 1 + inside.length) closing (tokens ++ rest) counts closes (by simp)
    rw [closeAngle, if_pos rfl] at close
    rw [List.append_assoc, List.cons_append, List.cons_append,
      stretchFrom_opens _ _ _ _ _ .angle opens fun _ => counts, innerIh _ _ _ within, close,
      ih opened (position + 1 + inside.length + 1) rest rfl, map_prepend_cons, map_prepend_cons,
      map_prepend_append]
    congr 2
    simp only [List.length_append, List.length_cons]
    omega

end ContractLang
