import ContractLang.Proofs.Span.Enclosed

namespace ContractLang

/-- Code in which the round, square and curly brackets are well nested, and in which no semicolon
    stands outside of them unless it may have several lines. -/
structure PlainCode (multiline : Bool) (span : List Token) : Prop where
  nested : Region .body span
  single : multiline = false → ∀ before t after, span = before ++ t :: after →
    Region .body before → t.role ≠ .semicolon

theorem Cursor.code_of_end {mode : ScanMode} {span : List Token} {c d : Cursor}
    (region : Region mode span) (pass : c.Passes span d) (finished : d.ahead = []) :
    c.code mode = .ok ⟨span, .endOfInput, d⟩ := by
  rcases d with ⟨position, ahead⟩
  cases finished
  rcases pass with ⟨ahead, place⟩
  rw [← within_nil mode] at region
  rw [Cursor.code, ahead, stretchFrom_region mode [] _ region, stretchFrom]
  simp [Except.map, Stretch.prepend, ← place]

theorem Region.eq_of_closers {first second left right : List Token} {t u : Token} {a b : Bracket}
    (same : first ++ t :: left = second ++ u :: right) (firstRegion : Region .body first)
    (secondRegion : Region .body second) (firstCloses : t.role = .closes a) (firstFirm : a ≠ .angle)
    (secondCloses : u.role = .closes b) (secondFirm : b ≠ .angle) :
    first = second ∧ t = u ∧ left = right := by
  have firstCode := Cursor.code_of_closer (c := ⟨0, first ++ t :: left⟩)
    (d := ⟨0 + first.length, t :: left⟩) firstRegion (fun angle => absurd angle firstFirm)
    ⟨rfl, rfl⟩ ((t.role_eq_closes_iff a).mp firstCloses)
  have secondCode := Cursor.code_of_closer (c := ⟨0, first ++ t :: left⟩)
    (d := ⟨0 + second.length, u :: right⟩) secondRegion (fun angle => absurd angle secondFirm)
    ⟨same, rfl⟩ ((u.role_eq_closes_iff b).mp secondCloses)
  rw [firstCode] at secondCode
  injection secondCode with stretch
  injection stretch with tokens ending next
  injection next with position ahead
  injection ahead with head tail
  exact ⟨tokens, head, tail⟩

theorem Region.tail {mode : ScanMode} {t : Token} {rest : List Token}
    (region : Region mode (t :: rest)) (ordinary : t.role.isOrdinary .body = true)
    (flat : mode.angles = false) : t.role.isOrdinary mode = true ∧ Region mode rest := by
  cases region with
  | cons ordinary rest => exact ⟨ordinary, rest⟩
  | @group _ bracket _ _ _ _ firm opens =>
    rw [opens] at ordinary
    cases bracket with
    | angle => exact absurd rfl firm
    | _ => cases ordinary
  | angles matched => rw [flat] at matched; cases matched

/-- What is closed may be taken off in front. -/
theorem Region.suffix {mode : ScanMode} {before rest : List Token}
    (whole : Region mode (before ++ rest)) (closed : Region .body before)
    (flat : mode.angles = false) : Region mode before ∧ Region mode rest := by
  generalize same : ScanMode.body = inner at closed
  induction closed with
  | nil => exact ⟨.nil, whole⟩
  | cons ordinary region ih =>
    subst same
    rcases whole.tail ordinary flat with ⟨outer, after⟩
    rcases ih after rfl with ⟨front, back⟩
    exact ⟨.cons outer front, back⟩
  | @group _ bracket opening closing inside tokens firm opens closes inner region innerIh ih =>
    subst same
    rw [List.append_assoc, List.cons_append, List.cons_append] at whole
    generalize shape : opening :: (inside ++ closing :: (tokens ++ rest)) = all at whole
    cases whole with
    | nil => cases shape
    | cons ordinary =>
      cases shape
      rw [opens] at ordinary
      cases bracket with
      | angle => exact absurd rfl firm
      | _ => cases ordinary
    | @group _ _ _ _ inside' tokens' firm' opens' closes' inner' after =>
      injection shape with head shape
      rw [List.append_eq] at shape
      rcases Region.eq_of_closers shape inner inner' closes firm closes' firm' with ⟨_, _, rfl⟩
      rcases ih after rfl with ⟨front, back⟩
      exact ⟨.group firm opens closes inner front, back⟩
    | angles matched => rw [flat] at matched; cases matched
  | angles matched => subst same; cases matched

theorem Role.isOrdinary_flat_iff (multiline : Bool) (role : Role) :
    role.isOrdinary ⟨false, multiline⟩ = true ↔
      role.isOrdinary .body = true ∧ (multiline = false → role ≠ .semicolon) := by
  cases role with
  | plain => simp [isOrdinary]
  | semicolon => simp [isOrdinary, ScanMode.body]
  | opens bracket => cases bracket <;> simp [isOrdinary, ScanMode.body]
  | closes bracket => cases bracket <;> simp [isOrdinary, ScanMode.body]

theorem PlainCode.region {multiline : Bool} {span : List Token} (plain : PlainCode multiline span) :
    Region ⟨false, multiline⟩ span := by
  rcases plain with ⟨nested, single⟩
  generalize same : ScanMode.body = inner at nested
  induction nested with
  | nil => exact .nil
  | @cons _ t rest ordinary region ih =>
    subst same
    have free : multiline = false → t.role ≠ .semicolon := fun line => single line [] t rest rfl .nil
    refine .cons ((Role.isOrdinary_flat_iff multiline _).mpr ⟨ordinary, free⟩) (ih ?_ rfl)
    intro line before u after split closed
    exact single line (t :: before) u after (by rw [split]; rfl) (.cons ordinary closed)
  | @group _ bracket opening closing inside tokens firm opens closes inner region innerIh ih =>
    subst same
    refine .group firm opens closes inner (ih ?_ rfl)
    intro line before u after split closed
    refine single line (opening :: inside ++ closing :: before) u after ?_
      (.group firm opens closes inner closed)
    rw [split]
    simp
  | angles matched => subst same; cases matched

theorem Region.plainCode {multiline : Bool} {span : List Token}
    (region : Region ⟨false, multiline⟩ span) : PlainCode multiline span := by
  refine ⟨region.toBody, fun single before t after split closed semicolon => ?_⟩
  rw [split] at region
  have outer := (region.suffix closed rfl).2.tail (by rw [semicolon]; rfl) rfl
  exact ((Role.isOrdinary_flat_iff multiline _).mp outer.1).2 single semicolon

end ContractLang
