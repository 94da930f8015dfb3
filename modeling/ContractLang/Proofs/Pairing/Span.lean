import ContractLang.Proofs.Pairing.Basic
import ContractLang.Proofs.Span.Lookahead

namespace ContractLang

structure Opening.Agrees (o o' : Opening) : Prop where
  bracket : o'.bracket = o.bracket
  position : o'.position = o.position

section Openings

variable {mode : ScanMode} {opened opened' next : List Opening} {position : Nat} {t u : Token}

theorem agrees_dropAngles (agree : List.Forall₂ Opening.Agrees opened opened') :
    List.Forall₂ Opening.Agrees (dropAngles opened) (dropAngles opened') := by
  induction agree with
  | nil => exact .nil
  | cons first rest ih =>
    rw [dropAngles, dropAngles, first.bracket]
    split
    · exact ih
    · exact .cons first rest

theorem agrees_closeAngle (agree : List.Forall₂ Opening.Agrees opened opened') :
    List.Forall₂ Opening.Agrees (closeAngle opened) (closeAngle opened') := by
  cases agree with
  | nil => exact .nil
  | cons first rest =>
    rw [closeAngle, closeAngle, first.bracket]
    split
    · exact rest
    · exact .cons first rest

theorem agrees_nil_iff (agree : List.Forall₂ Opening.Agrees opened opened') :
    opened' = [] ↔ opened = [] := by
  cases agree <;> simp

theorem exists_of_dropAngles_eq_cons {o : Opening} {outer : List Opening}
    (agree : List.Forall₂ Opening.Agrees opened opened')
    (innermost : dropAngles opened = o :: outer) :
    ∃ o' outer', dropAngles opened' = o' :: outer' ∧ o.Agrees o' ∧
      List.Forall₂ Opening.Agrees outer outer' := by
  have dropped := agrees_dropAngles agree
  rw [innermost] at dropped
  rcases List.forall₂_cons_left_iff.mp dropped with ⟨o', outer', first, rest, same⟩
  exact ⟨o', outer', same, first, rest⟩

/-- A step of a scan depends on the role of the token and on the openings alone. -/
theorem ScanStep.transfer (step : ScanStep mode opened position t next) (role : u.role = t.role)
    (agree : List.Forall₂ Opening.Agrees opened opened') :
    ∃ next', ScanStep mode opened' position u next' ∧ List.Forall₂ Opening.Agrees next next' := by
  cases step with
  | skip ordinary =>
    refine ⟨opened', .skip ?_, agree⟩
    have empty : opened'.isEmpty = opened.isEmpty := by
      rw [Bool.eq_iff_iff, List.isEmpty_iff, List.isEmpty_iff]
      exact agrees_nil_iff agree
    rw [role, ScanMode.within, empty]
    exact ordinary
  | push opens counts => exact ⟨_, .push (role.trans opens) counts, .cons ⟨rfl, rfl⟩ agree⟩
  | pop firm closes innermost =>
    rcases exists_of_dropAngles_eq_cons agree innermost with ⟨o', outer', same, first, rest⟩
    exact ⟨outer', .pop (first.bracket ▸ firm) (by rw [role, closes, first.bracket]) same, rest⟩
  | popAngle matched closes inside =>
    exact ⟨_, .popAngle matched (role.trans closes) (mt (agrees_nil_iff agree).mp inside),
      agrees_closeAngle agree⟩

theorem ScanStop.transfer {rest : List Token} {s : Stretch}
    (stop : ScanStop mode opened position t rest s) (role : u.role = t.role)
    (agree : List.Forall₂ Opening.Agrees opened opened') (rest' : List Token) :
    ∃ s', ScanStop mode opened' position u rest' s' ∧ s'.ending = s.ending ∧
      s'.tokens.length = s.tokens.length := by
  cases stop with
  | semicolon semicolon outside single =>
    exact ⟨_, .semicolon (role.trans semicolon) ((agrees_nil_iff agree).mpr outside) single,
      rfl, rfl⟩
  | closer closes firm marks =>
    have empty := (agrees_nil_iff (agrees_dropAngles agree)).mpr marks
    exact ⟨_, .closer (role.trans closes) firm empty, rfl, rfl⟩
  | angle closes matched outside =>
    exact ⟨_, .angle (role.trans closes) matched ((agrees_nil_iff agree).mpr outside), rfl, rfl⟩

theorem ScanClash.transfer {bracket : Bracket} {o : Opening} (clash : ScanClash opened t bracket o)
    (role : u.role = t.role) (agree : List.Forall₂ Opening.Agrees opened opened') :
    ∃ o', ScanClash opened' u bracket o' ∧ o.Agrees o' := by
  cases clash with
  | intro firm closes innermost other =>
    rcases exists_of_dropAngles_eq_cons agree innermost with ⟨o', outer', same, first, _⟩
    exact ⟨o', .intro firm (role.trans closes) same (first.bracket ▸ other), first⟩

end Openings

/-- Two scans that end in the same way and after as many tokens. -/
inductive SameScan (x y : Except SyntaxError Stretch) : Prop
  | error {e e' : SyntaxError} (left : x = .error e) (right : y = .error e')
      (complaint : e'.complaint = e.complaint)
      (position : e'.place.position = e.place.position)
  | ok {s s' : Stretch} (left : x = .ok s) (right : y = .ok s') (ending : s'.ending = s.ending)
      (length : s'.tokens.length = s.tokens.length)

theorem SameScan.cons {x y : Except SyntaxError Stretch} (same : SameScan x y) (t u : Token) :
    SameScan (x.map (.cons t)) (y.map (.cons u)) := by
  rcases same with ⟨rfl, rfl, complaint, position⟩ | ⟨rfl, rfl, ending, length⟩
  · exact .error rfl rfl complaint position
  · exact .ok rfl rfl ending (congrArg (· + 1) length)

theorem sameScan_stretchFrom {mode : ScanMode} {ahead ahead' : List Token}
    (roles : List.Forall₂ (fun t u => u.role = t.role) ahead ahead') {opened opened' : List Opening}
    (agree : List.Forall₂ Opening.Agrees opened opened') (position : Nat) :
    SameScan (stretchFrom mode opened position ahead)
      (stretchFrom mode opened' position ahead') := by
  induction roles generalizing opened opened' position with
  | nil =>
    cases agree with
    | nil => exact .ok rfl rfl rfl rfl
    | cons first rest =>
      refine .error rfl rfl ?_ (congrArg Int.ofNat first.position)
      rw [Opening.unclosed, Opening.unclosed, first.bracket]
  | @cons t u rest rest' role roles ih =>
    rcases scan_cases mode opened position t rest with
      ⟨next, step⟩ | ⟨s, stop⟩ | ⟨bracket, o, clash⟩
    · rcases step.transfer role agree with ⟨next', step', after⟩
      rw [step.stretchFrom, step'.stretchFrom]
      exact (ih after (position + 1)).cons t u
    · rcases stop.transfer role agree rest' with ⟨s', stop', ending, length⟩
      exact .ok stop.stretchFrom stop'.stretchFrom ending length
    · rcases clash.transfer role agree with ⟨o', clash', same⟩
      refine .error (clash.stretchFrom mode position rest)
        (clash'.stretchFrom mode position rest') ?_ rfl
      simp only [Opening.mismatched, same.bracket, same.position]

theorem Counterpart.role {settings other : Settings} {t u : Token}
    (related : Counterpart settings other t u) : u.role = t.role := by
  rw [Token.role, Token.role, related.symbol?]

namespace Pairing

variable {p : Pairing}

structure SameStretch (p : Pairing) (s s' : Stretch) : Prop where
  ending : s'.ending = s.ending
  empty : s'.tokens.isEmpty = s.tokens.isEmpty
  text : p.SameText joinLexemes s.text s'.text
  next : p.Abreast s.next s'.next

structure SameType (p : Pairing) (type type' : TypeSpan) : Prop where
  text : p.SameText joinTypeLexemes type.text type'.text
  next : p.Abreast type.next type'.next

namespace Abreast

variable {c d : Cursor} (abreast : p.Abreast c d)

include abreast

theorem of_passes {c' d' : Cursor} {span span' : List Token} (left : c.Passes span c')
    (right : d.Passes span' d') (length : span'.length = span.length) : p.Abreast c' d' := by
  have moved : ∀ {c c' : Cursor} {span : List Token}, c.Passes span c' →
      c' = c.advance span.length := by
    intro c c' span pass
    exact pass.eq ⟨by simp [Cursor.advance, pass.1], rfl⟩
  rw [moved left, moved right, length]
  exact abreast.advance span.length

theorem code (mode : ScanMode) : p.Twin p.SameStretch (c.code mode) (d.code mode) := by
  have roles := abreast.counterparts.imp fun t u related => related.role
  have scans : SameScan (stretchFrom mode [] c.position c.ahead)
      (stretchFrom mode [] c.position d.ahead) := sameScan_stretchFrom roles .nil c.position
  have other : stretchFrom mode [] c.position d.ahead = d.code mode := by
    rw [Cursor.code, abreast.position]
  rw [other] at scans
  rcases scans with ⟨left, right, complaint, position⟩ | @⟨s, s', left, right, ending, length⟩
  · exact .error left right ⟨position, fun _ => complaint⟩
  have left : c.code mode = .ok s := left
  have empty : s'.tokens.isEmpty = s.tokens.isEmpty := by
    rw [Bool.eq_iff_iff, List.isEmpty_iff_length_eq_zero, List.isEmpty_iff_length_eq_zero, length]
  have text : ∀ {rest rest' : List Token}, c.ahead = s.tokens ++ rest →
      d.ahead = s'.tokens ++ rest' → p.SameText joinLexemes s.text s'.text := by
    intro rest rest' first second
    have same := abreast.sameText joinLexemes s.tokens.length
    rw [first, List.take_left, second, ← length, List.take_left] at same
    exact same
  by_cases stops : s.ending = .semicolon
  · rcases Cursor.passes_of_code_semicolon left stops with ⟨stop, _, first⟩
    rcases Cursor.passes_of_code_semicolon right (ending.trans stops) with ⟨stop', _, second⟩
    refine .ok left right ⟨ending, empty, ?_, abreast.of_passes first second ?_⟩
    · exact text (first.1.trans (List.append_assoc ..)) (second.1.trans (List.append_assoc ..))
    · simp only [List.length_append, List.length_singleton, length]
  · have first := Cursor.passes_of_code left stops
    have second := Cursor.passes_of_code right (ending.trans_ne stops)
    exact .ok left right ⟨ending, empty, text first.1 second.1,
      abreast.of_passes first second length⟩

theorem statement (complaint : Complaint) :
    p.Twin p.SameStretch (c.statement complaint) (d.statement complaint) := by
  rcases abreast.code .statement with ⟨left, right, same⟩ | ⟨left, right, same⟩
  · refine .error (by rw [Cursor.statement, left]) (by rw [Cursor.statement, right]) same
  · simp only [Cursor.statement, left, right, same.ending, same.empty]
    split
    · split
      · exact .error rfl rfl (abreast.sameError _ _ fun _ => rfl)
      · exact .ok rfl rfl same
    · exact .error rfl rfl (same.next.sameError _ _ fun _ => rfl)

theorem typeArguments : p.Twin p.Abreast c.typeArguments d.typeArguments := by
  rw [Cursor.typeArguments, Cursor.typeArguments, abreast.symbol?]
  split
  · rcases abreast.next.code .generic with ⟨left, right, same⟩ | ⟨left, right, same⟩
    · rw [left, right]
      exact .error rfl rfl same
    · rw [left, right]
      exact same.next.passSymbol '>' _ _ fun _ => rfl
  · exact .ok rfl rfl abreast

theorem componentName : p.Abreast c.componentName d.componentName :=
  (abreast.skipLexeme (by decide)).skipLexeme (by decide)

theorem typeComponent : p.Twin p.Abreast c.typeComponent d.typeComponent := by
  have name := abreast.componentName
  rcases name.passIdentifier (.typeExpected c.componentName.lexeme)
      (.typeExpected d.componentName.lexeme) (fun exact => by rw [name.lexeme_eq exact]) with
    ⟨left, right, same⟩ | ⟨left, right, same⟩
  · rw [Cursor.typeComponent, Cursor.typeComponent, left, right]
    exact .error rfl rfl same
  · rw [Cursor.typeComponent, Cursor.typeComponent, left, right]
    exact same.typeArguments

omit abreast in
theorem typeComponents {c d : Cursor} (abreast : p.Abreast c d) :
    p.Twin p.Abreast c.typeComponents d.typeComponents := by
  rcases abreast.typeComponent with ⟨left, right, same⟩ | @⟨e, f, left, right, same⟩
  · exact .error (Cursor.typeComponents_of_error left) (Cursor.typeComponents_of_error right) same
  · have shorter := Cursor.ahead_length_lt_of_typeComponent c e left
    have later := Cursor.ahead_next_length_le e
    have scope : f.lexeme = "::" ↔ e.lexeme = "::" := same.reserved (by decide)
    rw [Cursor.typeComponents_of_ok left, Cursor.typeComponents_of_ok right,
      if_congr scope rfl rfl]
    split
    · exact same.next.typeComponents
    · exact .ok rfl rfl same
termination_by c.ahead.length

theorem typeName : p.Twin p.SameType c.typeName d.typeName := by
  have const : p.Abreast (c.skipLexeme "const") (d.skipLexeme "const") :=
    abreast.skipLexeme (by decide)
  rcases const.typeComponents with ⟨left, right, same⟩ | ⟨left, right, same⟩
  · rw [Cursor.typeName, Cursor.typeName, left, right]
    exact .error rfl rfl same
  · rw [Cursor.typeName, Cursor.typeName, left, right]
    have ends := (same.skipSymbol '&').skipSymbol '*'
    refine .ok rfl rfl ⟨?_, ends⟩
    have text := abreast.sameText joinTypeLexemes
    simp only [Cursor.upTo, ends.position, abreast.position]
    exact text _

end Abreast
end Pairing
end ContractLang
