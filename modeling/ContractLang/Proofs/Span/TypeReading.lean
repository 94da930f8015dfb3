import ContractLang.Proofs.Span.TypeForm

namespace ContractLang

theorem Token.IsScope.symbol? {t : Token} (scope : t.IsScope) : t.symbol? = none := by
  rcases scope with ⟨kind, lexeme⟩
  unfold Token.symbol?
  rw [kind, lexeme]
  rfl

theorem TypePath.ne_nil {span : List Token} (path : TypePath span) : span ≠ [] := by
  cases path with
  | last component => cases component; simp
  | scope component isScope rest => simp

namespace Cursor

/-- What may follow the path of a type: nothing that would be read as a part of it. -/
structure EndsPath (c : Cursor) : Prop where
  noArguments : c.symbol? ≠ some '<'
  noScope : c.lexeme ≠ "::"

structure EndsType (c : Cursor) : Prop extends c.EndsPath where
  noReference : c.symbol? ≠ some '&'
  noPointer : c.symbol? ≠ some '*'

theorem lexeme_ne_scope_of_symbol? {c : Cursor} {symbol : Char} (found : c.symbol? = some symbol) :
    c.lexeme ≠ "::" := by
  intro scope
  rw [Cursor.symbol?, Place.symbol?] at found
  rw [Cursor.lexeme, Place.lexeme] at scope
  cases place : c.place.token? with
  | none => rw [place] at found; cases found
  | some t =>
    rw [place] at found scope
    simp only [Option.bind_some, Option.map_some, Option.getD_some] at found scope
    unfold Token.symbol? at found
    rw [scope] at found
    cases kind : t.kind <;> simp [kind] at found

theorem EndsPath.of_symbol? {c : Cursor} {symbol : Char} (found : c.symbol? = some symbol)
    (other : symbol ≠ '<') : c.EndsPath := by
  refine ⟨?_, lexeme_ne_scope_of_symbol? found⟩
  rw [found]
  simpa using other

theorem symbol?_of_optionalSymbol {c d : Cursor} {symbol : Char} {span : List Token}
    (optional : OptionalSymbol symbol span) (pass : c.Passes span d) :
    c.symbol? = some symbol ∨ c = d := by
  cases optional with
  | present found => exact .inl (pass.symbol?.trans found)
  | absent => exact .inr (pass.eq (.refl c)).symm

theorem passes_typeArguments {c d : Cursor} (h : c.typeArguments = .ok d) :
    ∃ span, c.Passes span d ∧ TypeArguments span := by
  unfold typeArguments at h
  split at h
  · rename_i found
    split at h
    · cases h
    · rename_i arguments ran
      rcases (passSymbol_eq_ok _ _ _ _).mp h with ⟨closing, closes, last⟩
      have closer : arguments.next.symbol? = some Bracket.angle.closer := by
        rw [last.symbol?, closes]
        rfl
      rcases enclosed_of_code ran (fun _ => rfl) closer with ⟨span, inner, enclosed⟩
      rcases passes_of_symbol? found with ⟨opening, first, opens⟩
      have whole := first.trans (inner.trans last)
      exact ⟨opening :: span ++ [closing], whole, .list opens closes enclosed⟩
  · cases h
    exact ⟨[], .refl c, .none⟩

theorem typeArguments_of_passes {c d : Cursor} {span : List Token} (form : TypeArguments span)
    (pass : c.Passes span d) (ends : d.symbol? ≠ some '<') : c.typeArguments = .ok d := by
  cases form with
  | none =>
    have same : d = c := pass.eq (.refl c)
    rw [typeArguments, ← same, if_neg ends]
  | @list opening closing inside code opens closes inner =>
    rcases pass.uncons with ⟨second, first, rest⟩
    rcases rest.split with ⟨third, middle, last⟩
    have found : c.symbol? = some '<' := by rw [first.symbol?, opens]
    have closer : third.symbol? = some Bracket.angle.closer := by
      rw [last.symbol?, closes]
      rfl
    rcases code_of_enclosed inner (fun _ => rfl) middle closer with ⟨ending, ran⟩
    rw [typeArguments, if_pos found, ← first.next, ran]
    exact last.passSymbol closes _

theorem head?_append_of_ne_nil {span : List Token} (rest : List Token) (filled : span ≠ []) :
    (span ++ rest).head? = span.head? := by
  cases span with
  | nil => exact absurd rfl filled
  | cons t span => rfl

theorem passes_typeComponent {c d : Cursor} (fits : c.Fits) (h : c.typeComponent = .ok d) :
    ∃ span, c.Passes span d ∧ TypeComponent span := by
  unfold typeComponent componentName at h
  split at h
  · cases h
  · rename_i after named
    obtain ⟨typename, first, optional⟩ :=
      passes_skipLexeme c "typename" fits (by decide) onlyOfKind_typename
    obtain ⟨template, second, another⟩ :=
      passes_skipLexeme _ "template" (first.fits fits) (by decide) onlyOfKind_template
    rcases (passIdentifier_eq_ok _ _ _).mp named with ⟨name, identifier, third⟩
    rcases passes_typeArguments h with ⟨arguments, last, generic⟩
    refine ⟨typename ++ (template ++ name :: arguments), ?_, .mk ?_ ?_ identifier generic⟩
    · exact first.trans (second.trans (third.cons last))
    · apply optional.congr
      rw [(second.trans (third.cons last)).1]
      exact head?_append_of_ne_nil _ (by simp)
    · apply another.congr
      rw [(third.cons last).1]
      rfl

theorem typeComponent_of_passes {c d : Cursor} {span : List Token} (form : TypeComponent span)
    (fits : c.Fits) (pass : c.Passes span d) (ends : d.symbol? ≠ some '<') :
    c.typeComponent = .ok d := by
  rcases form with @⟨typename, template, arguments, name, optional, another, identifier, generic⟩
  rcases pass.split with ⟨afterTypename, first, rest⟩
  rcases rest.split with ⟨afterTemplate, second, rest⟩
  rcases rest.uncons with ⟨afterName, third, last⟩
  have skipped : c.skipLexeme "typename" = afterTypename := by
    apply skipLexeme_of_optionalWord fits (by decide) onlyOfKind_typename _ first
    apply optional.congr
    rw [(second.trans (third.cons last)).1]
    exact (head?_append_of_ne_nil _ (by simp)).symm
  have skippedToo : afterTypename.skipLexeme "template" = afterTemplate := by
    apply skipLexeme_of_optionalWord (first.fits fits) (by decide) onlyOfKind_template _ second
    apply another.congr
    rw [(third.cons last).1]
    rfl
  rw [typeComponent, componentName, skipped, skippedToo, third.passIdentifier identifier]
  exact typeArguments_of_passes generic last ends

theorem passes_typeComponents {c d : Cursor} (fits : c.Fits) (h : c.typeComponents = .ok d) :
    ∃ span, c.Passes span d ∧ TypePath span := by
  unfold typeComponents at h
  split at h
  · cases h
  · rename_i after ran
    have shorter := ahead_length_lt_of_typeComponent c after ran
    rcases passes_typeComponent fits ran with ⟨span, first, component⟩
    split at h
    · rename_i scope
      have fitsAfter := first.fits fits
      rcases after with ⟨position, ahead⟩
      cases ahead with
      | nil => exact absurd scope (show "" ≠ "::" by decide)
      | cons colons rest =>
        have move : (⟨position, colons :: rest⟩ : Cursor).Passes [colons] ⟨position + 1, rest⟩ :=
          ⟨rfl, rfl⟩
        have spelled : colons.lexeme = "::" := by rw [← move.lexeme, scope]
        have kind : colons.kind = .other := by
          apply (fitsAfter colons (List.mem_cons_self ..)).kind_eq
          rw [spelled]
          exact onlyOfKind_scope
        rw [← move.next] at h
        have decrease : rest.length < c.ahead.length := by
          simp only [List.length_cons] at shorter
          omega
        rcases passes_typeComponents (move.fits fitsAfter) h with ⟨others, last, path⟩
        exact ⟨span ++ colons :: others, first.trans (move.cons last),
          .scope component ⟨kind, spelled⟩ path⟩
    · cases h
      exact ⟨span, first, .last component⟩
termination_by c.ahead.length

theorem typeComponents_of_passes {c d : Cursor} {span : List Token} (form : TypePath span)
    (fits : c.Fits) (pass : c.Passes span d) (ends : d.EndsPath) : c.typeComponents = .ok d := by
  induction form generalizing c with
  | last component =>
    have ran := typeComponent_of_passes component fits pass ends.noArguments
    unfold typeComponents
    split
    · rename_i failed
      rw [ran] at failed
      cases failed
    · rename_i after ranToo
      cases ran.symm.trans ranToo
      rw [if_neg ends.noScope]
  | @scope span others colons component isScope rest ih =>
    rcases pass.split with ⟨afterFirst, first, rest⟩
    rcases rest.uncons with ⟨afterColons, move, last⟩
    have colonsNext : afterFirst.symbol? ≠ some '<' := by
      rw [move.symbol?, isScope.symbol?]
      simp
    have ran := typeComponent_of_passes component fits first colonsNext
    unfold typeComponents
    split
    · rename_i failed
      rw [ran] at failed
      cases failed
    · rename_i after ranToo
      cases ran.symm.trans ranToo
      have scope : afterFirst.lexeme = "::" := by rw [move.lexeme, isScope.2]
      rw [if_pos scope, ← move.next]
      exact ih (move.fits (first.fits fits)) last

/-- The parts of a type that ends at `next`. -/
structure TypeParts (const path reference pointer : List Token) (next : Cursor) : Prop where
  qualified : OptionalWord "const" const path
  named : TypePath path
  referred : OptionalSymbol '&' reference
  pointed : OptionalSymbol '*' pointer
  noScope : reference ++ pointer = [] → next.lexeme ≠ "::"

theorem lexeme_ne_scope_of_typeComponents {c d : Cursor} (h : c.typeComponents = .ok d) :
    d.lexeme ≠ "::" := by
  unfold typeComponents at h
  split at h
  · cases h
  · rename_i after ran
    have shorter := ahead_length_lt_of_typeComponent c after ran
    have colons := after.ahead_next_length_le
    split at h
    · exact lexeme_ne_scope_of_typeComponents h
    · rename_i other
      cases h
      exact other
termination_by c.ahead.length
decreasing_by omega

theorem exists_typeParts {c : Cursor} {type : TypeSpan} (fits : c.Fits)
    (h : c.typeName = .ok type) :
    ∃ const path reference pointer, TypeParts const path reference pointer type.next ∧
      c.Passes (const ++ (path ++ (reference ++ pointer))) type.next ∧
      type.text = joinTypeLexemes (const ++ (path ++ (reference ++ pointer))) := by
  unfold typeName at h
  split at h
  · cases h
  · rename_i d ran
    obtain ⟨const, first, qualified⟩ :=
      passes_skipLexeme c "const" fits (by decide) onlyOfKind_const
    rcases passes_typeComponents (first.fits fits) ran with ⟨path, second, named⟩
    rcases passes_skipSymbol d '&' with ⟨reference, third, referred⟩
    rcases passes_skipSymbol (d.skipSymbol '&') '*' with ⟨pointer, fourth, pointed⟩
    have suffix := third.trans fourth
    have whole := first.trans (second.trans suffix)
    cases h
    refine ⟨const, path, reference, pointer, ⟨?_, named, referred, pointed, ?_⟩, whole, ?_⟩
    · apply qualified.congr
      rw [second.1, head?_append_of_ne_nil _ named.ne_nil]
    · intro absent
      rw [absent] at suffix
      simp only
      rw [suffix.eq (.refl d)]
      exact lexeme_ne_scope_of_typeComponents ran
    · simp only
      rw [whole.upTo]

theorem passes_typeName {c : Cursor} {type : TypeSpan} (fits : c.Fits)
    (h : c.typeName = .ok type) :
    ∃ span, c.Passes span type.next ∧ TypeForm span ∧ type.text = joinTypeLexemes span := by
  rcases exists_typeParts fits h with ⟨const, path, reference, pointer, parts, pass, text⟩
  exact ⟨_, pass, .mk parts.qualified parts.named parts.referred parts.pointed, text⟩

theorem typeName_of_passes {c d : Cursor} {span : List Token} (form : TypeForm span)
    (fits : c.Fits) (pass : c.Passes span d) (ends : d.EndsType) :
    c.typeName = .ok ⟨joinTypeLexemes span, d⟩ := by
  rcases form with @⟨const, path, reference, pointer, qualified, named, referred, pointed⟩
  have text := pass.upTo
  rcases pass.split with ⟨afterConst, first, rest⟩
  rcases rest.split with ⟨afterPath, second, rest⟩
  rcases rest.split with ⟨afterReference, third, fourth⟩
  have skipped : c.skipLexeme "const" = afterConst := by
    apply skipLexeme_of_optionalWord fits (by decide) onlyOfKind_const _ first
    apply qualified.congr
    rw [second.1, head?_append_of_ne_nil _ named.ne_nil]
  -- A part that may be left out hands on what follows it, so these go from the last part back.
  have beforePointer : afterReference.EndsPath ∧ afterReference.symbol? ≠ some '&' := by
    rcases symbol?_of_optionalSymbol pointed fourth with found | rfl
    · exact ⟨.of_symbol? found (by decide), by rw [found]; decide⟩
    · exact ⟨ends.toEndsPath, ends.noReference⟩
  have beforeReference : afterPath.EndsPath := by
    rcases symbol?_of_optionalSymbol referred third with found | rfl
    · exact .of_symbol? found (by decide)
    · exact beforePointer.1
  have ran := typeComponents_of_passes named (first.fits fits) second beforeReference
  have referenceSkipped := skipSymbol_of_optionalSymbol referred third beforePointer.2
  have pointerSkipped := skipSymbol_of_optionalSymbol pointed fourth ends.noPointer
  rw [typeName, skipped, ran]
  simp only [referenceSkipped, pointerSkipped, text]

end Cursor
end ContractLang
