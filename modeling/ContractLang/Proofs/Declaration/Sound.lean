import ContractLang.Proofs.Declaration.ContractAcceptance
import ContractLang.Proofs.Declaration.ContractSpan
import ContractLang.Proofs.Declaration.Finished
import ContractLang.Proofs.Token.Apart
import ContractLang.Proofs.Token.CodeText

namespace ContractLang

/-- What a finished member says of itself, and of the tokens that declare it. -/
inductive Member.Sound : List Token → Member → Prop
  | associatedType {span : List Token} {name value : String} (named : name ≠ "")
      (valued : value ≠ "") : Member.Sound span (.associatedType name value)
  | data {type rest : List Token} {name next : Token} {initial : String}
      (typed : joinTypeLexemes type ≠ "") (named : IsName name.lexeme)
      (declared : initial = "" ↔ next.symbol? = some ';') :
      Member.Sound (type ++ name :: next :: rest)
        (.data (joinTypeLexemes type) name.lexeme initial)
  | marked {head : List Token} {equals marker stop : Token} {m : Method}
      (sign : equals.symbol? = some '=') (ends : stop.symbol? = some ';')
      (returned : m.returnType ≠ "") (named : IsName m.name)
      (oneFlag : m.isRequired ≠ m.isDefault) :
      Member.Sound (head ++ [equals, marker, stop]) (.method m)
  | inline {head body : List Token} {opening closing : Token} {m : Method}
      (opens : opening.symbol? = some '\x7b') (closes : closing.symbol? = some '\x7d')
      (returned : m.returnType ≠ "") (named : IsName m.name)
      (noFlag : m.isRequired = false ∧ m.isDefault = false) :
      Member.Sound (head ++ opening :: (body ++ [closing])) (.method m)

inductive Contract.Sound : List Token → Contract → Prop
  | mk {keyword name colon base opening closing stop : Token} {spans : List (List Token)}
      {members : List Member} (named : IsName name.lexeme) (based : IsName base.lexeme)
      (closes : closing.symbol? = some '\x7d') (ends : stop.symbol? = some ';')
      (declared : List.Forall₂ Member.Sound spans members) :
      Contract.Sound
        (keyword :: name :: colon :: base :: opening :: (spans.flatten ++ [closing, stop]))
        ⟨name.lexeme, base.lexeme, members⟩

theorem Token.Fits.text_ne {t : Token} (fits : t.Fits) {text : String} {tail : List Char}
    (starts : text.toList = t.lexeme.toList ++ tail) : text ≠ "" := by
  intro empty
  rw [empty] at starts
  have none := (List.append_eq_nil_iff.mp starts.symm).1
  exact fits.lexeme_ne (String.toList_eq_nil_iff.mp none)

theorem joinLexemes_ne {span : List Token} (filled : span ≠ []) (fits : ∀ t ∈ span, t.Fits) :
    joinLexemes span ≠ "" := by
  rcases List.exists_cons_of_ne_nil filled with ⟨t, rest, rfl⟩
  exact (fits t (List.mem_cons_self ..)).text_ne (toList_joinLexemes_cons t rest)

theorem TypeForm.text_ne {type : List Token} (form : TypeForm type) (fits : ∀ t ∈ type, t.Fits) :
    joinTypeLexemes type ≠ "" := by
  rcases form.head with ⟨t, rest, rfl, _⟩
  exact (fits t (List.mem_cons_self ..)).text_ne (toList_joinTypeLexemes_cons t rest)

theorem MarkerForm.oneFlag {settings : Settings} {m marked : Method} {marker : Token}
    (mark : MarkerForm settings m marker marked) (noRequired : m.isRequired = false)
    (noDefault : m.isDefault = false) : marked.isRequired ≠ marked.isDefault := by
  cases mark <;> simp [noRequired, noDefault]

theorem MethodEnd.sound {settings : Settings} {head tail : List Token} {m ended : Method}
    (ends : MethodEnd settings m tail ended) (returned : m.returnType ≠ "") (named : IsName m.name)
    (noRequired : m.isRequired = false) (noDefault : m.isDefault = false) :
    Member.Sound (head ++ tail) (.method ended) := by
  rcases ends.head_eq with ⟨sameType, sameName, _⟩
  cases ends with
  | marked sign mark stops =>
    exact .marked sign stops (sameType ▸ returned) (sameName ▸ named)
      (mark.oneFlag noRequired noDefault)
  | inline opens region closes =>
    exact .inline opens closes returned named ⟨noRequired, noDefault⟩

theorem MemberForm.sound {settings : Settings} {span : List Token} {m : Member}
    (form : MemberForm settings span m) (fits : ∀ t ∈ span, t.Fits) : Member.Sound span m := by
  cases form with
  | @associatedType type value keyword equals stop _ named _ _ filled _ =>
    have inType := named.text_ne fun t member => fits t (by simp [member])
    have inValue := joinLexemes_ne filled fun t member => fits t (by simp [member])
    exact .associatedType inType inValue
  | @declared type name stop typed _ named ends =>
    have inType := typed.text_ne fun t member => fits t (by simp [member])
    have isName := (fits name (by simp)).isName named
    exact .data inType isName ⟨fun _ => ends, fun _ => rfl⟩
  | @initialized type initial value name stop typed _ named start region filled _ =>
    have inType := typed.text_ne fun t member => fits t (by simp [member])
    have isName := (fits name (by simp)).isName named
    have inValue : joinLexemes value ≠ "" := by
      refine joinLexemes_ne filled fun t member => fits t ?_
      cases start <;> simp [member]
    rcases start.symbol?_ne region filled with ⟨t, rest, rfl, noSemicolon, _⟩
    exact .data inType isName ⟨fun empty => absurd empty inValue,
      fun semicolon => absurd semicolon noSemicolon⟩
  | @method head tail m ended start _ ends =>
    obtain @⟨type, between, arguments, attributes, name, opening, closing, returned, named, _, _, _,
      _⟩ := start
    have inType := returned.text_ne fun t member => fits t (by simp [member])
    have isName := (fits name (by simp)).isName named
    exact ends.sound inType isName rfl rfl

theorem sound_of_memberForms {settings : Settings} {spans : List (List Token)}
    {members : List Member} (forms : List.Forall₂ (MemberForm settings) spans members)
    (fits : ∀ t ∈ spans.flatten, t.Fits) : List.Forall₂ Member.Sound spans members := by
  induction forms with
  | nil => exact .nil
  | cons form forms ih =>
    simp only [List.flatten_cons, List.mem_append] at fits
    exact .cons (form.sound fun t member => fits t (.inl member))
      (ih fun t member => fits t (.inr member))

theorem ContractForm.sound {settings : Settings} {span : List Token} {contract : Contract}
    (form : ContractForm settings span contract) (fits : ∀ t ∈ span, t.Fits) :
    Contract.Sound span contract := by
  obtain @⟨header, spans, name, base, members, closing, stop, start, declared, closes, ends⟩ := form
  obtain @⟨keyword, name, colon, base, opening, _, named, _, based, _⟩ := start
  refine .mk ((fits name (by simp)).isName named) ((fits base (by simp)).isName based) closes ends ?_
  refine sound_of_memberForms declared fun t member => fits t ?_
  exact List.mem_append_right _ (List.mem_append_left _ member)

theorem Finishes.sound {settings : Settings} {c d : Cursor} {finished : List Contract}
    (finishes : Finishes settings c finished d) (fits : c.Fits) :
    ∃ spans, c.Passes spans.flatten d ∧ List.Forall₂ Contract.Sound spans finished := by
  induction finishes with
  | here c => exact ⟨[], .refl c, .nil⟩
  | next first rest ih =>
    rcases passes_readNextContract fits first with ⟨span, contract, pass, form, same⟩
    cases same
    rcases ih (pass.fits fits) with ⟨spans, others, sound⟩
    have inside : ∀ t ∈ span, t.Fits := by
      intro t member
      apply fits
      rw [pass.1]
      exact List.mem_append_left _ member
    exact ⟨span :: spans, pass.trans others, .cons (form.sound inside) sound⟩

end ContractLang
