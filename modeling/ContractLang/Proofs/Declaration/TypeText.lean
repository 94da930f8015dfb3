import ContractLang.Proofs.Declaration.Source
import ContractLang.Proofs.Token.TypeText

namespace ContractLang

/-- The text of the type that a member names, has or gives back. -/
def Member.typeText : Member → String
  | .associatedType name _ => name
  | .data type _ _ => type
  | .method m => m.returnType

def Member.typeOffset : Member → Nat
  | .associatedType _ _ => 1
  | .data _ _ _ => 0
  | .method _ => 0

theorem MemberForm.exists_type {settings : Settings} {span : List Token} {m : Member}
    (form : MemberForm settings span m) :
    ∃ lead type rest, span = lead ++ (type ++ rest) ∧ lead.length = m.typeOffset ∧
      TypeForm type ∧ m.typeText = joinTypeLexemes type := by
  cases form with
  | @associatedType type value keyword equals stop isKeyword named =>
    exact ⟨[keyword], type, _, rfl, rfl, named, rfl⟩
  | @declared type name stop typed => exact ⟨[], type, _, rfl, rfl, typed, rfl⟩
  | @initialized type initial value name stop typed => exact ⟨[], type, _, rfl, rfl, typed, rfl⟩
  | @method head tail m ended start free ends =>
    rcases start with @⟨type, between, arguments, attributes, name, opening, closing, returned⟩
    exact ⟨[], type, _, List.append_assoc _ _ _, rfl, returned, ends.head_eq.1⟩

theorem shapes_joinTypeLexemes_infix_iff {source : List Char} {span : List Token}
    (inside : span <:+: tokenize source) :
    shapes (joinTypeLexemes span).toList = span.map Token.shape ↔ Apart span := by
  apply shapes_joinTypeLexemes_iff
  · exact fun t member => tokenize_cut (inside.subset member)
  · exact (loneQuotes_shapes source).sublist (inside.sublist.map Token.shape)

/-- The text of a type is cut into the tokens of the type again exactly if no two of them run
    together, wherever a type can be read, and so also for the types of all members. -/
theorem type_tokens_kept_iff_apart (source : List Char) :
    (∀ position type, (Cursor.ofPosition (tokenize source) position).typeName = .ok type →
      (shapes type.text.toList
          = ((Cursor.ofPosition (tokenize source) position).upTo type.next).map Token.shape ↔
        Apart ((Cursor.ofPosition (tokenize source) position).upTo type.next))) ∧
    ∀ settings d earlier contract later before m after,
      (readSource settings source).outcome = .ok d →
      (readSource settings source).built = earlier ++ contract :: later →
      contract.members = before ++ m :: after →
      ∃ front lead type rest, MemberFront settings earlier contract before front ∧
        tokenize source = front ++ (lead ++ (type ++ rest)) ∧ lead.length = m.typeOffset ∧
        TypeForm type ∧ m.typeText = joinTypeLexemes type ∧
        (shapes m.typeText.toList = type.map Token.shape ↔ Apart type) := by
  constructor
  · intro position type read
    have fits : (Cursor.ofPosition (tokenize source) position).Fits := fun t member =>
      tokenize_fits source t (List.mem_of_mem_drop member)
    rcases Cursor.passes_typeName fits read with ⟨span, pass, _, text⟩
    have inside : span <:+: tokenize source := by
      have split : (tokenize source).drop position = span ++ type.next.ahead := pass.1
      refine ⟨(tokenize source).take position, type.next.ahead, ?_⟩
      rw [List.append_assoc, ← split, List.take_append_drop]
    rw [pass.upTo, text]
    exact shapes_joinTypeLexemes_infix_iff inside
  · intro settings d earlier contract later before m after ran contracts members
    rcases exists_memberFront ran contracts members with ⟨front, span, rest, site, form, split⟩
    rcases form.exists_type with ⟨lead, type, others, rfl, offset, typed, text⟩
    have whole : tokenize source = front ++ (lead ++ (type ++ (others ++ rest))) := by
      rw [split]
      simp
    have inside : type <:+: tokenize source := ⟨front ++ lead, others ++ rest, by simp [whole]⟩
    refine ⟨front, lead, type, others ++ rest, site, whole, offset, typed, text, ?_⟩
    rw [text]
    exact shapes_joinTypeLexemes_infix_iff inside

theorem type_tokens_kept_of_generic :
    Apart ((Cursor.ofPosition (tokenize "std::map<int, Foo&> items".toList) 0).upTo
      ⟨9, (tokenize "std::map<int, Foo&> items".toList).drop 9⟩) := by
  have read : (Cursor.ofPosition (tokenize "std::map<int, Foo&> items".toList) 0).typeName
      = .ok ⟨"std::map<int,Foo&>", ⟨9, (tokenize "std::map<int, Foo&> items".toList).drop 9⟩⟩ := by
    decide +kernel
  have kept := (type_tokens_kept_iff_apart "std::map<int, Foo&> items".toList).1 0 _ read
  exact kept.mp (by decide +kernel)

theorem type_tokens_lost_of_letters :
    (Cursor.ofPosition (tokenize "Foo<a b>".toList) 0).typeName = .ok ⟨"Foo<ab>", ⟨5, []⟩⟩ ∧
    shapes "Foo<ab>".toList ≠ (tokenize "Foo<a b>".toList).map Token.shape := by
  decide +kernel

end ContractLang
