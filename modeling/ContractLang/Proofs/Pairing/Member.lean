import ContractLang.Proofs.Declaration.MemberLookahead
import ContractLang.Proofs.Pairing.Span

namespace ContractLang

theorem joinLexemes_congr {span span' : List Token}
    (shapes : span'.map Token.shape = span.map Token.shape) :
    joinLexemes span' = joinLexemes span := by
  have lexemes := congrArg (List.map Prod.snd) shapes
  rw [List.map_map, List.map_map] at lexemes
  exact congrArg (" ".intercalate ·) lexemes

theorem joinTypeLexemes_congr {span span' : List Token}
    (shapes : span'.map Token.shape = span.map Token.shape) :
    joinTypeLexemes span' = joinTypeLexemes span := by
  induction span using joinTypeLexemes.induct generalizing span' with
  | case1 => rw [List.map_eq_nil_iff.mp shapes]
  | case2 t =>
    rcases List.map_eq_singleton_iff.mp shapes with ⟨t', rfl, same⟩
    exact congrArg Prod.snd same
  | case3 t u rest ih =>
    rcases List.map_eq_cons_iff.mp shapes with ⟨t', tail, rfl, first, others⟩
    rcases List.map_eq_cons_iff.mp others with ⟨u', rest', rfl, second, _⟩
    have lexeme : t'.lexeme = t.lexeme := congrArg Prod.snd first
    have words : t'.isWord = t.isWord ∧ u'.isWord = u.isWord := by
      have kinds : t'.kind = t.kind ∧ u'.kind = u.kind :=
        ⟨congrArg Prod.fst first, congrArg Prod.fst second⟩
      rw [Token.isWord, Token.isWord, Token.isWord, Token.isWord, kinds.1, kinds.2]
      exact ⟨rfl, rfl⟩
    rw [joinTypeLexemes, joinTypeLexemes, lexeme, words.1, words.2, ih others]

section Alike

variable (word type code : String → String → Prop)

/-- The same flags, and names and texts that are related. -/
structure Method.Alike (m m' : Method) : Prop where
  returnType : type m.returnType m'.returnType
  name : word m.name m'.name
  arguments : code m.arguments m'.arguments
  attributes : List.Forall₂ word m.attributes m'.attributes
  body : code m.body m'.body
  isRequired : m'.isRequired = m.isRequired
  isDefault : m'.isDefault = m.isDefault

/-- The same kind of member, with names and texts that are related. -/
inductive Member.Alike : Member → Member → Prop
  | associatedType {name name' value value' : String} (named : type name name')
      (valued : code value value') :
      Member.Alike (.associatedType name value) (.associatedType name' value')
  | data {typed typed' name name' initial initial' : String} (ofType : type typed typed')
      (named : word name name') (starts : code initial initial') :
      Member.Alike (.data typed name initial) (.data typed' name' initial')
  | method {m m' : Method} (same : m.Alike word type code m') :
      Member.Alike (.method m) (.method m')

structure Contract.Alike (contract contract' : Contract) : Prop where
  name : word contract.name contract'.name
  base : word contract.base contract'.base
  members : List.Forall₂ (Member.Alike word type code) contract.members contract'.members

variable {word word' type code : String → String → Prop}
  (weaker : ∀ v w, word v w → word' v w)

include weaker

theorem Method.Alike.imp {m m' : Method} (alike : m.Alike word type code m') :
    m.Alike word' type code m' :=
  { alike with
    name := weaker _ _ alike.name
    attributes := alike.attributes.imp weaker }

theorem Member.Alike.imp {m m' : Member} (alike : m.Alike word type code m') :
    m.Alike word' type code m' := by
  cases alike with
  | associatedType named valued => exact .associatedType named valued
  | data ofType named starts => exact .data ofType (weaker _ _ named) starts
  | method same => exact .method (same.imp weaker)

theorem Contract.Alike.imp {contract contract' : Contract}
    (alike : contract.Alike word type code contract') :
    contract.Alike word' type code contract' where
  name := weaker _ _ alike.name
  base := weaker _ _ alike.base
  members := alike.members.imp fun _ _ => Member.Alike.imp weaker

end Alike

namespace Pairing

variable {p : Pairing}

theorem code_eq {text text' : String} (same : p.SameText joinLexemes text text')
    (exact : p.Exact) : text' = text :=
  sameText_eq same exact fun _ _ => joinLexemes_congr

theorem type_eq {text text' : String} (same : p.SameText joinTypeLexemes text text')
    (exact : p.Exact) : text' = text :=
  sameText_eq same exact fun _ _ => joinTypeLexemes_congr

theorem noCode : p.SameText joinLexemes "" "" := .mk 0 0

abbrev SameMethod (p : Pairing) : Method → Method → Prop :=
  Method.Alike p.SameWord (p.SameText joinTypeLexemes) (p.SameText joinLexemes)

abbrev SameMember (p : Pairing) : Member → Member → Prop :=
  Member.Alike p.SameWord (p.SameText joinTypeLexemes) (p.SameText joinLexemes)

/-- Both attempts fail in the same way, or both give something alike and go on side by side. -/
inductive Parallel (p : Pairing) {α : Type} (alike : α → α → Prop) (a b : Attempt α) : Prop
  | failed {built built' : α} {trace trace' : List String} {e e' : SyntaxError}
      (left : a = .failed built trace e) (right : b = .failed built' trace' e')
      (same : p.SameError e e') (exact : p.Exact → built' = built ∧ trace' = trace)
  | done {built built' : α} {trace trace' : List String} {c d : Cursor}
      (left : a = .done built trace c) (right : b = .done built' trace' d) (next : p.Abreast c d)
      (alike : alike built built') (exact : p.Exact → built' = built ∧ trace' = trace)

abbrev ParallelMembers (p : Pairing) : MemberAttempt → MemberAttempt → Prop :=
  p.Parallel (List.Forall₂ p.SameMember)

theorem words_eq {words words' : List String} (same : List.Forall₂ p.SameWord words words')
    (exact : p.Exact) : words' = words := by
  induction same with
  | nil => rfl
  | cons first rest ih => rw [first.eq exact, ih]

theorem sameMethod_eq {m m' : Method} (same : p.SameMethod m m') (exact : p.Exact) : m' = m := by
  rcases m with ⟨returnType, name, arguments, attributes, body, isRequired, isDefault⟩
  rcases m' with ⟨returnType', name', arguments', attributes', body', isRequired', isDefault'⟩
  obtain rfl := type_eq same.returnType exact
  obtain rfl := same.name.eq exact
  obtain rfl := code_eq same.arguments exact
  obtain rfl := words_eq same.attributes exact
  obtain rfl := code_eq same.body exact
  obtain rfl := same.isRequired
  obtain rfl := same.isDefault
  rfl

theorem sameMethod_declared {returnType returnType' name name' : String}
    (returned : p.SameText joinTypeLexemes returnType returnType')
    (named : p.SameWord name name') :
    p.SameMethod (.declared returnType name) (.declared returnType' name') :=
  ⟨returned, named, noCode, .nil, noCode, rfl, rfl⟩

theorem sameMember_method {m m' : Method} (same : p.SameMethod m m') :
    List.Forall₂ p.SameMember [.method m] [.method m'] := .cons (.method same) .nil

theorem sameMethod_exactly {m m' : Method} (same : p.SameMethod m m')
    {trace trace' : List String} (traced : p.Exact → trace' = trace) (exact : p.Exact) :
    [Member.method m'] = [.method m] ∧ trace' = trace := by
  rw [sameMethod_eq same exact]
  exact ⟨rfl, traced exact⟩

end Pairing

namespace Pairing.Abreast

variable {p : Pairing} {c d : Cursor}

theorem names {c d : Cursor} (abreast : p.Abreast c d) :
    List.Forall₂ p.SameWord c.names.1 d.names.1 ∧ p.Abreast c.names.2 d.names.2 := by
  cases identifier : c.isIdentifier with
  | false =>
    rw [Cursor.names_of_not identifier, Cursor.names_of_not (abreast.isIdentifier.trans identifier)]
    exact ⟨.nil, abreast⟩
  | true =>
    have shorter := c.ahead_next_length_lt_of_isIdentifier identifier
    rcases abreast.next.names with ⟨words, ends⟩
    rw [Cursor.names_of_isIdentifier identifier,
      Cursor.names_of_isIdentifier (abreast.isIdentifier.trans identifier)]
    exact ⟨.cons (abreast.sameWord identifier) words, ends⟩
termination_by c.ahead.length

theorem readData (abreast : p.Abreast c d) {type type' name name' : String}
    (typed : p.SameText joinTypeLexemes type type') (named : p.SameWord name name') :
    p.ParallelMembers (ContractLang.readData type name c)
      (ContractLang.readData type' name' d) := by
  by_cases semicolon : c.symbol? = some ';'
  · rw [ContractLang.readData, ContractLang.readData, if_pos semicolon,
      if_pos (abreast.symbol?.trans semicolon)]
    refine .done rfl rfl abreast.next (.cons (.data typed named noCode) .nil) fun exact => ?_
    rw [type_eq typed exact, named.eq exact]
    exact ⟨rfl, rfl⟩
  · rw [ContractLang.readData, ContractLang.readData, if_neg semicolon,
      if_neg (abreast.symbol?.trans_ne semicolon)]
    rcases (abreast.skipSymbol '=').statement .dataEnd with
      ⟨left, right, same⟩ | ⟨left, right, same⟩
    · rw [left, right]
      refine .failed rfl rfl same fun exact => ?_
      rw [type_eq typed exact, named.eq exact]
      exact ⟨rfl, rfl⟩
    · rw [left, right]
      refine .done rfl rfl same.next (.cons (.data typed named same.text) .nil) fun exact => ?_
      rw [type_eq typed exact, named.eq exact, code_eq same.text exact]
      exact ⟨rfl, rfl⟩

theorem readAssociatedType (abreast : p.Abreast c d) :
    p.ParallelMembers (ContractLang.readAssociatedType p.settings c)
      (ContractLang.readAssociatedType p.other d) := by
  simp only [ContractLang.readAssociatedType, Place.demand, abreast.isIdentifier]
  cases c.isIdentifier with
  | false =>
    refine .failed rfl rfl (abreast.sameError _ _ fun exact => ?_) fun _ => ⟨rfl, rfl⟩
    rw [exact.settings]
  | true =>
    rcases abreast.typeName with ⟨left, right, same⟩ | ⟨left, right, type⟩
    · simp only [left, right, if_true]
      exact .failed rfl rfl same fun _ => ⟨rfl, rfl⟩
    · simp only [left, right, if_true]
      rcases type.next.passSymbol '=' .aliasValue .aliasValue (fun _ => rfl) with
        ⟨left, right, same⟩ | ⟨left, right, start⟩
      · simp only [left, right]
        refine .failed rfl rfl same fun exact => ?_
        rw [type_eq type.text exact]
        exact ⟨rfl, rfl⟩
      · rcases start.statement .aliasEnd with ⟨left', right', same⟩ | ⟨left', right', value⟩
        · simp only [left, right, left', right']
          refine .failed rfl rfl same fun exact => ?_
          rw [type_eq type.text exact]
          exact ⟨rfl, rfl⟩
        · simp only [left, right, left', right']
          refine .done rfl rfl value.next
            (.cons (.associatedType type.text value.text) .nil) fun exact => ?_
          rw [type_eq type.text exact, code_eq value.text exact]
          exact ⟨rfl, rfl⟩

theorem spells (abreast : p.Abreast c d) (field : WordField) :
    (d.isIdentifier && d.lexeme == p.other.word field)
      = (c.isIdentifier && c.lexeme == p.settings.word field) := by
  rw [abreast.isIdentifier]
  cases identifier : c.isIdentifier with
  | false => rfl
  | true =>
    rw [Bool.true_and, Bool.true_and, Bool.eq_iff_iff, beq_iff_eq, beq_iff_eq]
    exact abreast.chosen identifier field

theorem spellsZero (abreast : p.Abreast c d) :
    (d.place.isKind .number && d.lexeme == "0") = (c.place.isKind .number && c.lexeme == "0") := by
  have zero : (d.lexeme == "0") = (c.lexeme == "0") := by
    rw [Bool.eq_iff_iff, beq_iff_eq, beq_iff_eq]
    exact abreast.reserved (by decide)
  rw [abreast.isKind, zero]

theorem readMarker (abreast : p.Abreast c d) {m m' : Method} (same : p.SameMethod m m')
    {trace trace' : List String} (traced : p.Exact → trace' = trace) :
    p.ParallelMembers (ContractLang.readMarker p.settings m trace c)
      (ContractLang.readMarker p.other m' trace' d) := by
  have required := abreast.spells .requiredMarker
  have defaulted := abreast.spells .defaultMarker
  simp only [Settings.word] at required defaulted
  -- Whatever flag the marker sets, it sets it on both sides.
  have requires : p.SameMethod { m with isRequired := true } { m' with isRequired := true } :=
    { same with isRequired := rfl }
  have defaults : p.SameMethod { m with isDefault := true } { m' with isDefault := true } :=
    { same with isDefault := rfl }
  have unknown := abreast.sameError
    (.markerExpected p.settings.requiredMarker p.settings.defaultMarker)
    (.markerExpected p.other.requiredMarker p.other.defaultMarker) (fun exact => by
      rw [exact.settings])
  simp only [ContractLang.readMarker, required, defaulted, abreast.spellsZero]
  rcases abreast.next.passSymbol ';' (.markerEnd c.lexeme) (.markerEnd d.lexeme)
      (fun exact => by rw [abreast.lexeme_eq exact]) with ⟨left, right, ends⟩ | ⟨left, right, ends⟩
  · simp only [left, right]
    split_ifs
    · exact .failed rfl rfl ends (sameMethod_exactly requires traced)
    · exact .failed rfl rfl ends (sameMethod_exactly defaults traced)
    · exact .failed rfl rfl ends (sameMethod_exactly requires traced)
    · exact .failed rfl rfl unknown (sameMethod_exactly same traced)
  · simp only [left, right]
    split_ifs
    · exact .done rfl rfl ends (sameMember_method requires) (sameMethod_exactly requires traced)
    · exact .done rfl rfl ends (sameMember_method defaults) (sameMethod_exactly defaults traced)
    · exact .done rfl rfl ends (sameMember_method requires) (sameMethod_exactly requires traced)
    · exact .failed rfl rfl unknown (sameMethod_exactly same traced)

theorem readBody (abreast : p.Abreast c d) {m m' : Method} (same : p.SameMethod m m')
    {trace trace' : List String} (traced : p.Exact → trace' = trace) :
    p.ParallelMembers (ContractLang.readBody m trace c) (ContractLang.readBody m' trace' d) := by
  rcases abreast.code .body with ⟨left, right, stopped⟩ | @⟨code, code', left, right, inner⟩
  · simp only [ContractLang.readBody, left, right]
    exact .failed rfl rfl stopped (sameMethod_exactly same traced)
  · have filled : p.SameMethod { m with body := code.text } { m' with body := code'.text } :=
      { same with body := inner.text }
    have bodies : p.Exact →
        trace' ++ [Trace.body code'.text] = trace ++ [Trace.body code.text] := by
      intro exact
      rw [traced exact, code_eq inner.text exact]
    have exactly := sameMethod_exactly filled bodies
    simp only [ContractLang.readBody, left, right]
    rcases inner.next.passSymbol '\x7d' (.bodyEnd code.next.lexeme) (.bodyEnd code'.next.lexeme)
        (fun exact => by rw [inner.next.lexeme_eq exact]) with ⟨left, right, ends⟩ | ⟨left, right, ends⟩
    · rw [left, right]
      exact .failed rfl rfl ends exactly
    · rw [left, right]
      exact .done rfl rfl ends (sameMember_method filled) exactly

theorem readMethod (abreast : p.Abreast c d) {returnType returnType' name name' : String}
    (returned : p.SameText joinTypeLexemes returnType returnType')
    (named : p.SameWord name name') :
    p.ParallelMembers (ContractLang.readMethod p.settings returnType name c)
      (ContractLang.readMethod p.other returnType' name' d) := by
  have declared := sameMethod_declared returned named
  rcases abreast.code .statement with ⟨left, right, same⟩ | @⟨code, code', left, right, inner⟩
  · simp only [ContractLang.readMethod, left, right]
    exact .failed rfl rfl same (sameMethod_exactly declared fun _ => rfl)
  · have filled : p.SameMethod { Method.declared returnType name with arguments := code.text }
        { Method.declared returnType' name' with arguments := code'.text } :=
      { declared with arguments := inner.text }
    rcases inner.next.passSymbol ')' .argumentsEnd .argumentsEnd (fun _ => rfl) with
      ⟨left', right', same⟩ | @⟨e, f, left', right', ends⟩
    · simp only [ContractLang.readMethod, left, right, left', right']
      exact .failed rfl rfl same (sameMethod_exactly filled fun _ => rfl)
    · rcases ends.names with ⟨words, after⟩
      have headed : p.SameMethod
          ⟨returnType, name, code.text, e.names.1, "", false, false⟩
          ⟨returnType', name', code'.text, f.names.1, "", false, false⟩ :=
        { filled with attributes := words }
      have traced : p.Exact →
          [Trace.method returnType' name' code'.text, Trace.attributes f.names.1]
            = [Trace.method returnType name code.text, Trace.attributes e.names.1] := by
        intro exact
        rw [type_eq returned exact, named.eq exact, code_eq inner.text exact,
          words_eq words exact]
      simp only [ContractLang.readMethod, left, right, left', right', after.symbol?]
      split
      · exact after.next.readMarker headed traced
      · split
        · exact after.next.readBody headed traced
        · exact .failed rfl rfl (after.sameError _ _ fun _ => rfl) (sameMethod_exactly headed traced)

theorem readMember (abreast : p.Abreast c d) :
    p.ParallelMembers (ContractLang.readMember p.settings c)
      (ContractLang.readMember p.other d) := by
  have nothing : p.Exact → ([] : List Member) = [] ∧ ([] : List String) = [] := fun _ => ⟨rfl, rfl⟩
  cases identifier : c.isIdentifier with
  | false =>
    have left := Cursor.passIdentifier_of_not identifier .memberExpected
    have right := Cursor.passIdentifier_of_not (abreast.isIdentifier.trans identifier) .memberExpected
    simp only [ContractLang.readMember, left, right]
    exact .failed rfl rfl (abreast.sameError _ _ fun _ => rfl) nothing
  | true =>
    have left := Cursor.passIdentifier_of_isIdentifier identifier .memberExpected
    have right := Cursor.passIdentifier_of_isIdentifier (abreast.isIdentifier.trans identifier)
      .memberExpected
    have keyword := abreast.chosen identifier .aliasKeyword
    simp only [Settings.word] at keyword
    simp only [ContractLang.readMember, left, right, keyword]
    split
    · exact abreast.next.readAssociatedType
    · rcases abreast.typeName with ⟨left, right, same⟩ | ⟨left, right, type⟩
      · simp only [left, right]
        exact .failed rfl rfl same nothing
      · simp only [left, right]
        rcases type.next.passIdentifier .memberName .memberName (fun _ => rfl) with
          ⟨left, right, same⟩ | ⟨left, right, name⟩
        · simp only [left, right]
          exact .failed rfl rfl same nothing
        · have word := type.next.sameWord ((Cursor.pass_eq_ok _ _ _ _).mp left).1
          simp only [left, right, name.symbol?]
          split
          · exact name.next.readMethod type.text word
          · exact name.readData type.text word

end Pairing.Abreast
end ContractLang
