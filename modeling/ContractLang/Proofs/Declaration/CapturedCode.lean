import ContractLang.Proofs.Declaration.Source
import ContractLang.Proofs.Pairing.Member
import ContractLang.Proofs.Span.CodeEnd
import ContractLang.Proofs.Token.CodeText

namespace ContractLang

/-- The pieces of code that a member holds, each with whether it may have several lines. -/
def Member.code : Member → List (String × Bool)
  | .associatedType _ value => [(value, false)]
  | .data _ _ initial => [(initial, false)]
  | .method m => [(m.arguments, false), (m.body, true)]

/-- Code that means the same without what stood around it: its tokens are well nested on their own,
    and reading it takes all of them and gives it back. -/
structure SelfContained (multiline : Bool) (code : String) : Prop where
  nested : PlainCode multiline (tokenize code.toList)
  read : ∀ settings, (Session.start (tokenize code.toList) settings).answer
    (.code 0 ⟨false, multiline⟩) = .span (tokenize code.toList).length code

theorem Token.role_of_shape {t u : Token} (same : u.shape = t.shape) : u.role = t.role := by
  have kind : u.kind = t.kind := congrArg Prod.fst same
  have lexeme : u.lexeme = t.lexeme := congrArg Prod.snd same
  rw [Token.role, Token.role, Token.symbol?, Token.symbol?, kind, lexeme]

theorem exists_group_of_shapes {opening closing : Token} {inside tokens others : List Token}
    (same : others.map Token.shape = (opening :: inside ++ closing :: tokens).map Token.shape) :
    ∃ opening' inside' closing' tokens', others = opening' :: inside' ++ closing' :: tokens' ∧
      opening'.role = opening.role ∧ inside'.map Token.shape = inside.map Token.shape ∧
      closing'.role = closing.role ∧ tokens'.map Token.shape = tokens.map Token.shape := by
  rw [List.map_append, List.map_cons, List.map_cons, List.cons_append] at same
  rcases List.map_eq_cons_iff.mp same with ⟨opening', others, rfl, first, same⟩
  rcases List.map_eq_append_iff.mp same with ⟨inside', others, rfl, within, same⟩
  rcases List.map_eq_cons_iff.mp same with ⟨closing', tokens', rfl, last, behind⟩
  exact ⟨opening', inside', closing', tokens', rfl, Token.role_of_shape first, within,
    Token.role_of_shape last, behind⟩

/-- Only kinds and lexemes count for the nesting of brackets. -/
theorem Region.of_shapes {mode : ScanMode} {tokens others : List Token}
    (region : Region mode tokens) (same : others.map Token.shape = tokens.map Token.shape) :
    Region mode others := by
  induction region generalizing others with
  | nil =>
    rw [List.map_eq_nil_iff.mp same]
    exact .nil
  | cons ordinary rest ih =>
    rcases List.map_eq_cons_iff.mp same with ⟨u, others, rfl, head, tail⟩
    refine .cons ?_ (ih tail)
    rw [Token.role_of_shape head]
    exact ordinary
  | group firm opens closes inner rest innerIh ih =>
    rcases exists_group_of_shapes same with ⟨_, _, _, _, rfl, first, within, last, behind⟩
    exact .group firm (first.trans opens) (last.trans closes) (innerIh within) (ih behind)
  | angles matched opens closes inner rest innerIh ih =>
    rcases exists_group_of_shapes same with ⟨_, _, _, _, rfl, first, within, last, behind⟩
    exact .angles matched (first.trans opens) (last.trans closes) (innerIh within) (ih behind)

theorem selfContained_of_shapes {multiline : Bool} {span : List Token}
    (region : Region ⟨false, multiline⟩ span)
    (kept : shapes (joinLexemes span).toList = span.map Token.shape) :
    SelfContained multiline (joinLexemes span) := by
  have again : Region ⟨false, multiline⟩ (tokenize (joinLexemes span).toList) :=
    region.of_shapes kept
  refine ⟨again.plainCode, fun settings => ?_⟩
  have whole := Cursor.code_of_end again (Cursor.passes_start _) rfl
  have text : joinLexemes (tokenize (joinLexemes span).toList) = joinLexemes span :=
    joinLexemes_congr kept
  have answer : (Session.start (tokenize (joinLexemes span).toList) settings).answer
      (.code 0 ⟨false, multiline⟩)
    = Session.scanned ((Cursor.start (tokenize (joinLexemes span).toList)).code
        ⟨false, multiline⟩) := rfl
  rw [answer, whole, Session.scanned, Stretch.text, text]

theorem InitialForm.suffix {initial value : List Token} (form : InitialForm initial value) :
    value <:+ initial := by
  cases form with
  | assigned sign => exact List.suffix_cons _ _
  | bare start => exact List.suffix_refl _

theorem Enclosed.code_prefix {mode : ScanMode} {span code : List Token}
    (enclosed : Enclosed mode span code) : Region mode code ∧ code <+: span := by
  cases enclosed with
  | whole region => exact ⟨region, List.prefix_refl _⟩
  | trimmed region single semicolon => exact ⟨region, List.prefix_append _ _⟩

theorem MethodHead.exists_arguments {head : List Token} {m : Method} (form : MethodHead head m) :
    m.body = "" ∧ ∃ arguments, arguments <:+: head ∧ Region .statement arguments ∧
      m.arguments = joinLexemes arguments := by
  rcases form with @⟨type, between, arguments, attributes, name, opening, closing, _, _, _, inner⟩
  rcases inner.code_prefix with ⟨region, rest, split⟩
  refine ⟨rfl, arguments, ⟨type ++ [name, opening], rest ++ closing :: attributes, ?_⟩, region, rfl⟩
  rw [← split]
  simp

theorem MethodEnd.exists_body {settings : Settings} {m ended : Method} {tail : List Token}
    (form : MethodEnd settings m tail ended) (none : m.body = "") :
    ∃ body, body <:+: tail ∧ Region .body body ∧ ended.body = joinLexemes body := by
  cases form with
  | marked sign mark ends =>
    refine ⟨[], List.nil_infix, .nil, ?_⟩
    cases mark <;> exact none
  | @inline body opening closing opens region closes =>
    exact ⟨body, ⟨[opening], [closing], by simp⟩, region, rfl⟩

/-- The code of a member is what stands in its span. -/
theorem MemberForm.exists_code {settings : Settings} {span : List Token} {m : Member}
    (form : MemberForm settings span m) {code : String} {multiline : Bool}
    (member : (code, multiline) ∈ m.code) :
    ∃ value, value <:+: span ∧ Region ⟨false, multiline⟩ value ∧ code = joinLexemes value := by
  cases form with
  | @associatedType type value keyword equals stop isKeyword named sign region =>
    cases List.mem_singleton.mp member
    exact ⟨value, ⟨keyword :: type ++ [equals], [stop], by simp⟩, region, rfl⟩
  | declared =>
    cases List.mem_singleton.mp member
    exact ⟨[], List.nil_infix, .nil, rfl⟩
  | @initialized type initial value name stop typed free named form region =>
    cases List.mem_singleton.mp member
    rcases form.suffix with ⟨lead, rfl⟩
    exact ⟨value, ⟨type ++ name :: lead, [stop], by simp⟩, region, rfl⟩
  | @method head tail m ended start free ends =>
    rcases start.exists_arguments with ⟨none, arguments, inHead, inner, text⟩
    rcases ends.exists_body none with ⟨body, inTail, region, filled⟩
    rcases List.mem_pair.mp member with same | same
    · cases same
      refine ⟨arguments, inHead.trans (List.prefix_append _ _).isInfix, inner, ?_⟩
      exact ends.head_eq.2.2.trans text
    · cases same
      exact ⟨body, inTail.trans (List.suffix_append _ _).isInfix, region, filled⟩

/-- Whatever code a source that can be read puts into a contract, its arguments, initial values and
    bodies are cut into the tokens they had in the source again, and can be read on their own. -/
theorem selfContained_of_readSource {settings : Settings} {source : List Char} {d : Cursor}
    (ran : (readSource settings source).outcome = .ok d) :
    ∀ contract ∈ (readSource settings source).built, ∀ m ∈ contract.members,
      ∀ code multiline, (code, multiline) ∈ m.code →
        (∃ span, span <:+: tokenize source ∧ code = joinLexemes span ∧
          shapes code.toList = span.map Token.shape) ∧
        SelfContained multiline code := by
  intro contract built m inContract code multiline member
  rcases List.append_of_mem built with ⟨earlier, later, contracts⟩
  rcases List.append_of_mem inContract with ⟨before, after, members⟩
  rcases exists_memberFront ran contracts members with ⟨front, span, rest, _, form, split⟩
  rcases form.exists_code member with ⟨value, inSpan, region, rfl⟩
  have inside : value <:+: tokenize source := inSpan.trans ⟨front, rest, by rw [split]; simp⟩
  have kept := shapes_joinLexemes_infix inside
  exact ⟨⟨value, inside, rfl, kept⟩, selfContained_of_shapes region kept⟩

theorem selfContained_of_body :
    (readSource .standard
        "contract Aa : Bb \x7b void Go(f(\";\")) \x7b g(1); \"; \x7d \x7d;".toList).outcome
      = .ok ⟨24, []⟩ ∧
    (readSource .standard
        "contract Aa : Bb \x7b void Go(f(\";\")) \x7b g(1); \"; \x7d \x7d;".toList).built
      = [⟨"Aa", "Bb",
          [.method ⟨"void", "Go", "f ( \";\" )", [], "g ( 1 ) ; \" ;", false, false⟩]⟩] ∧
    SelfContained false "f ( \";\" )" ∧ SelfContained true "g ( 1 ) ; \" ;" := by
  have ran : (readSource .standard
        "contract Aa : Bb \x7b void Go(f(\";\")) \x7b g(1); \"; \x7d \x7d;".toList).outcome
      = .ok ⟨24, []⟩ := by decide +kernel
  have built : (readSource .standard
        "contract Aa : Bb \x7b void Go(f(\";\")) \x7b g(1); \"; \x7d \x7d;".toList).built
      = [⟨"Aa", "Bb",
          [.method ⟨"void", "Go", "f ( \";\" )", [], "g ( 1 ) ; \" ;", false, false⟩]⟩] := by
    decide +kernel
  have kept := selfContained_of_readSource ran
  rw [built] at kept
  have code := kept _ (List.mem_singleton.mpr rfl) _ (List.mem_singleton.mpr rfl)
  exact ⟨ran, built, (code _ _ (List.mem_cons_self ..)).2,
    (code _ _ (List.mem_cons_of_mem _ (List.mem_singleton.mpr rfl))).2⟩

end ContractLang
