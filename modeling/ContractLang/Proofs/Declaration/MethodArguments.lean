import ContractLang.Proofs.Declaration.Source
import ContractLang.Proofs.Token.Joined

namespace ContractLang

/-- The argument list of a method in the tokens of a source: `between` is what stands between the
    parenthesis after the name and the one that closes it. -/
inductive ArgumentList (settings : Settings) (earlier : List Contract) (contract : Contract)
    (before : List Member) (m : Method) (between : List Token) : List Token → Prop
  | mk {front type rest : List Token} {name opening closing : Token}
      (site : MemberFront settings earlier contract before front)
      (returned : TypeForm type) (text : joinTypeLexemes type = m.returnType)
      (named : name.kind = .identifier) (spelled : name.lexeme = m.name)
      (opens : opening.symbol? = some '(') (inner : Region .body between)
      (closes : closing.symbol? = some ')') :
      ArgumentList settings earlier contract before m between
        (front ++ (type ++ name :: opening :: (between ++ closing :: rest)))

theorem Enclosed.arguments_eq {between arguments : List Token}
    (enclosed : Enclosed .statement between arguments) :
    (joinLexemes arguments = joinLexemes between ↔
      ∀ t ∈ between.getLast?, t.symbol? ≠ some ';') ∧
    ∀ t ∈ between.getLast?, t.symbol? = some ';' → arguments = between.dropLast := by
  cases enclosed with
  | whole region =>
    have noSemicolon : ∀ t ∈ between.getLast?, t.symbol? ≠ some ';' := by
      intro t last semicolon
      exact region.last_ne_semicolon rfl t last (t.role_eq_semicolon_iff.mpr semicolon)
    refine ⟨⟨fun _ => noSemicolon, fun _ => rfl⟩, ?_⟩
    intro t last semicolon
    exact absurd semicolon (noSemicolon t last)
  | @trimmed arguments stop region single semicolon =>
    have found := stop.role_eq_semicolon_iff.mp semicolon
    refine ⟨⟨fun same => absurd same (joinLexemes_concat_ne found), ?_⟩, ?_⟩
    · intro noSemicolon
      exact absurd found (noSemicolon stop (by simp))
    · intro t last _
      simp

theorem exists_argumentList {settings : Settings} {source : List Char} {d : Cursor}
    {earlier later : List Contract} {contract : Contract} {before after : List Member}
    {m : Method} (ran : (readSource settings source).outcome = .ok d)
    (contracts : (readSource settings source).built = earlier ++ contract :: later)
    (members : contract.members = before ++ .method m :: after) :
    ∃ between arguments, ArgumentList settings earlier contract before m between (tokenize source) ∧
      Enclosed .statement between arguments ∧ m.arguments = joinLexemes arguments := by
  rcases exists_memberFront ran contracts members with ⟨front, span, rest, site, form, split⟩
  cases form with
  | @method head tail declared ended methodHead free ends =>
    rcases ends.head_eq with ⟨returnType, methodName, argumentsText⟩
    obtain @⟨type, between, arguments, attributes, word, opening, closer, returned, named, opens,
      inner, closes, words⟩ := methodHead
    refine ⟨between, arguments, ?_, inner, argumentsText⟩
    have whole : tokenize source = front ++
        (type ++ word :: opening :: (between ++ closer :: (attributes ++ (tail ++ rest)))) := by
      rw [split]
      simp
    rw [whole]
    exact .mk site returned returnType.symm named methodName.symm opens inner.toBody closes

/-- The text of the arguments of a method holds all tokens between its parentheses exactly if they
    do not end in a semicolon. Such a semicolon is all that can be missing. -/
theorem arguments_eq_iff {settings : Settings} {source : List Char} {d : Cursor}
    {earlier later : List Contract} {contract : Contract} {before after : List Member}
    {m : Method} (ran : (readSource settings source).outcome = .ok d)
    (contracts : (readSource settings source).built = earlier ++ contract :: later)
    (members : contract.members = before ++ .method m :: after) :
    ∃ between, ArgumentList settings earlier contract before m between (tokenize source) ∧
      (m.arguments = joinLexemes between ↔ ∀ t ∈ between.getLast?, t.symbol? ≠ some ';') ∧
      ∀ t ∈ between.getLast?, t.symbol? = some ';' →
        m.arguments = joinLexemes between.dropLast := by
  rcases exists_argumentList ran contracts members with ⟨between, arguments, site, enclosed, text⟩
  rcases enclosed.arguments_eq with ⟨whole, trimmed⟩
  refine ⟨between, site, by rw [text]; exact whole, ?_⟩
  intro t last semicolon
  rw [text, trimmed t last semicolon]

theorem arguments_eq_of_method :
    ∃ between, ArgumentList .standard [] ⟨"Vv", "Bb", [.method
        ⟨"void", "Go", "int xx", [], "", true, false⟩]⟩ []
        ⟨"void", "Go", "int xx", [], "", true, false⟩ between
        (tokenize "contract Vv : Bb { void Go(int xx) = 0; };".toList) ∧
      ("int xx" = joinLexemes between ↔ ∀ t ∈ between.getLast?, t.symbol? ≠ some ';') := by
  have ran : (readSource .standard "contract Vv : Bb { void Go(int xx) = 0; };".toList).outcome
      = .ok ⟨16, []⟩ := by decide +kernel
  have built : (readSource .standard "contract Vv : Bb { void Go(int xx) = 0; };".toList).built
      = [] ++ ⟨"Vv", "Bb", [.method ⟨"void", "Go", "int xx", [], "", true, false⟩]⟩ :: [] := by
    decide +kernel
  rcases @arguments_eq_iff _ _ _ _ _ _ [] _ _ ran built rfl with ⟨between, site, whole, _⟩
  exact ⟨between, site, whole⟩

/-- A semicolon right before the closing parenthesis is read and left out of the arguments. -/
theorem arguments_ne_of_semicolon :
    (readSource .standard "contract Vv : Bb { void Go(int xx;) = 0; };".toList).outcome
      = .ok ⟨17, []⟩ ∧
    (readSource .standard "contract Vv : Bb { void Go(int xx;) = 0; };".toList).built
      = [⟨"Vv", "Bb", [.method ⟨"void", "Go", "int xx", [], "", true, false⟩]⟩] ∧
    (((tokenize "contract Vv : Bb { void Go(int xx;) = 0; };".toList).drop 7).take 5).map (·.lexeme)
      = ["(", "int", "xx", ";", ")"] ∧
    "int xx" ≠ " ".intercalate ["int", "xx", ";"] := by
  decide +kernel

end ContractLang
