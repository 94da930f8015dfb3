import Mathlib.Data.List.TakeWhile
import ContractLang.Proofs.Declaration.Form
import ContractLang.Proofs.Span.TypeReading

namespace ContractLang

open MemberAttempt

theorem Cursor.passes_names (c : Cursor) :
    ∃ words, c.Passes words c.names.2 ∧ (∀ t ∈ words, t.kind = .identifier) ∧
      c.names.1 = words.map (·.lexeme) := by
  refine ⟨c.ahead.takeWhile (·.kind == .identifier), ⟨?_, rfl⟩, ?_, rfl⟩
  · exact (List.prefix_iff_eq_append.mp (List.takeWhile_prefix _)).symm
  · intro t member
    simpa using List.mem_takeWhile_imp member

theorem passes_readData {type name : String} {c d : Cursor} {built : List Member}
    {trace : List String} (ran : readData type name c = ⟨built, trace, .ok d⟩)
    (noMethod : c.symbol? ≠ some '(') :
    (∃ stop, c.Passes [stop] d ∧ stop.symbol? = some ';' ∧ built = [.data type name ""]) ∨
    ∃ initial value stop, c.Passes (initial ++ [stop]) d ∧ InitialForm initial value ∧
      Region .statement value ∧ value ≠ [] ∧ stop.symbol? = some ';' ∧
      built = [.data type name (joinLexemes value)] := by
  unfold readData at ran
  split at ran
  · rename_i found
    rcases Cursor.passes_of_symbol? found with ⟨stop, pass, ends⟩
    cases ran
    exact .inl ⟨stop, pass, ends, rfl⟩
  · split at ran
    · cases ran
    · rename_i value read
      rcases (Cursor.statement_eq_ok _ _ _).mp read with ⟨_, region, filled, stop, semicolon, last⟩
      have ends := (stop.role_eq_semicolon_iff).mp semicolon
      cases ran
      refine .inr ?_
      by_cases sign : c.symbol? = some '='
      · have some : c.place.token?.bind Token.symbol? = some '=' := sign
        rcases Option.bind_eq_some_iff.mp some with ⟨equals, place, isSign⟩
        rw [Cursor.skipSymbol, if_pos sign] at last
        exact ⟨equals :: value.tokens, value.tokens, stop, (Cursor.passes_next place).cons last,
          .assigned isSign, region, filled, ends, rfl⟩
      · rw [Cursor.skipSymbol, if_neg sign] at last
        refine ⟨value.tokens, value.tokens, stop, last, .bare ?_, region, filled, ends, rfl⟩
        intro t head
        rcases List.head?_eq_some_iff.mp head with ⟨rest, split⟩
        rw [split] at last
        have first : c.symbol? = t.symbol? := Cursor.Passes.symbol? last
        rw [← first]
        exact ⟨noMethod, sign⟩

theorem passes_readMarker {settings : Settings} {m : Method} {c d : Cursor} {built : List Member}
    {trace traced : List String} (ran : readMarker settings m trace c = ⟨built, traced, .ok d⟩) :
    ∃ marker stop marked, c.Passes [marker, stop] d ∧ MarkerForm settings m marker marked ∧
      stop.symbol? = some ';' ∧ built = [.method marked] := by
  rcases markerForm_or_failed settings m trace c with ⟨marker, marked, found, mark⟩ | failed
  · simp only [readMarker_of_markerForm trace found mark, Attempt.mk.injEq] at ran
    rcases ran with ⟨rfl, _, passed⟩
    rcases (Cursor.passSymbol_eq_ok _ _ _ _).mp passed with ⟨stop, ends, last⟩
    exact ⟨marker, stop, marked, (Cursor.passes_next found).cons last, mark, ends, rfl⟩
  · rw [failed] at ran
    cases ran

theorem passes_readBody {m : Method} {c d : Cursor} {built : List Member}
    {trace traced : List String} (ran : readBody m trace c = ⟨built, traced, .ok d⟩) :
    ∃ body closing, c.Passes (body ++ [closing]) d ∧ Region .body body ∧
      closing.symbol? = some '\x7d' ∧
      built = [.method { m with body := joinLexemes body }] := by
  unfold readBody at ran
  split at ran
  · cases ran
  · rename_i code read
    simp only at ran
    split at ran
    · cases ran
    · rename_i next passed
      rcases (Cursor.passSymbol_eq_ok _ _ _ _).mp passed with ⟨closing, closes, last⟩
      have closer : code.next.symbol? = some Bracket.curly.closer := last.symbol?.trans closes
      obtain ⟨span, inner, enclosed⟩ :=
        Cursor.enclosed_of_code read (fun matched => by cases matched) closer
      cases ran
      cases enclosed with
      | whole region =>
        exact ⟨code.tokens, closing, inner.trans last, region, closes, rfl⟩
      | trimmed region single => cases single

theorem passes_readMethod {settings : Settings} {returnType name : String} {c d : Cursor}
    {built : List Member} {traced : List String}
    (ran : readMethod settings returnType name c = ⟨built, traced, .ok d⟩) :
    ∃ between arguments attributes tail closing ended,
      c.Passes (between ++ closing :: (attributes ++ tail)) d ∧
      Enclosed .statement between arguments ∧ closing.symbol? = some ')' ∧
      (∀ t ∈ attributes, t.kind = .identifier) ∧
      MethodEnd settings ⟨returnType, name, joinLexemes arguments, attributes.map (·.lexeme), "",
        false, false⟩ tail ended ∧ built = [.method ended] := by
  unfold readMethod at ran
  simp only at ran
  split at ran
  · cases ran
  · rename_i arguments read
    split at ran
    · cases ran
    · rename_i afterArguments passed
      rcases (Cursor.passSymbol_eq_ok _ _ _ _).mp passed with ⟨closing, closes, second⟩
      have closer : arguments.next.symbol? = some Bracket.round.closer := second.symbol?.trans closes
      obtain ⟨between, first, enclosed⟩ :=
        Cursor.enclosed_of_code read (fun matched => by cases matched) closer
      rcases afterArguments.passes_names with ⟨attributes, third, words, named⟩
      rw [named] at ran
      split at ran
      · rename_i sign
        rcases Cursor.passes_of_symbol? sign with ⟨equals, fourth, isSign⟩
        rcases passes_readMarker ran with ⟨marker, stop, marked, last, mark, ends, rfl⟩
        have pass := first.trans (second.cons (third.trans (fourth.cons last)))
        exact ⟨between, arguments.tokens, attributes, [equals, marker, stop], closing, marked, pass,
          enclosed, closes, words, .marked isSign mark ends, rfl⟩
      · split at ran
        · rename_i brace
          rcases Cursor.passes_of_symbol? brace with ⟨opening, fourth, opens⟩
          rcases passes_readBody ran with ⟨body, final, last, region, finalCloses, rfl⟩
          have pass := first.trans (second.cons (third.trans (fourth.cons last)))
          exact ⟨between, arguments.tokens, attributes, opening :: (body ++ [final]), closing, _,
            pass, enclosed, closes, words, .inline opens region finalCloses, rfl⟩
        · cases ran

theorem passes_readAssociatedType {settings : Settings} {c d : Cursor} {built : List Member}
    {traced : List String} (fits : c.Fits)
    (ran : readAssociatedType settings c = ⟨built, traced, .ok d⟩) :
    ∃ type value equals stop, c.Passes (type ++ equals :: (value ++ [stop])) d ∧ TypeForm type ∧
      equals.symbol? = some '=' ∧ Region .statement value ∧ value ≠ [] ∧ stop.symbol? = some ';' ∧
      built = [.associatedType (joinTypeLexemes type) (joinLexemes value)] := by
  unfold readAssociatedType at ran
  split at ran
  · cases ran
  · split at ran
    · cases ran
    · rename_i type spanned
      simp only at ran
      split at ran
      · cases ran
      · rename_i start passed
        split at ran
        · cases ran
        · rename_i value read
          rcases Cursor.passes_typeName fits spanned with ⟨span, first, form, text⟩
          rcases (Cursor.passSymbol_eq_ok _ _ _ _).mp passed with ⟨equals, sign, second⟩
          obtain ⟨_, region, filled, stop, semicolon, last⟩ :=
            (Cursor.statement_eq_ok _ _ _).mp read
          cases ran
          exact ⟨span, value.tokens, equals, stop, first.trans (second.cons last), form, sign,
            region, filled, stop.role_eq_semicolon_iff.mp semicolon, by rw [text]; rfl⟩

theorem noAlias_of_passes {settings : Settings} {c d : Cursor} {span : List Token}
    (other : c.lexeme ≠ settings.aliasKeyword) (pass : c.Passes span d) : NoAlias settings span := by
  intro t head spells
  rcases List.head?_eq_some_iff.mp head with ⟨rest, split⟩
  rw [split] at pass
  exact other (by rw [Cursor.Passes.lexeme pass, spells.2])

theorem passes_readMember {settings : Settings} {c d : Cursor} {built : List Member}
    {traced : List String} (fits : c.Fits)
    (ran : readMember settings c = ⟨built, traced, .ok d⟩) :
    ∃ span m, c.Passes span d ∧ MemberForm settings span m ∧ built = [m] := by
  unfold readMember at ran
  split at ran
  · cases ran
  · rename_i afterKeyword passed
    rcases (Cursor.passIdentifier_eq_ok _ _ _).mp passed with ⟨keyword, identifier, first⟩
    split at ran
    · rename_i isAlias
      obtain ⟨type, value, equals, stop, last, form, sign, region, filled, ends, rfl⟩ :=
        passes_readAssociatedType (first.fits fits) ran
      have isKeyword : keyword.Spells settings.aliasKeyword :=
        ⟨identifier, by rw [← first.lexeme, isAlias]⟩
      exact ⟨_, _, first.cons last, .associatedType isKeyword form sign region filled ends, rfl⟩
    · rename_i noAlias
      split at ran
      · cases ran
      · rename_i type spanned
        rcases Cursor.passes_typeName fits spanned with ⟨span, second, form, text⟩
        split at ran
        · cases ran
        · rename_i afterName named
          rcases (Cursor.passIdentifier_eq_ok _ _ _).mp named with ⟨name, isName, third⟩
          simp only [third.lexeme, text] at ran
          split at ran
          · rename_i parenthesis
            rcases Cursor.passes_of_symbol? parenthesis with ⟨opening, fourth, opens⟩
            obtain ⟨between, arguments, attributes, tail, closing, ended, last, enclosed, closes,
              words, ends, rfl⟩ := passes_readMethod ran
            have head : MethodHead (span ++ name :: opening :: (between ++ closing :: attributes)) _ :=
              .mk form isName opens enclosed closes words
            have pass : c.Passes
                (span ++ name :: opening :: (between ++ closing :: attributes) ++ tail) d := by
              simpa using second.trans (third.cons (fourth.cons last))
            rcases pass.split with ⟨_, start, _⟩
            exact ⟨_, _, pass, .method head (noAlias_of_passes noAlias start) ends, rfl⟩
          · rename_i noParenthesis
            have free := noAlias_of_passes noAlias second
            rcases passes_readData ran noParenthesis with
              ⟨stop, last, ends, rfl⟩ | ⟨initial, value, stop, last, start, region, filled, ends, rfl⟩
            · exact ⟨_, _, second.trans (third.cons last), .declared form free isName ends, rfl⟩
            · exact ⟨_, _, second.trans (third.cons last),
                .initialized form free isName start region filled ends, rfl⟩

end ContractLang
