import Mathlib.Data.List.TakeWhile
import ContractLang.Proofs.Declaration.Form
import ContractLang.Proofs.Span.TypeReading

namespace ContractLang

open MemberAttempt

structure Attempt.Yields {α : Type} (attempt : Attempt α) (built : α) (d : Cursor) : Prop where
  built : attempt.built = built
  outcome : attempt.outcome = .ok d

theorem TypeComponent.head {span : List Token} (form : TypeComponent span) :
    ∃ t rest, span = t :: rest ∧ t.kind = .identifier := by
  rcases form with @⟨typename, template, arguments, name, first, second, identifier, generic⟩
  cases first with
  | present spells => exact ⟨_, _, rfl, spells.1⟩
  | absent _ =>
    cases second with
    | present spells => exact ⟨_, _, rfl, spells.1⟩
    | absent _ => exact ⟨name, arguments, rfl, identifier⟩

theorem TypeForm.head {span : List Token} (form : TypeForm span) :
    ∃ t rest, span = t :: rest ∧ t.kind = .identifier := by
  rcases form with @⟨const, path, reference, pointer, qualified, named, referred, pointed⟩
  cases qualified with
  | present spells => exact ⟨_, _, rfl, spells.1⟩
  | absent _ =>
    cases named with
    | last component =>
      rcases component.head with ⟨t, rest, rfl, kind⟩
      exact ⟨t, _, rfl, kind⟩
    | scope component isScope others =>
      rcases component.head with ⟨t, rest, rfl, kind⟩
      exact ⟨t, _, rfl, kind⟩

namespace Cursor

theorem EndsType.of_identifier {c d : Cursor} {t : Token} {span : List Token} (fits : c.Fits)
    (pass : c.Passes (t :: span) d) (identifier : t.kind = .identifier) : c.EndsType := by
  have noSymbol : c.symbol? = none := by
    rw [pass.symbol?]
    exact Token.symbol?_of_kind (by rw [identifier]; decide)
  refine ⟨⟨?_, ?_⟩, ?_, ?_⟩
  · rw [noSymbol]; decide
  · intro scope
    rw [pass.lexeme] at scope
    have member : t ∈ c.ahead := by
      rw [pass.1]
      exact List.mem_cons_self ..
    have other : t.kind = .other := (fits t member).kind_eq (by rw [scope]; exact onlyOfKind_scope)
    rw [identifier] at other
    cases other
  · rw [noSymbol]; decide
  · rw [noSymbol]; decide

theorem EndsType.of_equals {c d : Cursor} {t : Token} {span : List Token}
    (pass : c.Passes (t :: span) d) (sign : t.symbol? = some '=') : c.EndsType := by
  have found : c.symbol? = some '=' := pass.symbol?.trans sign
  refine ⟨.of_symbol? found (by decide), ?_, ?_⟩
  · rw [found]; decide
  · rw [found]; decide

theorem names_of_passes {c d : Cursor} {words : List Token} (pass : c.Passes words d)
    (identifiers : ∀ t ∈ words, t.kind = .identifier)
    (ends : d.place.isKind .identifier = false) : c.names = (words.map (·.lexeme), d) := by
  have run : c.ahead.takeWhile (·.kind == .identifier) = words := by
    rw [pass.1, List.takeWhile_append_of_pos (by simpa using identifiers)]
    rcases d with ⟨position, ahead⟩
    cases ahead with
    | nil => simp
    | cons t rest =>
      have other : (t.kind == Kind.identifier) = false := ends
      simp [other]
  have move : c.Passes words (c.advance words.length) := ⟨by simp [advance, pass.1], rfl⟩
  rw [names, run, move.eq pass]

theorem names_of_isIdentifier {c : Cursor} (identifier : c.isIdentifier = true) :
    c.names = (c.lexeme :: c.next.names.1, c.next.names.2) := by
  rcases c with ⟨position, _ | ⟨t, rest⟩⟩
  · cases identifier
  · have kind : (t.kind == Kind.identifier) = true := identifier
    simp only [names, next, advance, List.takeWhile_cons, kind, List.drop_one, List.tail_cons]
    simp [Cursor.lexeme, place, Place.lexeme, Nat.add_assoc, Nat.add_comm 1]

theorem names_of_not {c : Cursor} (other : c.isIdentifier = false) : c.names = ([], c) :=
  names_of_passes (.refl c) (fun _ member => absurd member List.not_mem_nil) other

end Cursor

theorem readData_of_declared {type name : String} {c d : Cursor} {stop : Token}
    (pass : c.Passes [stop] d) (ends : stop.symbol? = some ';') :
    (readData type name c).Yields [.data type name ""] d := by
  have found : c.symbol? = some ';' := pass.symbol?.trans ends
  rw [readData, if_pos found, pass.next]
  exact ⟨rfl, rfl⟩

theorem Cursor.statement_of_passes {c d : Cursor} {code : List Token} {stop : Token}
    {complaint : Complaint} (region : Region .statement code) (filled : code ≠ [])
    (ends : stop.symbol? = some ';') (pass : c.Passes (code ++ [stop]) d) :
    c.statement complaint = .ok ⟨code, .semicolon, d⟩ := by
  apply (Cursor.statement_eq_ok _ _ _).mpr
  exact ⟨rfl, region, filled, stop, stop.role_eq_semicolon_iff.mpr ends, pass⟩

theorem InitialForm.symbol?_ne {initial value : List Token} (form : InitialForm initial value)
    (region : Region .statement value) (filled : value ≠ []) :
    ∃ t rest, initial = t :: rest ∧ t.symbol? ≠ some ';' ∧ t.symbol? ≠ some '(' := by
  cases form with
  | assigned sign => exact ⟨_, _, rfl, by rw [sign]; decide, by rw [sign]; decide⟩
  | bare start =>
    rcases List.exists_cons_of_ne_nil filled with ⟨t, rest, rfl⟩
    refine ⟨t, rest, rfl, ?_, (start t rfl).1⟩
    intro semicolon
    have role := t.role_eq_semicolon_iff.mpr semicolon
    cases region with
    | cons ordinary rest => rw [role] at ordinary; cases ordinary
    | group firm opens => rw [role] at opens; cases opens
    | angles matched => cases matched

theorem readData_of_initialized {type name : String} {c d : Cursor} {initial value : List Token}
    {stop : Token} (pass : c.Passes (initial ++ [stop]) d) (form : InitialForm initial value)
    (region : Region .statement value) (filled : value ≠ []) (ends : stop.symbol? = some ';') :
    (readData type name c).Yields [.data type name (joinLexemes value)] d := by
  have noEnd : c.symbol? ≠ some ';' := by
    rcases form.symbol?_ne region filled with ⟨t, rest, rfl, noSemicolon, _⟩
    rw [Cursor.Passes.symbol? pass]
    exact noSemicolon
  have rest : (c.skipSymbol '=').Passes (value ++ [stop]) d := by
    cases form with
    | assigned sign =>
      rcases pass.uncons with ⟨next, first, last⟩
      rw [Cursor.skipSymbol, if_pos (pass.symbol?.trans sign), ← first.next]
      exact last
    | bare start =>
      rcases List.exists_cons_of_ne_nil filled with ⟨t, others, rfl⟩
      rw [Cursor.skipSymbol, if_neg]
      · exact pass
      · rw [Cursor.Passes.symbol? pass]
        exact (start t rfl).2
  rw [readData, if_neg noEnd, Cursor.statement_of_passes region filled ends rest]
  exact ⟨rfl, rfl⟩

theorem readMarker_of_passes {settings : Settings} {m marked : Method} {trace : List String}
    {c d : Cursor} {marker stop : Token} (pass : c.Passes [marker, stop] d)
    (mark : MarkerForm settings m marker marked) (ends : stop.symbol? = some ';') :
    (readMarker settings m trace c).Yields [.method marked] d := by
  rcases pass.uncons with ⟨next, first, last⟩
  rw [first.next] at last
  rw [readMarker_of_markerForm trace first.token? mark]
  exact ⟨rfl, last.passSymbol ends _⟩

theorem readBody_of_passes {m : Method} {trace : List String} {c d : Cursor} {body : List Token}
    {closing : Token} (pass : c.Passes (body ++ [closing]) d) (region : Region .body body)
    (closes : closing.symbol? = some '\x7d') :
    (readBody m trace c).Yields [.method { m with body := joinLexemes body }] d := by
  rcases pass.split with ⟨brace, first, last⟩
  have closer : brace.symbol? = some Bracket.curly.closer := last.symbol?.trans closes
  have code := Cursor.code_of_closer region (fun angle => by cases angle) first closer
  rw [readBody, code]
  simp only [last.passSymbol closes]
  exact ⟨rfl, rfl⟩

theorem MethodEnd.not_isIdentifier {settings : Settings} {m ended : Method} {tail : List Token}
    {c d : Cursor} (form : MethodEnd settings m tail ended) (pass : c.Passes tail d) :
    c.place.isKind .identifier = false := by
  have other : ∀ {t : Token} {rest : List Token} {symbol : Char}, c.Passes (t :: rest) d →
      t.symbol? = some symbol → c.place.isKind .identifier = false := by
    intro t rest symbol pass found
    rw [pass.isKind, ((Token.symbol?_eq_some_iff _ _).mp found).1]
    rfl
  cases form with
  | marked sign mark ends => exact other pass sign
  | inline opens region closes => exact other pass opens

theorem readMethod_of_passes {settings : Settings} {returnType name : String} {c d : Cursor}
    {between arguments attributes tail : List Token} {closing : Token} {ended : Method}
    (pass : c.Passes (between ++ closing :: (attributes ++ tail)) d)
    (inner : Enclosed .statement between arguments) (closes : closing.symbol? = some ')')
    (words : ∀ t ∈ attributes, t.kind = .identifier)
    (ends : MethodEnd settings ⟨returnType, name, joinLexemes arguments,
      attributes.map (·.lexeme), "", false, false⟩ tail ended) :
    (readMethod settings returnType name c).Yields [.method ended] d := by
  rcases pass.split with ⟨parenthesis, first, rest⟩
  rcases rest.uncons with ⟨afterArguments, second, rest⟩
  rcases rest.split with ⟨afterAttributes, third, last⟩
  have closer : parenthesis.symbol? = some Bracket.round.closer := second.symbol?.trans closes
  obtain ⟨ending, code⟩ := Cursor.code_of_enclosed inner (fun angle => by cases angle) first closer
  have names := Cursor.names_of_passes third words (ends.not_isIdentifier last)
  rw [readMethod, code]
  simp only [second.passSymbol closes, names]
  cases ends with
  | marked sign mark stops =>
    rcases last.uncons with ⟨next, fourth, last⟩
    rw [if_pos (fourth.symbol?.trans sign), ← fourth.next]
    exact readMarker_of_passes last mark stops
  | inline opens region final =>
    rcases last.uncons with ⟨next, fourth, last⟩
    have brace := fourth.symbol?.trans opens
    rw [if_neg (by rw [brace]; decide), if_pos brace, ← fourth.next]
    exact readBody_of_passes last region final

theorem readAssociatedType_of_passes {settings : Settings} {c d : Cursor}
    {type value : List Token} {equals stop : Token}
    (pass : c.Passes (type ++ equals :: (value ++ [stop])) d) (fits : c.Fits)
    (named : TypeForm type) (sign : equals.symbol? = some '=') (region : Region .statement value)
    (filled : value ≠ []) (ends : stop.symbol? = some ';') :
    (readAssociatedType settings c).Yields
      [.associatedType (joinTypeLexemes type) (joinLexemes value)] d := by
  rcases named.head with ⟨t, others, split, kind⟩
  have identifier : c.isIdentifier = true := by
    rw [split] at pass
    rw [Cursor.isIdentifier, Cursor.Passes.isKind _ pass, kind]
    rfl
  rcases pass.split with ⟨afterType, first, rest⟩
  rcases rest.uncons with ⟨start, second, last⟩
  have spanned := Cursor.typeName_of_passes named fits first (.of_equals second sign)
  rw [readAssociatedType, identifier, spanned]
  simp only [Place.demand, second.passSymbol sign,
    Cursor.statement_of_passes region filled ends last]
  exact ⟨rfl, rfl⟩

theorem readMember_of_typed {settings : Settings} {c d : Cursor} {type rest : List Token}
    {name : Token} (pass : c.Passes (type ++ name :: rest) d) (fits : c.Fits)
    (typed : TypeForm type) (free : NoAlias settings type) (named : name.kind = .identifier) :
    ∃ afterName, afterName.Passes rest d ∧
      readMember settings c = if afterName.symbol? = some '(' then
          readMethod settings (joinTypeLexemes type) name.lexeme afterName.next
        else readData (joinTypeLexemes type) name.lexeme afterName := by
  rcases pass.split with ⟨afterType, first, others⟩
  rcases others.uncons with ⟨afterName, second, last⟩
  refine ⟨afterName, last, ?_⟩
  have inside := first.fits fits
  have spanned := Cursor.typeName_of_passes typed fits first (.of_identifier inside second named)
  rcases typed.head with ⟨t, others, split, kind⟩
  have noAlias : c.lexeme ≠ settings.aliasKeyword := by
    intro isAlias
    rw [split] at first
    rw [Cursor.Passes.lexeme first] at isAlias
    exact free t (by rw [split]; rfl) ⟨kind, isAlias⟩
  rw [split] at first
  rcases first.uncons with ⟨next, start, _⟩
  rw [readMember, start.passIdentifier kind]
  simp only [if_neg noAlias, spanned, second.passIdentifier named, second.lexeme]

theorem NoAlias.of_append {settings : Settings} {first second : List Token}
    (free : NoAlias settings (first ++ second)) (filled : first ≠ []) : NoAlias settings first := by
  rcases List.exists_cons_of_ne_nil filled with ⟨t, rest, rfl⟩
  exact free

theorem readMember_of_passes {settings : Settings} {c d : Cursor} {span : List Token} {m : Member}
    (pass : c.Passes span d) (fits : c.Fits) (form : MemberForm settings span m) :
    (readMember settings c).Yields [m] d := by
  cases form with
  | associatedType isKeyword named sign region filled ends =>
    rcases pass.uncons with ⟨next, first, last⟩
    rw [readMember, first.passIdentifier isKeyword.1]
    simp only [first.lexeme, if_pos isKeyword.2]
    exact readAssociatedType_of_passes last (first.fits fits) named sign region filled ends
  | declared typed free named ends =>
    rcases readMember_of_typed pass fits typed free named with ⟨afterName, last, ran⟩
    rw [ran, last.symbol?, ends, if_neg (by decide)]
    exact readData_of_declared last ends
  | initialized typed free named initialForm region filled ends =>
    rcases readMember_of_typed pass fits typed free named with ⟨afterName, last, ran⟩
    have noParenthesis : afterName.symbol? ≠ some '(' := by
      rcases initialForm.symbol?_ne region filled with ⟨t, rest, rfl, _, noParenthesis⟩
      rw [Cursor.Passes.symbol? last]
      exact noParenthesis
    rw [ran, if_neg noParenthesis]
    exact readData_of_initialized last initialForm region filled ends
  | @method head tail m ended start free ends =>
    obtain @⟨type, between, arguments, attributes, name, opening, closing, returned, named, opens,
      inner, closes, words⟩ := start
    have whole : c.Passes
        (type ++ name :: opening :: (between ++ closing :: (attributes ++ tail))) d := by
      simpa using pass
    rcases returned.head with ⟨t, rest, split, _⟩
    have filled : type ≠ [] := by rw [split]; exact List.cons_ne_nil t rest
    obtain ⟨afterName, last, ran⟩ :=
      readMember_of_typed whole fits returned (free.of_append filled) named
    rcases last.uncons with ⟨next, parenthesis, last⟩
    rw [ran, if_pos (parenthesis.symbol?.trans opens), ← parenthesis.next]
    exact readMethod_of_passes last inner closes words ends

end ContractLang
