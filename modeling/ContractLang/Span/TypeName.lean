import ContractLang.Span.Code

namespace ContractLang

structure TypeSpan where
  text : String
  next : Cursor
  deriving DecidableEq, Repr

namespace Cursor

/-- The words `typename` and `template`, each of them optional, may stand before the name. -/
def componentName (c : Cursor) : Cursor :=
  (c.skipLexeme "typename").skipLexeme "template"

def typeArguments (c : Cursor) : Except SyntaxError Cursor :=
  if c.symbol? = some '<' then
    match c.next.code .generic with
    | .error e => .error e
    | .ok arguments => arguments.next.passSymbol '>' .angleEnd
  else .ok c

def typeComponent (c : Cursor) : Except SyntaxError Cursor :=
  match c.componentName.passIdentifier (.typeExpected c.componentName.lexeme) with
  | .error e => .error e
  | .ok after => after.typeArguments

theorem ahead_componentName_length_le (c : Cursor) :
    c.componentName.ahead.length ≤ c.ahead.length :=
  Nat.le_trans (ahead_skipLexeme_length_le _ _) (ahead_skipLexeme_length_le _ _)

theorem ahead_length_le_of_typeArguments (c d : Cursor) (h : c.typeArguments = .ok d) :
    d.ahead.length ≤ c.ahead.length := by
  unfold typeArguments at h
  split at h
  · split at h
    · cases h
    · rename_i arguments ran
      have opening := c.ahead_next_length_le
      have inner := ahead_length_le_of_code _ _ _ ran
      have last := ahead_length_le_of_passSymbol _ _ _ _ h
      omega
  · cases h
    exact Nat.le_refl _

theorem ahead_length_lt_of_typeComponent (c d : Cursor) (h : c.typeComponent = .ok d) :
    d.ahead.length < c.ahead.length := by
  have name := c.ahead_componentName_length_le
  unfold typeComponent at h
  split at h
  · cases h
  · rename_i after passed
    have first := ahead_length_lt_of_passIdentifier _ _ _ passed
    have last := ahead_length_le_of_typeArguments _ _ h
    omega

/-- One component, and after each double colon another one. -/
def typeComponents (c : Cursor) : Except SyntaxError Cursor :=
  match _ran : c.typeComponent with
  | .error e => .error e
  | .ok d => if d.lexeme = "::" then d.next.typeComponents else .ok d
termination_by c.ahead.length
decreasing_by
  exact Nat.lt_of_le_of_lt d.ahead_next_length_le (ahead_length_lt_of_typeComponent c d _ran)

/-- A type may start with `const` and may end in `&`, in `*`, or in both, in this order. -/
def typeName (c : Cursor) : Except SyntaxError TypeSpan :=
  match (c.skipLexeme "const").typeComponents with
  | .error e => .error e
  | .ok d =>
    let next := (d.skipSymbol '&').skipSymbol '*'
    .ok ⟨joinTypeLexemes (c.upTo next), next⟩

theorem ahead_length_lt_of_typeComponents (c d : Cursor) (h : c.typeComponents = .ok d) :
    d.ahead.length < c.ahead.length := by
  unfold typeComponents at h
  split at h
  · cases h
  · rename_i after ran
    have first := ahead_length_lt_of_typeComponent c after ran
    have colon := after.ahead_next_length_le
    split at h
    · have others := ahead_length_lt_of_typeComponents after.next d h
      omega
    · cases h
      exact first
termination_by c.ahead.length
decreasing_by omega

theorem ahead_length_lt_of_typeName (c : Cursor) (t : TypeSpan) (h : c.typeName = .ok t) :
    t.next.ahead.length < c.ahead.length := by
  have start := c.ahead_skipLexeme_length_le "const"
  unfold typeName at h
  split at h
  · cases h
  · rename_i d ran
    have components := ahead_length_lt_of_typeComponents _ _ ran
    have reference := d.ahead_skipSymbol_length_le '&'
    have pointer := (d.skipSymbol '&').ahead_skipSymbol_length_le '*'
    cases h
    simp only
    omega

end Cursor
end ContractLang
