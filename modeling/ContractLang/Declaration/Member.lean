import ContractLang.Declaration.Attempt
import ContractLang.Declaration.Trace
import ContractLang.Settings.Basic
import ContractLang.Span.Statement
import ContractLang.Span.TypeName

namespace ContractLang

abbrev MemberAttempt := Attempt (List Member)

namespace MemberAttempt

def failedAt (m : Member) (trace : List String) (e : SyntaxError) : MemberAttempt :=
  .failed [m] trace e

def doneAt (m : Member) (trace : List String) (next : Cursor) : MemberAttempt :=
  .done [m] trace next

end MemberAttempt

open MemberAttempt

def readAssociatedType (settings : Settings) (c : Cursor) : MemberAttempt :=
  match c.place.demand c.isIdentifier (.aliasName settings.aliasKeyword) with
  | .error e => .failed [] [] e
  | .ok () =>
  match c.typeName with
  | .error e => failedAt (.associatedType "" "") [] e
  | .ok type =>
  let named := [Trace.associatedType type.text]
  match type.next.passSymbol '=' .aliasValue with
  | .error e => failedAt (.associatedType type.text "") named e
  | .ok start =>
  match start.statement .aliasEnd with
  | .error e => failedAt (.associatedType type.text "") named e
  | .ok value =>
    doneAt (.associatedType type.text value.text) (named ++ [Trace.value value.text]) value.next

/-- Reads on after the name of a data member. The equals sign before an initial value may be
    left out. -/
def readData (type name : String) (c : Cursor) : MemberAttempt :=
  let named := [Trace.data type name]
  if c.symbol? = some ';' then doneAt (.data type name "") named c.next
  else
    match (c.skipSymbol '=').statement .dataEnd with
    | .error e => failedAt (.data type name "") named e
    | .ok initial =>
      doneAt (.data type name initial.text) (named ++ [Trace.initial initial.text]) initial.next

/-- Reads the word after the equals sign of a method that has no body. The number 0 means the
    same as the first marker, which also wins if both markers are the same word. -/
def readMarker (settings : Settings) (m : Method) (trace : List String) (c : Cursor) :
    MemberAttempt :=
  let word := c.isIdentifier
  let marker := c.lexeme
  let marked? :=
    if word && marker == settings.requiredMarker then some { m with isRequired := true }
    else if word && marker == settings.defaultMarker then some { m with isDefault := true }
    else if c.place.isKind .number && marker == "0" then some { m with isRequired := true }
    else none
  match marked? with
  | none =>
    failedAt (.method m) trace
      ⟨.markerExpected settings.requiredMarker settings.defaultMarker, c.place⟩
  | some marked =>
  match c.next.passSymbol ';' (.markerEnd marker) with
  | .error e => failedAt (.method marked) trace e
  | .ok next => doneAt (.method marked) trace next

def readBody (m : Method) (trace : List String) (c : Cursor) : MemberAttempt :=
  match c.code .body with
  | .error e => failedAt (.method m) trace e
  | .ok code =>
  let filled := { m with body := code.text }
  let traced := trace ++ [Trace.body code.text]
  match code.next.passSymbol '\x7d' (.bodyEnd code.next.lexeme) with
  | .error e => failedAt (.method filled) traced e
  | .ok next => doneAt (.method filled) traced next

def readMethod (settings : Settings) (returnType name : String) (c : Cursor) : MemberAttempt :=
  let m := Method.declared returnType name
  match c.code .statement with
  | .error e => failedAt (.method m) [] e
  | .ok arguments =>
  let m := { m with arguments := arguments.text }
  match arguments.next.passSymbol ')' .argumentsEnd with
  | .error e => failedAt (.method m) [] e
  | .ok afterArguments =>
  let (attributes, afterAttributes) := afterArguments.names
  let m := { m with attributes := attributes }
  let trace := [Trace.method returnType name m.arguments, Trace.attributes attributes]
  if afterAttributes.symbol? = some '=' then readMarker settings m trace afterAttributes.next
  else if afterAttributes.symbol? = some '\x7b' then readBody m trace afterAttributes.next
  else failedAt (.method m) trace ⟨.bodyExpected, afterAttributes.place⟩

/-- Reads one member. After its type and name a parenthesis makes it a method. -/
def readMember (settings : Settings) (c : Cursor) : MemberAttempt :=
  match c.passIdentifier .memberExpected with
  | .error e => .failed [] [] e
  | .ok afterKeyword =>
  if c.lexeme = settings.aliasKeyword then readAssociatedType settings afterKeyword
  else
    match c.typeName with
    | .error e => .failed [] [] e
    | .ok type =>
    match type.next.passIdentifier .memberName with
    | .error e => .failed [] [] e
    | .ok afterName =>
      let name := type.next.lexeme
      if afterName.symbol? = some '(' then readMethod settings type.text name afterName.next
      else readData type.text name afterName

theorem ahead_length_le_of_readData (type name : String) (c d : Cursor)
    (h : (readData type name c).outcome = .ok d) : d.ahead.length ≤ c.ahead.length := by
  simp only [readData] at h
  split at h
  · cases h
    exact c.ahead_next_length_le
  · split at h
    · cases h
    · rename_i initial ran
      have value := Cursor.ahead_length_le_of_statement _ _ _ ran
      have equals := c.ahead_skipSymbol_length_le '='
      cases h
      omega

theorem ahead_length_le_of_readAssociatedType (settings : Settings) (c d : Cursor)
    (h : (readAssociatedType settings c).outcome = .ok d) : d.ahead.length ≤ c.ahead.length := by
  simp only [readAssociatedType] at h
  split at h
  · cases h
  · split at h
    · cases h
    · rename_i type spanned
      have name := Cursor.ahead_length_lt_of_typeName _ _ spanned
      split at h
      · cases h
      · rename_i start passed
        have equals := Cursor.ahead_length_le_of_passSymbol _ _ _ _ passed
        split at h
        · cases h
        · rename_i value ran
          have rest := Cursor.ahead_length_le_of_statement _ _ _ ran
          cases h
          omega

theorem ahead_length_le_of_readMarker (settings : Settings) (m : Method) (trace : List String)
    (c d : Cursor) (h : (readMarker settings m trace c).outcome = .ok d) :
    d.ahead.length ≤ c.ahead.length := by
  simp only [readMarker] at h
  split at h
  · cases h
  · split at h
    · cases h
    · rename_i next passed
      have marker := c.ahead_next_length_le
      have semicolon := Cursor.ahead_length_le_of_passSymbol _ _ _ _ passed
      cases h
      omega

theorem ahead_length_le_of_readBody (m : Method) (trace : List String) (c d : Cursor)
    (h : (readBody m trace c).outcome = .ok d) : d.ahead.length ≤ c.ahead.length := by
  simp only [readBody] at h
  split at h
  · cases h
  · rename_i code ran
    have inner := c.ahead_length_le_of_code _ _ ran
    split at h
    · cases h
    · rename_i next passed
      have brace := Cursor.ahead_length_le_of_passSymbol _ _ _ _ passed
      cases h
      omega

theorem ahead_length_le_of_readMethod (settings : Settings) (returnType name : String)
    (c d : Cursor) (h : (readMethod settings returnType name c).outcome = .ok d) :
    d.ahead.length ≤ c.ahead.length := by
  simp only [readMethod] at h
  split at h
  · cases h
  · rename_i arguments ran
    have inner := c.ahead_length_le_of_code _ _ ran
    split at h
    · cases h
    · rename_i afterArguments passed
      have parenthesis := Cursor.ahead_length_le_of_passSymbol _ _ _ _ passed
      have run : afterArguments.names.2.ahead.length ≤ afterArguments.ahead.length := by
        simp [Cursor.names, Cursor.advance]
      have sign := afterArguments.names.2.ahead_next_length_le
      split at h
      · have marker := ahead_length_le_of_readMarker _ _ _ _ _ h
        omega
      · split at h
        · have body := ahead_length_le_of_readBody _ _ _ _ h
          omega
        · cases h

theorem ahead_length_lt_of_readMember (settings : Settings) (c d : Cursor)
    (h : (readMember settings c).outcome = .ok d) : d.ahead.length < c.ahead.length := by
  simp only [readMember] at h
  split at h
  · cases h
  · rename_i afterKeyword passed
    have keyword := Cursor.ahead_length_lt_of_passIdentifier _ _ _ passed
    split at h
    · have rest := ahead_length_le_of_readAssociatedType _ _ _ h
      omega
    · split at h
      · cases h
      · rename_i type spanned
        have start := Cursor.ahead_length_lt_of_typeName _ _ spanned
        split at h
        · cases h
        · rename_i afterName named
          have name := Cursor.ahead_length_lt_of_passIdentifier _ _ _ named
          split at h
          · have parenthesis := afterName.ahead_next_length_le
            have rest := ahead_length_le_of_readMethod _ _ _ _ _ h
            omega
          · have rest := ahead_length_le_of_readData _ _ _ _ h
            omega

end ContractLang
