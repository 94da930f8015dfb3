import Mathlib.Data.List.Forall2
import ContractLang.Declaration.Contract
import ContractLang.Proofs.Span.TypeForm

namespace ContractLang

open MemberAttempt

/-- The tokens between the name and the semicolon of a data member, and its initial value. Only a
    value that cannot be taken for anything else may do without the equals sign. -/
inductive InitialForm : List Token → List Token → Prop
  | assigned {equals : Token} {value : List Token} (sign : equals.symbol? = some '=') :
      InitialForm (equals :: value) value
  | bare {value : List Token}
      (start : ∀ t ∈ value.head?, t.symbol? ≠ some '(' ∧ t.symbol? ≠ some '=') :
      InitialForm value value

inductive MethodHead : List Token → Method → Prop
  | mk {type between arguments attributes : List Token} {name opening closing : Token}
      (returned : TypeForm type) (named : name.kind = .identifier)
      (opens : opening.symbol? = some '(') (inner : Enclosed .statement between arguments)
      (closes : closing.symbol? = some ')') (words : ∀ t ∈ attributes, t.kind = .identifier) :
      MethodHead (type ++ name :: opening :: (between ++ closing :: attributes))
        ⟨joinTypeLexemes type, name.lexeme, joinLexemes arguments, attributes.map (·.lexeme), "",
          false, false⟩

/-- What stands for the missing body of a method, and the method with the flag that it means. Of
    two equal words the first one counts. -/
inductive MarkerForm (settings : Settings) (m : Method) : Token → Method → Prop
  | required {t : Token} (spells : t.Spells settings.requiredMarker) :
      MarkerForm settings m t { m with isRequired := true }
  | defaulted {t : Token} (spells : t.Spells settings.defaultMarker)
      (other : settings.defaultMarker ≠ settings.requiredMarker) :
      MarkerForm settings m t { m with isDefault := true }
  | zero {t : Token} (number : t.kind = .number) (zero : t.lexeme = "0") :
      MarkerForm settings m t { m with isRequired := true }

theorem readMarker_of_markerForm {settings : Settings} {m marked : Method} {marker : Token}
    {c : Cursor} (trace : List String) (found : c.place.token? = some marker)
    (mark : MarkerForm settings m marker marked) :
    readMarker settings m trace c
      = ⟨[.method marked], trace, c.next.passSymbol ';' (.markerEnd marker.lexeme)⟩ := by
  have first := Cursor.passes_next found
  rw [readMarker]
  simp only [first.lexeme, Cursor.isIdentifier, first.isKind]
  cases mark with
  | required spells =>
    rw [spells.1, spells.2]
    simp only [beq_self_eq_true, Bool.and_self, if_true]
    cases c.next.passSymbol ';' (.markerEnd settings.requiredMarker) <;> rfl
  | defaulted spells other =>
    have notRequired : (settings.defaultMarker == settings.requiredMarker) = false := by
      simpa using other
    rw [spells.1, spells.2]
    simp only [beq_self_eq_true, notRequired, Bool.and_self, Bool.and_false, if_true]
    cases c.next.passSymbol ';' (.markerEnd settings.defaultMarker) <;> rfl
  | zero number zero =>
    rw [number, zero]
    cases c.next.passSymbol ';' (.markerEnd "0") <;> rfl

theorem markerForm_or_failed (settings : Settings) (m : Method) (trace : List String)
    (c : Cursor) :
    (∃ marker marked, c.place.token? = some marker ∧ MarkerForm settings m marker marked) ∨
    readMarker settings m trace c = failedAt (.method m) trace
      ⟨.markerExpected settings.requiredMarker settings.defaultMarker, c.place⟩ := by
  cases found : c.place.token? with
  | none =>
    refine .inr ?_
    simp [readMarker, Cursor.isIdentifier, Place.isKind, found]
  | some marker =>
    have first := Cursor.passes_next found
    by_cases required : marker.Spells settings.requiredMarker
    · exact .inl ⟨marker, _, rfl, .required required⟩
    · by_cases defaulted : marker.Spells settings.defaultMarker
      · refine .inl ⟨marker, _, rfl, .defaulted defaulted ?_⟩
        intro same
        rw [same] at defaulted
        exact required defaulted
      · by_cases zero : marker.kind = .number ∧ marker.lexeme = "0"
        · exact .inl ⟨marker, _, rfl, .zero zero.1 zero.2⟩
        · refine .inr ?_
          rw [Token.Spells] at required defaulted
          simp [readMarker, first.lexeme, Cursor.isIdentifier, first.isKind, required, defaulted,
            zero]

inductive MethodEnd (settings : Settings) (m : Method) : List Token → Method → Prop
  | marked {equals marker stop : Token} {marked : Method} (sign : equals.symbol? = some '=')
      (mark : MarkerForm settings m marker marked) (ends : stop.symbol? = some ';') :
      MethodEnd settings m [equals, marker, stop] marked
  | inline {body : List Token} {opening closing : Token} (opens : opening.symbol? = some '\x7b')
      (region : Region .body body) (closes : closing.symbol? = some '\x7d') :
      MethodEnd settings m (opening :: (body ++ [closing])) { m with body := joinLexemes body }

theorem MethodEnd.head_eq {settings : Settings} {m ended : Method} {tail : List Token}
    (form : MethodEnd settings m tail ended) :
    ended.returnType = m.returnType ∧ ended.name = m.name ∧ ended.arguments = m.arguments := by
  cases form with
  | marked sign mark ends => cases mark <;> exact ⟨rfl, rfl, rfl⟩
  | inline opens region closes => exact ⟨rfl, rfl, rfl⟩

def NoAlias (settings : Settings) (span : List Token) : Prop :=
  ∀ t ∈ span.head?, ¬ t.Spells settings.aliasKeyword

inductive MemberForm (settings : Settings) : List Token → Member → Prop
  | associatedType {type value : List Token} {keyword equals stop : Token}
      (isKeyword : keyword.Spells settings.aliasKeyword) (named : TypeForm type)
      (sign : equals.symbol? = some '=') (region : Region .statement value) (filled : value ≠ [])
      (ends : stop.symbol? = some ';') :
      MemberForm settings (keyword :: (type ++ equals :: (value ++ [stop])))
        (.associatedType (joinTypeLexemes type) (joinLexemes value))
  | declared {type : List Token} {name stop : Token} (typed : TypeForm type)
      (free : NoAlias settings type) (named : name.kind = .identifier)
      (ends : stop.symbol? = some ';') :
      MemberForm settings (type ++ [name, stop])
        (.data (joinTypeLexemes type) name.lexeme "")
  | initialized {type initial value : List Token} {name stop : Token} (typed : TypeForm type)
      (free : NoAlias settings type) (named : name.kind = .identifier)
      (form : InitialForm initial value) (region : Region .statement value) (filled : value ≠ [])
      (ends : stop.symbol? = some ';') :
      MemberForm settings (type ++ name :: (initial ++ [stop]))
        (.data (joinTypeLexemes type) name.lexeme (joinLexemes value))
  | method {head tail : List Token} {m ended : Method} (form : MethodHead head m)
      (free : NoAlias settings head) (ends : MethodEnd settings m tail ended) :
      MemberForm settings (head ++ tail) (.method ended)

/-- The tokens of a contract up to its opening brace, its name and its base. -/
inductive ContractHeader (settings : Settings) : List Token → String → String → Prop
  | mk {keyword name colon base opening : Token}
      (isKeyword : keyword.Spells settings.contractKeyword) (named : name.kind = .identifier)
      (colonNext : colon.symbol? = some ':') (based : base.kind = .identifier)
      (opens : opening.symbol? = some '\x7b') :
      ContractHeader settings [keyword, name, colon, base, opening] name.lexeme base.lexeme

/-- The tokens of a contract: its header, the spans of its members one after another, and its end. -/
inductive ContractForm (settings : Settings) : List Token → Contract → Prop
  | mk {header : List Token} {spans : List (List Token)} {name base : String}
      {members : List Member} {closing stop : Token}
      (start : ContractHeader settings header name base)
      (declared : List.Forall₂ (MemberForm settings) spans members)
      (closes : closing.symbol? = some '\x7d') (ends : stop.symbol? = some ';') :
      ContractForm settings (header ++ (spans.flatten ++ [closing, stop])) ⟨name, base, members⟩

end ContractLang
