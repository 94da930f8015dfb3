import ContractLang.Span.Code

namespace ContractLang

def ScanMode.betweenAngles : ScanMode := ⟨true, true⟩

/-- Tokens that leave a reader where it is in the nesting of brackets. -/
def Role.isOrdinary (mode : ScanMode) : Role → Bool
  | .plain => true
  | .semicolon => mode.multiline
  | .opens .angle | .closes .angle => !mode.angles
  | .opens _ | .closes _ => false

/-- Tokens in which all brackets are closed. Angles count as brackets only where the mode matches
    them, and never inside other brackets; a semicolon outside of brackets needs a mode for several
    lines. -/
inductive Region : ScanMode → List Token → Prop
  | nil {mode : ScanMode} : Region mode []
  | cons {mode : ScanMode} {t : Token} {tokens : List Token}
      (ordinary : t.role.isOrdinary mode = true) (rest : Region mode tokens) :
      Region mode (t :: tokens)
  | group {mode : ScanMode} {bracket : Bracket} {opening closing : Token}
      {inside tokens : List Token} (firm : bracket ≠ .angle)
      (opens : opening.role = .opens bracket) (closes : closing.role = .closes bracket)
      (inner : Region .body inside) (rest : Region mode tokens) :
      Region mode (opening :: inside ++ closing :: tokens)
  | angles {mode : ScanMode} {opening closing : Token} {inside tokens : List Token}
      (matched : mode.angles = true)
      (opens : opening.role = .opens .angle) (closes : closing.role = .closes .angle)
      (inner : Region .betweenAngles inside) (rest : Region mode tokens) :
      Region mode (opening :: inside ++ closing :: tokens)

theorem Region.append {mode : ScanMode} {first second : List Token}
    (left : Region mode first) (right : Region mode second) : Region mode (first ++ second) := by
  induction left with
  | nil => exact right
  | cons ordinary rest ih => exact .cons ordinary (ih right)
  | group firm opens closes inner rest innerIh ih =>
    rw [List.append_assoc, List.cons_append]
    exact .group firm opens closes inner (ih right)
  | angles matched opens closes inner rest innerIh ih =>
    rw [List.append_assoc, List.cons_append]
    exact .angles matched opens closes inner (ih right)

theorem Role.isOrdinary_body_of_isOrdinary {mode : ScanMode} {role : Role}
    (ordinary : role.isOrdinary mode = true) : role.isOrdinary .body = true := by
  cases role with
  | plain => rfl
  | semicolon => rfl
  | opens bracket => cases bracket <;> first | rfl | cases ordinary
  | closes bracket => cases bracket <;> first | rfl | cases ordinary

/-- Whatever the mode, round, square and curly brackets are well nested. -/
theorem Region.toBody {mode : ScanMode} {tokens : List Token} (region : Region mode tokens) :
    Region .body tokens := by
  induction region with
  | nil => exact .nil
  | cons ordinary rest ih => exact .cons (Role.isOrdinary_body_of_isOrdinary ordinary) ih
  | group firm opens closes inner rest innerIh ih => exact .group firm opens closes inner ih
  | angles matched opens closes inner rest innerIh ih =>
    apply Region.cons
    · rw [opens]; rfl
    · apply innerIh.append
      apply Region.cons
      · rw [closes]; rfl
      · exact ih

end ContractLang
