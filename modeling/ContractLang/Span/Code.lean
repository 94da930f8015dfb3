import ContractLang.Cursor
import ContractLang.Span.Bracket

namespace ContractLang

structure Opening where
  bracket : Bracket
  position : Nat
  token : Token
  deriving DecidableEq, Repr

namespace Opening

def unclosed (o : Opening) : SyntaxError :=
  ⟨.unclosed o.bracket.opener, ⟨o.position, some o.token⟩⟩

def mismatched (o : Opening) (closer : Bracket) : Complaint :=
  .mismatched closer.closer o.bracket.opener o.bracket.closer o.position

end Opening

/-- `angles`: `<` and `>` may be brackets. `multiline`: a semicolon does not end the code. -/
structure ScanMode where
  angles : Bool
  multiline : Bool
  deriving DecidableEq, Repr

namespace ScanMode

def statement : ScanMode := ⟨false, false⟩

def body : ScanMode := ⟨false, true⟩

def generic : ScanMode := ⟨true, false⟩

end ScanMode

inductive Ending where
  | semicolon
  | closer
  | endOfInput
  deriving DecidableEq, Repr

/-- The tokens of a piece of code, why it ends, and where reading goes on: after the semicolon
    that ends it, which is not part of it, or before the unmatched closing bracket. -/
structure Stretch where
  tokens : List Token
  ending : Ending
  next : Cursor
  deriving DecidableEq, Repr

namespace Stretch

def text (s : Stretch) : String := joinLexemes s.tokens

def cons (t : Token) (s : Stretch) : Stretch := { s with tokens := t :: s.tokens }

end Stretch

/-- A `<` that no `>` has closed was a comparison. -/
def dropAngles : List Opening → List Opening
  | [] => []
  | o :: rest => if o.bracket = .angle then dropAngles rest else o :: rest

/-- A `>` closes a `<` only if that is the innermost opening: inside other brackets it is a
    comparison. -/
def closeAngle : List Opening → List Opening
  | [] => []
  | o :: rest => if o.bracket = .angle then rest else o :: rest

/-- Reads code on from a position, with the openings since its start, innermost first. -/
def stretchFrom (mode : ScanMode) (opened : List Opening) (position : Nat) :
    List Token → Except SyntaxError Stretch
  | [] =>
    match opened with
    | [] => .ok ⟨[], .endOfInput, ⟨position, []⟩⟩
    | o :: _ => .error o.unclosed
  | t :: rest =>
    match t.role with
    | .plain => (stretchFrom mode opened (position + 1) rest).map (.cons t)
    | .semicolon =>
      if opened.isEmpty && !mode.multiline then .ok ⟨[], .semicolon, ⟨position + 1, rest⟩⟩
      else (stretchFrom mode opened (position + 1) rest).map (.cons t)
    | .opens bracket =>
      let opened := if bracket = .angle && !mode.angles then opened
        else ⟨bracket, position, t⟩ :: opened
      (stretchFrom mode opened (position + 1) rest).map (.cons t)
    | .closes .angle =>
      if !mode.angles then (stretchFrom mode opened (position + 1) rest).map (.cons t)
      else if opened.isEmpty then .ok ⟨[], .closer, ⟨position, t :: rest⟩⟩
      else (stretchFrom mode (closeAngle opened) (position + 1) rest).map (.cons t)
    | .closes bracket =>
      match dropAngles opened with
      | [] => .ok ⟨[], .closer, ⟨position, t :: rest⟩⟩
      | o :: opened =>
        if o.bracket = bracket then (stretchFrom mode opened (position + 1) rest).map (.cons t)
        else .error ⟨o.mismatched bracket, ⟨position, some t⟩⟩

/-- The code ahead, up to a semicolon outside of brackets, a closing bracket that it does not
    open, or the end. -/
def Cursor.code (c : Cursor) (mode : ScanMode) : Except SyntaxError Stretch :=
  stretchFrom mode [] c.position c.ahead

/-- The tokens ahead of a position are those of the stretch, its semicolon if it ends at one, and
    those it leaves. -/
def Stretch.Covers (s : Stretch) (position : Nat) (ahead : List Token) : Prop :=
  match s.ending with
  | .semicolon => ∃ t, t.role = .semicolon ∧ ahead = s.tokens ++ t :: s.next.ahead
      ∧ s.next.position = position + s.tokens.length + 1
  | .closer | .endOfInput => ahead = s.tokens ++ s.next.ahead
      ∧ s.next.position = position + s.tokens.length

theorem Stretch.Covers.cons {s : Stretch} {position : Nat} {ahead : List Token} (t : Token)
    (covers : s.Covers (position + 1) ahead) : (s.cons t).Covers position (t :: ahead) := by
  unfold Stretch.Covers at covers ⊢
  cases ending : s.ending <;> simp only [Stretch.cons, ending] at covers ⊢
  · obtain ⟨stop, role, rfl, place⟩ := covers
    exact ⟨stop, role, rfl, by rw [place, List.length_cons]; omega⟩
  all_goals
    obtain ⟨rfl, place⟩ := covers
    exact ⟨rfl, by rw [place, List.length_cons]; omega⟩

theorem covers_of_map_cons {r : Except SyntaxError Stretch} {s : Stretch} {position : Nat}
    {ahead : List Token} (t : Token)
    (covers : ∀ tail, r = .ok tail → tail.Covers (position + 1) ahead)
    (h : r.map (.cons t) = .ok s) : s.Covers position (t :: ahead) := by
  cases r with
  | error e => cases h
  | ok tail => cases h; exact (covers tail rfl).cons t

theorem stretchFrom_covers (mode : ScanMode) (opened : List Opening) (position : Nat)
    (ahead : List Token) (s : Stretch) (h : stretchFrom mode opened position ahead = .ok s) :
    s.Covers position ahead := by
  induction ahead generalizing opened position s with
  | nil =>
    cases opened with
    | nil => cases h; exact ⟨rfl, rfl⟩
    | cons o opened => cases h
  | cons t rest ih =>
    unfold stretchFrom at h
    split at h
    · exact covers_of_map_cons t (ih _ _) h
    · split at h
      · cases h; exact ⟨t, by assumption, rfl, rfl⟩
      · exact covers_of_map_cons t (ih _ _) h
    · exact covers_of_map_cons t (ih _ _) h
    · split at h
      · exact covers_of_map_cons t (ih _ _) h
      · split at h
        · cases h; exact ⟨rfl, rfl⟩
        · exact covers_of_map_cons t (ih _ _) h
    · split at h
      · cases h; exact ⟨rfl, rfl⟩
      · split at h
        · exact covers_of_map_cons t (ih _ _) h
        · cases h

theorem Cursor.ahead_length_le_of_code (c : Cursor) (mode : ScanMode) (s : Stretch)
    (h : c.code mode = .ok s) : s.next.ahead.length ≤ c.ahead.length := by
  have covers := stretchFrom_covers mode [] c.position c.ahead s h
  unfold Stretch.Covers at covers
  cases ending : s.ending <;> simp only [ending] at covers
  · obtain ⟨t, _, split, _⟩ := covers
    simp only [split, List.length_append, List.length_cons]
    omega
  all_goals
    obtain ⟨split, _⟩ := covers
    simp only [split, List.length_append]
    omega

end ContractLang
