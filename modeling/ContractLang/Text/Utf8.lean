import ContractLang.Text.Hex

namespace ContractLang.Text.Utf8

inductive Reason where
  | invalidStart
  | invalidContinuation
  | unexpectedEnd
  deriving DecidableEq, Repr

/-- The first sequence of bytes that is no character: where it starts, its bytes as far as they
    could still belong to a character (at least one), and what is wrong after them. -/
structure DecodeError where
  start : Nat
  bytes : List UInt8
  reason : Reason
  deriving DecidableEq, Repr

def Reason.text : Reason → String
  | .invalidStart => "invalid start byte"
  | .invalidContinuation => "invalid continuation byte"
  | .unexpectedEnd => "unexpected end of data"

def DecodeError.message (e : DecodeError) : String :=
  let site := match e.bytes with
    | [b] => "byte 0x" ++ String.ofList (fixedHex 2 b.toNat) ++ " in position " ++ toString e.start
    | bytes => "bytes in position " ++ toString e.start ++ "-"
        ++ toString (e.start + bytes.length - 1)
  "'utf-8' codec can't decode " ++ site ++ ": " ++ e.reason.text

/-- A character whose first bytes have been read: the value of these, how many bytes are still
    due (at least one), and the closed range in which the next one has to lie. -/
structure Pending where
  start : Nat
  bytes : List UInt8
  value : Nat
  due : Nat
  least : UInt8
  greatest : UInt8

inductive Lead where
  | whole (value : Nat)
  | opens (value due : Nat) (least greatest : UInt8)
  | invalid

/-- The ranges of the second byte leave out overlong forms, surrogates and what lies beyond
    U+10FFFF. -/
def lead (b : UInt8) : Lead :=
  if b < 0x80 then .whole b.toNat
  else if b < 0xC2 then .invalid
  else if b < 0xE0 then .opens (b.toNat - 0xC0) 1 0x80 0xBF
  else if b = 0xE0 then .opens 0 2 0xA0 0xBF
  else if b = 0xED then .opens 13 2 0x80 0x9F
  else if b < 0xF0 then .opens (b.toNat - 0xE0) 2 0x80 0xBF
  else if b = 0xF0 then .opens 0 3 0x90 0xBF
  else if b < 0xF4 then .opens (b.toNat - 0xF0) 3 0x80 0xBF
  else if b = 0xF4 then .opens 4 3 0x80 0x8F
  else .invalid

def decodeFrom (position : Nat) : Option Pending → List UInt8 → Except DecodeError (List Char)
  | none, [] => .ok []
  | some p, [] => .error ⟨p.start, p.bytes, .unexpectedEnd⟩
  | none, b :: rest =>
    match lead b with
    | .whole value => (decodeFrom (position + 1) none rest).map (Char.ofNat value :: ·)
    | .opens value due least greatest =>
      decodeFrom (position + 1) (some ⟨position, [b], value, due, least, greatest⟩) rest
    | .invalid => .error ⟨position, [b], .invalidStart⟩
  | some p, b :: rest =>
    if p.least ≤ b ∧ b ≤ p.greatest then
      let value := 64 * p.value + b.toNat % 64
      if p.due ≤ 1 then (decodeFrom (position + 1) none rest).map (Char.ofNat value :: ·)
      else
        decodeFrom (position + 1)
          (some ⟨p.start, p.bytes ++ [b], value, p.due - 1, 0x80, 0xBF⟩) rest
    else .error ⟨p.start, p.bytes, .invalidContinuation⟩

def decode (bytes : List UInt8) : Except DecodeError (List Char) :=
  decodeFrom 0 none bytes

def trailByte (n : Nat) : UInt8 := UInt8.ofNat (0x80 + n % 64)

def encodeChar (c : Char) : List UInt8 :=
  let n := c.toNat
  if n < 0x80 then [UInt8.ofNat n]
  else if n < 0x800 then [UInt8.ofNat (0xC0 + n / 64), trailByte n]
  else if n < 0x10000 then
    [UInt8.ofNat (0xE0 + n / 4096), trailByte (n / 64), trailByte n]
  else
    [UInt8.ofNat (0xF0 + n / 262144), trailByte (n / 4096), trailByte (n / 64), trailByte n]

def encode (cs : List Char) : List UInt8 := cs.flatMap encodeChar

end ContractLang.Text.Utf8
