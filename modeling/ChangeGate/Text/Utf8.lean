/-! # Text as bytes

`encodeUtf8` writes a text as UTF-8 and `decodeUtf8` reads it back; bytes that are no UTF-8 are
refused at the first byte of the sequence that fails. -/

namespace ChangeGate.Text

/-- How a sequence of bytes fails to be UTF-8. -/
inductive Utf8Flaw
  | badStart
  | badContinuation
  | cutShort
  deriving DecidableEq, Repr

/-- The wording of a flaw. -/
def Utf8Flaw.reason : Utf8Flaw → String
  | .badStart => "invalid start byte"
  | .badContinuation => "invalid continuation byte"
  | .cutShort => "unexpected end of data"

/-- The bytes of one character. -/
def utf8Bytes (c : Char) : List UInt8 :=
  let n := c.toNat
  if n < 0x80 then [UInt8.ofNat n]
  else if n < 0x800 then [UInt8.ofNat (0xC0 + n / 0x40), UInt8.ofNat (0x80 + n % 0x40)]
  else if n < 0x10000 then
    [UInt8.ofNat (0xE0 + n / 0x1000), UInt8.ofNat (0x80 + n / 0x40 % 0x40),
     UInt8.ofNat (0x80 + n % 0x40)]
  else
    [UInt8.ofNat (0xF0 + n / 0x40000), UInt8.ofNat (0x80 + n / 0x1000 % 0x40),
     UInt8.ofNat (0x80 + n / 0x40 % 0x40), UInt8.ofNat (0x80 + n % 0x40)]

/-- The bytes of a text. -/
def encodeUtf8 (cs : List Char) : List UInt8 := cs.flatMap utf8Bytes

/-- A byte that starts a sequence: the bits it gives, how many bytes follow, and the bounds of
the byte after it. -/
def leadByte? (b : UInt8) : Option (Nat × Nat × Nat × Nat) :=
  let n := b.toNat
  if n < 0xC2 then none
  else if n < 0xE0 then some (n - 0xC0, 1, 0x80, 0xBF)
  else if n = 0xE0 then some (0, 2, 0xA0, 0xBF)
  else if n = 0xED then some (0xD, 2, 0x80, 0x9F)
  else if n < 0xF0 then some (n - 0xE0, 2, 0x80, 0xBF)
  else if n = 0xF0 then some (0, 3, 0x90, 0xBF)
  else if n < 0xF4 then some (n - 0xF0, 3, 0x80, 0xBF)
  else if n = 0xF4 then some (4, 3, 0x80, 0x8F)
  else none

/-- What a decoder is in the middle of: the bits read of a character, how many bytes it still
needs, the bounds of the next one, and where the character started. -/
structure Pending where
  bits : Nat
  missing : Nat
  low : Nat
  high : Nat
  start : Nat

/-- The characters of the bytes that follow those read so far. -/
def decodeFrom (position : Nat) (pending : Option Pending) :
    List UInt8 → Except (Utf8Flaw × Nat) (List Char)
  | [] =>
    match pending with
    | none => .ok []
    | some p => .error (.cutShort, p.start)
  | b :: bs =>
    match pending with
    | none =>
      if b.toNat < 0x80 then
        (decodeFrom (position + 1) none bs).map (Char.ofNat b.toNat :: ·)
      else
        match leadByte? b with
        | none => .error (.badStart, position)
        | some (bits, missing, low, high) =>
          decodeFrom (position + 1) (some ⟨bits, missing, low, high, position⟩) bs
    | some p =>
      if b.toNat < p.low || p.high < b.toNat then .error (.badContinuation, p.start)
      else
        let bits := p.bits * 0x40 + (b.toNat - 0x80)
        if p.missing ≤ 1 then (decodeFrom (position + 1) none bs).map (Char.ofNat bits :: ·)
        else decodeFrom (position + 1) (some ⟨bits, p.missing - 1, 0x80, 0xBF, p.start⟩) bs

/-- The text that bytes write, or the first flaw and the position of its character. -/
def decodeUtf8 (bs : List UInt8) : Except (Utf8Flaw × Nat) (List Char) := decodeFrom 0 none bs

end ChangeGate.Text
