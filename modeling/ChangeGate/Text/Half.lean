import ChangeGate.Text.Utf8

/-! # Lone halves of surrogate pairs

An escape can name one half of a surrogate pair without the other.  Such a half is no character and
has no bytes, yet it passes through texts.  It is kept as the private character whose code point
lies `0x100000` above it, and `half?` finds it again.

So the private characters from `U+10D800` to `U+10DFFF` cannot be told from halves, and a half is
sorted as the character that keeps it: behind nearly all others, not in front of `U+E000`.  This
shows where texts are put in order (`Violation.before`, `Domain.owner?`, `majority?`), and only for
texts that hold a half or one of these characters. -/

namespace ChangeGate.Text

/-- How far the character that keeps a half lies above it. -/
def halfOffset : Nat := 0x100000

/-- Whether a code unit is a half of a surrogate pair. -/
def isHalf (n : Nat) : Bool := 0xD800 ≤ n && n ≤ 0xDFFF

/-- The character of a code unit that no other completes. -/
def unitChar (n : Nat) : Char := Char.ofNat (if isHalf n then halfOffset + n else n)

/-- The half that a character keeps. -/
def half? (c : Char) : Option Nat :=
  let n := c.toNat - halfOffset
  if isHalf n then some n else none

/-- Whether a text holds a half, so that it has no bytes. -/
def hasHalf (cs : List Char) : Bool := cs.any (half? · |>.isSome)

/-! ### Names -/

/-- The bytes of a character in a name that the system is given, by the half that it keeps.  The
halves from `0xDC80` to `0xDCFF` stand for single bytes there. -/
def keptBytes? (c : Char) : Option Nat → Option (List UInt8)
  | none => some (utf8Bytes c)
  | some n => if 0xDC80 ≤ n && n ≤ 0xDCFF then some [UInt8.ofNat (n - 0xDC00)] else none

/-- The bytes of a character in a name that the system is given. -/
def nameBytesOf? (c : Char) : Option (List UInt8) := keptBytes? c (half? c)

/-- The bytes of a name that the system is given, unless a half in it stands for none. -/
def nameBytes? (cs : List Char) : Option (List UInt8) := (cs.mapM nameBytesOf?).map (·.flatten)

theorem half?_unitChar {n : Nat} (h : isHalf n = true) : half? (unitChar n) = some n := by
  have hn : 0xD800 ≤ n ∧ n ≤ 0xDFFF := by simpa [isHalf] using h
  have hv : Nat.isValidChar (halfOffset + n) := by
    simp only [Nat.isValidChar, halfOffset]
    omega
  have hc : (unitChar n).toNat = halfOffset + n := by
    rw [unitChar, if_pos h, Char.ofNat, dif_pos hv]
    rfl
  simp [half?, hc, h]

end ChangeGate.Text
