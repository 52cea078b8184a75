import ChangeGate.Files.Basic
import Mathlib.Data.Nat.Digits.Defs

/-! # Texts of ASCII

Characters of ASCII are no halves of surrogate pairs and have one byte each, so names of ASCII can
be passed to the system.  Numerals are ASCII. -/

namespace ChangeGate

namespace Text

variable {c : Char} {cs ds : List Char}

/-! ### Halves -/

/-- Below the first character that keeps a half, all characters have bytes. -/
theorem half?_of_lt (h : c.toNat < halfOffset + 0xD800) : half? c = none := by
  have hlow : isHalf (c.toNat - halfOffset) = false := by
    rw [isHalf, decide_eq_false (by omega), Bool.false_and]
  simp [half?, hlow]

theorem hasHalf_cons : hasHalf (c :: cs) = ((half? c).isSome || hasHalf cs) := List.any_cons

theorem hasHalf_append : hasHalf (cs ++ ds) = (hasHalf cs || hasHalf ds) := List.any_append

/-! ### Characters of ASCII -/

/-- Whether a character is one of ASCII and not null. -/
def isAscii (c : Char) : Bool := 0 < c.toNat && c.toNat < 0x80

theorem isAscii_iff : isAscii c = true ↔ 0 < c.toNat ∧ c.toNat < 0x80 := by
  simp [isAscii]

theorem half?_of_isAscii (h : isAscii c = true) : half? c = none := by
  have hascii := (isAscii_iff.mp h).2
  exact half?_of_lt (by omega)

theorem hasHalf_cons_of_isAscii (h : isAscii c = true) : hasHalf (c :: cs) = hasHalf cs := by
  rw [hasHalf_cons, half?_of_isAscii h, Option.isSome_none, Bool.false_or]

theorem hasHalf_of_isAscii (h : cs.all isAscii = true) : hasHalf cs = false := by
  rw [List.all_eq_true] at h
  rw [hasHalf, List.any_eq_false]
  intro c hc
  rw [half?_of_isAscii (h c hc)]
  exact Bool.false_ne_true

theorem nameBytesOf?_of_isAscii (h : isAscii c = true) :
    nameBytesOf? c = some [UInt8.ofNat c.toNat] := by
  rw [nameBytesOf?, half?_of_isAscii h, keptBytes?, utf8Bytes]
  exact congrArg some (if_pos (isAscii_iff.mp h).2)

theorem mapM_nameBytesOf? (h : ∀ c ∈ cs, isAscii c = true) :
    cs.mapM nameBytesOf? = some (cs.map fun c => [UInt8.ofNat c.toNat]) := by
  induction cs with
  | nil => rfl
  | cons c cs ih =>
      obtain ⟨hc, hcs⟩ := List.forall_mem_cons.mp h
      rw [List.mapM_cons, nameBytesOf?_of_isAscii hc, ih hcs]
      rfl

/-! ### Numerals -/

theorem isAscii_of_isDigit (h : c.isDigit = true) : isAscii c = true := by
  have hdigit := Char.isDigit_iff_toNat.mp h
  have hlow : 0 < '0'.toNat := by decide
  have hhigh : '9'.toNat < 0x80 := by decide
  exact isAscii_iff.mpr ⟨hlow.trans_le hdigit.1, hdigit.2.trans_lt hhigh⟩

theorem isDigit_of_mem_toDigits {n : Nat} (h : c ∈ Nat.toDigits 10 n) : c.isDigit = true :=
  Nat.isDigit_of_mem_toDigits (by omega) (by omega) h

/-- The numeral of a whole number is made of digits and perhaps a sign. -/
theorem eq_or_isDigit_of_mem_toString {n : Int} (h : c ∈ (toString n).toList) :
    c = '-' ∨ c.isDigit = true := by
  have hrepr (k : Nat) (hc : c ∈ k.repr.toList) : c.isDigit = true := by
    rw [Nat.toList_repr] at hc
    exact isDigit_of_mem_toDigits hc
  rw [Int.toString_eq_repr] at h
  cases n with
  | ofNat k => exact .inr (hrepr k h)
  | negSucc k =>
      rw [Int.repr, String.toList_append] at h
      exact (List.mem_append.mp h).imp List.mem_singleton.mp (hrepr _)

theorem all_isAscii_toDigits (n : Nat) : (Nat.toDigits 10 n).all isAscii = true := by
  rw [List.all_eq_true]
  exact fun c hc => isAscii_of_isDigit (isDigit_of_mem_toDigits hc)

theorem all_isAscii_toString (n : Int) : (toString n).toList.all isAscii = true := by
  rw [List.all_eq_true]
  intro c hc
  rcases eq_or_isDigit_of_mem_toString hc with rfl | hdigit
  · rfl
  · exact isAscii_of_isDigit hdigit

end Text

/-- Two names one behind the other can be passed if both can. -/
theorem Files.nameFault?_append_eq_none_iff {a b : String} :
    nameFault? (a ++ b) = none ↔ nameFault? a = none ∧ nameFault? b = none := by
  simp only [nameFault?, Text.nameBytes?, String.toList_append, List.mapM_append]
  cases a.toList.mapM Text.nameBytesOf? <;> cases b.toList.mapM Text.nameBytesOf? <;> simp

/-- A name of ASCII can be passed. -/
theorem Files.nameFault?_eq_none {name : String} (h : name.toList.all Text.isAscii = true) :
    nameFault? name = none := by
  rw [List.all_eq_true] at h
  have hzero : (name.toList.map fun c => [UInt8.ofNat c.toNat]).flatten.contains 0 = false := by
    rw [List.contains_eq_mem, decide_eq_false_iff_not, List.mem_flatten]
    rintro ⟨bytes, hbytes, hmem⟩
    obtain ⟨c, hc, rfl⟩ := List.mem_map.mp hbytes
    have hbyte := congrArg UInt8.toNat (List.mem_singleton.mp hmem)
    have hascii := Text.isAscii_iff.mp (h c hc)
    rw [UInt8.toNat_ofNat'] at hbyte
    simp at hbyte
    omega
  rw [nameFault?, Text.nameBytes?, Text.mapM_nameBytesOf? h]
  exact if_neg (Bool.eq_false_iff.mp hzero)

end ChangeGate
