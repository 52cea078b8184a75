/-! # Binary floating point of 64 bits

A value is kept as its bits.  `ofRatio` rounds a ratio of natural numbers to the nearest value,
a tie to the even one, in exact arithmetic; `significand` and `exponent` say which number finite
bits stand for, so that comparison with whole numbers is exact too. -/

namespace ChangeGate

/-- A power of two. -/
def twoTo (n : Nat) : Nat := Nat.pow 2 n

/-- A power of ten. -/
def tenTo (n : Nat) : Nat := Nat.pow 10 n

/-- A floating-point number of 64 bits: one for the sign, eleven for the exponent, and 52. -/
structure Binary64 where
  bits : UInt64
  deriving DecidableEq, Repr, Inhabited

namespace Binary64

/-- The bits without the sign. -/
def magnitude (x : Binary64) : Nat := x.bits.toNat % twoTo 63

/-- Whether the sign bit is set. -/
def isNegative (x : Binary64) : Bool := twoTo 63 ≤ x.bits.toNat

/-- The magnitude of infinity; anything above it is no number. -/
def infiniteMagnitude : Nat := 0x7FF0000000000000

/-- Whether the bits stand for no number. -/
def isNaN (x : Binary64) : Bool := infiniteMagnitude < x.magnitude

/-- Whether the bits stand for a number and not for an infinity. -/
def isFinite (x : Binary64) : Bool := x.magnitude < infiniteMagnitude

/-- Whether the bits stand for zero of either sign. -/
def isZero (x : Binary64) : Bool := x.magnitude == 0

/-- The whole number that a finite value is a power of two times. -/
def significand (x : Binary64) : Int :=
  let field := x.magnitude / twoTo 52
  let fraction := x.magnitude % twoTo 52
  let size := if field = 0 then fraction else fraction + twoTo 52
  if x.isNegative then -Int.ofNat size else Int.ofNat size

/-- The power of two that belongs to `significand`. -/
def exponent (x : Binary64) : Int :=
  let field := x.magnitude / twoTo 52
  if field = 0 then -1074 else Int.ofNat field - 1075

/-- Whether a value is a given whole number. -/
def isInt (x : Binary64) (n : Int) : Bool :=
  x.isFinite &&
    match x.exponent with
    | .ofNat e => x.significand * Int.ofNat (twoTo e) == n
    | .negSucc e => x.significand == n * Int.ofNat (twoTo (e + 1))

/-- The whole number that a value is, if it is one. -/
def toInt? (x : Binary64) : Option Int :=
  if !x.isFinite then none
  else
    match x.exponent with
    | .ofNat e => some (x.significand * Int.ofNat (twoTo e))
    | .negSucc e =>
      let unit := Int.ofNat (twoTo (e + 1))
      if x.significand % unit == 0 then some (x.significand / unit) else none

/-- Equality of the numbers stood for: no number differs from itself, and the zeros are equal. -/
def same (x y : Binary64) : Bool :=
  !x.isNaN && !y.isNaN && (x.bits == y.bits || x.isZero && y.isZero)

/-! ### Rounding -/

/-- The quotient rounded to the nearest whole number, a tie to the even one. -/
def roundDiv (num den : Nat) : Nat :=
  let q := num / den
  let r := num % den
  if 2 * r < den then q else if den < 2 * r then q + 1 else q + q % 2

/-- The scaled quotient `num / (den * 2 ^ e)`, rounded. -/
def roundScaled (num den : Nat) : Int → Nat
  | .ofNat e => roundDiv num (den * twoTo e)
  | .negSucc e => roundDiv (num * twoTo (e + 1)) den

/-- Whether `num / den` is at least `2 ^ e`. -/
def reaches (num den : Nat) : Int → Bool
  | .ofNat e => den * twoTo e ≤ num
  | .negSucc e => den ≤ num * twoTo (e + 1)

/-- The exponent at which the ratio has a significand of 53 bits, or the smallest exponent. -/
def scale (num den : Nat) : Int :=
  let guess := Int.ofNat num.log2 - Int.ofNat den.log2 - 52
  max (-1074) (if reaches num den (guess + 52) then guess else guess - 1)

/-- The value nearest to `num / den`; too large a ratio is infinite. -/
def ofRatio (negative : Bool) (num den : Nat) : Binary64 :=
  let e := scale num den
  let magnitude :=
    if num = 0 then 0
    else min infiniteMagnitude ((e + 1074).toNat * twoTo 52 + roundScaled num den e)
  ⟨UInt64.ofNat (if negative then twoTo 63 + magnitude else magnitude)⟩

/-- The value nearest to `digits * 10 ^ power`.  Powers beyond the range of finite values are cut
short before they are computed. -/
def ofDecimal (negative : Bool) (digits : Nat) (power : Int) : Binary64 :=
  let size := Int.ofNat (Nat.toDigits 10 digits).length + power
  if digits = 0 then ofRatio negative 0 1
  else if 400 < size then ofRatio negative (tenTo 400) 1
  else if size < -400 then ofRatio negative 0 1
  else
    match power with
    | .ofNat p => ofRatio negative (digits * tenTo p) 1
    | .negSucc p => ofRatio negative digits (tenTo (p + 1))

/-- The infinities. -/
def infinity (negative : Bool) : Binary64 :=
  ⟨if negative then 0xFFF0000000000000 else 0x7FF0000000000000⟩

/-- A value that is no number. -/
def notANumber : Binary64 := ⟨0x7FF8000000000000⟩

/-! ### Arithmetic -/

/-- The value nearest to `size * 2 ^ power`. -/
def ofScaled (negative : Bool) (size : Nat) : Int → Binary64
  | .ofNat p => ofRatio negative (size * twoTo p) 1
  | .negSucc p => ofRatio negative size (twoTo (p + 1))

/-- The value with the other sign. -/
def negate (x : Binary64) : Binary64 :=
  ⟨UInt64.ofNat (if x.isNegative then x.magnitude else twoTo 63 + x.magnitude)⟩

/-- The rounded product. -/
def mul (x y : Binary64) : Binary64 :=
  let negative := x.isNegative != y.isNegative
  if x.isNaN || y.isNaN then notANumber
  else if !x.isFinite || !y.isFinite then
    if x.isZero || y.isZero then notANumber else infinity negative
  else ofScaled negative (x.significand.natAbs * y.significand.natAbs) (x.exponent + y.exponent)

/-- The rounded sum.  A sum of zero is negative only if both sides are. -/
def add (x y : Binary64) : Binary64 :=
  if x.isNaN || y.isNaN then notANumber
  else if !x.isFinite then
    if !y.isFinite && x.isNegative != y.isNegative then notANumber else x
  else if !y.isFinite then y
  else
    let low := min x.exponent y.exponent
    let scaled := fun (z : Binary64) => z.significand * Int.ofNat (twoTo (z.exponent - low).toNat)
    let total := scaled x + scaled y
    ofScaled (total < 0 || total == 0 && x.isNegative && y.isNegative) total.natAbs low

end Binary64

end ChangeGate
