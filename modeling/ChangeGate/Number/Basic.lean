import ChangeGate.Number.Binary64
import ChangeGate.Text.Digit

/-! # Numbers of policy files

A number is whole, without a bound, or a binary fraction.  The two kinds compare as the numbers
they are. -/

namespace ChangeGate

/-- A number of a policy file. -/
inductive Number
  | whole (n : Int)
  | fraction (x : Binary64)
  deriving DecidableEq, Repr, Inhabited

namespace Number

/-- Equality of numbers, exact across the two kinds. -/
def same : Number → Number → Bool
  | .whole m, .whole n => m == n
  | .whole n, .fraction x | .fraction x, .whole n => x.isInt n
  | .fraction x, .fraction y => x.same y

/-- Whether a number is zero. -/
def isZero : Number → Bool
  | .whole n => n == 0
  | .fraction x => x.isZero

/-- The number that a numeral writes: a run of digits, or two around a point.  A run too long for
a whole number writes none. -/
def ofNumeral? (numeral : List Char) : Option Number :=
  let whole := numeral.takeWhile (· != '.')
  match numeral.dropWhile (· != '.') with
  | [] =>
    if Text.longestNumeral < whole.length then none
    else some (.whole (Text.decimalValue whole))
  | _ :: places =>
    some (.fraction (.ofDecimal false (Text.decimalValue (whole ++ places)) (-places.length)))

end Number

end ChangeGate
