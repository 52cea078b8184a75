/-! # Sets of code points

Character classes of Unicode are kept as sorted lists of stretches. -/

namespace ChangeGate.Text

/-- Whether a code point lies in one of the stretches. -/
def within (stretches : List (Nat × Nat)) (n : Nat) : Bool :=
  stretches.any fun (first, last) => first ≤ n && n ≤ last

end ChangeGate.Text
