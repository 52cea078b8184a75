import ChangeGate.Number.Basic

/-! # Predicates

A predicate compares fields of a change with literals and with each other.  The type also holds
trees that no source writes, such as a comparison inside a comparison or a node of a class of its
own, and judging them is an error. -/

namespace ChangeGate

/-- How two operands are compared. -/
inductive Relation
  | equal
  | unequal
  | other (symbol : String)
  deriving DecidableEq, Repr, Inhabited

/-- The symbol of a relation. -/
def Relation.symbol : Relation → String
  | .equal => "=="
  | .unequal => "!="
  | .other symbol => symbol

/-- The relation that a symbol stands for. -/
def Relation.ofSymbol : String → Relation
  | "==" => .equal
  | "!=" => .unequal
  | symbol => .other symbol

/-- A condition on a change.  A node that is none of the known ones is kept as the name of its
class, which is all that is told of it. -/
inductive Predicate
  | both (left right : Predicate)
  | compare (relation : Relation) (left right : Predicate)
  | field (path : String)
  | text (value : String)
  | number (value : Number)
  | null
  | other (kind : String)
  deriving DecidableEq, Repr, Inhabited

namespace Predicate

/-- The name of a node's class. -/
def kind : Predicate → String
  | .both _ _ => "And"
  | .compare _ _ _ => "Compare"
  | .field _ => "FieldRef"
  | .text _ | .number _ => "Literal"
  | .null => "Null"
  | .other kind => kind

/-- The field paths of a predicate in the order in which they are written. -/
def fields : Predicate → List String
  | .both left right | .compare _ left right => left.fields ++ right.fields
  | .field path => [path]
  | .text _ | .number _ | .null | .other _ => []

/-- The parts of a conjunction from left to right. -/
def conjuncts : Predicate → List Predicate
  | .both left right => left.conjuncts ++ right.conjuncts
  | p => [p]

end Predicate

end ChangeGate
