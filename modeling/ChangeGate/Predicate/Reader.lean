import ChangeGate.Source.Reading
import ChangeGate.Predicate.Basic

/-! # Reading a predicate

    predicate  := comparison ('&&' comparison)*
    comparison := atom [('==' | '!=') atom]
    atom       := STRING | NUMBER | 'null' | field
    field      := word ('.' word)*

Conjunctions group to the left, and the words of a field may be reserved. -/

namespace ChangeGate.Predicate

open Source

/-- The dotted path of a field. -/
def fieldPath : Reader String := do
  let first ← takeIf Token.isNameLike .expectedField
  let parts ← items (fun ts => !atKind .dot ts) (do
    let _ ← take .dot
    return (← takeIf Token.isNameLike .expectedFieldPart).text) [first.text]
  return ".".intercalate parts

/-- A number literal. -/
def numeral : Reader Predicate := do
  let t ← take .number
  match Number.ofNumeral? t.text.toList with
  | some n => return .number n
  | none => throw .longNumeral

/-- One operand. -/
def atom : Reader Predicate := do
  let ts ← get
  if atKind .text ts then return .text (← takeText)
  else if atKind .number ts then numeral
  else if atKeyword "null" ts then
    let _ ← takeKeyword "null"
    return .null
  else return .field (← fieldPath)

/-- An operand, or two with a relation between them. -/
def comparison : Reader Predicate := do
  let left ← atom
  let ts ← get
  if atKind .equal ts then
    let _ ← take .equal
    return .compare .equal left (← atom)
  else if atKind .unequal ts then
    let _ ← take .unequal
    return .compare .unequal left (← atom)
  else return left

/-- A conjunction of comparisons. -/
def reader : Reader Predicate := do
  let first ← comparison
  repeated (fun ts => !atKind .both ts) (fun p => do
    let _ ← take .both
    return .both p (← comparison)) first

end ChangeGate.Predicate
