import ChangeGate.Change.Field
import ChangeGate.Predicate.Basic

/-! # Judging a predicate

`Predicate.judge` says whether a predicate holds of an action under a task.  It goes from left to
right and stops at the first part of a conjunction that is false or cannot be judged; the unknown
fields that it came across are part of its answer. -/

namespace ChangeGate

/-- Why a predicate cannot be judged: something else stands where an operand must, a node is of no
known class, or the relation is none. -/
inductive Fault
  | noOperand (kind : String)
  | unknownNode (kind : String)
  | unknownRelation (symbol : String)
  deriving DecidableEq, Repr

/-- The wording of a fault. -/
def Fault.message : Fault → String
  | .noOperand kind => "Not a comparison operand: " ++ kind
  | .unknownNode kind => "Unknown predicate node: " ++ kind
  | .unknownRelation symbol => "Unknown comparison operator: " ++ symbol

/-- The truth of a predicate or why there is none, with the unknown fields looked up. -/
structure Judgement where
  truth : Except Fault Bool
  unknown : List String

/-- What an operand stands for. -/
inductive Operand
  | null
  | text (s : String)
  | texts (ss : List String)
  | number (n : Number)

namespace Operand

/-- Whether two operands are equal; values of different kinds never are. -/
def same : Operand → Operand → Bool
  | .null, .null => true
  | .text s, .text t => s == t
  | .texts ss, .texts ts => ss == ts
  | .number m, .number n => m.same n
  | _, _ => false

/-- A field's content as an operand. -/
def ofField : Option FieldValue → Operand
  | none => .null
  | some (.text s) => .text s
  | some (.texts ss) => .texts ss

end Operand

namespace Relation

/-- Whether two operands stand in a relation. -/
def holds (x y : Operand) : Relation → Except Fault Bool
  | .equal => .ok (x.same y)
  | .unequal => .ok (!x.same y)
  | .other symbol => .error (.unknownRelation symbol)

end Relation

namespace Predicate

variable (a : Action) (t : Task)

/-- What stands at a path; an unknown path is null. -/
def lookup (path : String) : Operand × List String :=
  match Field.ofPath? path with
  | some f => (.ofField (f.read a t), [])
  | none => (.null, [path])

/-- What an operand of a comparison stands for. -/
def operand : Predicate → Except Fault Operand × List String
  | .field path => let (x, unknown) := lookup a t path; (.ok x, unknown)
  | .text s => (.ok (.text s), [])
  | .number n => (.ok (.number n), [])
  | .null => (.ok .null, [])
  | p => (.error (.noOperand p.kind), [])

/-- Whether a predicate holds. -/
def judge : Predicate → Judgement
  | .both left right =>
    let l := left.judge
    match l.truth with
    | .ok true => let r := right.judge; ⟨r.truth, l.unknown ++ r.unknown⟩
    | _ => l
  | .compare relation left right =>
    let (x, xs) := operand a t left
    match x with
    | .error e => ⟨.error e, xs⟩
    | .ok x =>
      let (y, ys) := operand a t right
      match y with
      | .error e => ⟨.error e, xs ++ ys⟩
      | .ok y => ⟨relation.holds x y, xs ++ ys⟩
  | .field path =>
    let (x, unknown) := lookup a t path
    ⟨.ok (!x.same .null), unknown⟩
  | .text s => ⟨.ok (!s.isEmpty), []⟩
  | .number n => ⟨.ok (!n.isZero), []⟩
  | .null => ⟨.ok false, []⟩
  | .other kind => ⟨.error (.unknownNode kind), []⟩

end Predicate

end ChangeGate
