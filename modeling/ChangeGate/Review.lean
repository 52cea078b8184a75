import ChangeGate.Change.Log
import ChangeGate.Plan
import ChangeGate.Repository.Specs
import ChangeGate.Scope
import ChangeGate.Scope.Description
import ChangeGate.Verdict.Evaluate

/-! # Reviewing a change set

A review reads the specification, finds out what changed and what the change set is meant for,
evaluates the policies and writes the plan.  It stops at the first failure, and nothing is written
before the plan. -/

namespace ChangeGate

/-- What a review can be told in place of what it would find out. -/
structure Review.Request where
  scope : Option String := none
  base : Option String := none
  head : Option String := none
  diff : Option String := none
  description : Option String := none
  labels : List String := []
  planPath : Option Path := none
  writes : Bool := true

/-- What a review comes to. -/
structure Review where
  plan : Plan
  violations : List Violation
  architecture : Architecture
  task : Task
  actions : List Action
  planPath : Option Path

namespace Review

/-- A text that is asked for, or another one if none or an empty one is. -/
def chosen (asked : Option String) (other : String) : String :=
  (asked.filter (· ≠ "")).getD other

/-- The changes under review. -/
def actionsOf (s : Settings) (r : Request) (domains : List Domain) : Procedure (List Action) :=
  Change.log domains (chosen r.base s.base) (chosen r.head s.head) r.diff s.unified

/-- What the change set is meant for. -/
def taskOf (s : Settings) (r : Request) (actions : List Action) : Procedure Task := do
  let body ← match r.description with
    | some body => pure body
    | none => Scope.description
  return Scope.Sources.task {
    explicit := r.scope, body, labels := r.labels, actions, defaultTags := s.defaultTags }

/-- The verdict of the policies; unknown fields are logged. -/
def verdict (policies : List PolicySet) (actions : List Action) (t : Task) : Procedure Verdict :=
  match Verdict.evaluate policies actions t with
  | .error (.fault f) => Procedure.breakDown (.predicate f)
  | .error (.invalid issues) => Procedure.breakDown (.violation issues)
  | .ok v => do
    v.warnings.forM Procedure.warn
    return v

/-- The text of a plan file. -/
def planText (p : Plan) : String := p.text ++ "\n"

/-- Write a plan.  The directories on the way to it are made before its text is known. -/
def writePlan (path : Path) (p : Plan) : Procedure Unit := do
  Procedure.makeDirectories path.parent
  match p.json? with
  | some text => Procedure.writeText path (text ++ "\n")
  | none => Procedure.breakDown .longNumeral

/-- Where the plan is written. -/
def planTarget (root : Path) (s : Settings) (r : Request) : Path :=
  r.planPath.getD (root.under (.ofText s.planFile))

/-- Review the change set of a repository. -/
def run (root : Path) (s : Settings) (r : Request) : Procedure Review := do
  let specs ← Repository.specs root s
  let actions ← actionsOf s r specs.architecture.domains
  let task ← taskOf s r actions
  let v ← verdict specs.policies actions task
  let plan := Plan.of (some specs.architecture.version) v.status task actions v.violations
  let planPath := if r.writes then some (planTarget root s r) else none
  match planPath with
  | some path => writePlan path plan
  | none => pure ()
  return { plan, violations := v.violations, architecture := specs.architecture, task, actions,
           planPath }

end Review

end ChangeGate
