import ChangeGate.Change.Template
import ChangeGate.Data.Schema
import ChangeGate.Policy.Basic
import ChangeGate.Predicate.Judge
import ChangeGate.Text.Quoted
import ChangeGate.Verdict.Violation

/-! # The verdict on a change set

Every rule is judged on every action.  `Rule.violation` says what a match comes to, and
`evaluate` gathers the violations, puts them in order and folds them into one status.  An
evaluation stops at the first predicate that cannot be judged. -/

namespace ChangeGate

namespace Rule

/-- Whether a tag of the task excuses violations of a rule. -/
def isBypassed (r : Rule) (t : Task) : Bool := r.exceptTag.any t.tags.contains

/-- The severity that counts: an excused violation warns, a rule of medium confidence at most
warns, and one of low confidence informs. -/
def effectiveSeverity (severity confidence : String) (bypassed : Bool) : String :=
  if bypassed then "warn"
  else if confidence = "medium" ∧ severity = "error" then "warn"
  else if confidence = "low" then "info"
  else severity

/-- Where an action was seen. -/
def evidence (a : Action) (t : Task) : Evidence where
  path := a.path
  fileDomain := a.fileDomain.filter (!·.isEmpty)
  taskDomain := t.domain.filter (!·.isEmpty)
  firstLine := a.hunks.head?.map (·.newStart)

/-- The violation that a match comes to, if the rule's severity and confidence are known ones. -/
def violation (r : Rule) (a : Action) (t : Task) : Schema.Checked Violation :=
  let bypassed := r.isBypassed t
  let suggest := r.suggest.map (Template.render · a t)
  let build := fun severity confidence => ({
    code := r.code, severity, confidence
    message := Template.render r.message a t
    suggest
    evidence := evidence a t
    remediation := { actions := suggest.toList }
    bypassed := if bypassed then r.exceptTag.map fun tag => ⟨tag, r.approver, false⟩ else none } :
      Violation)
  let severity := effectiveSeverity r.severity r.confidence bypassed
  build <$> (Schema.oneOf Severity.every Severity.label (.text severity)).under (.field "severity")
    <*> (Schema.oneOf Confidence.every Confidence.label (.text r.confidence)).under
      (.field "confidence")

end Rule

/-- Why a change set cannot be evaluated. -/
inductive EvaluationError
  | fault (f : Fault)
  | invalid (issues : List Schema.Issue)
  deriving DecidableEq, Repr

/-- What an evaluation finds: the violations in order, the status, and the unknown fields that
were looked up, each once and in order. -/
structure Verdict where
  violations : List Violation
  status : Status
  unknown : List String
  deriving DecidableEq, Repr

namespace Verdict

/-- What one rule makes of one action, with the unknown fields looked up. -/
def match? (r : Rule) (a : Action) (t : Task) :
    Except EvaluationError (Option Violation × List String) :=
  let j := r.when.judge a t
  match j.truth with
  | .error f => .error (.fault f)
  | .ok false => .ok (none, j.unknown)
  | .ok true =>
    match r.violation a t with
    | .good v => .ok (some v, j.unknown)
    | .bad issues => .error (.invalid issues)

/-- The violations and unknown fields of a list of rules and actions, one pair after another. -/
def matchAll (t : Task) : List (Rule × Action) →
    Except EvaluationError (List Violation × List String)
  | [] => .ok ([], [])
  | (r, a) :: pairs =>
    match match? r a t with
    | .error e => .error e
    | .ok (v, unknown) =>
      match matchAll t pairs with
      | .error e => .error e
      | .ok (vs, more) => .ok (v.toList ++ vs, unknown ++ more)

/-- The status of a list of violations under a task; an unknown task at least warns. -/
def statusOf (vs : List Violation) (t : Task) : Status :=
  (vs.map (·.status)).foldl Status.worse (if t.source = .unknown then .warn else .pass)

/-- Texts in order, each once. -/
def distinct (texts : List String) : List String := (texts.mergeSort (· ≤ ·)).eraseDups

/-- The pairs that are judged: every rule with every action. -/
def pairs (policies : List PolicySet) (actions : List Action) : List (Rule × Action) :=
  (policies.flatMap (·.rules)).flatMap fun r => actions.map (r, ·)

/-- The verdict of a list of policy files on a change set. -/
def evaluate (policies : List PolicySet) (actions : List Action) (t : Task) :
    Except EvaluationError Verdict :=
  match matchAll t (pairs policies actions) with
  | .error e => .error e
  | .ok (vs, unknown) =>
    .ok { violations := Violation.sorted vs, status := statusOf vs t, unknown := distinct unknown }

/-- The warning about unknown fields, if there are any. -/
def warnings (v : Verdict) : List String :=
  if v.unknown.isEmpty then []
  else
    ["[ENGINE] Unresolved predicate fields (always null): " ++ Text.quotedList v.unknown]

end Verdict

end ChangeGate
