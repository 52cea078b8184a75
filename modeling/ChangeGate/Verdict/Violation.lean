import ChangeGate.Text.Digit

/-! # Violations

A violation is a rule that matched an action, with what it is worth and where it was seen. -/

namespace ChangeGate

/-- How much a violation weighs. -/
inductive Severity
  | error | warn | info
  deriving DecidableEq, Repr, Inhabited

namespace Severity

/-- The name of a severity. -/
def label : Severity → String
  | .error => "error"
  | .warn => "warn"
  | .info => "info"

/-- All severities. -/
def every : List Severity := [.error, .warn, .info]

theorem mem_every (s : Severity) : s ∈ every := by cases s <;> simp [every]

theorem label_injective (s s' : Severity) (h : s.label = s'.label) : s = s' := by
  cases s <;> cases s' <;> first | rfl | exact absurd h (by decide)

/-- The severity of a name. -/
def ofLabel? (name : String) : Option Severity := every.find? (·.label == name)

/-- The place of a severity in a report. -/
def rank : Severity → Nat
  | .error => 0
  | .warn => 1
  | .info => 2

end Severity

/-- How sure a rule is. -/
inductive Confidence
  | high | medium | low
  deriving DecidableEq, Repr, Inhabited

namespace Confidence

/-- The name of a confidence level. -/
def label : Confidence → String
  | .high => "high"
  | .medium => "medium"
  | .low => "low"

/-- All confidence levels. -/
def every : List Confidence := [.high, .medium, .low]

theorem mem_every (c : Confidence) : c ∈ every := by cases c <;> simp [every]

theorem label_injective (c c' : Confidence) (h : c.label = c'.label) : c = c' := by
  cases c <;> cases c' <;> first | rfl | exact absurd h (by decide)

/-- The confidence level of a name. -/
def ofLabel? (name : String) : Option Confidence := every.find? (·.label == name)

end Confidence

/-- Where a violation was seen. -/
structure Evidence where
  path : String := ""
  fileDomain : Option String := none
  taskDomain : Option String := none
  firstLine : Option Int := none
  deriving DecidableEq, Repr, Inhabited

/-- Whether the first changed line has a number that cannot be printed. -/
def Evidence.hasLongLine (e : Evidence) : Bool := e.firstLine.any Text.isLong

/-- What can be done about a violation. -/
structure Remediation where
  actions : List String := []
  approvedInterfaces : List String := []
  deriving DecidableEq, Repr, Inhabited

/-- The tag that excuses a violation and who has to approve of it. -/
structure Bypass where
  tag : String
  approver : Option String := none
  approved : Bool := false
  deriving DecidableEq, Repr, Inhabited

/-- A rule that matched an action. -/
structure Violation where
  code : String
  severity : Severity
  confidence : Confidence
  message : String
  suggest : Option String := none
  evidence : Evidence
  remediation : Remediation := {}
  bypassed : Option Bypass := none
  deriving DecidableEq, Repr, Inhabited

/-- What a change set comes to, from best to worst. -/
inductive Status
  | pass | warn | blocked
  deriving DecidableEq, Repr, Inhabited

namespace Status

/-- The name of a status. -/
def label : Status → String
  | .pass => "pass"
  | .warn => "warn"
  | .blocked => "blocked"

/-- All statuses. -/
def every : List Status := [.pass, .warn, .blocked]

/-- The worse of two statuses. -/
def worse : Status → Status → Status
  | .blocked, _ | _, .blocked => .blocked
  | .warn, _ | _, .warn => .warn
  | .pass, .pass => .pass

end Status

namespace Violation

/-- What a violation makes of a status: it blocks when nothing excuses it and its rule is sure of
an error, and else warns. -/
def status (v : Violation) : Status :=
  if v.bypassed.isNone ∧ v.severity = .error ∧ v.confidence = .high then .blocked else .warn

/-- Whether `v` may stand before `w` in a list: by severity, then path, then code. -/
def before (v w : Violation) : Bool :=
  if v.severity.rank ≠ w.severity.rank then v.severity.rank < w.severity.rank
  else if v.evidence.path ≠ w.evidence.path then v.evidence.path < w.evidence.path
  else v.code ≤ w.code

/-- The violations in order; equal ones stay as they stand. -/
def sorted (vs : List Violation) : List Violation := vs.mergeSort before

end Violation

end ChangeGate
