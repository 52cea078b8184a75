import ChangeGate.Predicate.Basic

/-! # Policies

A policy file holds policies, a policy holds rules, and a rule says which changes it forbids and
what a violation of it is worth. -/

namespace ChangeGate

/-- A rule.  Severity and confidence are kept as they are named; a violation needs known ones. -/
structure Rule where
  code : String
  confidence : String
  severity : String
  when : Predicate
  message : String
  suggest : Option String := none
  exceptTag : Option String := none
  approver : Option String := none
  autoFix : Option String := none
  deriving DecidableEq, Repr, Inhabited

/-- A named group of rules. -/
structure Policy where
  name : String
  rules : List Rule
  deriving DecidableEq, Repr, Inhabited

/-- A policy file. -/
structure PolicySet where
  version : String
  policies : List Policy
  deriving DecidableEq, Repr, Inhabited

namespace PolicySet

/-- All rules of a policy file in order. -/
def rules (s : PolicySet) : List Rule := s.policies.flatMap (·.rules)

end PolicySet

/-- The names of the confidence levels. -/
def confidenceNames : List String := ["high", "medium", "low"]

/-- The names of the severities. -/
def severityNames : List String := ["error", "warn", "info"]

end ChangeGate
