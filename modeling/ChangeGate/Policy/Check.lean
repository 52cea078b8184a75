import ChangeGate.Change.Field
import ChangeGate.Policy.Basic

/-! # Checking a policy file

A code that a rule before it in the same policy has is an issue.  A field that no change has is
only warned about, since judging reads it as null. -/

namespace ChangeGate.PolicySet

/-- What can be wrong with a policy file. -/
inductive Issue
  | noVersion
  | repeatedCode (policy code : String)
  deriving DecidableEq, Repr

/-- The wording of an issue. -/
def Issue.message : Issue → String
  | .noVersion => "Missing 'intent' version declaration."
  | .repeatedCode policy code =>
    "Policy '" ++ policy ++ "': duplicate violation code '" ++ code ++ "'."

/-- The issues of the rules of a policy that follow those with the codes `seen`. -/
def ruleIssues (policy : String) (seen : List String) : List Rule → List Issue
  | [] => []
  | r :: rs =>
    (if seen.contains r.code then [.repeatedCode policy r.code] else []) ++
    ruleIssues policy (r.code :: seen) rs

/-- All issues of a policy file. -/
def issues (s : PolicySet) : List Issue :=
  (if s.version.isEmpty then [.noVersion] else []) ++
  s.policies.flatMap fun p => ruleIssues p.name [] p.rules

/-- The wordings of all issues. -/
def problems (s : PolicySet) : List String := s.issues.map Issue.message

/-! ### Unknown fields -/

/-- A field of a rule that no change has. -/
structure UnknownField where
  policy : String
  code : String
  path : String
  deriving DecidableEq, Repr

/-- The wording of a warning. -/
def UnknownField.message (u : UnknownField) : String :=
  "Policy '" ++ u.policy ++ "', violation '" ++ u.code ++ "': field '" ++ u.path ++
    "' is not a known context field and is always null."

/-- The unknown fields of a policy file, rule by rule in the order in which they are written. -/
def unknownFields (s : PolicySet) : List UnknownField :=
  s.policies.flatMap fun p => p.rules.flatMap fun r =>
    (r.when.fields.filter fun path => (Field.ofPath? path).isNone).map fun path =>
      ⟨p.name, r.code, path⟩

/-- The wordings of the warnings. -/
def warnings (s : PolicySet) : List String := s.unknownFields.map UnknownField.message

end ChangeGate.PolicySet
