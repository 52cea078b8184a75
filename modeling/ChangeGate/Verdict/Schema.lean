import ChangeGate.Change.Schema
import ChangeGate.Plan
import ChangeGate.Verdict.Violation

/-! # Verdicts as data

The shapes of violations and of plans. -/

namespace ChangeGate

open Schema

/-- The shape of evidence. -/
def Evidence.shape : Shape Evidence := record fun e =>
  Evidence.mk <$> withDefault "path" text "" e
    <*> withDefault "file_domain" (optional text) none e
    <*> withDefault "task_domain" (optional text) none e
    <*> withDefault "first_hunk_line" (optional int) none e

/-- The shape of a remediation. -/
def Remediation.shape : Shape Remediation := record fun e =>
  Remediation.mk <$> withDefault "actions" (list text) [] e
    <*> withDefault "approved_interfaces" (list text) [] e

/-- The shape of a bypass. -/
def Bypass.shape : Shape Bypass := record fun e =>
  Bypass.mk <$> required "tag" text e
    <*> withDefault "approval_required" (optional text) none e
    <*> withDefault "approved" bool false e

/-- The shape of a violation. -/
def Violation.shape : Shape Violation := record fun e =>
  Violation.mk <$> required "code" text e
    <*> required "severity" (oneOf Severity.every Severity.label) e
    <*> required "confidence" (oneOf Confidence.every Confidence.label) e
    <*> required "message" text e
    <*> withDefault "suggest" (optional text) none e
    <*> required "evidence" Evidence.shape e
    <*> withDefault "remediation" Remediation.shape {} e
    <*> withDefault "bypassed" (optional Bypass.shape) none e

/-- The shape of a plan's evidence: any map, of which the facts that have the shape of evidence
are kept. -/
def PlanEntry.evidenceShape : Shape Evidence
  | .map entries =>
    match Evidence.shape (.map entries) with
    | .good e => .good e
    | .bad _ => .good {}
  | _ => wrong .notMap

/-- The shape of a plan's violation. -/
def PlanEntry.shape : Shape PlanEntry := record fun e =>
  PlanEntry.mk <$> required "code" text e
    <*> required "severity" text e
    <*> required "confidence" text e
    <*> required "evidence" PlanEntry.evidenceShape e
    <*> withDefault "remediation" Remediation.shape {} e
    <*> withDefault "bypassed" (optional Bypass.shape) none e

/-- The shape of the counts of actions. -/
def Plan.countsShape : Shape (Int × Int) := record fun e =>
  Prod.mk <$> withDefault "modify_files" int 0 e <*> withDefault "import_cross_domain" int 0 e

/-- The shape of a plan. -/
def Plan.shape : Shape Plan := record fun e =>
  (fun version status task counts violations =>
      Plan.mk version status task counts.1 counts.2 violations)
    <$> withDefault "intent_version" Schema.text Plan.defaultVersion e
    <*> required "status" (oneOf Status.every Status.label) e
    <*> required "task" Task.shape e
    <*> required "actions_summary" Plan.countsShape e
    <*> withDefault "violations" (list PlanEntry.shape) [] e

end ChangeGate
