import ChangeGate.Change.Basic
import ChangeGate.Json.Writer
import ChangeGate.Verdict.Violation

/-! # The plan document

The plan is the written verdict.  `Plan.of` builds it from an evaluation and `Plan.json?` is the
JSON text of it, which a plan has unless a violation starts at a line whose number is too long to be
printed; the same evaluation always gives the same text. -/

namespace ChangeGate

/-- A violation as the plan holds it. -/
structure PlanEntry where
  code : String
  severity : String
  confidence : String
  evidence : Evidence
  remediation : Remediation := {}
  bypassed : Option Bypass := none
  deriving DecidableEq, Repr, Inhabited

/-- A plan document. -/
structure Plan where
  version : String
  status : Status
  task : Task
  modifyFiles : Int
  importCrossDomain : Int
  violations : List PlanEntry
  deriving DecidableEq, Repr, Inhabited

namespace Plan

/-- The version of a plan whose system names none. -/
def defaultVersion : String := "2.0"

/-- A violation without its message. -/
def entry (v : Violation) : PlanEntry where
  code := v.code
  severity := v.severity.label
  confidence := v.confidence.label
  evidence := v.evidence
  remediation := v.remediation
  bypassed := v.bypassed

/-- The plan of an evaluation. -/
def of (version : Option String) (status : Status) (task : Task) (actions : List Action)
    (violations : List Violation) : Plan where
  version := (version.filter (!·.isEmpty)).getD defaultVersion
  status
  task
  modifyFiles := (actions.filter (·.kind = .modifyFile)).length
  importCrossDomain := (actions.filter (·.kind = .importCrossDomain)).length
  violations := violations.map entry

/-! ### As JSON -/

/-- A list of texts. -/
def texts (ss : List String) : Json := .list (ss.map .text)

/-- The evidence without the facts that are not known. -/
def evidenceJson (e : Evidence) : Json :=
  .object <|
    [("path", .text e.path)] ++
    e.fileDomain.toList.map (("file_domain", .text ·)) ++
    e.taskDomain.toList.map (("task_domain", .text ·)) ++
    e.firstLine.toList.map (("first_hunk_line", .int ·))

/-- A bypass. -/
def bypassJson (b : Bypass) : Json :=
  .object [("tag", .text b.tag), ("approval_required", .textOrNull b.approver),
    ("approved", .bool b.approved)]

/-- A violation of the plan. -/
def entryJson (v : PlanEntry) : Json :=
  .object [
    ("code", .text v.code), ("severity", .text v.severity), ("confidence", .text v.confidence),
    ("evidence", evidenceJson v.evidence),
    ("remediation", .object [
      ("actions", texts v.remediation.actions),
      ("approved_interfaces", texts v.remediation.approvedInterfaces)]),
    ("bypassed", (v.bypassed.map bypassJson).getD .null)]

/-- The plan as a JSON value. -/
def toJson (p : Plan) : Json :=
  .object [
    ("intent_version", .text p.version), ("status", .text p.status.label),
    ("task", .object [
      ("domain", .textOrNull p.task.domain), ("tags", texts p.task.tags),
      ("source", .text p.task.source.label)]),
    ("actions_summary", .object [
      ("modify_files", .int p.modifyFiles),
      ("import_cross_domain", .int p.importCrossDomain)]),
    ("violations", .list (p.violations.map entryJson))]

/-- The plan as JSON over several lines, with its numbers however long they are. -/
def text (p : Plan) : String := p.toJson.pretty

/-- The text of a plan, if all its numbers can be printed.  The numbers of actions are lengths of
lists at hand, which are never too long, so it is the first changed lines that decide. -/
def json? (p : Plan) : Option String :=
  if p.violations.any (·.evidence.hasLongLine) then none else some p.text

/-- The exit code of a plan. -/
def exitCode (p : Plan) : Nat := if p.status = .blocked then 1 else 0

end Plan

end ChangeGate
