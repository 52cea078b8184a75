import ChangeGate.Policy.Basic
import ChangeGate.Predicate.Reader

/-! # Reading a policy file

    file      := 'intent' NUMBER end policy+
    policy    := 'policy' NAME '{' violation* '}' end
    violation := 'violation' NAME 'confidence' level '{' clause* '}' end

The clauses of a violation stand in any order, each at most once, and `when`, `severity` and
`message` are required. -/

namespace ChangeGate

/-- The clauses of a violation block read so far. -/
structure Policy.Draft where
  code : String
  when? : Option Predicate := none
  severity? : Option String := none
  message? : Option String := none
  suggest? : Option String := none
  autoFix? : Option String := none
  exceptTag? : Option String := none
  approver? : Option String := none

namespace Policy.Draft

open Source

/-- Whether a clause has been given. -/
def has (d : Draft) : Clause → Bool
  | .when => d.when?.isSome
  | .severity => d.severity?.isSome
  | .message => d.message?.isSome
  | .suggest => d.suggest?.isSome
  | .autoFix => d.autoFix?.isSome
  | .exceptWhen => d.exceptTag?.isSome
  | .requiresApproval => d.approver?.isSome

/-- Take the word of a clause that has not been given yet. -/
def claim (d : Draft) (clause : Clause) : Reader Unit := do
  if d.has clause then refuse (.repeatedClause d.code clause)
  else let _ ← takeKeyword clause.word

/-- One clause, added to those before. -/
def clause (d : Draft) : Reader Draft := do
  let ts ← get
  if atKeyword "when" ts then
    d.claim .when
    return { d with when? := some (← Predicate.reader) }
  else if atKeyword "severity" ts then
    d.claim .severity
    let t ← takeIf (fun t => t.kind == .keyword && severityNames.contains t.text)
      (.badSeverity d.code)
    return { d with severity? := some t.text }
  else if atKeyword "message" ts then
    d.claim .message
    return { d with message? := some (← takeText) }
  else if atKeyword "suggest" ts then
    d.claim .suggest
    return { d with suggest? := some (← takeText) }
  else if atKeyword "auto_fix" ts then
    d.claim .autoFix
    return { d with autoFix? := some (← takeText) }
  else if atKeyword "except_when" ts then
    d.claim .exceptWhen
    let _ ← takeKeyword "tagged"
    let d := { d with exceptTag? := some (← takeText) }
    if atKeyword "requires_approval" (← get) then
      d.claim .requiresApproval
      return { d with approver? := some (← takeText) }
    else return d
  else if atKeyword "requires_approval" ts then
    d.claim .requiresApproval
    return { d with approver? := some (← takeText) }
  else refuse (.strayInViolation d.code)

/-- One clause and the end of its statement. -/
def clauseLine (d : Draft) : Reader Draft := do
  let d ← d.clause
  endStatement
  return d

/-- The rule that the clauses make, or the first required clause that is missing. -/
def rule? (d : Draft) (confidence : String) : Except Clause Rule :=
  match d.when?, d.severity?, d.message? with
  | none, _, _ => .error .when
  | _, none, _ => .error .severity
  | _, _, none => .error .message
  | some when, some severity, some message =>
    .ok {
      code := d.code, confidence, severity, when, message, suggest := d.suggest?,
      exceptTag := d.exceptTag?, approver := d.approver?, autoFix := d.autoFix? }

end Policy.Draft

namespace Policy

open Source

/-- A violation block. -/
def violationBlock : Reader Rule := do
  let opening ← takeKeyword "violation"
  let code ← takeName
  let _ ← takeKeyword "confidence"
  let level ← takeIf (fun t => t.kind == .keyword && confidenceNames.contains t.text)
    (.badConfidence code)
  openBlock
  let draft ← repeated (atKind .closeBrace) Draft.clauseLine { code }
  closeBlock
  match draft.rule? level.text with
  | .ok rule => return rule
  | .error clause => throw (.problem (.missingClause code clause) (some opening))

/-- A policy block. -/
def policyBlock : Reader Policy := do
  let _ ← takeIf (·.isKeyword "policy") .expectedPolicy
  let name ← takeName
  openBlock
  let rules ← items (atKind .closeBrace) (do
    if atKeyword "violation" (← get) then violationBlock
    else refuse (.expectedViolation name)) []
  closeBlock
  return { name, rules }

end Policy

namespace PolicySet

open Source

/-- The tokens of a policy file. -/
def reader : Reader PolicySet := do
  skipLineEnds
  let _ ← takeKeyword "intent"
  let version ← take .number
  endStatement
  let first ← Policy.policyBlock
  let policies ← items List.isEmpty Policy.policyBlock [first]
  return { version := version.text, policies }

/-- Read a policy file. -/
def read (source : String) (file : String := "policy.intent") : Except Error PolicySet :=
  Source.read reader source file

end PolicySet

end ChangeGate
