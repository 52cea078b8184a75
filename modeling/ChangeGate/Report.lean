import ChangeGate.Markup.Plain
import ChangeGate.Plan

/-! # The report

The report shows a plan and the messages that it leaves out: a header, the violations by severity,
a summary in a frame and what to do next.  All text of a user is escaped. -/

namespace ChangeGate.Report

open Markup (escape)

/-- What is printed at once; a number that is too long cannot be. -/
inductive Block
  | blank
  | markup (text : String)
  | panel (text : String)
  | longNumeral
  deriving DecidableEq, Repr

/-! ### Parts -/

/-- A number of things. -/
def plural (n : Int) (word : String) : String :=
  toString n ++ " " ++ word ++ if n = 1 then "" else "s"

/-- The sign of a severity. -/
def icon : Severity → String
  | .error => "[red]✖[/]"
  | .warn => "[yellow]⚠[/]"
  | .info => "[blue]ℹ[/]"

/-- The word for a status. -/
def statusWord : Status → String
  | .pass => "[bold green]PASS[/]"
  | .warn => "[bold yellow]WARN[/]"
  | .blocked => "[bold red]BLOCKED[/]"

/-- A text that is given and not empty. -/
def given (s : Option String) : Option String := s.filter (!·.isEmpty)

/-- The line at the top. -/
def header (p : Plan) (system : Option String) : String :=
  " ".intercalate <|
    ["[bold cyan]▲ INTENT[/]", "[dim]v" ++ escape p.version ++ "[/]"] ++
    (given system).toList.map (fun name => "• " ++ escape name) ++
    (given p.task.domain).toList.map (fun domain =>
      "• scope: " ++ escape domain ++ " (" ++ p.task.source.label ++ ")") ++
    ["[dim]• " ++ plural p.modifyFiles "file" ++ "[/]"]

/-- The lines of a violation. -/
def violation (v : Violation) : String :=
  let line := (v.evidence.firstLine.filter (· ≠ 0)).map fun n => ":" ++ toString n
  let location := escape v.evidence.path ++ line.getD ""
  "\n".intercalate <|
    ["  " ++ icon v.severity ++ " [bold]\\[" ++ escape v.code ++ "][/] " ++ location] ++
    (given (some v.message)).toList.map (fun s => "    [dim]" ++ escape s ++ "[/]") ++
    (given v.suggest).toList.map (fun s => "    [cyan]→[/] " ++ escape s) ++
    v.bypassed.toList.map fun b =>
      "    [yellow]⊘[/] Bypassed via tag \"" ++ escape b.tag ++ "\"" ++
        ((given b.approver).map fun s => " (needs " ++ escape s ++ " approval)").getD ""

/-- A violation as it is printed. -/
def violationBlock (v : Violation) : Block :=
  if v.evidence.hasLongLine then .longNumeral else .markup (violation v)

/-- How many violations have a severity. -/
def count (severity : Severity) (vs : List Violation) : Nat :=
  vs.countP (·.severity = severity)

/-- The verdict and the numbers of violations. -/
def summary (p : Plan) (vs : List Violation) : String :=
  let counts :=
    (if count .error vs = 0 then [] else ["[red]" ++ plural (count .error vs) "error" ++ "[/]"]) ++
    (if count .warn vs = 0 then []
      else ["[yellow]" ++ plural (count .warn vs) "warning" ++ "[/]"]) ++
    (if count .info vs = 0 then [] else ["[blue]" ++ toString (count .info vs) ++ " info[/]"])
  statusWord p.status ++ "  " ++
    if counts.isEmpty then "[green]clean[/]" else ", ".intercalate counts

/-- The violations that keep a change set from passing. -/
def blocking (vs : List Violation) : List Violation :=
  vs.filter fun v => v.severity = .error ∧ v.bypassed.isNone

/-- What to do next. -/
def nextSteps (p : Plan) (vs : List Violation) : List String :=
  if p.status = .pass then []
  else
    (if p.task.source = .unknown then ["Add [bold]INTENT-SCOPE: <Domain>[/] to the PR body"]
      else []) ++
    if (blocking vs).isEmpty then []
    else ["Fix " ++ plural (blocking vs).length "blocking violation" ++ " to unblock merge"]

/-- The heading of the violations of a severity; those that inform have none. -/
def heading (n : Nat) : Severity → Option String
  | .error =>
    some ("  [bold red]🚨 " ++ toString n ++ " BLOCKING VIOLATION" ++ (if n = 1 then "" else "S") ++
      "[/]")
  | .warn =>
    some ("  [bold yellow]⚠ " ++ toString n ++ " WARNING" ++ (if n = 1 then "" else "S") ++ "[/]")
  | .info => none

/-- The violations of one severity. -/
def group (vs : List Violation) (severity : Severity) : List Block :=
  let own := vs.filter (·.severity = severity)
  if own.isEmpty then []
  else
    ((heading own.length severity).toList.flatMap fun s => [.markup s, .blank]) ++
    own.map violationBlock ++ [.blank]

/-- All blocks of a report. -/
def blocks (p : Plan) (vs : List Violation) (system : Option String) : List Block :=
  [.blank, .markup (header p system), .blank] ++
  (if vs.isEmpty then [.markup "  [green]✔[/] No violations."]
    else Severity.every.flatMap (group vs)) ++
  [.panel (summary p vs)] ++
  (if (nextSteps p vs).isEmpty then []
    else
      .markup "  [bold]Next steps:[/]" ::
      (nextSteps p vs).map fun s => .markup ("  [cyan]→[/] " ++ s)) ++
  [.blank]

/-! ### Printing -/

/-- A line in a frame. -/
def framed (line : List Char) : List Char :=
  let edge := List.replicate (line.length + 2) '─'
  '╭' :: edge ++ ['╮', '\n', '│', ' '] ++ line ++ [' ', '│', '\n', '╰'] ++ edge ++ ['╯', '\n']

/-- A block as text, or nothing if its markup closes a tag that is not open or its number is too
long. -/
def Block.text : Block → Option (List Char)
  | .blank => some ['\n']
  | .longNumeral => none
  | .markup s => (Markup.plain s).map (· ++ ['\n'])
  | .panel s => (Markup.plain s).map framed

/-- Blocks as text, up to the first one that cannot be shown, and whether all could. -/
def textOf : List Block → List Char × Bool
  | [] => ([], true)
  | b :: bs =>
    match b.text with
    | none => ([], false)
    | some cs => let (rest, complete) := textOf bs; (cs ++ rest, complete)

end ChangeGate.Report
