import ChangeGate.Command.Basic
import ChangeGate.Fix.Apply
import ChangeGate.Report
import ChangeGate.Repository.Root
import ChangeGate.Settings.Load
import ChangeGate.Starter.Write

/-! # Running commands

A command works on a workspace and ends with what it prints and an exit code: 0 if all is well, 1
for a blocked plan and for a breakdown, 2 for a complaint and for a mistake in usage. -/

namespace ChangeGate.Command

open Markup (escape)
open Report (Block)

/-- How a command ends. -/
structure Outcome where
  output : String
  exitCode : Nat
  breakdown : Option Breakdown := none
  deriving DecidableEq, Repr

/-- The exit code of a complaint and of a mistake in usage. -/
def refusedCode : Nat := 2

/-- The exit code of a breakdown. -/
def brokenCode : Nat := 1

/-- Why a block cannot be shown. -/
def trouble? (b : Block) : Option Breakdown :=
  match b, b.text with
  | .longNumeral, _ => some .longNumeral
  | _, none => some .markup
  | _, some cs => if Text.hasHalf cs then some .unencodable else none

/-- The end of a command that shows blocks, up to the first one that cannot be shown. -/
def Outcome.showing (blocks : List Block) (exitCode : Nat) : Outcome :=
  let output := String.ofList (Report.textOf (blocks.takeWhile (trouble? · |>.isNone))).1
  match blocks.findSome? trouble? with
  | none => ⟨output, exitCode, none⟩
  | some b => ⟨output, brokenCode, some b⟩

/-! ### What commands show -/

/-- A line of markup. -/
def line (parts : List String) : Block := .markup (String.join parts)

/-- The end of a plan. -/
def planned (json : Bool) (r : Review) : Outcome :=
  if json then
    match r.plan.json? with
    | some text => ⟨text ++ "\n", r.plan.exitCode, none⟩
    | none => ⟨"", brokenCode, some .longNumeral⟩
  else .showing (Report.blocks r.plan r.violations (some r.architecture.name)) r.plan.exitCode

/-- The end of a check. -/
def checked (s : Repository.Specs) : Outcome :=
  let rules := (s.policies.flatMap (·.rules)).length
  .showing
    (line ["[green]✔[/] system ", escape s.architecture.name, ": ",
        toString s.architecture.domains.length, " domains, ", toString rules, " rules"] ::
      (s.policies.flatMap (·.warnings)).map fun w => line ["  [yellow]⚠[/] ", escape w]) 0

/-- The lines on a starter file. -/
def starterLine (name : String) (wrote : Bool) (note : String) : Block :=
  if wrote then line ["  [green]✔[/] Created [bold]", name, "[/]", note]
  else line ["  [yellow]⊘[/] ", name, " already exists (use --force to overwrite)"]

/-- The end of writing starter files with the given names. -/
def started (system policy : String) (r : Starter.Report) : Outcome :=
  .showing
    ([starterLine system r.wroteSystem
        (" (" ++ toString r.domains.length ++ " domains inferred)"),
      starterLine policy r.wrotePolicy ""] ++
      if r.wroteSystem || r.wrotePolicy then
        [line ["\n  [cyan]→[/] Run [bold]intent plan[/] to evaluate your first diff."]]
      else []) 0

/-- The end of a fix. -/
def fixed (dry : Bool) (r : Fix.Report) : Outcome :=
  if r.globs.isEmpty then .showing [line ["  [green]✔[/] No auto-fixable violations found."]] 0
  else
    let verb := if dry then "Would add" else "Added"
    .showing
      ((r.globs.map fun g =>
          line ["  [cyan]→[/] ", verb, " glob [bold]\"", escape g, "\"[/] to system.intent"]) ++
        if r.isApplied then [line ["\n  [cyan]→[/] Run [bold]intent plan[/] to verify."]] else []) 0

/-- The end of a job that complains. -/
def complained (job : Job) (c : Complaint) : Outcome :=
  match job, c with
  | .plan _ true, c =>
    ⟨(Json.object [("error", .text c.message)]).compact ++ "\n", refusedCode, none⟩
  | .check, .invalidSpec path problems =>
    .showing
      (line ["[red]✖[/] ", escape path] :: problems.map fun p => line ["    ", escape p])
      refusedCode
  | _, c => .showing [line ["[red]Error:[/] ", escape c.message]] refusedCode

/-! ### Doing the work -/

/-- The name of a path inside a repository. -/
def shownName (root path : Path) : Procedure String :=
  match root.behind? path with
  | some p => return escape p.text
  | none => Procedure.breakDown .outsideRepository

/-- Do a job in the repository at a root. -/
def perform (root : Path) : Job → Procedure Outcome
  | .plan request json => do
    return planned json (← Review.run root (← Settings.load root) request)
  | .check => do return checked (← Repository.specs root (← Settings.load root))
  | .init force => do
    let r ← Starter.run root (← Settings.load root) force
    return started (← shownName root r.systemPath) (← shownName root r.policyPath) r
  | .fix request dry => do
    return fixed dry (← Fix.run root (← Settings.load root) request dry)

/-- Do a job in the repository around a directory. -/
def work (directory : Option String) (job : Job) : Procedure Outcome := do
  perform (← Repository.root (.ofText (directory.getD ""))) job

/-- The line that names the version. -/
def versionLine : String := "intent 2.0.0\n"

/-- Run a command on a workspace. -/
def run (c : Command) (w : Workspace) : Outcome × Workspace :=
  match c with
  | .version => (⟨versionLine, 0, none⟩, w)
  | .inside directory job =>
    match (work directory job).run.run w with
    | (.ok outcome, w) => (outcome, w)
    | (.error (.complaint c), w) => (complained job c, w)
    | (.error (.breakdown b), w) => (⟨"", brokenCode, some b⟩, w)

/-- Run a command line on a workspace. -/
def runLine (arguments : List String) (w : Workspace) : Outcome × Workspace :=
  match parse? arguments with
  | some c => run c w
  | none => (⟨"", refusedCode, none⟩, w)

end ChangeGate.Command
