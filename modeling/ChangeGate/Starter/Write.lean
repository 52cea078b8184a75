import ChangeGate.Settings.Basic
import ChangeGate.Starter.Basic
import ChangeGate.Workspace.Basic

/-! # Writing starter files

The starter files are written where the settings say that the gate looks for them.  A file that is
there is kept unless the writing is forced. -/

namespace ChangeGate.Starter

/-- What was written. -/
structure Report where
  systemPath : Path
  policyPath : Path
  domains : List Domain
  wroteSystem : Bool
  wrotePolicy : Bool
  deriving DecidableEq, Repr, Inhabited

/-- The names of the directories that stand directly in a directory. -/
def directoriesIn (root : Path) : List String → Procedure (List String)
  | [] => return []
  | name :: names => do
    let isDirectory ← Procedure.isDirectory (root.child name)
    let others ← directoriesIn root names
    return if isDirectory then name :: others else others

/-- The domains of a repository's top-level directories. -/
def domainsOf (root : Path) (policyDirectory : String) : Procedure (List Domain) := do
  let names ← Procedure.list root
  return domains [policyDirectory] (← directoriesIn root names)

/-- Whether a file is written: always when forced, and otherwise if nothing is there. -/
def isWanted (force : Bool) (path : Path) : Procedure Bool := do
  if force then return true else return !(← Procedure.isThere path)

/-- Write the starter architecture. -/
def writeSystem (root path policyPath : Path) (ds : List Domain) : Procedure Unit := do
  match root.behind? policyPath with
  | none => Procedure.breakDown .outsideRepository
  | some policy =>
    Procedure.writeBelow path (architecture (nameOf root.lastName) ds policy.text)

/-- Write the starter files of a repository. -/
def run (root : Path) (s : Settings) (force : Bool) : Procedure Report := do
  let directory := Path.ofText s.policyDirectory
  let systemPath := root.under (.ofText s.systemFile)
  let policyPath := (root.under directory).child "default.intent"
  let skipped ← match directory.isAbsolute, directory.names with
    | true, _ => pure "/"
    | false, name :: _ => pure name
    | false, [] => Procedure.breakDown .noPolicyDirectory
  let ds ← domainsOf root skipped
  let wroteSystem ← isWanted force systemPath
  if wroteSystem then writeSystem root systemPath policyPath ds
  let wrotePolicy ← isWanted force policyPath
  if wrotePolicy then Procedure.writeBelow policyPath policy
  return { systemPath, policyPath, domains := ds, wroteSystem, wrotePolicy }

end ChangeGate.Starter
