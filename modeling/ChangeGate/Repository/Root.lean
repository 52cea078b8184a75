import ChangeGate.Workspace.Basic

/-! # Where a repository starts

The root of a repository is the nearest directory, from the start upwards, that holds a marker.
Without a marker anywhere the start itself is the root. -/

namespace ChangeGate.Repository

/-- The names that mark a root. -/
def markers : List String := ["system.intent", ".intent", ".git"]

/-- Whether a directory holds one of some names. -/
def holdsAny (directory : Path) : List String → Procedure Bool
  | [] => return false
  | name :: names => do
    if ← Procedure.isThere (directory.child name) then return true
    else holdsAny directory names

/-- The first of some directories that holds a marker. -/
def firstMarked? : List Path → Procedure (Option Path)
  | [] => return none
  | p :: ps => do if ← holdsAny p markers then return some p else firstMarked? ps

/-- The root of the repository around a start. -/
def root (start : Path) : Procedure Path := do
  let w ← get
  if let some kind := (w.whole start).names.findSome? Files.nameFault? then
    Procedure.fileFault start kind
  let origin := (w.whole start).settled
  return (← firstMarked? origin.upwards).getD origin

end ChangeGate.Repository
