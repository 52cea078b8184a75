import ChangeGate.Diff
import ChangeGate.Glob
import ChangeGate.Workspace.Basic

/-! # The log of changed files

What changed between two revisions is read from a unified diff, and where there is none from a
list of paths.  The list is taken from the environment if it has one.  Two revisions are compared
from where they parted, and as they are if that fails. -/

namespace ChangeGate.Change

/-! ### Actions -/

/-- The change of a file of a diff. -/
def ofFile (domains : List Domain) (f : Diff.FileDiff) : Action where
  path := f.path
  fileDomain := Domain.owner? domains f.path
  hunks := f.hunks

/-- The change of a file that is known by its path. -/
def ofPath (domains : List Domain) (path : String) : Action where
  path
  fileDomain := Domain.owner? domains path

/-- The paths that a text lists, one on a line. -/
def listedPaths (cs : List Char) : List String :=
  ((Text.lines cs).map Text.trim).filter (!·.isEmpty) |>.map String.ofList

/-! ### Comparing revisions -/

/-- What a comparison of two revisions prints. -/
def comparison (base head : String) (options : List String) : Procedure (List Char) :=
  tryCatch (Procedure.git ("diff" :: options ++ [base ++ "..." ++ head])) fun failure =>
    match failure with
    | .complaint (.git _ _) => Procedure.git ("diff" :: options ++ [base, head])
    | _ => throw failure

/-- The list of changed paths that the environment gives. -/
def givenPaths? : Procedure (Option (List String)) := do
  let w ← get
  return (w.setting? "CHANGED_FILES").map fun listed => listedPaths listed.toList

/-- The paths that changed between two revisions. -/
def changedPaths (base head : String) : Procedure (List String) := do
  match ← givenPaths? with
  | some paths => return paths
  | none => return listedPaths (← comparison base head ["--name-only"])

/-- The option for a number of lines around a change. -/
def unifiedOption (lines : Int) : Procedure String :=
  if Text.isLong lines then Procedure.breakDown .longNumeral
  else return "--unified=" ++ toString lines

/-- The diff between two revisions.  If it cannot be had, a warning is logged unless the
environment lists the changed paths. -/
def fullDiff? (base head : String) (unified : Int) : Procedure (Option (List Char)) := do
  let option ← unifiedOption unified
  tryCatch (some <$> comparison base head [option, "--no-color"]) fun failure =>
    match failure with
    | .complaint (.git arguments trouble) => do
      if (← givenPaths?).isNone then
        Procedure.warn
          ("[GIT] Full diff unavailable, using file list: " ++ trouble.message arguments)
      return none
    | _ => throw failure

/-- The changes that a diff describes. -/
def ofDiff (domains : List Domain) (diff : List Char) : Procedure (List Action) :=
  match Diff.parse (String.ofList diff) with
  | some files => return files.map (ofFile domains)
  | none => Procedure.breakDown .longNumeral

/-- The changes between two revisions.  A diff that is given is not asked for, and an empty diff
counts as none. -/
def log (domains : List Domain) (base head : String) (given : Option String) (unified : Int) :
    Procedure (List Action) := do
  let diff ← match given with
    | some text => pure (some text.toList)
    | none => fullDiff? base head unified
  match diff with
  | some (c :: cs) => ofDiff domains (c :: cs)
  | _ => return (← changedPaths base head).map (ofPath domains)

end ChangeGate.Change
