import ChangeGate.Architecture.Check
import ChangeGate.Architecture.Reader
import ChangeGate.Policy.Check
import ChangeGate.Policy.Reader
import ChangeGate.Settings.Basic
import ChangeGate.Workspace.Basic

/-! # The specification of a repository

A repository is specified by its system file and the policy files of one directory, in the order
of their names.  Reading stops at the first file that cannot be read, does not parse, or has
problems. -/

namespace ChangeGate.Repository

/-- A file and its text. -/
structure Source where
  path : Path
  text : String
  deriving DecidableEq, Repr, Inhabited

/-- The system file and the policy files. -/
structure Sources where
  system : Source
  policies : List Source
  deriving DecidableEq, Repr, Inhabited

/-- What the files specify. -/
structure Specs where
  architecture : Architecture
  policies : List PolicySet
  deriving DecidableEq, Repr, Inhabited

/-! ### Files -/

/-- The source at a path. -/
def source (path : Path) : Procedure Source := do
  let w ← get
  match w.files.read (w.whole path) with
  | .error .nullCharacter => Procedure.breakDown .nullCharacter
  | .error .unencodable => Procedure.breakDown .unencodable
  | .error kind => Procedure.complain (.unreadable path.text ⟨kind, path.text⟩)
  | .ok bytes =>
    match Text.decodeUtf8 bytes with
    | .error (flaw, position) => Procedure.complain (.notUtf8 path.text flaw position)
    | .ok cs => return ⟨path, String.ofList (Text.unifyLineEnds cs)⟩

/-- The ending of a policy file's name. -/
def policyEnding : String := ".intent"

/-- Whether a name is that of a policy file. -/
def isPolicyName (name : String) : Bool := policyEnding.toList.isSuffixOf name.toList

/-- The policy files among some names, in order. -/
def policyNames (names : List String) : List String :=
  (names.filter isPolicyName).mergeSort (· ≤ ·)

/-- The paths of the policy files in a directory; none if there is no directory. -/
def policyPaths (directory : Path) : Procedure (List Path) := do
  if ← Procedure.isDirectory directory then
    return (policyNames (← Procedure.list directory)).map directory.child
  else return []

/-- The files of a specification. -/
def sources (root : Path) (s : Settings) : Procedure Sources := do
  let path := root.under (.ofText s.systemFile)
  if !(← Procedure.isFile path) then
    Procedure.complain (.noSystemFile s.systemFile root.text)
  let system ← source path
  let policies ← (← policyPaths (root.under (.ofText s.policyDirectory))).mapM source
  return ⟨system, policies⟩

/-! ### Meaning -/

/-- What a file means, unless its text is refused. -/
def understood {α : Type} (result : Except ChangeGate.Source.Error α) : Procedure α :=
  match result with
  | .ok x => return x
  | .error (.malformed e) => Procedure.complain (.malformed e)
  | .error .longNumeral => Procedure.breakDown .longNumeral

/-- Complain about the problems of a file, if there are any. -/
def accept (path : Path) (problems : List String) : Procedure Unit :=
  if problems.isEmpty then return () else Procedure.complain (.invalidSpec path.text problems)

/-- The architecture that a system file describes. -/
def architecture (s : Source) : Procedure Architecture := do
  let a ← understood (Architecture.read s.text s.path.text)
  accept s.path a.problems
  return a

/-- The policies that a policy file describes. -/
def policySet (s : Source) : Procedure PolicySet := do
  let p ← understood (PolicySet.read s.text s.path.text)
  accept s.path p.problems
  return p

/-- What the files of a repository specify. -/
def specs (root : Path) (s : Settings) : Procedure Specs := do
  let files ← sources root s
  let system ← architecture files.system
  let policies ← files.policies.mapM policySet
  return ⟨system, policies⟩

end ChangeGate.Repository
