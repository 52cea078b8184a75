import ChangeGate.Files.Basic
import ChangeGate.Source.Error
import ChangeGate.Verdict.Evaluate
import ChangeGate.Workspace.Git
import ChangeGate.Yaml.Cursor

/-! # How a run can fail

A complaint is a failure that the gate foresees and puts into words.  A breakdown is one that
nothing is prepared for: the run ends without a word. -/

namespace ChangeGate

/-- A failure that is reported. -/
inductive Complaint
  | malformed (e : Source.SyntaxError)
  | invalidSpec (path : String) (problems : List String)
  | noSystemFile (name root : String)
  | notUtf8 (path : String) (flaw : Text.Utf8Flaw) (position : Nat)
  | unreadable (path : String) (fault : FileFault)
  | malformedSettings (path : String)
  | settingsNoMap (path : String)
  | invalidSettings (path : String) (issues : List Schema.Issue)
  | git (arguments : List String) (trouble : Git.Trouble)
  deriving DecidableEq, Repr

/-- The wording of a complaint.  Of settings that are refused the report names the file alone. -/
def Complaint.message : Complaint → String
  | .malformed e => e.message
  | .invalidSpec path problems => "Invalid " ++ path ++ ":\n  " ++ "\n  ".intercalate problems
  | .noSystemFile name root => "No " ++ name ++ " found in " ++ root
  | .notUtf8 path flaw position =>
    path ++ ": not valid UTF-8 (" ++ flaw.reason ++ " at byte " ++ toString position ++ ")"
  | .unreadable path fault => path ++ ": cannot read (" ++ fault.message ++ ")"
  | .malformedSettings path => "Invalid YAML in " ++ path
  | .settingsNoMap path => path ++ " must contain a mapping at top level"
  | .invalidSettings path _ => "Invalid config in " ++ path
  | .git arguments trouble => trouble.message arguments

/-- A failure that nothing is prepared for. -/
inductive Breakdown
  | file (fault : FileFault)
  | nullCharacter
  | unencodable
  | undecodable
  | longNumeral
  | deepJson
  | settingsText (flaw : Yaml.Flaw)
  | settingsKey
  | diffEntry
  | diffEntryLength
  | noPolicyDirectory
  | outsideRepository
  | eventShape
  | descriptionShape
  | predicate (fault : Fault)
  | violation (issues : List Schema.Issue)
  | markup
  deriving DecidableEq, Repr

/-- How a run fails. -/
inductive Failure
  | complaint (c : Complaint)
  | breakdown (b : Breakdown)
  deriving DecidableEq, Repr

end ChangeGate
