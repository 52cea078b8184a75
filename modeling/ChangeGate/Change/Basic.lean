/-! # Changes

An action is one observed change of a file; the task says which domain a change set is meant for
and how that is known. -/

namespace ChangeGate

/-- The lines that a change replaces and the lines that it puts there. -/
structure Hunk where
  oldStart : Int
  oldLines : Int
  newStart : Int
  newLines : Int
  deriving DecidableEq, Repr, Inhabited

/-- The kinds of action. -/
inductive ActionKind
  | modifyFile
  | importCrossDomain
  deriving DecidableEq, Repr, Inhabited

/-- The name of a kind of action. -/
def ActionKind.label : ActionKind → String
  | .modifyFile => "ModifyFile"
  | .importCrossDomain => "ImportCrossDomain"

/-- An observed change. -/
structure Action where
  kind : ActionKind := .modifyFile
  path : String
  fileDomain : Option String := none
  hunks : List Hunk := []
  sourceDomain : Option String := none
  sourcePath : Option String := none
  targetDomain : Option String := none
  targetImport : Option String := none
  deriving DecidableEq, Repr, Inhabited

/-- How the domain of a task is known. -/
inductive TaskSource
  | scopeOverride | scopeHeader | domainLabel | slashCommand | inferred | unknown
  deriving DecidableEq, Repr, Inhabited

/-- The name of a source. -/
def TaskSource.label : TaskSource → String
  | .scopeOverride => "cli_override"
  | .scopeHeader => "pr_header"
  | .domainLabel => "issue_label"
  | .slashCommand => "slash_command"
  | .inferred => "inferred"
  | .unknown => "unknown"

/-- What a change set is meant for. -/
structure Task where
  domain : Option String := none
  tags : List String := []
  source : TaskSource := .unknown
  deriving DecidableEq, Repr, Inhabited

end ChangeGate
