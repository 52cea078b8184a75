import ChangeGate.Command.Option
import ChangeGate.Review

/-! # Commands

A command line names the directory to work in and one of four jobs.  `parse?` reads it; a line
that it refuses is a mistake in usage. -/

namespace ChangeGate

/-- What can be asked for. -/
inductive Command.Job
  | plan (request : Review.Request) (json : Bool)
  | check
  | init (force : Bool)
  | fix (request : Review.Request) (dry : Bool)

/-- What a command line asks for. -/
inductive Command
  | version
  | inside (directory : Option String) (job : Command.Job)

namespace Command

/-- The options of every command. -/
def commonOptions : List Switch :=
  [⟨"--cwd", none, true⟩, ⟨"--no-color", none, false⟩, ⟨"--verbose", some 'v', false⟩,
   ⟨"--version", some 'V', false⟩]

/-- The options that say what is reviewed. -/
def reviewOptions : List Switch :=
  [⟨"--scope", none, true⟩, ⟨"--base", none, true⟩, ⟨"--head", none, true⟩]

/-- The review that options ask for. -/
def request (gs : List Given) : Review.Request where
  scope := valueOf? gs "--scope"
  base := valueOf? gs "--base"
  head := valueOf? gs "--head"
  planPath := (valueOf? gs "--out").map .ofText

/-- The options of arguments that hold nothing else. -/
def onlyOptions? (known : List Switch) (arguments : List String) : Option (List Given) :=
  match options? known arguments with
  | some (gs, []) => some gs
  | _ => none

/-- The job of a name and its arguments. -/
def job? (name : String) (arguments : List String) : Option Job :=
  match name with
  | "plan" =>
    (onlyOptions? (reviewOptions ++ [⟨"--json", none, false⟩, ⟨"--out", none, true⟩])
      arguments).map fun gs => .plan (request gs) (wasGiven gs "--json")
  | "check" => (onlyOptions? [] arguments).map fun _ => .check
  | "init" =>
    (onlyOptions? [⟨"--force", none, false⟩] arguments).map fun gs =>
      .init (wasGiven gs "--force")
  | "fix" =>
    (onlyOptions? (reviewOptions ++ [⟨"--dry-run", none, false⟩]) arguments).map fun gs =>
      .fix (request gs) (wasGiven gs "--dry-run")
  | _ => none

/-- What a command line asks for. -/
def parse? (arguments : List String) : Option Command :=
  match options? commonOptions arguments with
  | none => none
  | some (gs, rest) =>
    if wasGiven gs "--version" then some .version
    else
      match rest with
      | name :: rest => (job? name rest).map (.inside (valueOf? gs "--cwd"))
      | [] => none

end Command

end ChangeGate
