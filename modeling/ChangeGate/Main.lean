import ChangeGate.Command.Run

/-! # The program

The program takes a picture of the files around the working directory, runs the command line on it
and writes what changed.  It starts no other program, so the changed paths have to come from the
environment. -/

namespace ChangeGate.Host

/-- Directories whose inside is never looked at. -/
def closed : List String := [".git", "node_modules"]

/-- The path of a location as text. -/
def textOf (loc : Location) : String := (Path.mk true loc).text

/-- What stands in a directory, and below it if `deep` is set.  What cannot be read is left out;
files that are not looked into count as empty. -/
partial def entriesIn (deep : Bool) (loc : Location) : IO (List (Location × Entry)) := do
  let base ← IO.currentDir
  let found ← try (base / textOf loc).readDir catch _ => pure #[]
  let mut entries := []
  for e in found do
    let place := loc ++ [e.fileName]
    if ← e.path.isDir then
      entries := (place, .directory) :: entries
      if deep && !closed.contains e.fileName then
        entries := (← entriesIn deep place) ++ entries
    else
      let bytes ← if deep then (try IO.FS.readBinFile e.path catch _ => pure .empty)
        else pure .empty
      entries := (place, .file bytes.toList) :: entries
  return entries

/-- The directories on the way to a path, with what stands in them. -/
def surroundings (p : Path) : IO (List (Location × Entry)) := do
  let mut entries := []
  for q in p.upwards do
    if ← ((← IO.currentDir) / q.text).isDir then
      entries := (← entriesIn false q.names) ++ (q.names, .directory) :: entries
  return entries

/-- The file at a path, if it can be read. -/
def single (p : Path) : IO (List (Location × Entry)) := do
  try
    let bytes ← IO.FS.readBinFile p.text
    return [(p.names, .file bytes.toList)]
  catch _ => return []

/-- The variables of the environment that are looked at. -/
def watched : List String :=
  ["CHANGED_FILES", "PR_BODY", "GITHUB_EVENT_PATH", "DIFF_BASE", "DIFF_HEAD"]

/-- The values of the variables that are set. -/
def environment : IO (List (String × String)) := do
  let values ← watched.mapM fun name => do return (← IO.getEnv name).map (name, ·)
  return values.filterMap id

/-- The root of the repository around a path, going by what stands around it. -/
def rootOf (w : Workspace) (start : Path) : Path :=
  match (Repository.root start).run.run w with
  | (.ok root, _) => root
  | (.error _, _) => start

/-- The workspace of a command line. -/
def workspace (arguments : List String) : IO Workspace := do
  let directory := Path.ofText (← IO.currentDir).toString
  let start :=
    match Command.parse? arguments with
    | some (.inside (some d) _) => (directory.under (.ofText d)).settled
    | _ => directory
  let environment ← environment
  let around : Workspace :=
    { files := ⟨← surroundings start⟩, directory, environment }
  let root := rootOf around start
  let below ← entriesIn true root.names
  let event ← match around.setting? "GITHUB_EVENT_PATH" with
    | some p => single (directory.under (.ofText p)).settled
    | none => pure []
  let outside := around.files.entries.filter fun (loc, _) =>
    loc = root.names || !root.names.isPrefixOf loc
  return { around with files := event.foldl (fun fs (loc, e) => fs.put loc e) ⟨below ++ outside⟩ }

/-- Write the files that changed. -/
def store (before after : Files) : IO Unit :=
  (before.changes after).forM fun (loc, bytes) =>
    match bytes with
    | some bytes => do
      IO.FS.createDirAll (textOf loc.dropLast)
      IO.FS.writeBinFile (textOf loc) ⟨bytes.toArray⟩
    | none => pure ()

end ChangeGate.Host

/-- Run the command line on the files around the working directory. -/
def main (arguments : List String) : IO UInt32 := do
  let w ← ChangeGate.Host.workspace arguments
  let (outcome, after) := ChangeGate.Command.runLine arguments w
  ChangeGate.Host.store w.files after.files
  (← IO.getStdout).putStr outcome.output
  for warning in after.warnings do
    (← IO.getStderr).putStrLn warning
  if let some b := outcome.breakdown then
    (← IO.getStderr).putStrLn ("Unexpected failure: " ++ reprStr b)
  return UInt32.ofNat outcome.exitCode
