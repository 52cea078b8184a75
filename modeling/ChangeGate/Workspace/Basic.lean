import ChangeGate.Failure
import ChangeGate.Text.Blank

/-! # The workspace

A workspace is all that a run sees and changes: the files, the working directory, the environment,
the answers of the version control program, and what was called and logged.  A procedure works on
a workspace and keeps its changes when it fails. -/

namespace ChangeGate

/-- What a run works on. -/
structure Workspace where
  files : Files := {}
  directory : Path := .root
  environment : List (String × String) := []
  git : Git.Program := none
  gitCalls : List (List String) := []
  warnings : List String := []

/-- Work on a workspace that can fail. -/
abbrev Procedure := ExceptT Failure (StateM Workspace)

namespace Workspace

/-- The value of a variable of the environment. -/
def valueOf? (w : Workspace) (name : String) : Option String :=
  (w.environment.find? (·.1 = name)).map (·.2)

/-- The value of a variable, unless it is empty. -/
def setting? (w : Workspace) (name : String) : Option String :=
  (w.valueOf? name).filter (· ≠ "")

/-- A path from the root directory. -/
def whole (w : Workspace) (p : Path) : Path := w.directory.under p

end Workspace

namespace Procedure

variable {α : Type}

/-- Fail with a complaint. -/
def complain (c : Complaint) : Procedure α := throw (.complaint c)

/-- Fail with a breakdown. -/
def breakDown (b : Breakdown) : Procedure α := throw (.breakdown b)

/-- Log a warning. -/
def warn (text : String) : Procedure Unit :=
  modify fun w => { w with warnings := w.warnings ++ [text] }

/-! ### Files -/

/-- Fail with what is wrong with a path. -/
def fileFault (p : Path) : FaultKind → Procedure α
  | .nullCharacter => breakDown .nullCharacter
  | .unencodable => breakDown .unencodable
  | kind => breakDown (.file ⟨kind, p.text⟩)

/-- What a path leads to. -/
def look (p : Path) : Procedure (Option Entry) := do
  let w ← get
  match w.files.look (w.whole p) with
  | .ok e => return e
  | .error kind => fileFault p kind

/-- Whether a path leads anywhere. -/
def isThere (p : Path) : Procedure Bool := return (← look p).isSome

/-- Whether a path leads to a file. -/
def isFile (p : Path) : Procedure Bool := return (← look p).any (·.isFile)

/-- Whether a path leads to a directory. -/
def isDirectory (p : Path) : Procedure Bool := return (← look p).any (·.isDirectory)

/-- The names in a directory. -/
def list (p : Path) : Procedure (List String) := do
  let w ← get
  match w.files.list (w.whole p) with
  | .ok names => return names
  | .error kind => fileFault p kind

/-- The content of a file. -/
def readBytes (p : Path) : Procedure (List UInt8) := do
  let w ← get
  match w.files.read (w.whole p) with
  | .ok bytes => return bytes
  | .error kind => fileFault p kind

/-- Bytes as text with one kind of line end. -/
def decode (bytes : List UInt8) : Procedure (List Char) :=
  match Text.decodeUtf8 bytes with
  | .ok cs => return Text.unifyLineEnds cs
  | .error _ => breakDown .undecodable

/-- The text of a file. -/
def readText (p : Path) : Procedure (List Char) := do decode (← readBytes p)

/-- Write a text to a file.  A text that has no bytes leaves an empty file behind. -/
def writeText (p : Path) (text : String) : Procedure Unit := do
  let w ← get
  let isBytes := !Text.hasHalf text.toList
  match w.files.write (w.whole p) (if isBytes then Text.encodeUtf8 text.toList else []) with
  | .ok files =>
    set { w with files }
    if !isBytes then breakDown .unencodable
  | .error kind => fileFault p kind

/-- Make a directory and all directories on the way to it. -/
def makeDirectories (p : Path) : Procedure Unit := do
  let w ← get
  let (files, fault) := w.files.makeDirectories (w.whole p)
  set { w with files }
  match fault with
  | none => return ()
  | some (kind, place) => fileFault place kind

/-- Write a text to a file and make the directories on the way to it. -/
def writeBelow (p : Path) (text : String) : Procedure Unit := do
  makeDirectories p.parent
  writeText p text

/-! ### Version control -/

/-- Call the version control program and read what it prints. -/
def git (arguments : List String) : Procedure (List Char) := do
  if let some kind := arguments.findSome? Files.nameFault? then fileFault .root kind
  let w ← get
  match w.git with
  | none => complain (.git arguments .absent)
  | some answers =>
    let reply := answers w.gitCalls.length
    set { w with gitCalls := w.gitCalls ++ [arguments] }
    let out ← decode reply.out
    let err ← decode reply.err
    if reply.code = 0 then return out
    else complain (.git arguments (.exited (String.ofList err)))

end Procedure

end ChangeGate
