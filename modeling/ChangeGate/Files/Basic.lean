import ChangeGate.Files.Path
import ChangeGate.Text.Half
import ChangeGate.Text.Quoted

/-! # A tree of files

`Files` holds what stands at every location.  A path is followed name by name from the root: every
name but the last has to lead to a directory, and a double dot leads back to the directory above.
`at?` is the view of the tree; `put` changes it at one location and nowhere else. -/

namespace ChangeGate

/-- Where something stands: the names on the way from the root directory. -/
abbrev Location := List String

/-- What can stand at a location. -/
inductive Entry
  | directory
  | file (bytes : List UInt8)
  deriving DecidableEq, Repr

namespace Entry

/-- Whether an entry is a directory. -/
def isDirectory : Entry → Bool
  | directory => true
  | file _ => false

/-- Whether an entry is a file. -/
def isFile : Entry → Bool
  | directory => false
  | file _ => true

/-- The content of a file. -/
def bytes? : Entry → Option (List UInt8)
  | directory => none
  | file bytes => some bytes

end Entry

/-! ### Faults -/

/-- What can go wrong with a path. -/
inductive FaultKind
  | notFound | exists | notDirectory | isDirectory | nameTooLong
  | nullCharacter | unencodable
  deriving DecidableEq, Repr

/-- The number that the system gives to a fault.  A name with a null character and one without
bytes do not get as far as the system. -/
def FaultKind.number? : FaultKind → Option Nat
  | .notFound => some 2
  | .exists => some 17
  | .notDirectory => some 20
  | .isDirectory => some 21
  | .nameTooLong => some 36
  | .nullCharacter | .unencodable => none

/-- The wording of a kind of fault. -/
def FaultKind.wording : FaultKind → String
  | .notFound => "No such file or directory"
  | .exists => "File exists"
  | .notDirectory => "Not a directory"
  | .isDirectory => "Is a directory"
  | .nameTooLong => "File name too long"
  | .nullCharacter => "embedded null byte"
  | .unencodable => "surrogates not allowed"

/-- A fault with the path at which it arose. -/
structure FileFault where
  kind : FaultKind
  path : String
  deriving DecidableEq, Repr

/-- The wording of a fault. -/
def FileFault.message (f : FileFault) : String :=
  match f.kind.number? with
  | some number =>
    "[Errno " ++ toString number ++ "] " ++ f.kind.wording ++ ": " ++
      String.ofList (Text.quoted f.path.toList)
  | none => f.kind.wording

/-! ### The tree -/

/-- What stands at every location where something stands. -/
structure Files where
  entries : List (Location × Entry) := []
  deriving DecidableEq, Repr, Inhabited

namespace Files

/-- What stands at a location; at the root there is always a directory. -/
def at? (fs : Files) (loc : Location) : Option Entry :=
  if loc = [] then some .directory else (fs.entries.find? (·.1 = loc)).map (·.2)

/-- The tree with an entry put at a location. -/
def put (fs : Files) (loc : Location) (e : Entry) : Files :=
  ⟨(loc, e) :: fs.entries.filter (·.1 ≠ loc)⟩

/-- The tree without a location and everything below it. -/
def remove (fs : Files) (loc : Location) : Files :=
  ⟨fs.entries.filter fun (l, _) => !loc.isPrefixOf l⟩

/-- The names of what stands directly in a directory. -/
def namesIn (fs : Files) (loc : Location) : List String :=
  fs.entries.filterMap fun (l, _) =>
    if l ≠ [] ∧ l.dropLast = loc then l.getLast? else none

/-- The content of every file. -/
def contents (fs : Files) : List (Location × List UInt8) :=
  fs.entries.filterMap fun (l, e) => e.bytes?.map (l, ·)

/-- The content of the file at a location. -/
def content? (fs : Files) (loc : Location) : Option (List UInt8) := (fs.at? loc).bind (·.bytes?)

/-- The files that differ between two trees, with their new content or nothing if they are
gone. -/
def changes (before after : Files) : List (Location × Option (List UInt8)) :=
  (after.contents.filter fun (l, bytes) => before.content? l ≠ some bytes).map
      (fun (l, bytes) => (l, some bytes)) ++
    (before.contents.filter fun (l, _) => (after.content? l).isNone).map fun (l, _) => (l, none)

theorem at?_put_self {fs : Files} {loc : Location} {e : Entry} (h : loc ≠ []) :
    (fs.put loc e).at? loc = some e := by
  simp [at?, put, h]

theorem at?_put_of_ne {fs : Files} {loc loc' : Location} {e : Entry} (h : loc' ≠ loc) :
    (fs.put loc e).at? loc' = fs.at? loc' := by
  unfold at? put
  split
  · rfl
  · have hne : ¬loc = loc' := fun h' => h h'.symm
    have hfind : (fs.entries.filter (·.1 ≠ loc)).find? (·.1 = loc') =
        fs.entries.find? (·.1 = loc') := by
      rw [List.find?_filter]
      congr 1
      funext x
      by_cases hx : x.1 = loc'
      · simp [hx, h]
      · simp [hx]
    rw [List.find?_cons_of_neg (by simpa using hne), hfind]

/-! ### Following paths -/

/-- The longest name in bytes. -/
def longestName : Nat := 255

/-- The longest path in bytes. -/
def longestPath : Nat := 4095

/-- How many bytes a name has. -/
def nameSize (name : String) : Nat := ((Text.nameBytes? name.toList).getD []).length

/-- What keeps a name from being given to the system. -/
def nameFault? (name : String) : Option FaultKind :=
  match Text.nameBytes? name.toList with
  | none => some .unencodable
  | some bytes => if bytes.contains 0 then some .nullCharacter else none

/-- Take one step from a location. -/
def enter (fs : Files) (loc : Location) (name : String) : Except FaultKind Location :=
  match fs.at? loc with
  | none => .error .notFound
  | some (.file _) => .error .notDirectory
  | some .directory =>
    if name = ".." then .ok loc.dropLast
    else if longestName < nameSize name then .error .nameTooLong
    else .ok (loc ++ [name])

/-- The location to which an absolute path leads; nothing has to stand there. -/
def locate (fs : Files) (p : Path) : Except FaultKind Location :=
  match nameFault? p.text with
  | some fault => .error fault
  | none =>
    if longestPath < nameSize p.text then .error .nameTooLong else p.names.foldlM fs.enter []

/-- What an absolute path leads to.  A path that breaks off on the way leads to nothing. -/
def look (fs : Files) (p : Path) : Except FaultKind (Option Entry) :=
  match fs.locate p with
  | .ok loc => .ok (fs.at? loc)
  | .error .nameTooLong => .error .nameTooLong
  | .error _ => .ok none

/-- The content of the file at an absolute path. -/
def read (fs : Files) (p : Path) : Except FaultKind (List UInt8) := do
  match fs.at? (← fs.locate p) with
  | none => throw .notFound
  | some .directory => throw .isDirectory
  | some (.file bytes) => return bytes

/-- The tree with a file written at an absolute path. -/
def write (fs : Files) (p : Path) (bytes : List UInt8) : Except FaultKind Files := do
  let loc ← fs.locate p
  match fs.at? loc with
  | some .directory => throw .isDirectory
  | some (.file _) | none => return fs.put loc (.file bytes)

/-- The tree with a new directory at an absolute path. -/
def makeDirectory (fs : Files) (p : Path) : Except FaultKind Files := do
  let loc ← fs.locate p
  match fs.at? loc with
  | some _ => throw .exists
  | none => return fs.put loc .directory

/-- Whether an absolute path leads to a directory. -/
def isDirectory (fs : Files) (p : Path) : Bool :=
  match fs.look p with
  | .ok (some e) => e.isDirectory
  | _ => false

/-- Make a directory unless it is there. -/
def ensureLast (fs : Files) (p : Path) : Except FaultKind Files :=
  match fs.makeDirectory p with
  | .ok fs' => .ok fs'
  | .error f => if fs.isDirectory p then .ok fs else .error f

/-- The tree with a directory at an absolute path and all directories on the way to it, and the
fault that stopped it from being made, with its path.  Directories made before a fault stay. -/
def makeDirectories (fs : Files) (p : Path) : Files × Option (FaultKind × Path) :=
  match fs.ensureLast p with
  | .ok fs' => (fs', none)
  | .error .notFound =>
    if h : p.names = [] then (fs, some (.notFound, p))
    else
      have := Path.parent_length_lt h
      match fs.makeDirectories p.parent with
      | (fs', some fault) => (fs', some fault)
      | (fs', none) =>
        match fs'.ensureLast p with
        | .ok fs'' => (fs'', none)
        | .error f => (fs', some (f, p))
  | .error f => (fs, some (f, p))
  termination_by p.names.length

/-- The names in the directory at an absolute path. -/
def list (fs : Files) (p : Path) : Except FaultKind (List String) := do
  let loc ← fs.locate p
  match fs.at? loc with
  | none => throw .notFound
  | some (.file _) => throw .notDirectory
  | some .directory => return fs.namesIn loc

end Files

end ChangeGate
