import ChangeGate.Text.Blank

/-! # Paths

A path is a sequence of names, walked from the root directory or from the working directory.
Empty names and single dots lead nowhere and are dropped.  A double dot is kept, since where it
leads is for the files to say; `settled` reads it as a step back. -/

namespace ChangeGate

/-- A way to a file. -/
structure Path where
  isAbsolute : Bool
  names : List String
  deriving DecidableEq, Repr, Inhabited

namespace Path

/-- The root directory. -/
def root : Path := ⟨true, []⟩

/-- The path that a text writes. -/
def ofText (s : String) : Path where
  isAbsolute := s.toList.head? == some '/'
  names := ((Text.splitAt '/' s.toList).map String.ofList).filter fun n => n != "" && n != "."

/-- The text of a path; a path without names is a single dot. -/
def text (p : Path) : String :=
  let joined := "/".intercalate p.names
  if p.isAbsolute then "/" ++ joined else if p.names.isEmpty then "." else joined

/-- A path seen from a directory; an absolute path stays as it is. -/
def under (directory p : Path) : Path :=
  if p.isAbsolute then p else { directory with names := directory.names ++ p.names }

/-- One name below a path. -/
def child (p : Path) (name : String) : Path := { p with names := p.names ++ [name] }

/-- The path without its last name. -/
def parent (p : Path) : Path := { p with names := p.names.dropLast }

/-- The last name, if there is any. -/
def lastName (p : Path) : String := (p.names.getLast?).getD ""

/-- The path with every double dot read as a step back. -/
def settled (p : Path) : Path :=
  { p with names := p.names.foldl (fun ns n => if n = ".." then ns.dropLast else ns ++ [n]) [] }

/-- A path and the paths above it, from the path itself to the root. -/
def upwards (p : Path) : List Path :=
  (List.range (p.names.length + 1)).map fun k =>
    { p with names := p.names.take (p.names.length - k) }

/-- The rest of a path behind a directory whose names it starts with. -/
def behind? (directory p : Path) : Option Path :=
  if directory.isAbsolute == p.isAbsolute && directory.names.isPrefixOf p.names then
    some ⟨false, p.names.drop directory.names.length⟩
  else none

theorem parent_length_lt {p : Path} (h : p.names ≠ []) :
    p.parent.names.length < p.names.length := by
  have := List.length_pos_iff.2 h
  simp only [parent, List.length_dropLast]
  omega

end Path

end ChangeGate
