import ChangeGate.Architecture.Basic

/-! # Globs and the owner of a file

A glob is a path with wildcards.  `**/` stands for any directories or none, `**` for any text on
one line, `*` for any text without a slash and `?` for one character that is no slash; every other
character stands for itself.  The owner of a file is the domain with the longest glob that matches
it, and of several the one whose name comes first. -/

namespace ChangeGate

namespace Glob

/-- The parts of a glob. -/
inductive Part
  | directories
  | anything
  | segment
  | one
  | char (c : Char)
  deriving DecidableEq, Repr

/-- The parts that a pattern writes. -/
def parts : List Char → List Part
  | '*' :: '*' :: '/' :: r => .directories :: parts r
  | '*' :: '*' :: r => .anything :: parts r
  | '*' :: r => .segment :: parts r
  | '?' :: r => .one :: parts r
  | c :: r => .char c :: parts r
  | [] => []

/-- Whether some run of characters that satisfy `ok` can be taken off the front so that `rest`
holds of what follows. -/
def someRun (ok : Char → Bool) (rest : List Char → Bool) : List Char → Bool
  | [] => rest []
  | c :: cs => rest (c :: cs) || ok c && someRun ok rest cs

/-- Whether `rest` holds behind some slash on the first line. -/
def someSlash (rest : List Char → Bool) : List Char → Bool
  | [] => false
  | c :: cs => c == '/' && rest cs || c != '\n' && someSlash rest cs

/-- Whether a part can be taken off the front so that `rest` holds of what follows. -/
def Part.takes (rest : List Char → Bool) : Part → List Char → Bool
  | .directories, [] => rest []
  | .directories, c :: cs => rest (c :: cs) || c != '\n' && someSlash rest cs
  | .anything, cs => someRun (· != '\n') rest cs
  | .segment, cs => someRun (· != '/') rest cs
  | .one, c :: cs => c != '/' && rest cs
  | .char d, c :: cs => c == d && rest cs
  | .one, [] | .char _, [] => false

/-- Whether parts match the whole of a path. -/
def matchParts : List Part → List Char → Bool
  | [] => List.isEmpty
  | p :: ps => p.takes (matchParts ps)

/-- Whether a glob matches a path. -/
def accepts (pattern path : String) : Bool := matchParts (parts pattern.toList) path.toList

end Glob

namespace Domain

/-- A claim on a file: a name and the length of the glob that matches. -/
structure Claim where
  name : String
  length : Nat
  deriving DecidableEq, Repr

/-- The better of two claims: the longer one, and of two equally long the one whose name comes
first. -/
def Claim.better (x y : Claim) : Claim :=
  if x.length < y.length || x.length == y.length && y.name < x.name then y else x

/-- The claims of a domain on a path. -/
def claims (path : String) (d : Domain) : List Claim :=
  (d.allow.filter (Glob.accepts · path)).map fun g => ⟨d.name, g.length⟩

/-- The name of the domain that owns a path. -/
def owner? (domains : List Domain) (path : String) : Option String :=
  match domains.flatMap (claims path) with
  | [] => none
  | first :: others => some (others.foldl Claim.better first).name

end Domain

end ChangeGate
