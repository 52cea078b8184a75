import ChangeGate.Change.Basic
import ChangeGate.Text.Blank
import ChangeGate.Text.Digit
import ChangeGate.Text.Search

/-! # Unified diffs

`parse` reads the files of a unified diff with the numbers of their hunks.  A file starts at a
line `diff --git a/P b/Q`, and hunk headers belong to the file that started last; all other lines
are passed over. -/

namespace ChangeGate.Diff

/-- A file of a diff and its hunks. -/
structure FileDiff where
  path : String
  hunks : List Hunk
  deriving DecidableEq, Repr

/-! ### File headers -/

/-- The word that opens a file header. -/
def headerOpening : List Char := "diff --git a/".toList

/-- The word between the two paths of a file header. -/
def headerMiddle : List Char := " b/".toList

/-- A path with slashes for backslashes. -/
def forwardSlashes (cs : List Char) : List Char := cs.map fun c => if c = '\\' then '/' else c

/-- The path of a file header: what stands behind the first ` b/` after a source path of at least
one character. -/
def headerPath? (line : List Char) : Option (List Char) :=
  match Text.behind? headerOpening line with
  | some (_ :: r) =>
    match Text.behindFirst? headerMiddle r with
    | some (c :: path) => some (forwardSlashes (c :: path))
    | _ => none
  | _ => none

/-! ### Hunk headers -/

/-- A run of digits of any script and what follows it, if there is at least one. -/
def digitRun? (cs : List Char) : Option (List Char × List Char) :=
  match cs.takeWhile Text.isDigit with
  | [] => none
  | ds => some (ds, cs.dropWhile Text.isDigit)

/-- The numerals of a range: where it starts, and how many lines it has when that is written. -/
structure Range where
  start : List Char
  count? : Option (List Char)
  deriving DecidableEq, Repr

/-- A range and what follows it. -/
def range? (cs : List Char) : Option (Range × List Char) := do
  let (start, rest) ← digitRun? cs
  match rest with
  | ',' :: r =>
    match digitRun? r with
    | some (count, rest') => return (⟨start, some count⟩, rest')
    | none => return (⟨start, none⟩, rest)
  | _ => return (⟨start, none⟩, rest)

/-- The two ranges of a hunk header. -/
def hunkRanges? (line : List Char) : Option (Range × Range) := do
  let r ← Text.behind? "@@ -".toList line
  let (old, r) ← range? r
  let r ← Text.behind? " +".toList r
  let (new, r) ← range? r
  let _ ← Text.behind? " @@".toList r
  return (old, new)

/-- The number of a numeral, unless it is too long. -/
def number? (digits : List Char) : Option Int :=
  if Text.longestNumeral < digits.length then none else some (Text.decimalValue digits)

/-- The numbers of a range; a count that is not written is one. -/
def Range.numbers? (r : Range) : Option (Int × Int) := do
  let start ← number? r.start
  let count ← number? (r.count?.getD ['1'])
  return (start, count)

/-- The hunk of a header's ranges, unless a numeral is too long. -/
def hunk? (old new : Range) : Option Hunk := do
  let (oldStart, oldLines) ← old.numbers?
  let (newStart, newLines) ← new.numbers?
  return { oldStart, oldLines, newStart, newLines }

/-! ### Whole diffs -/

/-- The files read so far, the last first, after one more line.  A numeral that is too long
refuses the diff. -/
def step (files : List FileDiff) (line : List Char) : Option (List FileDiff) :=
  match headerPath? line with
  | some path => some (⟨String.ofList path, []⟩ :: files)
  | none =>
    match files with
    | [] => some []
    | f :: fs =>
      match hunkRanges? line with
      | none => some (f :: fs)
      | some (old, new) => (hunk? old new).map fun h => { f with hunks := f.hunks ++ [h] } :: fs

/-- The files of a diff in order. -/
def parse (text : String) : Option (List FileDiff) :=
  ((Text.splitAt '\n' text.toList).foldlM step []).map List.reverse

end ChangeGate.Diff
