import ChangeGate.Text.Blank
import ChangeGate.Text.Search

/-! # Globs for files without a domain

A file without a domain gets a glob for its directory, two levels deep at most, and the globs go
into a domain `Unmapped` of the system file.  `insert` adds them as text and leaves everything
around the new lines as it is. -/

namespace ChangeGate.Fix

/-- The glob for a file: its first two directories, or the file itself at the top. -/
def suggestGlob (path : String) : String :=
  let segments := Text.splitAt '/' (path.toList.map fun c => if c = '\\' then '/' else c)
  match segments.dropLast.take 2 with
  | [] => path
  | dirs => String.ofList (['/'].intercalate dirs ++ "/**".toList)

/-- Globs between quotes, with commas between them. -/
def listed (globs : List String) : List Char :=
  (", ".intercalate (globs.map fun g => "\"" ++ g ++ "\"")).toList

/-- What stands behind the opening brace of the first `Unmapped` block that starts a line. -/
def behindUnmapped? (content : List Char) : Option (List Char) :=
  (Text.lineStarts content).findSome? fun cs =>
    match (Text.behind? "domain Unmapped".toList cs).map (·.dropWhile Text.isBlank) with
    | some ('\x7b' :: rest) => some rest
    | _ => none

/-- A text up to and with its last closing brace, and what follows. -/
def splitLastBrace? (content : List Char) : Option (List Char × List Char) :=
  match content.reverse.dropWhile (· != '\x7d') with
  | [] => none
  | front => some (front.reverse, content.drop front.length)

/-- The content of a system file with globs added to its `Unmapped` domain, which is put behind
the last block when there is none. -/
def insertChars (content : List Char) (globs : List String) : List Char :=
  if globs.isEmpty then content
  else
    match behindUnmapped? content with
    | some rest =>
      content.take (content.length - rest.length) ++ "\n  paths allow ".toList ++ listed globs ++
        '\n' :: rest
    | none =>
      let block := "\ndomain Unmapped \x7b\n  paths allow ".toList ++ listed globs ++
        "\n\x7d\n".toList
      match splitLastBrace? content with
      | none => content ++ block
      | some (front, rest) => front ++ '\n' :: block ++ rest

/-- The content of a system file with globs added. -/
def insert (content : String) (globs : List String) : String :=
  String.ofList (insertChars content.toList globs)

end ChangeGate.Fix
