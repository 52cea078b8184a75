import ChangeGate.Markup.Basic
import ChangeGate.Markup.Emoji
import ChangeGate.Markup.Literal
import ChangeGate.Text.Blank
import ChangeGate.Text.Cells

/-! # Markup without colours

`plain` gives the text that markup shows where nothing can be coloured: tags are gone, a
backslash in front of a bracket is gone, names of pictures are replaced, control characters are
dropped and tabs are filled up with blanks.  A closing tag that closes nothing is an error, and so
is one that closes an action without proper parameters. -/

namespace ChangeGate.Markup

/-! ### Tags -/

/-- A tag that is open: its name, and what stands behind an equals sign. -/
structure OpenTag where
  name : List Char
  parameters : List Char
  deriving DecidableEq, Repr

/-- The tag that a body opens. -/
def OpenTag.ofBody (body : List Char) : OpenTag where
  name := (Text.trim (body.takeWhile (· != '='))).map Char.toLower
  parameters := (body.dropWhile (· != '=')).drop 1

/-- Whether a tag may be closed: the parameters of an action have to be proper ones. -/
def OpenTag.isProper (t : OpenTag) : Bool :=
  t.name.head? != some '@' || t.parameters.isEmpty || Literal.isParameters t.parameters

/-- The tag that a closing tag closes, with those that stay open.  A closing tag without a name
closes the tag opened last, one with a name the last one of that name. -/
def closed? (opened : List OpenTag) (name : List Char) : Option (OpenTag × List OpenTag) :=
  if name.isEmpty then opened.head?.map (·, opened.drop 1)
  else (opened.find? (·.name == name)).map fun t => (t, opened.erase t)

/-- The open tags after one more tag, or nothing if it closes none or an improper one. -/
def openAfter (opened : List OpenTag) (body : List Char) : Option (List OpenTag) :=
  match body.takeWhile (· != '=') with
  | '/' :: closing =>
    match closed? opened ((Text.trim closing).map Char.toLower) with
    | some (t, rest) => if t.isProper then some rest else none
    | none => none
  | _ => some (.ofBody body :: opened)

/-! ### Text -/

/-- A text without the backslashes in front of its opening brackets. -/
def unescapeBrackets : List Char → List Char
  | '\\' :: '[' :: r => '[' :: unescapeBrackets r
  | c :: r => c :: unescapeBrackets r
  | [] => []

/-- Whether a character is never shown. -/
def isHidden (c : Char) : Bool :=
  let n := c.toNat
  n == 7 || n == 8 || n == 11 || n == 12 || n == 13

/-- What a piece of text shows. -/
def shown (cs : List Char) : List Char :=
  (Emoji.withPictures (unescapeBrackets cs)).filter (!isHidden ·)

/-- The text of pieces under a stack of open tags. -/
def plainFrom (opened : List OpenTag) : List Piece → Option (List Char)
  | [] => some []
  | .text cs :: ps => (plainFrom opened ps).map (shown cs ++ ·)
  | .tag body :: ps => (openAfter opened body).bind fun opened => plainFrom opened ps

/-- Fill tabs up to the next multiple of eight cells. -/
def expandTabs (column : Nat) : List Char → List Char
  | [] => []
  | '\t' :: r =>
    let width := 8 - column % 8
    List.replicate width ' ' ++ expandTabs (column + width) r
  | '\n' :: r => '\n' :: expandTabs 0 r
  | c :: r => c :: expandTabs (column + Text.cells c) r

/-- The text that markup shows, or nothing if a closing tag closes nothing. -/
def plain (markup : String) : Option (List Char) :=
  (plainFrom [] (pieces markup.toList)).map (expandTabs 0)

end ChangeGate.Markup
