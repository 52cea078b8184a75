/-! # Blanks and lines

The blank characters are those that Unicode counts as white space, together with the four
separators `0x1C` to `0x1F`.  `trim` drops blanks at both ends of a text, `lines` cuts a text at
every line break. -/

namespace ChangeGate.Text

/-- Whether a character is blank. -/
def isBlank (c : Char) : Bool :=
  let n := c.toNat
  (0x09 ≤ n && n ≤ 0x0D) || (0x1C ≤ n && n ≤ 0x20) || n == 0x85 || n == 0xA0 || n == 0x1680 ||
    (0x2000 ≤ n && n ≤ 0x200A) || n == 0x2028 || n == 0x2029 || n == 0x202F || n == 0x205F ||
    n == 0x3000

/-- Drop the characters at the end that satisfy `p`. -/
def dropEndWhile (p : Char → Bool) (cs : List Char) : List Char :=
  (cs.reverse.dropWhile p).reverse

/-- Drop the blanks at both ends. -/
def trim (cs : List Char) : List Char :=
  dropEndWhile isBlank (cs.dropWhile isBlank)

/-- Whether a character may stand around a numeral: a blank that is no separator of records. -/
def isPadding (c : Char) : Bool := isBlank c && !(0x1C ≤ c.toNat && c.toNat ≤ 0x1F)

/-- Drop what may stand around a numeral. -/
def trimPadding (cs : List Char) : List Char :=
  dropEndWhile isPadding (cs.dropWhile isPadding)

/-! ### Lines -/

/-- Whether a character ends a line.  A carriage return and the line feed after it end one line. -/
def isLineBreak (c : Char) : Bool :=
  let n := c.toNat
  (0x0A ≤ n && n ≤ 0x0D) || (0x1C ≤ n && n ≤ 0x1E) || n == 0x85 || n == 0x2028 || n == 0x2029

/-- The lines of a text, given the characters already read of the first one in reverse.  A line
break at the very end opens no further line. -/
def linesFrom (seen : List Char) : List Char → List (List Char)
  | [] => if seen.isEmpty then [] else [seen.reverse]
  | '\r' :: '\n' :: r => seen.reverse :: linesFrom [] r
  | c :: r => if isLineBreak c then seen.reverse :: linesFrom [] r else linesFrom (c :: seen) r

/-- The lines of a text, cut at every kind of line break. -/
def lines (cs : List Char) : List (List Char) := linesFrom [] cs

/-- Cut a text at every occurrence of one character; a text without it is one piece. -/
def splitAt (sep : Char) : List Char → List (List Char)
  | [] => [[]]
  | c :: r =>
    if c = sep then [] :: splitAt sep r
    else
      match splitAt sep r with
      | [] => [[c]]
      | piece :: pieces => (c :: piece) :: pieces

/-- The pieces of a text between commas. -/
def commaPieces (cs : List Char) : List (List Char) := splitAt ',' cs

/-- Read every kind of line end as a line feed. -/
def unifyLineEnds : List Char → List Char
  | [] => []
  | '\r' :: '\n' :: r => '\n' :: unifyLineEnds r
  | c :: r => (if c = '\r' then '\n' else c) :: unifyLineEnds r

end ChangeGate.Text
