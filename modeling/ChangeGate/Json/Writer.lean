import ChangeGate.Json.Basic
import ChangeGate.Text.Half

/-! # Writing JSON

`pretty` writes a value over several lines, two blanks deeper at every level, with all characters
as themselves but quotes, backslashes and control characters.  `compact` writes one line of ASCII
characters.  Both write a whole number in full; where one may be too long to be printed
(`Text.isLong`), that is looked at before (`Plan.json?`). -/

namespace ChangeGate.Json

/-- Four hexadecimal digits. -/
def hexQuad (n : Nat) : List Char :=
  [n / 0x1000 % 16, n / 0x100 % 16, n / 0x10 % 16, n % 16].map Nat.digitChar

/-- One character inside quotes. -/
def escapedChar : Char → List Char
  | '"' => ['\\', '"']
  | '\\' => ['\\', '\\']
  | '\n' => ['\\', 'n']
  | '\r' => ['\\', 'r']
  | '\t' => ['\\', 't']
  | '\x08' => ['\\', 'b']
  | '\x0c' => ['\\', 'f']
  | c => if c.toNat < 0x20 then '\\' :: 'u' :: hexQuad c.toNat else [c]

/-- One character inside quotes, in ASCII; beyond 16 bits as a pair of surrogates. -/
def asciiChar (c : Char) : List Char :=
  let n := (Text.half? c).getD c.toNat
  if n < 0x7F then escapedChar c
  else if n < 0x10000 then '\\' :: 'u' :: hexQuad n
  else
    '\\' :: 'u' :: hexQuad (0xD800 + (n - 0x10000) / 0x400) ++
      '\\' :: 'u' :: hexQuad (0xDC00 + (n - 0x10000) % 0x400)

/-- A text between quotes. -/
def quotedText (escape : Char → List Char) (s : String) : List Char :=
  '"' :: s.toList.flatMap escape ++ ['"']

/-! ### Numbers -/

/-- A finite number of 64 bits as the decimal fraction that it is. -/
def exactDecimal (x : Binary64) : List Char :=
  let sign := if x.isNegative then ['-'] else []
  let size := x.significand.natAbs
  match x.exponent with
  | .ofNat e => sign ++ Nat.toDigits 10 (size * twoTo e) ++ ['.', '0']
  | .negSucc e =>
    let places := e + 1
    let digits := Nat.toDigits 10 (size * Nat.pow 5 places % tenTo places)
    sign ++ Nat.toDigits 10 (size / twoTo places) ++
      '.' :: (List.replicate (places - digits.length) '0' ++ digits)

/-- A number, a whole one however many digits it has. -/
def numeral : Number → List Char
  | .whole n => (toString n).toList
  | .fraction x =>
    if x.isFinite then exactDecimal x
    else if x.isNaN then "NaN".toList
    else if x.isNegative then "-Infinity".toList else "Infinity".toList

/-! ### Values -/

/-- A line end and the indentation of a level. -/
def newLine (level : Nat) : List Char := '\n' :: List.replicate (2 * level) ' '

mutual

/-- A value that starts at a level of indentation. -/
def prettyAt (level : Nat) : Json → List Char
  | .null => "null".toList
  | .bool b => (if b then "true" else "false").toList
  | .number n => numeral n
  | .text s => quotedText escapedChar s
  | .list [] => ['[', ']']
  | .list (j :: js) =>
    '[' :: newLine (level + 1) ++ prettyAt (level + 1) j ++ prettyItems (level + 1) js ++
      newLine level ++ [']']
  | .object [] => ['\x7b', '\x7d']
  | .object ((name, j) :: members) =>
    '\x7b' :: newLine (level + 1) ++ quotedText escapedChar name ++ [':', ' '] ++
      prettyAt (level + 1) j ++ prettyMembers (level + 1) members ++ newLine level ++ ['\x7d']

/-- The items behind the first one. -/
def prettyItems (level : Nat) : List Json → List Char
  | [] => []
  | j :: js => ',' :: newLine level ++ prettyAt level j ++ prettyItems level js

/-- The members behind the first one. -/
def prettyMembers (level : Nat) : List (String × Json) → List Char
  | [] => []
  | (name, j) :: members =>
    ',' :: newLine level ++ quotedText escapedChar name ++ [':', ' '] ++ prettyAt level j ++
      prettyMembers level members

end

/-- A value over several lines. -/
def pretty (j : Json) : String := String.ofList (prettyAt 0 j)

mutual

/-- A value on one line, in ASCII. -/
def compactChars : Json → List Char
  | .null => "null".toList
  | .bool b => (if b then "true" else "false").toList
  | .number n => numeral n
  | .text s => quotedText asciiChar s
  | .list items => '[' :: compactItems items ++ [']']
  | .object members => '\x7b' :: compactMembers members ++ ['\x7d']

/-- Items on one line. -/
def compactItems : List Json → List Char
  | [] => []
  | [j] => compactChars j
  | j :: js => compactChars j ++ [',', ' '] ++ compactItems js

/-- Members on one line. -/
def compactMembers : List (String × Json) → List Char
  | [] => []
  | [(name, j)] => quotedText asciiChar name ++ [':', ' '] ++ compactChars j
  | (name, j) :: members =>
    quotedText asciiChar name ++ [':', ' '] ++ compactChars j ++ [',', ' '] ++
      compactMembers members

end

/-- A value on one line of ASCII characters. -/
def compact (j : Json) : String := String.ofList j.compactChars

end ChangeGate.Json
