import ChangeGate.Text.Half
import ChangeGate.Text.Printable

/-! # Quoted text in messages

Messages show characters and names between single quotes, or between double quotes when the text
holds a single quote and no double one.  Backslashes are doubled; tabs, line feeds and carriage
returns are written `\t`, `\n` and `\r`; other characters that are not printable are written by
their code point in lower-case hexadecimal. -/

namespace ChangeGate.Text

/-- The lower-case hexadecimal digits of a number, at least `width` of them. -/
def hexDigits (width n : Nat) : List Char :=
  let digits := Nat.toDigits 16 n
  List.replicate (width - digits.length) '0' ++ digits

/-- One character between the quotes `q`. -/
def quotedChar (q c : Char) : List Char :=
  if c = q ∨ c = '\\' then ['\\', c]
  else if c = '\t' then ['\\', 't']
  else if c = '\n' then ['\\', 'n']
  else if c = '\r' then ['\\', 'r']
  else if isPrintable c then [c]
  else
    let n := (half? c).getD c.toNat
    if n < 0x100 then '\\' :: 'x' :: hexDigits 2 n
    else if n < 0x10000 then '\\' :: 'u' :: hexDigits 4 n
    else '\\' :: 'U' :: hexDigits 8 n

/-- A text between quotes. -/
def quoted (cs : List Char) : List Char :=
  let q := if cs.contains '\'' && !cs.contains '"' then '"' else '\''
  q :: cs.flatMap (quotedChar q) ++ [q]

/-- A list of texts in brackets, each quoted. -/
def quotedList (texts : List String) : String :=
  let items := texts.map fun s => String.ofList (quoted s.toList)
  "[" ++ ", ".intercalate items ++ "]"

end ChangeGate.Text
