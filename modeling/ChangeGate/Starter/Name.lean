import ChangeGate.Text.Word

/-! # Names for domains

A directory gives its domain a name: words joined by hyphens and underscores run together in
capitals, everything that cannot stand in a name is left out, and a name that would not start with
a letter or an underscore gets one. -/

namespace ChangeGate.Starter

/-- A text with every hyphen or underscore before a word character gone and that character in
capitals. -/
def joinWords : List Char → List Char
  | c :: d :: r =>
    if (c = '-' ∨ c = '_') ∧ Text.isWord d then Text.capital d ++ joinWords r
    else c :: joinWords (d :: r)
  | cs => cs

/-- A text in camel case. -/
def camelCase : List Char → List Char
  | [] => []
  | c :: r => Text.capital c ++ joinWords r

/-- Whether a character can stand in a name. -/
def isNameChar (c : Char) : Bool := c.isAlphanum || c == '_'

/-- What a name that starts with none of its first characters gets in front. -/
def fallbackWord : List Char := ['A', 'p', 'p']

/-- The name that a text gives. -/
def sanitize (cs : List Char) : List Char :=
  let name := (camelCase (cs.filter fun c => isNameChar c || c == '-')).filter isNameChar
  match name with
  | [] => fallbackWord
  | c :: _ => if c.isAlpha || c == '_' then name else fallbackWord ++ name

/-- The name that a text gives. -/
def nameOf (s : String) : String := String.ofList (sanitize s.toList)

end ChangeGate.Starter
