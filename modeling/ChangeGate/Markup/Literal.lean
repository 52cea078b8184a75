import ChangeGate.Json.Reader
import ChangeGate.Text.Blank
import ChangeGate.Text.Digit
import ChangeGate.Text.Word

/-! # Literals

A tag that starts with `@` names an action, and its parameters have to be a literal: a number, a
text, bytes, a constant, or a tuple, set or map of literals.  `isParameters` decides which texts
are parameters.  No bracket can stand in a tag, so there are no lists. -/

namespace ChangeGate.Markup.Literal

/-- What has to be known of a literal: the sign and the kind of a number, and whether any other
can be a member of a set. -/
inductive Form
  | number (signed imaginary : Bool)
  | plain
  | unhashable
  deriving DecidableEq, Repr

/-- A reader of literals; the truth value says whether line ends count as blanks. -/
abbrev Reader := Bool → List Char → Option (Form × List Char)

/-- Go on behind blanks, joined lines and comments, and, where they count as blanks, behind line
ends. -/
def skip (inside inComment : Bool) : List Char → List Char
  | '\n' :: r => if inside then skip inside false r else '\n' :: r
  | '\\' :: '\n' :: r => if inComment && !inside then '\n' :: r else skip inside false r
  | c :: r =>
    if inComment then skip inside true r
    else if c == ' ' || c == '\t' || c == '\x0c' then skip inside false r
    else if c == '#' then skip inside true r
    else c :: r
  | [] => []

/-! ### Numbers -/

/-- A run of digits with single underscores between them. -/
def digitRun (p : Char → Bool) (started : Bool) : List Char → List Char × List Char
  | c :: r =>
    if p c then
      let (digits, rest) := digitRun p true r
      (c :: digits, rest)
    else if started && c == '_' && r.head?.any p then digitRun p true r
    else ([], c :: r)
  | [] => ([], [])

/-- The digits of a base by the letter that announces it. -/
def baseDigit? (letter : Char) : Option (Char → Bool) :=
  match letter.toLower with
  | 'x' => some fun c => (Json.hexValue? c).isSome
  | 'o' => some fun c => '0' ≤ c && c ≤ '7'
  | 'b' => some fun c => c == '0' || c == '1'
  | _ => none

/-- What follows an exponent, if one stands here. -/
def behindExponent? : List Char → Option (List Char)
  | e :: r =>
    let r := if r.head? == some '-' || r.head? == some '+' then r.drop 1 else r
    match digitRun Char.isDigit false r with
    | ([], _) => none
    | (_, rest) => if e == 'e' || e == 'E' then some rest else none
  | [] => none

/-- A number in base ten.  A whole number has no leading zeros and is not too long. -/
def decimal (cs : List Char) : Option (Form × List Char) :=
  let (whole, r) := digitRun Char.isDigit false cs
  let (point, places, r) :=
    match r with
    | '.' :: r => (true, digitRun Char.isDigit false r)
    | r => (false, [], r)
  let exponent := behindExponent? r
  let r := exponent.getD r
  let imaginary := r.head? == some 'j' || r.head? == some 'J'
  let isWhole := !point && exponent.isNone && !imaginary
  let refused := Text.longestNumeral < whole.length ||
    whole.head? == some '0' && whole.any (· != '0')
  if whole.isEmpty && places.isEmpty || isWhole && refused then none
  else some (.number false imaginary, if imaginary then r.drop 1 else r)

/-- A number without a sign. -/
def number (cs : List Char) : Option (Form × List Char) :=
  match cs with
  | '0' :: letter :: r =>
    match baseDigit? letter with
    | none => decimal cs
    | some p =>
      match digitRun p true r with
      | ([], _) => none
      | (_, rest) => some (.number false false, rest)
  | _ => decimal cs

/-! ### Texts -/

/-- How a text is written. -/
structure Quoting where
  isBytes : Bool
  isRaw : Bool
  quote : Char
  deriving DecidableEq, Repr

/-- The letters in front of a text and its quote, if a text starts here. -/
def quoting? (cs : List Char) : Option (Quoting × List Char) :=
  let letters := cs.takeWhile Char.isAlpha
  let kind := String.ofList (letters.map Char.toLower)
  match cs.drop letters.length with
  | q :: rest =>
    if (q == '\'' || q == '"') && ["", "r", "u", "b", "br", "rb"].contains kind then
      some (⟨kind.toList.contains 'b', kind.toList.contains 'r', q⟩, rest)
    else none
  | [] => none

/-- The inside of a text up to its end, which is one quote or three, and what follows. -/
def inside? (q : Char) (triple : Bool) : List Char → Option (List Char × List Char)
  | '\\' :: c :: r => (inside? q triple r).map fun (s, rest) => ('\\' :: c :: s, rest)
  | c :: r =>
    if c == q && (!triple || r.take 2 == [q, q]) then some ([], if triple then r.drop 2 else r)
    else if !triple && c == '\n' then none
    else (inside? q triple r).map fun (s, rest) => (c :: s, rest)
  | [] => none

/-- How many hexadecimal digits follow the letter of an escape. -/
def escapeWidth (isBytes : Bool) : Char → Nat
  | 'x' => 2
  | 'u' => if isBytes then 0 else 4
  | 'U' => if isBytes then 0 else 8
  | _ => 0

/-- Whether all escapes in a text have their digits and stand for a character.  Escapes by name
are not known. -/
def hasGoodEscapes (isBytes : Bool) : List Char → Bool
  | '\\' :: e :: r =>
    let width := escapeWidth isBytes e
    match (r.take width).mapM Json.hexValue? with
    | none => false
    | some digits =>
      digits.length == width && digits.foldl (16 * · + ·) 0 < 0x110000 &&
        (isBytes || e != 'N') && hasGoodEscapes isBytes r
  | _ :: r => hasGoodEscapes isBytes r
  | [] => true

/-- One text: whether it is of bytes, and what follows. -/
def text? (cs : List Char) : Option (Bool × List Char) := do
  let (k, r) ← quoting? cs
  let triple := r.take 2 == [k.quote, k.quote]
  let (s, rest) ← inside? k.quote triple (if triple then r.drop 2 else r)
  if k.isBytes && s.any (0x7F < ·.toNat) then none
  else if !k.isRaw && !hasGoodEscapes k.isBytes s then none
  else some (k.isBytes, rest)

/-- Texts that stand side by side, at most so many; all or none are of bytes. -/
def texts (inside isBytes : Bool) : Nat → List Char → Option (List Char)
  | 0, cs => some cs
  | n + 1, cs =>
    let next := skip inside false cs
    if (quoting? next).isNone then some cs
    else
      match text? next with
      | some (b, rest) => if b == isBytes then texts inside isBytes n rest else none
      | none => none

/-! ### Collections -/

/-- Whether a literal can be a member of a set. -/
def Form.isKey : Form → Bool
  | .unhashable => false
  | _ => true

/-- A literal with a sign, or the sum of a real and an imaginary number. -/
def element (atom : Reader) : Reader := fun inside cs => do
  let cs := skip inside false cs
  let isSign := fun (c : Char) => c == '-' || c == '+'
  let (left, r) ←
    if cs.head?.any isSign then
      match ← atom inside (skip inside false (cs.drop 1)) with
      | (.number false imaginary, r) => some (Form.number true imaginary, r)
      | _ => none
    else atom inside cs
  let r := skip inside false r
  if r.head?.any isSign then
    match left, ← atom inside (skip inside false (r.drop 1)) with
    | .number _ false, (.number false true, rest) => some (.plain, skip inside false rest)
    | _, _ => none
  else some (left, r)

/-- Items between commas up to a closing sign: the items, and whether a comma follows the last
one. -/
def items (item : List Char → Option (Form × List Char)) (closing : Char) :
    Nat → List Char → Option ((List Form × Bool) × List Char)
  | 0, _ => none
  | n + 1, cs => do
    let cs := skip true false cs
    if cs.head? == some closing then some (([], true), cs.drop 1)
    else
      let (x, r) ← item cs
      match r with
      | c :: r =>
        if c == ',' then
          let ((xs, comma), rest) ← items item closing n r
          some ((x :: xs, comma), rest)
        else if c == closing then some (([x], false), r)
        else none
      | [] => none

/-- A key with its value, or nothing of the kind. -/
def entry (item : List Char → Option (Form × List Char)) (cs : List Char) :
    Option (Form × List Char) := do
  let (key, r) ← item cs
  match r with
  | ':' :: r =>
    let (_, rest) ← item r
    if key.isKey then some (.plain, rest) else none
  | _ => none

/-- A tuple, or a literal in parentheses. -/
def tuple (item : List Char → Option (Form × List Char)) (cs : List Char) :
    Option (Form × List Char) := do
  let (found, rest) ← items item ')' (cs.length + 1) cs
  match found with
  | ([x], false) => some (x, rest)
  | (xs, _) => some (if xs.all (·.isKey) then .plain else .unhashable, rest)

/-- A map or a set. -/
def collection (item : List Char → Option (Form × List Char)) (cs : List Char) :
    Option (Form × List Char) :=
  match items (entry item) '\x7d' (cs.length + 1) cs with
  | some (_, rest) => some (.unhashable, rest)
  | none => do
    let ((xs, _), rest) ← items item '\x7d' (cs.length + 1) cs
    if xs.all (·.isKey) then some (.unhashable, rest) else none

/-- A word: a constant, or the empty set. -/
def word (inside : Bool) (cs : List Char) : Option (Form × List Char) :=
  let name := cs.takeWhile Text.isWord
  let rest := cs.drop name.length
  if ["True", "False", "None"].contains (String.ofList name) then some (.plain, rest)
  else if name == "set".toList then
    match skip inside false rest with
    | '(' :: r =>
      match skip true false r with
      | ')' :: r => some (.unhashable, r)
      | _ => none
    | _ => none
  else none

/-- A literal without a sign, in which at most so many collections lie in each other. -/
def atom : Nat → Reader
  | depth, inside, cs =>
    match cs with
    | '(' :: r =>
      match depth with
      | 0 => none
      | depth + 1 => tuple (element (atom depth) true) r
    | '\x7b' :: r =>
      match depth with
      | 0 => none
      | depth + 1 => collection (element (atom depth) true) r
    | '.' :: '.' :: '.' :: r => some (.plain, r)
    | _ =>
      if (quoting? cs).isSome then do
        let (isBytes, r) ← text? cs
        return (.plain, ← texts inside isBytes r.length r)
      else if cs.head?.any fun c => c.isDigit || c == '.' then number cs
      else word inside cs

/-- How many collections may lie in each other.  This is a rule of the language of literals and has
nothing to do with a stack. -/
def deepest : Nat := 200

/-- Whether a text is a literal, or literals between commas. -/
def isLiteral (cs : List Char) : Bool :=
  let cs := Text.unifyLineEnds cs
  let isOver := fun (cs : List Char) => (skip true false cs).isEmpty
  let rec go : Nat → List Char → Bool
    | 0, _ => false
    | n + 1, cs =>
      match element (atom deepest) false cs with
      | none => false
      | some (_, ',' :: r) => isOver (skip false false r) || go n r
      | some (_, r) => isOver r
  !cs.contains '\x00' && go (cs.length + 1) cs

/-- Whether a text is what a tag of an action may have as parameters: the name of a function, with
or without a literal in parentheses, or a literal alone. -/
def isParameters (cs : List Char) : Bool :=
  let cs := Text.trim cs
  let rest := cs.dropWhile fun c => Text.isWord c || c == '.'
  if rest.isEmpty then true
  else if rest.head? == some '(' && rest.getLast? == some ')' && !rest.contains '\n' then
    isLiteral rest
  else isLiteral cs

end ChangeGate.Markup.Literal
