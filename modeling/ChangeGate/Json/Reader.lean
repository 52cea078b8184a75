import ChangeGate.Json.Basic
import ChangeGate.Text.Half
import ChangeGate.Text.Search

/-! # Reading JSON

A document is read lexeme by lexeme.  What surrounds the place read is a stack of frames, and
`State.step` says what a lexeme does to it; reading ends with `State.after j []`, a value with
nothing around it. -/

namespace ChangeGate.Json

/-- Why a text is no JSON document. -/
inductive Flaw
  | malformed
  | longNumeral
  | tooDeep
  deriving DecidableEq, Repr

/-! ### Lexemes -/

/-- The pieces of a document. -/
inductive Lexeme
  | openList | closeList | openObject | closeObject | comma | colon
  | text (s : List Char)
  | value (j : Json)
  | longNumeral

/-- The value of a hexadecimal digit. -/
def hexValue? (c : Char) : Option Nat :=
  if c.isDigit then some (c.toNat - '0'.toNat)
  else if 'a' ≤ c ∧ c ≤ 'f' then some (c.toNat - 'a'.toNat + 10)
  else if 'A' ≤ c ∧ c ≤ 'F' then some (c.toNat - 'A'.toNat + 10)
  else none

/-- The number that four hexadecimal digits write. -/
def quad? (a b c d : Char) : Option Nat := do
  let n ← [a, b, c, d].foldlM (fun n c => (hexValue? c).map (16 * n + ·)) 0
  return n

/-- The character that an escape of one letter stands for. -/
def simpleEscape? : Char → Option Char
  | '"' => some '"'
  | '\\' => some '\\'
  | '/' => some '/'
  | 'b' => some '\x08'
  | 'f' => some '\x0c'
  | 'n' => some '\n'
  | 'r' => some '\r'
  | 't' => some '\t'
  | _ => none

/-- The text up to its closing quote and what follows.  `high` is the first half of a pair of
surrogates when the escape just read was one. -/
def textFrom (high : Option Nat) : List Char → Option (List Char × List Char)
  | '\\' :: 'u' :: a :: b :: c :: d :: r => do
    let n ← quad? a b c d
    match high with
    | some h =>
      if 0xDC00 ≤ n ∧ n ≤ 0xDFFF then
        let (s, rest) ← textFrom none r
        return (Char.ofNat (0x10000 + (h - 0xD800) * 0x400 + (n - 0xDC00)) :: s, rest)
      else if 0xD800 ≤ n ∧ n < 0xDC00 then
        let (s, rest) ← textFrom (some n) r
        return (Text.unitChar h :: s, rest)
      else
        let (s, rest) ← textFrom none r
        return (Text.unitChar h :: Text.unitChar n :: s, rest)
    | none =>
      if 0xD800 ≤ n ∧ n < 0xDC00 then textFrom (some n) r
      else
        let (s, rest) ← textFrom none r
        return (Text.unitChar n :: s, rest)
  | '\\' :: e :: r => do
    let c ← simpleEscape? e
    let (s, rest) ← textFrom none r
    return ((high.map Text.unitChar).toList ++ c :: s, rest)
  | '"' :: r => some ((high.map Text.unitChar).toList, r)
  | c :: r => do
    if c.toNat < 0x20 || c == '\\' then none
    else
      let (s, rest) ← textFrom none r
      return ((high.map Text.unitChar).toList ++ c :: s, rest)
  | [] => none

/-- The digits of a fraction with its point, if one stands here. -/
def fractionSpan : List Char → List Char × List Char
  | '.' :: d :: r =>
    if d.isDigit then (d :: r.takeWhile Char.isDigit, r.dropWhile Char.isDigit)
    else ([], '.' :: d :: r)
  | cs => ([], cs)

/-- The value of a run of ASCII digits. -/
def digitsValue (cs : List Char) : Nat :=
  cs.foldl (fun n c => 10 * n + (c.toNat - '0'.toNat)) 0

/-- An exponent, if one stands here. -/
def exponentSpan (cs : List Char) : Option (Int × List Char) :=
  match cs with
  | e :: r =>
    if e == 'e' || e == 'E' then
      let (negative, r) :=
        match r with
        | '-' :: r => (true, r)
        | '+' :: r => (false, r)
        | r => (false, r)
      let digits := r.takeWhile Char.isDigit
      if digits.isEmpty then none
      else
        let n := Int.ofNat (digitsValue digits)
        some (if negative then -n else n, r.dropWhile Char.isDigit)
    else none
  | [] => none

/-- The digits in front of a fraction: a zero stands alone. -/
def wholeSpan : List Char → List Char
  | '0' :: _ => ['0']
  | cs => cs.takeWhile Char.isDigit

/-- The number that starts with a digit here, and what follows. -/
def numberAt (negative : Bool) (cs : List Char) : Number × List Char :=
  let digits := wholeSpan cs
  let (places, rest) := fractionSpan (cs.drop digits.length)
  match exponentSpan rest, places with
  | none, [] =>
    let n := Int.ofNat (digitsValue digits)
    (.whole (if negative then -n else n), rest)
  | found, _ =>
    let (power, rest) := found.getD (0, rest)
    let x := Binary64.ofDecimal negative (digitsValue (digits ++ places)) (power - places.length)
    (.fraction x, rest)

/-- A number that starts with a digit, and what follows.  Whole ones are not read beyond the longest
numeral. -/
def numberSpan (negative : Bool) (cs : List Char) : Lexeme × List Char :=
  match numberAt negative cs with
  | (.whole n, rest) =>
    if Text.longestNumeral < (wholeSpan cs).length then (.longNumeral, rest)
    else (.value (int n), rest)
  | (.fraction x, rest) => (.value (.number (.fraction x)), rest)

/-- The words of a document and the values they stand for. -/
def words : List (String × Json) :=
  [("null", .null), ("true", .bool true), ("false", .bool false),
   ("NaN", .number (.fraction .notANumber)),
   ("Infinity", .number (.fraction (.infinity false))),
   ("-Infinity", .number (.fraction (.infinity true)))]

/-- The lexeme at the front of the text that starts with `c` and goes on with `r`. -/
def lexeme? (c : Char) (r : List Char) : Option (Lexeme × List Char) :=
  match c with
  | '[' => some (.openList, r)
  | ']' => some (.closeList, r)
  | '\x7b' => some (.openObject, r)
  | '\x7d' => some (.closeObject, r)
  | ',' => some (.comma, r)
  | ':' => some (.colon, r)
  | '"' => (textFrom none r).map fun (s, rest) => (.text s, rest)
  | _ =>
    if c.isDigit then some (numberSpan false (c :: r))
    else if c == '-' && r.head?.any Char.isDigit then some (numberSpan true r)
    else
      words.findSome? fun (word, j) =>
        (Text.behind? word.toList (c :: r)).map (Lexeme.value j, ·)

/-! ### The stack -/

/-- A list or an object that is being read: what it holds so far, the last first. -/
inductive Frame
  | list (before : List Json)
  | object (before : List (String × Json)) (name : String)

/-- Where in a document the reader stands. -/
inductive State
  | value (around : List Frame)
  | first (around : List Frame)
  | firstName (around : List Frame)
  | name (before : List (String × Json)) (around : List Frame)
  | colon (before : List (String × Json)) (name : String) (around : List Frame)
  | after (j : Json) (around : List Frame)

/-- How deep lists and objects may lie in each other.  A reader that calls itself for each level
gives up where its stack ends, and a document comes from outside, so that is an answer to expect.
Conjuncts of a rule take stack as well, but a rule is written by those whom it guards and would need
hundreds of them; `Predicate.judge` takes the stack to be deep enough. -/
def deepest : Nat := 980

/-- A state inside one more list or object, unless it lies too deep. -/
def State.within (around : List Frame) (s : State) : Except Flaw State :=
  if around.length < deepest then .ok s else .error .tooDeep

/-- A lexeme where a value is expected. -/
def State.start (around : List Frame) : Lexeme → Except Flaw State
  | .openList => State.within around (.first around)
  | .openObject => State.within around (.firstName around)
  | .text s => .ok (.after (.text (String.ofList s)) around)
  | .value j => .ok (.after j around)
  | .longNumeral => .error .longNumeral
  | _ => .error .malformed

/-- What a lexeme does where the reader stands. -/
def State.step : State → Lexeme → Except Flaw State
  | .value around, l => start around l
  | .first around, .closeList => .ok (.after (.list []) around)
  | .first around, l => start (.list [] :: around) l
  | .firstName around, .closeObject => .ok (.after (.object []) around)
  | .firstName around, .text s => .ok (.colon [] (String.ofList s) around)
  | .name before around, .text s => .ok (.colon before (String.ofList s) around)
  | .colon before label around, .colon => .ok (.value (.object before label :: around))
  | .after j (.list before :: around), .comma => .ok (.value (.list (j :: before) :: around))
  | .after j (.list before :: around), .closeList =>
    .ok (.after (.list (j :: before).reverse) around)
  | .after j (.object before label :: around), .comma =>
    .ok (.name ((label, j) :: before) around)
  | .after j (.object before label :: around), .closeObject =>
    .ok (.after (.object ((label, j) :: before).reverse) around)
  | _, _ => .error .malformed

/-- Whether a character may stand between lexemes. -/
def isSpace (c : Char) : Bool := c == ' ' || c == '\t' || c == '\n' || c == '\r'

/-- Read on from a state to the end of the text. -/
def run (s : State) : List Char → Except Flaw Json
  | [] =>
    match s with
    | .after j [] => .ok j
    | _ => .error .malformed
  | c :: r =>
    if isSpace c then run s r
    else
      match lexeme? c r with
      | none => .error .malformed
      | some (l, rest) =>
        match s.step l with
        | .error e => .error e
        | .ok s' => if rest.length ≤ r.length then run s' rest else .error .malformed
  termination_by cs => cs.length

/-- The value of a document. -/
def read (cs : List Char) : Except Flaw Json := run (.value []) cs

end ChangeGate.Json
