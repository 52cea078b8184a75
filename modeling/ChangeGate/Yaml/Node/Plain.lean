import ChangeGate.Yaml.Node.Basic

/-! # What a plain scalar stands for

A plain scalar without a tag is a truth value, a number, a moment, null, or a text, by its form. -/

namespace ChangeGate.Yaml.Plain

/-- The words for truth values. -/
def truthWords : List String :=
  ["yes", "Yes", "YES", "no", "No", "NO", "true", "True", "TRUE", "false", "False", "FALSE",
   "on", "On", "ON", "off", "Off", "OFF"]

/-- The words for null. -/
def nullWords : List String := ["~", "null", "Null", "NULL", ""]

/-- The text without a sign at its front. -/
def unsigned : List Char → List Char
  | '-' :: r | '+' :: r => r
  | r => r

/-- Whether a character is a digit or an underscore. -/
def isSpacedDigit (c : Char) : Bool := c.isDigit || c == '_'

/-- Whether a text is a run of one or more characters of a class. -/
def isRun (p : Char → Bool) (cs : List Char) : Bool := !cs.isEmpty && cs.all p

/-- Whether a text is a digit from zero to nine and further digits and underscores. -/
def isNumeral : List Char → Bool
  | c :: r => c.isDigit && r.all isSpacedDigit
  | [] => false

/-- Whether a text is a numeral without a leading zero. -/
def isCount (cs : List Char) : Bool := isNumeral cs && cs.head? != some '0'

/-- Whether a text is a number below sixty in one or two digits. -/
def isSixtieth : List Char → Bool
  | [c] => c.isDigit
  | [c, d] => '0' ≤ c && c ≤ '5' && d.isDigit
  | _ => false

/-- The pieces of a text between colons. -/
def colonPieces : List Char → List (List Char)
  | [] => [[]]
  | c :: r =>
    match colonPieces r with
    | [] => [[c]]
    | piece :: pieces => if c = ':' then [] :: piece :: pieces else (c :: piece) :: pieces

/-- Whether a text is a number in base sixty whose first place satisfies `first`. -/
def isSexagesimal (first : List Char → Bool) (cs : List Char) : Bool :=
  match colonPieces cs with
  | head :: place :: places => first head && (place :: places).all isSixtieth
  | _ => false

/-- Whether a text writes a whole number. -/
def isInt (cs : List Char) : Bool :=
  match unsigned cs with
  | ['0'] => true
  | '0' :: 'b' :: r => isRun (fun c => c == '0' || c == '1' || c == '_') r
  | '0' :: 'x' :: r => isRun (fun c =>
      isSpacedDigit c || ('a' ≤ c && c ≤ 'f') || ('A' ≤ c && c ≤ 'F')) r
  | '0' :: r => isRun (fun c => ('0' ≤ c && c ≤ '7') || c == '_') r
  | r => isCount r || isSexagesimal isCount r

/-- Whether a text is an exponent with its sign, or nothing. -/
def isExponent : List Char → Bool
  | [] => true
  | e :: s :: r => (e == 'e' || e == 'E') && (s == '-' || s == '+') && isRun Char.isDigit r
  | _ => false

/-- Whether a text is digits and underscores up to an exponent. -/
def isPlaces (cs : List Char) : Bool := isExponent (cs.dropWhile isSpacedDigit)

/-- Whether a text writes a number with a point. -/
def isFloat (cs : List Char) : Bool :=
  let r := unsigned cs
  let whole := r.takeWhile (· != '.')
  match r.dropWhile (· != '.') with
  | [] => false
  | _ :: places =>
    if whole.isEmpty then
      [".nan", ".NaN", ".NAN"].contains (String.ofList cs) ||
        ["inf", "Inf", "INF"].contains (String.ofList places) ||
        cs.head? == some '.' && places.head?.any Char.isDigit && isPlaces places
    else
      isNumeral whole && isPlaces places ||
        isSexagesimal isNumeral whole && places.all isSpacedDigit

/-! ### Moments -/

/-- Take a run of digits whose length lies between two bounds. -/
def digits? (least most : Nat) (cs : List Char) : Option (Nat × List Char) :=
  let n := min most (cs.takeWhile Char.isDigit).length
  if n < least then none
  else
    some ((cs.take n).foldl (fun n c => 10 * n + (c.toNat - '0'.toNat)) 0, cs.drop n)

/-- Take a given character. -/
def sign? (c : Char) : List Char → Option (List Char)
  | d :: r => if c = d then some r else none
  | [] => none

/-- A distance to the common time. -/
structure Offset where
  isWest : Bool
  hours : Nat
  minutes : Nat

/-- A time of day, with the digits of the fraction of its second. -/
structure TimeOfDay where
  hour : Nat
  minute : Nat
  second : Nat
  fraction : List Char
  offset : Option Offset

/-- A date, and a time of day if there is one. -/
structure Moment where
  year : Nat
  month : Nat
  day : Nat
  time : Option TimeOfDay := none

/-- The zone at the end of a moment. -/
def zone? (cs : List Char) : Option (Option Offset) :=
  match cs with
  | [] => some none
  | _ =>
    match cs.dropWhile fun c => c == ' ' || c == '\t' with
    | ['Z'] => some (some ⟨false, 0, 0⟩)
    | s :: r =>
      if s == '-' || s == '+' then do
        let (hours, r) ← digits? 1 2 r
        match r with
        | [] => return some ⟨s == '-', hours, 0⟩
        | _ => do
          let r ← sign? ':' r
          let (minutes, r) ← digits? 2 2 r
          if r.isEmpty then return some ⟨s == '-', hours, minutes⟩ else none
      else none
    | [] => none

/-- A text without a line feed at its end. -/
def withoutLineFeed (cs : List Char) : List Char :=
  if cs.getLast? == some '\n' then cs.dropLast else cs

/-- The moment that a text writes: a date, and a time behind it. -/
def moment? (cs : List Char) : Option Moment := do
  let (year, r) ← digits? 4 4 cs
  let r ← sign? '-' r
  let (month, r) ← digits? 1 2 r
  let r ← sign? '-' r
  let (day, r) ← digits? 1 2 r
  if r.isEmpty then return { year, month, day }
  else
    let r ←
      match r with
      | 'T' :: r | 't' :: r => some r
      | c :: r =>
        if c == ' ' || c == '\t' then some (r.dropWhile fun c => c == ' ' || c == '\t') else none
      | [] => none
    let (hour, r) ← digits? 1 2 r
    let r ← sign? ':' r
    let (minute, r) ← digits? 2 2 r
    let r ← sign? ':' r
    let (second, r) ← digits? 2 2 r
    let (fraction, r) :=
      match r with
      | '.' :: r => (r.takeWhile Char.isDigit, r.dropWhile Char.isDigit)
      | r => ([], r)
    let offset ← zone? r
    return { year, month, day, time := some ⟨hour, minute, second, fraction, offset⟩ }

/-- Whether a text has the form of a moment: a date has all its digits. -/
def isMoment (cs : List Char) : Bool :=
  match moment? cs with
  | some m => m.time.isSome || cs.length == 10
  | none => false

/-- What a plain scalar stands for.  A line feed at its end does not count. -/
def tagOf (text : List Char) : Tag :=
  let cs := if text == ['\n'] then text else withoutLineFeed text
  let s := String.ofList cs
  if truthWords.contains s then .bool
  else if isFloat cs then .float
  else if isInt cs then .int
  else if s == "<<" then .merge
  else if nullWords.contains s then .null
  else if isMoment cs then .moment
  else if s == "=" then .value
  else if ["!", "&", "*"].contains s then .other
  else .text

end ChangeGate.Yaml.Plain
