import ChangeGate.Data.Basic
import ChangeGate.Json.Reader
import ChangeGate.Text.Blank
import ChangeGate.Yaml.Cursor
import ChangeGate.Yaml.Node.Plain

/-! # The data of YAML scalars

`scalarData` reads the text of a scalar as its tag says.  Whole numbers may be written in the bases
two, eight, ten, sixteen and sixty, numbers with a point in the bases ten and sixty. -/

namespace ChangeGate.Yaml

/-! ### Whole numbers -/

/-- The value of a digit in a base of at most sixteen. -/
def digitIn? (base : Nat) (c : Char) : Option Nat :=
  match (Text.digitValue? c).or (Json.hexValue? c) with
  | some n => if n < base then some n else none
  | none => none

/-- The number that digits write in a base. -/
def numeralIn (base : Nat) (cs : List Char) : Except Flaw Nat :=
  if cs.isEmpty || base == 10 && Text.longestNumeral < cs.length then .error .badNumber
  else
    match cs.mapM (digitIn? base) with
    | some ds => .ok (ds.foldl (base * · + ·) 0)
    | none => .error .badNumber

/-- A sign, and what follows it. -/
def signOf : List Char → Int × List Char
  | '-' :: r => (-1, r)
  | '+' :: r => (1, r)
  | r => (1, r)

/-- The letter that may stand behind a zero in front of the digits of a base. -/
def baseLetter? : Nat → Option Char
  | 2 => some 'b'
  | 8 => some 'o'
  | 16 => some 'x'
  | _ => none

/-- The digits of a base behind its zero and letter, if they stand here. -/
def behindBase (base : Nat) : List Char → List Char
  | '0' :: c :: r => if baseLetter? base == some c.toLower then r else '0' :: c :: r
  | cs => cs

/-- The whole number that a text writes in a base, with blanks around it, a sign, and the letter of
the base. -/
def intIn (base : Nat) (cs : List Char) : Except Flaw Int :=
  let (sign, digits) := signOf (Text.trimPadding cs)
  (numeralIn base (behindBase base digits)).map fun n => sign * Int.ofNat n

/-- The number with the given places in base sixty. -/
def sexagesimal (places : List Int) : Int := places.foldl (60 * · + ·) 0

/-- The whole number that a scalar writes. -/
def intOf (text : List Char) : Except Flaw Int := do
  let cs := text.filter (· != '_')
  if cs.isEmpty then .error .emptyNumber
  else
    let (sign, cs) := signOf cs
    match cs with
    | ['0'] => return 0
    | '0' :: 'b' :: r => return sign * (← intIn 2 r)
    | '0' :: 'x' :: r => return sign * (← intIn 16 r)
    | '0' :: r => return sign * (← intIn 8 ('0' :: r))
    | [] => .error .emptyNumber
    | r =>
      if r.contains ':' then return sign * sexagesimal (← (Plain.colonPieces r).mapM (intIn 10))
      else return sign * (← intIn 10 r)

/-! ### Numbers with a point -/

/-- An exponent: a sign and digits. -/
def exponentOf (cs : List Char) : Except Flaw Int :=
  let (sign, digits) := signOf cs
  if digits.isEmpty || !digits.all Text.isDigit then .error .badNumber
  else .ok (sign * Int.ofNat (Text.decimalValue digits))

/-- The value nearest to a decimal number without a sign. -/
def decimalIn (negative : Bool) (cs : List Char) : Except Flaw Binary64 := do
  let whole := cs.takeWhile Text.isDigit
  let rest := cs.dropWhile Text.isDigit
  let (places, rest) :=
    match rest with
    | '.' :: r => (r.takeWhile Text.isDigit, r.dropWhile Text.isDigit)
    | r => ([], r)
  let power ←
    match rest with
    | [] => pure 0
    | e :: r => if e == 'e' then exponentOf r else .error .badNumber
  if whole.isEmpty && places.isEmpty then .error .badNumber
  else return .ofDecimal negative (Text.decimalValue (whole ++ places)) (power - places.length)

/-- The value of a text in small letters: a decimal number or the name of a value, with blanks
around it and a sign. -/
def floatIn (text : List Char) : Except Flaw Binary64 :=
  let (sign, cs) := signOf (Text.trimPadding text)
  let negative := decide (sign < 0)
  if ["inf", "infinity"].contains (String.ofList cs) then .ok (.infinity negative)
  else if cs == "nan".toList then .ok .notANumber
  else decimalIn negative cs

/-- The sum of places in base sixty from the lowest place on, rounded at every step.  The weight
of a place has to be finite. -/
def sixtieths (weight : Nat) (sum : Binary64) : List Binary64 → Except Flaw Binary64
  | [] => .ok sum
  | x :: xs =>
    let unit := Binary64.ofRatio false weight 1
    if unit.isFinite then sixtieths (60 * weight) (sum.add (x.mul unit)) xs else .error .tooLarge

/-- The number with a point that a scalar writes. -/
def floatOf (text : List Char) : Except Flaw Binary64 := do
  let cs := (text.filter (· != '_')).map Char.toLower
  if cs.isEmpty then .error .emptyNumber
  else
    let (sign, cs) := signOf cs
    let signed := fun (x : Binary64) => if sign < 0 then x.negate else x
    if cs == ".inf".toList then return signed (.infinity false)
    else if cs == ".nan".toList then return .notANumber
    else if cs.contains ':' then
      let places ← (Plain.colonPieces cs).mapM floatIn
      return signed (← sixtieths 1 (.ofRatio false 0 1) places.reverse)
    else return signed (← floatIn cs)

/-! ### Moments -/

/-- Whether a year has a leap day. -/
def isLeapYear (year : Nat) : Bool := year % 4 == 0 && (year % 100 != 0 || year % 400 == 0)

/-- How many days a month has. -/
def daysIn (year month : Nat) : Nat :=
  if month = 2 then if isLeapYear year then 29 else 28
  else if [4, 6, 9, 11].contains month then 30
  else 31

/-- Whether a moment is one of the calendar. -/
def isCalendar (m : Plain.Moment) : Bool :=
  1 ≤ m.year && 1 ≤ m.month && m.month ≤ 12 && 1 ≤ m.day && m.day ≤ daysIn m.year m.month &&
    m.time.all fun t =>
      t.hour < 24 && t.minute < 60 && t.second < 60 &&
        t.offset.all fun o => 60 * o.hours + o.minutes < 24 * 60

/-- How many days lie before a date of the calendar. -/
def daysBefore (year month day : Nat) : Nat :=
  let past := year - 1
  let months := (List.range (month - 1)).foldl (fun n k => n + daysIn year (k + 1)) 0
  365 * past + past / 4 - past / 100 + past / 400 + months + (day - 1)

/-- The microseconds of the digits of a fraction of a second. -/
def microseconds (fraction : List Char) : Nat :=
  let digits := fraction.take 6
  Json.digitsValue (digits ++ List.replicate (6 - digits.length) '0')

/-- The data of a moment of the calendar. -/
def momentData (m : Plain.Moment) : Data :=
  let days := daysBefore m.year m.month m.day
  match m.time with
  | none => .moment .day (Int.ofNat days)
  | some t =>
    let minutes := 60 * (24 * days + t.hour) + t.minute
    let count := fun (minutes : Int) =>
      (minutes * 60 + Int.ofNat t.second) * 1000000 + Int.ofNat (microseconds t.fraction)
    match t.offset with
    | none => .moment .someplace (count minutes)
    | some o =>
      let distance := Int.ofNat (60 * o.hours + o.minutes)
      .moment .worldwide (count (if o.isWest then minutes + distance else minutes - distance))

/-! ### Bytes -/

/-- The value of a digit in base sixty-four. -/
def sextet? (c : Char) : Option Nat :=
  if 'A' ≤ c && c ≤ 'Z' then some (c.toNat - 'A'.toNat)
  else if 'a' ≤ c && c ≤ 'z' then some (c.toNat - 'a'.toNat + 26)
  else if c.isDigit then some (c.toNat - '0'.toNat + 52)
  else if c == '+' then some 62
  else if c == '/' then some 63
  else none

/-- The bytes of complete and incomplete groups of digits in base sixty-four. -/
def groupBytes : List Nat → List UInt8
  | a :: b :: c :: d :: r =>
    UInt8.ofNat (4 * a + b / 16) :: UInt8.ofNat (16 * b + c / 4) :: UInt8.ofNat (64 * c + d) ::
      groupBytes r
  | [a, b, c] => [UInt8.ofNat (4 * a + b / 16), UInt8.ofNat (16 * b + c / 4)]
  | [a, b] => [UInt8.ofNat (4 * a + b / 16)]
  | _ => []

/-- The digits in base sixty-four up to the padding of an incomplete group; padding of a complete
group and all other characters do not count. -/
def sextets (digits : List Nat) (padding : Nat) : List Char → Option (List Nat)
  | [] => if digits.length % 4 = 0 then some digits else none
  | c :: r =>
    if c == '=' then
      if 2 ≤ digits.length % 4 && 4 ≤ digits.length % 4 + padding + 1 then some digits
      else sextets digits (padding + 1) r
    else
      match sextet? c with
      | some n => sextets (digits ++ [n]) 0 r
      | none => sextets digits padding r

/-- The bytes that a scalar writes in base sixty-four. -/
def bytesOf (text : List Char) : Except Flaw (List UInt8) :=
  if text.any (0x7F < ·.toNat) then .error .malformed
  else
    match sextets [] 0 text with
    | some digits => .ok (groupBytes digits)
    | none => .error .malformed

/-! ### Scalars -/

/-- The truth value that a scalar names. -/
def truthOf (text : List Char) : Except Flaw Bool :=
  let word := String.ofList (text.map Char.toLower)
  if ["yes", "true", "on"].contains word then .ok true
  else if ["no", "false", "off"].contains word then .ok false
  else .error .badTruth

/-- The moment that a scalar writes. -/
def momentOf (text : List Char) : Except Flaw Data :=
  match Plain.moment? (Plain.withoutLineFeed text) with
  | none => .error .badMoment
  | some m => if isCalendar m then .ok (momentData m) else .error .badNumber

/-- The data of a scalar. -/
def scalarData (tag : Tag) (text : List Char) : Except Flaw Data :=
  match tag with
  | .null => .ok .null
  | .bool => (truthOf text).map .bool
  | .int => (intOf text).map .int
  | .float => (floatOf text).map .float
  | .text => .ok (.text (String.ofList text))
  | .bytes => (bytesOf text).map .bytes
  | .moment => momentOf text
  | .list | .map | .set | .orderedMap | .pairs | .merge | .value | .other => .error .malformed

end ChangeGate.Yaml
