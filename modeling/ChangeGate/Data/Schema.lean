import ChangeGate.Data.Basic
import ChangeGate.Text.Blank
import ChangeGate.Text.Digit
import ChangeGate.Text.Half

/-! # Expecting a shape of data

A shape reads data as a typed value or lists everything that is wrong with it, each issue with
the fields and indices that lead to it.  Shapes are lenient: a whole number may be written as a
text, a truth value or a fraction without places. -/

namespace ChangeGate.Schema

/-- A step on the way to a value. -/
inductive Key
  | field (name : String)
  | index (i : Nat)
  deriving DecidableEq, Repr

/-- What can be wrong with a value. -/
inductive IssueKind
  | missing | notText | textEncoding | notInt | intText | intSize | intFraction | notFinite
  | notBool | boolText | notList | notMap | notModel | notOneOf | tooSmall
  deriving DecidableEq, Repr

/-- The name of a kind of issue. -/
def IssueKind.label : IssueKind → String
  | .missing => "missing"
  | .notText => "string_type"
  | .textEncoding => "string_unicode"
  | .notInt => "int_type"
  | .intText => "int_parsing"
  | .intSize => "int_parsing_size"
  | .intFraction => "int_from_float"
  | .notFinite => "finite_number"
  | .notBool => "bool_type"
  | .boolText => "bool_parsing"
  | .notList => "list_type"
  | .notMap => "dict_type"
  | .notModel => "model_type"
  | .notOneOf => "literal_error"
  | .tooSmall => "greater_than_equal"

/-- Something wrong, and where. -/
structure Issue where
  path : List Key
  kind : IssueKind
  deriving DecidableEq, Repr

/-- A typed value, or all that is wrong. -/
inductive Checked (α : Type)
  | good (x : α)
  | bad (issues : List Issue)

variable {α β : Type}

namespace Checked

/-- What is wrong; nothing with a good value. -/
def issues : Checked α → List Issue
  | .good _ => []
  | .bad issues => issues

/-- Apply a function to a good value. -/
def map (f : α → β) : Checked α → Checked β
  | .good x => .good (f x)
  | .bad issues => .bad issues

/-- Apply a checked function; issues of both sides add up. -/
def seq (f : Checked (α → β)) (x : Unit → Checked α) : Checked β :=
  match f, x () with
  | .good f, .good x => .good (f x)
  | f, x => .bad (f.issues ++ x.issues)

instance : Applicative Checked where
  map := Checked.map
  pure := .good
  seq := Checked.seq

/-- Put a step in front of the paths of all issues. -/
def under (key : Key) : Checked α → Checked α
  | .good x => .good x
  | .bad issues => .bad (issues.map fun i => { i with path := key :: i.path })

@[simp] theorem under_eq_good_iff {key : Key} {c : Checked α} {x : α} :
    c.under key = .good x ↔ c = .good x := by
  cases c with
  | good y => rfl
  | bad issues => exact ⟨nofun, nofun⟩

theorem map_seq_eq_good_iff {γ : Type} {f : α → β → γ} {c : Checked α} {d : Checked β} {z : γ} :
    f <$> c <*> d = .good z ↔ ∃ x y, c = .good x ∧ d = .good y ∧ f x y = z := by
  constructor
  · intro h
    cases c with
    | good x =>
      cases d with
      | good y => exact ⟨x, y, rfl, rfl, good.inj h⟩
      | bad issues => exact nomatch h
    | bad issues => exact nomatch h
  · rintro ⟨x, y, rfl, rfl, rfl⟩
    rfl

/-- Refuse a good value that fails a test. -/
def ensure (ok : α → Bool) (kind : IssueKind) : Checked α → Checked α
  | .good x => if ok x then .good x else .bad [⟨[], kind⟩]
  | .bad issues => .bad issues

/-- The value, or the issues as an error. -/
def toExcept : Checked α → Except (List Issue) α
  | .good x => .ok x
  | .bad issues => .error issues

end Checked

/-- How data is read as a value. -/
abbrev Shape (α : Type) := Data → Checked α

/-- One issue with a whole value. -/
def wrong (kind : IssueKind) : Checked α := .bad [⟨[], kind⟩]

/-! ### Scalars -/

/-- A text; bytes are read as UTF-8. -/
def text : Shape String
  | .text s => .good s
  | .bytes bs =>
    match Text.decodeUtf8 bs with
    | .ok cs => .good (String.ofList cs)
    | .error _ => wrong .textEncoding
  | _ => wrong .notText

/-- A numeral without a plus sign at its front, which no minus sign may follow. -/
def withoutPlus? : List Char → Option (List Char)
  | '+' :: '-' :: _ => none
  | '+' :: r => some r
  | cs => some cs

/-- What follows zeros and underscores, with the last of them if nothing or a point follows.  A
minus sign may follow too. -/
def behindZeros? (last : Char) : List Char → Option (List Char)
  | [] => some [last]
  | c :: r =>
    if c = '0' || c = '_' then behindZeros? c r
    else if c.isDigit || c = '-' then some (c :: r)
    else if c = '.' then some (last :: c :: r)
    else none

/-- An unsigned numeral without its leading zeros, if it starts like one. -/
def unsignedWithoutZeros? : List Char → Option (List Char)
  | '0' :: r => behindZeros? '0' r
  | c :: r => if c.isDigit || c = '-' then some (c :: r) else none
  | [] => none

/-- A numeral without its leading zeros; a minus sign in front of them stays. -/
def withoutZeros? : List Char → Option (List Char)
  | '-' :: r => (unsignedWithoutZeros? r).map ('-' :: ·)
  | cs => unsignedWithoutZeros? cs

/-- A numeral without its places, if there are some and all are zeros. -/
def withoutPlaces (cs : List Char) : List Char :=
  match cs.dropWhile (· != '.') with
  | '.' :: d :: r => if (d :: r).all (· == '0') then cs.takeWhile (· != '.') else cs
  | _ => cs

/-- Whether an underscore stands beside another one or at an end of a text. -/
def hasStrayUnderscore : List Char → Bool
  | [] => false
  | ['_'] => true
  | '_' :: '_' :: _ => true
  | _ :: r => hasStrayUnderscore r

/-- A numeral without its underscores, if each stands alone between two characters. -/
def withoutUnderscores (cs : List Char) : List Char :=
  if cs.head? == some '_' || hasStrayUnderscore cs then cs else cs.filter (· != '_')

/-- The whole number of a numeral that is cleared of all that does not count: a minus sign, and
digits without a leading zero. -/
def clearedInt (cs : List Char) : Checked Int :=
  let (negative, unsigned) :=
    match cs with
    | '-' :: r => (true, r)
    | r => (false, r)
  let digits := unsigned.takeWhile Char.isDigit
  let startsWell := digits.head?.any (· != '0') || digits == ['0']
  let size := digits.length + (cs.length - unsigned.length)
  if startsWell && Text.longestNumeral < size then wrong .intSize
  else if !startsWell || digits.length != unsigned.length then wrong .intText
  else
    let n := Int.ofNat (Text.decimalValue digits)
    .good (if negative then -n else n)

/-- The whole number that a text writes.  Blanks around it, a plus sign, leading zeros, single
underscores and places of zeros do not count. -/
def intOfText (s : String) : Checked Int :=
  match (withoutPlus? (Text.trimPadding s.toList)).bind withoutZeros? with
  | some cs => clearedInt (withoutUnderscores (withoutPlaces cs))
  | none => wrong .intText

/-- A whole number. -/
def int : Shape Int
  | .int n => .good n
  | .bool b => .good (if b then 1 else 0)
  | .float x =>
    if !x.isFinite then wrong .notFinite
    else
      match x.toInt? with
      | none => wrong .intFraction
      | some n => if n.natAbs < twoTo 63 then .good n else wrong .intSize
  | .text s => if Text.hasHalf s.toList then wrong .textEncoding else intOfText s
  | .bytes bs =>
    match Text.decodeUtf8 bs with
    | .ok cs => intOfText (String.ofList cs)
    | .error _ => wrong .intText
  | _ => wrong .notInt

/-- Whether a whole number takes at most 64 bits with its sign. -/
def isSmall (n : Int) : Bool := -Int.ofNat (twoTo 63) ≤ n && n < Int.ofNat (twoTo 63)

/-- The truth value that a whole number stands for. -/
def boolOfInt (n : Int) : Checked Bool :=
  if n = 0 then .good false else if n = 1 then .good true else wrong .boolText

/-- A truth value. -/
def bool : Shape Bool
  | .bool b => .good b
  | .int n => if isSmall n then boolOfInt n else wrong .notBool
  | .float x =>
    match x.toInt?.filter fun n => n.natAbs < twoTo 63 with
    | some n => boolOfInt n
    | none => wrong .notBool
  | .text s =>
    let word := s.map Char.toLower
    if Text.hasHalf s.toList then wrong .textEncoding
    else if ["true", "t", "yes", "y", "on", "1"].contains word then .good true
    else if ["false", "f", "no", "n", "off", "0"].contains word then .good false
    else wrong .boolText
  | _ => wrong .notBool

/-- One of some values, each given by its name. -/
def oneOf (options : List α) (name : α → String) : Shape α
  | .text s =>
    match options.find? (name · == s) with
    | some x => .good x
    | none => wrong (if Text.hasHalf s.toList then .textEncoding else .notOneOf)
  | _ => wrong .notOneOf

/-- Where names differ, a text is read as the value that it names. -/
theorem oneOf_text_eq_good_iff {options : List α} {name : α → String}
    (hinj : ∀ x y, name x = name y → x = y) {s : String} {x : α} (hx : x ∈ options) :
    oneOf options name (.text s) = .good x ↔ name x = s := by
  simp only [oneOf]
  cases hf : options.find? (name · == s) with
  | none =>
    have hne := List.find?_eq_none.1 hf x hx
    simp only [beq_iff_eq] at hne
    exact ⟨fun h => (nomatch h), fun h => absurd h hne⟩
  | some y =>
    have hy : name y = s := by simpa using List.find?_some hf
    constructor
    · intro h
      rw [← Checked.good.inj h]
      exact hy
    · intro h
      rw [hinj y x (hy.trans h.symm)]

/-! ### Collections -/

/-- A value that may be null. -/
def optional (shape : Shape α) : Shape (Option α)
  | .null => .good none
  | d => (shape d).map some

/-- The items from index `i` on, with the issues of all of them. -/
def itemsFrom (shape : Shape α) (i : Nat) : List Data → Checked (List α)
  | [] => .good []
  | d :: ds => List.cons <$> (shape d).under (.index i) <*> itemsFrom shape (i + 1) ds

/-- A list of values; a set is read as the list of its members. -/
def list (shape : Shape α) : Shape (List α)
  | .list ds | .set ds => itemsFrom shape 0 ds
  | _ => wrong .notList

/-- A record, given how its entries are read. -/
def record (fields : List (Data × Data) → Checked α) : Shape α
  | .map entries => fields entries
  | _ => wrong .notModel

/-- A field that must be there. -/
def required (key : String) (shape : Shape α) (entries : List (Data × Data)) : Checked α :=
  match Data.find? key entries with
  | some d => (shape d).under (.field key)
  | none => .bad [⟨[.field key], .missing⟩]

/-- A field with a value of its own when it is missing. -/
def withDefault (key : String) (shape : Shape α) (value : α) (entries : List (Data × Data)) :
    Checked α :=
  match Data.find? key entries with
  | some d => (shape d).under (.field key)
  | none => .good value

end ChangeGate.Schema
