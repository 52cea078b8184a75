import ChangeGate.Number.Basic

/-! # Data

The values that a configuration file or a JSON document holds before anything is expected of
them.  `same` is the equality of the keys of maps: numbers of all kinds are equal if they are the
same number.  `insert` puts a value under a key, at the key's old place if it has one. -/

namespace ChangeGate

/-- How a moment is meant: a whole day, a time at some place, or a time all over the world. -/
inductive Clock
  | day | someplace | worldwide
  deriving DecidableEq, Repr

/-- A value of a document.  A moment counts the microseconds of the calendar.  A map keeps its
entries in the order of their keys' first occurrence. -/
inductive Data
  | null
  | bool (b : Bool)
  | int (n : Int)
  | float (x : Binary64)
  | text (s : String)
  | bytes (bs : List UInt8)
  | moment (clock : Clock) (microseconds : Int)
  | pair (first second : Data)
  | list (items : List Data)
  | set (items : List Data)
  | map (entries : List (Data × Data))
  deriving Inhabited

namespace Data

/-- Whether a value counts as absent: null, false, zero and whatever is empty. -/
def isVoid : Data → Bool
  | .null => true
  | .bool b => !b
  | .int n => n == 0
  | .float x => x.isZero
  | .text s => s.isEmpty
  | .bytes bs => bs.isEmpty
  | .moment _ _ | .pair _ _ => false
  | .list items | .set items => items.isEmpty
  | .map entries => entries.isEmpty

/-- Whether a value can be the key of a map. -/
def isKey : Data → Bool
  | .list _ | .set _ | .map _ => false
  | .pair x y => x.isKey && y.isKey
  | _ => true

/-- The text that a value is. -/
def text? : Data → Option String
  | .text s => some s
  | _ => none

/-- The number that a value counts as. -/
def number? : Data → Option Number
  | .bool b => some (.whole (if b then 1 else 0))
  | .int n => some (.whole n)
  | .float x => some (.fraction x)
  | _ => none

/-- Whether a value is a number that is none. -/
def isNaN : Data → Bool
  | .float x => x.isNaN
  | _ => false

/-- Whether two values are the same key. -/
def same : Data → Data → Bool
  | .null, .null => true
  | .text s, .text t => s == t
  | .bytes bs, .bytes cs => bs == cs
  | .moment clock m, .moment clock' m' => clock == clock' && m == m'
  | .pair x y, .pair x' y' => x.same x' && y.same y'
  | x, y =>
    match x.number?, y.number? with
    | some m, some n => m.same n || x.isNaN && y.isNaN
    | _, _ => false

/-! ### Entries -/

/-- The value under a text key. -/
def find? (key : String) (entries : List (Data × Data)) : Option Data :=
  (entries.find? fun (k, _) => k.text? == some key).map (·.2)

/-- The entries with a value put under a key, at its old place if it has one. -/
def insert {α : Type} (key : Data) (value : α) (entries : List (Data × α)) : List (Data × α) :=
  if entries.any (·.1.same key) then
    entries.map fun (k, v) => if k.same key then (k, value) else (k, v)
  else entries ++ [(key, value)]

/-- The entries with a value put under a text key. -/
def put (key : String) (value : Data) (entries : List (Data × Data)) : List (Data × Data) :=
  insert (.text key) value entries

/-- The members of a set, of each key the first. -/
def distinct (items : List Data) : List Data :=
  (items.foldl (fun entries d => insert d () entries) []).map (·.1)

end Data

end ChangeGate
