import ChangeGate.Data.Basic
import ChangeGate.Number.Basic

/-! # JSON values

An object keeps its members as they are written; where a name is written twice, the last member
counts. -/

namespace ChangeGate

/-- A JSON value. -/
inductive Json
  | null
  | bool (b : Bool)
  | number (n : Number)
  | text (s : String)
  | list (items : List Json)
  | object (members : List (String × Json))
  deriving Inhabited

namespace Json

/-- A whole number as a JSON value. -/
def int (n : Int) : Json := .number (.whole n)

/-- A text or null. -/
def textOrNull : Option String → Json
  | some s => .text s
  | none => .null

/-- The member of a name. -/
def member? (name : String) (members : List (String × Json)) : Option Json :=
  (members.reverse.find? (·.1 == name)).map (·.2)

/-- Whether a value counts as absent: null, false, zero and whatever is empty. -/
def isVoid : Json → Bool
  | .null => true
  | .bool b => !b
  | .number n => n.isZero
  | .text s => s.isEmpty
  | .list items => items.isEmpty
  | .object members => members.isEmpty

mutual

/-- A JSON value as data. -/
def toData : Json → Data
  | .null => .null
  | .bool b => .bool b
  | .number (.whole n) => .int n
  | .number (.fraction x) => .float x
  | .text s => .text s
  | .list items => .list (itemsToData items)
  | .object members => .map (membersToData members)

/-- The items of a list as data. -/
def itemsToData : List Json → List Data
  | [] => []
  | j :: js => j.toData :: itemsToData js

/-- The members of an object as data, of each name the last. -/
def membersToData : List (String × Json) → List (Data × Data)
  | [] => []
  | (name, j) :: members =>
    let rest := membersToData members
    if (Data.find? name rest).isSome then rest else (.text name, j.toData) :: rest

end

end Json

end ChangeGate
