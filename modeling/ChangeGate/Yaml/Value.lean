import ChangeGate.Yaml.Node.Merge
import ChangeGate.Yaml.Node.Reader
import ChangeGate.Yaml.Scalar

/-! # The value of a YAML text

Every node that can be reached from the start of a document gets a `Value`.  Scalars have theirs at
once; a collection is filled after all collections that were reached before it, and the first flaw
in that order counts.  Since a collection may lie in itself, `read` shows it as data down to a
level. -/

namespace ChangeGate.Yaml

/-- What a node stands for.  A collection refers to the nodes in it. -/
inductive Value
  | plain (d : Data)
  | list (items : List NodeId)
  | pairs (items : List (NodeId × NodeId))
  | set (members : List Data)
  | map (entries : List (Data × NodeId))

/-- The collection that a tag stands for, without content. -/
def Tag.collection? : Tag → Option Value
  | .list => some (.list [])
  | .map => some (.map [])
  | .set => some (.set [])
  | .orderedMap | .pairs => some (.pairs [])
  | _ => none

namespace Document

/-- The text of a node.  A mapping has the text of the value behind its first key that is the sign
of a value; the number bounds how often one mapping leads to another. -/
def text (d : Document) : Nat → NodeId → Except Flaw (List Char)
  | 0, _ => .error .tooDeep
  | n + 1, id =>
    match d.content? id with
    | some (.scalar cs) => .ok cs
    | some (.mapping es) =>
      match es.find? fun (k, _) => d.tagOf k = .value with
      | some (_, v) => d.text n v
      | none => .error .malformed
    | _ => .error .malformed

/-- Whether a node is a scalar. -/
def isScalar (d : Document) (id : NodeId) : Bool :=
  match d.content? id with
  | some (.scalar _) => true
  | _ => false

/-- The data of a node whose tag is that of a scalar.  A moment has to be written by a scalar. -/
def scalarData (d : Document) (id : NodeId) : Except Flaw Data := do
  let tag := d.tagOf id
  if [.merge, .value, .other].contains tag then throw .malformed
  let cs ← d.text (d.nodes.size + 1) id
  if tag = .moment && !d.isScalar id then throw .noMomentText
  Yaml.scalarData tag cs

end Document

/-! ### Building values -/

/-- The values found so far, and the collections that are still to be filled, the last first. -/
structure Building where
  document : Document
  values : Array (Option Value)
  waiting : List NodeId := []

/-- Work on the values of a document. -/
abbrev Builder := StateT Building (Except Flaw)

namespace Builder

/-- The value of a node, if it has been found. -/
def value? (id : NodeId) : Builder (Option Value) := return ((← get).values[id]?).join

/-- Let a node have a value. -/
def setValue (id : NodeId) (v : Value) : Builder Unit :=
  modify fun s => { s with values := s.values.setIfInBounds id (some v) }

/-- Find the value of a node; a collection is filled later. -/
def find (id : NodeId) : Builder Unit := do
  if (← value? id).isSome then return
  let d := (← get).document
  match (d.tagOf id).collection? with
  | some v =>
    setValue id v
    modify fun s => { s with waiting := id :: s.waiting }
  | none => setValue id (.plain (← d.scalarData id))

/-- The data of a key, which is no collection. -/
def key (id : NodeId) : Builder Data := do
  find id
  match ← value? id with
  | some (.plain d) => return d
  | _ => throw .malformed

/-- An entry of a map or a set. -/
def entry (e : NodeId × NodeId) : Builder (Data × NodeId) := do
  let k ← key e.1
  find e.2
  return (k, e.2)

/-- The entries of a mapping after merging. -/
def entries (count : Nat) (id : NodeId) : Builder (List (Data × NodeId)) := do
  let s ← get
  let document ← s.document.flatten count id
  set { s with document }
  return (← (document.entries id).mapM entry).foldl (fun es (k, v) => Data.insert k v es) []

/-- The only entry of an item of an ordered map. -/
def pair (id : NodeId) : Builder (NodeId × NodeId) := do
  match (← get).document.entries id with
  | [(k, v)] =>
    find k
    find v
    return (k, v)
  | _ => throw .malformed

/-- Fill a collection.  The first number bounds how many merge keys there are. -/
def fill (count : Nat) (id : NodeId) : Builder Unit := do
  match (← get).document.node? id with
  | some ⟨.list, .sequence items⟩ =>
    items.forM find
    setValue id (.list items)
  | some ⟨.orderedMap, .sequence items⟩ | some ⟨.pairs, .sequence items⟩ =>
    setValue id (.pairs (← items.mapM pair))
  | some ⟨.map, .mapping _⟩ => setValue id (.map (← entries count id))
  | some ⟨.set, .mapping _⟩ => setValue id (.set ((← entries count id).map (·.1)))
  | _ => throw .malformed

/-- Fill all collections that wait, and those that are found in them, for at most so many
rounds. -/
def fillAll (count : Nat) : Nat → Builder Unit
  | 0 => return
  | rounds + 1 => do
    let ids := (← get).waiting
    if ids.isEmpty then return
    modify fun s => { s with waiting := [] }
    ids.reverse.forM (fill count)
    fillAll count rounds

end Builder

/-- The values of all nodes that a node leads to. -/
def Document.values (d : Document) (id : NodeId) : Except Flaw (Array (Option Value)) :=
  let build : Builder Unit := do
    Builder.find id
    Builder.fillAll d.mergeCount (d.nodes.size + 1)
  (build.run ⟨d, Array.replicate d.nodes.size none, []⟩).map (·.2.values)

/-! ### Data -/

/-- The data of a node down to a level; collections below it are shown without content. -/
def dataOf (values : Array (Option Value)) : Nat → NodeId → Data
  | level, id =>
    match (values[id]?).join, level with
    | none, _ => .null
    | some (.plain d), _ => d
    | some (.set members), _ => .set members
    | some (.list _), 0 | some (.pairs _), 0 => .list []
    | some (.map _), 0 => .map []
    | some (.list items), n + 1 => .list (items.map (dataOf values n))
    | some (.pairs items), n + 1 =>
      .list (items.map fun (k, v) => .pair (dataOf values n k) (dataOf values n v))
    | some (.map entries), n + 1 => .map (entries.map fun (k, v) => (k, dataOf values n v))

/-- The value of a YAML text as data down to a level; a text without a document is null. -/
def read (level : Nat) (cs : List Char) : Except Flaw Data := do
  match ← readDocument cs with
  | none => return .null
  | some (d, id) => return dataOf (← d.values id) level id

end ChangeGate.Yaml
