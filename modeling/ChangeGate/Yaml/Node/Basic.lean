/-! # Nodes of a YAML document

A node is a scalar, a sequence or a mapping with a tag that says what it stands for.  An alias is a
second way to a node, and a node may lie in itself, so collections hold the numbers of their nodes
and a `Document` is the table of all nodes. -/

namespace ChangeGate.Yaml

/-- What a node stands for. -/
inductive Tag
  | null | bool | int | float | text | bytes | moment
  | list | map | set | orderedMap | pairs
  | merge | value
  | other
  deriving DecidableEq, Repr

/-- The names of the tags under the common address. -/
def Tag.names : List (String × Tag) :=
  [("null", .null), ("bool", .bool), ("int", .int), ("float", .float), ("str", .text),
   ("binary", .bytes), ("timestamp", .moment), ("seq", .list), ("map", .map), ("set", .set),
   ("omap", .orderedMap), ("pairs", .pairs), ("merge", .merge), ("value", .value)]

/-- The address under which the common tags stand. -/
def Tag.commonUri : List Char := "tag:yaml.org,2002:".toList

/-- The tag of an address. -/
def Tag.ofUri (uri : List Char) : Tag :=
  let names := Tag.names.map fun (name, tag) => (Tag.commonUri ++ name.toList, tag)
  (names.lookup uri).getD .other

/-- The place of a node in the table of its document. -/
abbrev NodeId := Nat

/-- What a node holds. -/
inductive Content
  | scalar (text : List Char)
  | sequence (items : List NodeId)
  | mapping (entries : List (NodeId × NodeId))
  deriving DecidableEq, Repr

/-- A node of a document. -/
structure Node where
  tag : Tag
  content : Content
  deriving DecidableEq, Repr

/-- The nodes of a document. -/
structure Document where
  nodes : Array Node := #[]
  deriving DecidableEq, Repr

namespace Document

/-- The node of a number. -/
def node? (d : Document) (id : NodeId) : Option Node := d.nodes[id]?

/-- The tag of a node. -/
def tagOf (d : Document) (id : NodeId) : Tag := ((d.node? id).map (·.tag)).getD .other

/-- What the node of a number holds. -/
def content? (d : Document) (id : NodeId) : Option Content := (d.node? id).map (·.content)

/-- The entries of a mapping; any other node has none. -/
def entries (d : Document) (id : NodeId) : List (NodeId × NodeId) :=
  match d.content? id with
  | some (.mapping es) => es
  | _ => []

/-- The document with one more node, and its number. -/
def add (d : Document) (n : Node) : Document × NodeId := (⟨d.nodes.push n⟩, d.nodes.size)

/-- The document with another content of a node. -/
def refill (d : Document) (id : NodeId) (content : Content) : Document :=
  ⟨d.nodes.modify id fun n => { n with content }⟩

/-- The document with another tag of a node. -/
def retag (d : Document) (id : NodeId) (tag : Tag) : Document :=
  ⟨d.nodes.modify id fun n => { n with tag }⟩

/-- A bound for how many entries are merged into others. -/
def mergeCount (d : Document) : Nat :=
  (d.nodes.toList.flatMap fun n =>
    match n.content with
    | .mapping es => es.filter fun (k, _) => d.tagOf k = .merge
    | _ => []).length

end Document

end ChangeGate.Yaml
