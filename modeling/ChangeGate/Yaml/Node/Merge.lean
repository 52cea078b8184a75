import ChangeGate.Yaml.Cursor
import ChangeGate.Yaml.Node.Basic

/-! # Merging mappings

An entry under a merge key brings the entries of another mapping, or of several, into its own one.
`flatten` takes the merge keys out of a mapping and puts what they bring in front of its other
entries.  Every step takes one merge key out of the document, so as many steps as there are merge
keys are enough, also where mappings merge each other. -/

namespace ChangeGate.Yaml

/-- Work on the nodes of a document. -/
abbrev Merging := StateT Document (Except Flaw)

namespace Merging

/-- The entries that a mapping brings, once it is flat. -/
def broughtBy (flat : NodeId → Merging Unit) (id : NodeId) : Merging (List (NodeId × NodeId)) := do
  match (← get).content? id with
  | some (.mapping _) =>
    flat id
    return (← get).entries id
  | _ => throw .malformed

/-- The entries that a value of a merge key brings.  Of several mappings the last one comes
first. -/
def broughtIn (flat : NodeId → Merging Unit) (id : NodeId) : Merging (List (NodeId × NodeId)) := do
  match (← get).content? id with
  | some (.sequence items) => return (← items.mapM (broughtBy flat)).reverse.flatten
  | _ => broughtBy flat id

/-- Take the merge keys out of a mapping, at most so many, for the entries that they bring. -/
def takeMerges (flat : NodeId → Merging Unit) (id : NodeId) :
    Nat → Merging (List (NodeId × NodeId))
  | 0 => return []
  | count + 1 => do
    let d ← get
    let es := d.entries id
    match es.find? fun (k, _) => d.tagOf k = .merge with
    | none => return []
    | some e =>
      set (d.refill id (.mapping (es.erase e)))
      let first ← broughtIn flat e.2
      return first ++ (← takeMerges flat id count)

/-- The document where every key of a mapping that is the sign of a value is a text. -/
def withTextKeys (id : NodeId) (d : Document) : Document :=
  ((d.entries id).filter fun (k, _) => d.tagOf k = .value).foldl (fun d (k, _) => d.retag k .text) d

/-- Make a mapping flat: what its merge keys bring stands in front, and a key that is the sign of a
value is a text.  The first number bounds how many merge keys there are. -/
def flatten (count : Nat) : Nat → NodeId → Merging Unit
  | 0, _ => throw .malformed
  | depth + 1, id => do
    let brought ← takeMerges (flatten count depth) id count
    modify fun d => (withTextKeys id d).refill id (.mapping (brought ++ d.entries id))

end Merging

/-- The document with a mapping made flat. -/
def Document.flatten (d : Document) (count : Nat) (id : NodeId) : Except Flaw Document :=
  ((Merging.flatten count (count + 1) id).run d).map (·.2)

end ChangeGate.Yaml
