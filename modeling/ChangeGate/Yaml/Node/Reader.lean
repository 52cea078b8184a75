import ChangeGate.Yaml.Node.Plain
import ChangeGate.Yaml.Token.Scan

/-! # Reading the node of a YAML text

A text holds at most one document, and a document starts at a node.  An alias stands for the node
of its anchor, also inside that node itself. -/

namespace ChangeGate.Yaml

/-- What the reader keeps: the tokens read so far and how many of them are taken, the nodes, the
anchors, and what the handles of tags stand for. -/
structure NodeState where
  scan : Scan
  taken : Nat := 0
  document : Document := {}
  anchors : List (List Char × NodeId) := []
  handles : List (List Char × List Char) := []

/-- A reader of nodes. -/
abbrev NodeReader := StateT NodeState (Except Flaw)

namespace NodeReader

/-- The next token, or nothing at the end. -/
def peek : NodeReader (Option Token) := do
  let s ← get
  let scan ← s.scan.upTo s.taken
  set { s with scan }
  return scan.tokens[s.taken]?

/-- Go on behind the next token. -/
def skip : NodeReader Unit := modify fun s => { s with taken := s.taken + 1 }

/-- Go on behind a token that has to come. -/
def expect (t : Token) : NodeReader Unit := do
  if (← peek) == some t then skip else throw .malformed

/-- Whether the next token is one of some. -/
def isNext (ts : List Token) : NodeReader Bool := return (← peek).any ts.contains

/-- A node that is new. -/
def add (tag : Tag) (content : Content) : NodeReader NodeId := do
  let s ← get
  let (document, id) := s.document.add ⟨tag, content⟩
  set { s with document }
  return id

/-- The node of an empty place. -/
def empty : NodeReader NodeId := add .null (.scalar [])

/-! ### Properties -/

/-- The anchor and the tag in front of a node, in either order. -/
structure Properties where
  anchor : Option (List Char) := none
  tag : Option (Option (List Char) × List Char) := none

/-- Read the properties of a node. -/
def properties : NodeReader Properties := do
  match ← peek with
  | some (.anchor name) =>
    skip
    match ← peek with
    | some (.tag handle suffix) => skip; return ⟨some name, some (handle, suffix)⟩
    | _ => return ⟨some name, none⟩
  | some (.tag handle suffix) =>
    skip
    match ← peek with
    | some (.anchor name) => skip; return ⟨some name, some (handle, suffix)⟩
    | _ => return ⟨none, some (handle, suffix)⟩
  | _ => return {}

/-- The address of a tag; a lone exclamation mark counts as none. -/
def uriOf (p : Properties) : NodeReader (Option (List Char)) := do
  match p.tag with
  | none => return none
  | some (none, suffix) => return some suffix
  | some (some handle, suffix) =>
    match (← get).handles.lookup handle with
    | some start => return some (start ++ suffix)
    | none => throw .malformed

/-- The tag of a collection. -/
def collectionTag (default : Tag) : Option (List Char) → Tag
  | none => default
  | some uri => if uri = ['!'] then default else Tag.ofUri uri

/-- The tag of a scalar. -/
def scalarTag (plain : Bool) (text : List Char) : Option (List Char) → Tag
  | none => if plain then Plain.tagOf text else .text
  | some uri => if uri = ['!'] then Plain.tagOf text else Tag.ofUri uri

/-- A node that is new, with the anchor that stands for it if it has one. -/
def addAnchored (anchor : Option (List Char)) (tag : Tag) (content : Content) :
    NodeReader NodeId := do
  let id ← add tag content
  if let some name := anchor then
    if ((← get).anchors.lookup name).isSome then throw .malformed
    modify fun s => { s with anchors := (name, id) :: s.anchors }
  return id

/-- Fill a node that was added before its content was read. -/
def fill (id : NodeId) (content : NodeReader Content) : NodeReader NodeId := do
  let c ← content
  modify fun s => { s with document := s.document.refill id c }
  return id

/-- How deep nodes may lie in each other: where the stack of a reader ends that takes two calls for
each level, as `Json.deepest` is for one that takes a single call. -/
def deepest : Nat := 485

/-! ### Nodes -/

mutual

/-- A node; `block` says whether it may be a block, and `inline` whether a sequence of the same
indentation may stand here.  The first number bounds how many items a collection has, the second
one how deep nodes lie in each other. -/
def node (size depth : Nat) (block inline : Bool) : NodeReader NodeId := do
  match depth with
  | 0 => throw .tooDeep
  | depth + 1 =>
    match ← peek with
    | some (.alias name) =>
      skip
      match (← get).anchors.lookup name with
      | some id => return id
      | none => throw .malformed
    | _ =>
      let p ← properties
      let uri ← uriOf p
      let isMarked := p.anchor.isSome || p.tag.isSome
      let sequence := fun (items : NodeReader (List NodeId)) => do
        let id ← addAnchored p.anchor (collectionTag .list uri) (.sequence [])
        fill id (.sequence <$> items)
      let mapping := fun (entries : NodeReader (List (NodeId × NodeId))) => do
        let id ← addAnchored p.anchor (collectionTag .map uri) (.mapping [])
        fill id (.mapping <$> entries)
      let scalar := fun (plain : Bool) (text : List Char) =>
        addAnchored p.anchor (scalarTag plain text uri) (.scalar text)
      match ← peek with
      | some (.scalar text plain) =>
        skip
        scalar plain text
      | some .flowSequence => sequence (do skip; flowItems size depth size true)
      | some .flowMapping => mapping (do skip; flowEntries size depth size true)
      | some t =>
        if inline && t == .blockEntry then sequence (inlineItems size depth size)
        else if block && t == .blockSequence then sequence (do skip; blockItems size depth size)
        else if block && t == .blockMapping then mapping (do skip; blockEntries size depth size)
        else if isMarked then scalar true []
        else throw .malformed
      | none => if isMarked then scalar true [] else throw .malformed
  termination_by (depth, 0)

/-- The items of a block sequence, at most `count`. -/
def blockItems (size depth count : Nat) : NodeReader (List NodeId) := do
  match count with
  | 0 => throw .malformed
  | count + 1 =>
    if ← isNext [.blockEntry] then
      skip
      let n ← if ← isNext [.blockEntry, .blockEnd] then empty else node size depth true false
      return n :: (← blockItems size depth count)
    else
      expect .blockEnd
      return []
  termination_by (depth, count + 1)

/-- The items of a block sequence that is not indented more than the mapping around it. -/
def inlineItems (size depth count : Nat) : NodeReader (List NodeId) := do
  match count with
  | 0 => throw .malformed
  | count + 1 =>
    if ← isNext [.blockEntry] then
      skip
      let n ←
        if ← isNext [.blockEntry, .key, .value, .blockEnd] then empty
        else node size depth true false
      return n :: (← inlineItems size depth count)
    else return []
  termination_by (depth, count + 1)

/-- The entries of a block mapping. -/
def blockEntries (size depth count : Nat) : NodeReader (List (NodeId × NodeId)) := do
  match count with
  | 0 => throw .malformed
  | count + 1 =>
    if ← isNext [.key] then
      let k ← blockPart .key size depth
      let v ← blockPart .value size depth
      return (k, v) :: (← blockEntries size depth count)
    else
      expect .blockEnd
      return []
  termination_by (depth, count + 2)

/-- The key or the value of an entry of a block mapping behind its sign, if the sign stands here. -/
def blockPart (sign : Token) (size depth : Nat) : NodeReader NodeId := do
  if ← isNext [sign] then
    skip
    if ← isNext [.key, .value, .blockEnd] then empty else node size depth true true
  else empty
  termination_by (depth, 1)

/-- The items of a flow sequence, at most `count`; `first` says whether none stands before. -/
def flowItems (size depth count : Nat) (first : Bool) : NodeReader (List NodeId) := do
  match count with
  | 0 => throw .malformed
  | count + 1 =>
    if ← isNext [.flowSequenceEnd] then skip; return []
    else
      if !first then expect .flowEntry
      if ← isNext [.key] then
        let e ← flowEntry .flowSequenceEnd size depth
        let n ← add .map (.mapping [e])
        return n :: (← flowItems size depth count false)
      else if ← isNext [.flowSequenceEnd] then skip; return []
      else
        let n ← node size depth false false
        return n :: (← flowItems size depth count false)
  termination_by (depth, count + 2)

/-- An entry of a flow collection from its key on. -/
def flowEntry (closing : Token) (size depth : Nat) : NodeReader (NodeId × NodeId) := do
  let part := fun (ends : List Token) => do
    skip
    if ← isNext ends then empty else node size depth false false
  let k ← part [.value, .flowEntry, closing]
  let v ← if ← isNext [.value] then part [.flowEntry, closing] else empty
  return (k, v)
  termination_by (depth, 1)

/-- The entries of a flow mapping. -/
def flowEntries (size depth count : Nat) (first : Bool) : NodeReader (List (NodeId × NodeId)) := do
  match count with
  | 0 => throw .malformed
  | count + 1 =>
    if ← isNext [.flowMappingEnd] then skip; return []
    else
      if !first then expect .flowEntry
      if ← isNext [.key] then
        let e ← flowEntry .flowMappingEnd size depth
        return e :: (← flowEntries size depth count false)
      else if ← isNext [.flowMappingEnd] then skip; return []
      else
        let k ← node size depth false false
        return (k, ← empty) :: (← flowEntries size depth count false)
  termination_by (depth, count + 2)

end

/-! ### Documents -/

/-- What the handles stand for when no directive says so. -/
def commonHandles : List (List Char × List Char) := [(['!'], ['!']), (['!', '!'], Tag.commonUri)]

/-- Read the directives in front of a document, at most as many as are left. -/
def directives (versionSeen : Bool) (own : List (List Char × List Char)) :
    Nat → NodeReader (List (List Char × List Char))
  | 0 => return own
  | n + 1 => do
    match ← peek with
    | some (.directive d) =>
      skip
      match d with
      | .version major =>
        if versionSeen || major != 1 then throw .malformed else directives true own n
      | .tag handle uri =>
        if (own.lookup handle).isSome then throw .malformed
        else directives versionSeen ((handle, uri) :: own) n
      | .other => directives versionSeen own n
    | _ => return own

/-- Whether the next token is a directive. -/
def atDirective : NodeReader Bool := do
  match ← peek with
  | some (.directive _) => return true
  | _ => return false

/-- Go on behind document ends, at most as many as are left. -/
def skipDocumentEnds : Nat → NodeReader Unit
  | 0 => return ()
  | n + 1 => do
    if ← isNext [.documentEnd] then
      skip
      skipDocumentEnds n

/-- The node of the first document, if there is one, and nothing behind it. -/
def document (size : Nat) : NodeReader (Option NodeId) := do
  let found ←
    match ← peek with
    | none => pure none
    | some .documentStart | some (.directive _) =>
      let own ← directives false [] size
      modify fun s => { s with handles := own ++ commonHandles }
      expect .documentStart
      if (← peek).isNone || (← atDirective) || (← isNext [.documentStart, .documentEnd]) then
        some <$> empty
      else some <$> node size deepest true false
    | some _ =>
      modify fun s => { s with handles := commonHandles }
      some <$> node size deepest true false
  skipDocumentEnds size
  if (← peek).isNone then return found
  else
    let _ ← directives false [] size
    let _ ← peek
    throw .malformed

end NodeReader

/-- The node at which the document of a text starts, with all its nodes; nothing if the text holds
no document. -/
def readDocument (cs : List Char) : Except Flaw (Option (Document × NodeId)) :=
  if !cs.all isAllowed then .error .malformed
  else
    let size := cs.length + 1
    match (NodeReader.document size).run { scan := .start cs } with
    | .error f => .error f
    | .ok (id, s) => .ok (id.map (s.document, ·))

end ChangeGate.Yaml
