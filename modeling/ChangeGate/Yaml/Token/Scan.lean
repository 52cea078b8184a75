import ChangeGate.Text.Utf8
import ChangeGate.Yaml.Token.Basic
import ChangeGate.Yaml.Token.Scalar

/-! # Reading the tokens of a YAML text

Indentation opens and closes blocks, and a key is known as one only when its colon is reached.
So every place where a key may start is remembered, one for each level of flow collections, and
`Scan.putKey` puts the key token in at that place.  Tokens are read no further than they are asked
for: `Scan.upTo` reads until it is certain which token stands at a place. -/

namespace ChangeGate.Yaml

/-- A place where a key may start.  A required key has to be followed by its colon. -/
structure KeyPlace where
  token : Nat
  required : Bool
  position : Nat
  line : Nat
  column : Nat

/-- What is read of a text so far. -/
structure Scan where
  cursor : Cursor
  tokens : Array Token := #[]
  flow : Nat := 0
  indent : Int := -1
  outer : List Int := []
  keyAllowed : Bool := true
  keys : List (Nat × KeyPlace) := []
  isDone : Bool := false

namespace Scan

/-- Add a token. -/
def push (s : Scan) (t : Token) : Scan := { s with tokens := s.tokens.push t }

/-- Go on at another cursor. -/
def goto (s : Scan) (c : Cursor) : Scan := { s with cursor := c }

/-! ### Indentation -/

/-- Close the blocks that are indented more than a column, at most as many as are open. -/
def closeBlocks (column : Int) (s : Scan) : List Int → Scan
  | [] => s
  | outer :: more =>
    if column < s.indent then
      closeBlocks column { s.push .blockEnd with indent := outer, outer := more } more
    else s

/-- Close the blocks that are indented more than a column; flow collections have none. -/
def unwind (column : Int) (s : Scan) : Scan :=
  if s.flow = 0 then closeBlocks column s s.outer else s

/-- Open a block at a column, if it is indented more than the block around it. -/
def openBlock (column : Nat) (s : Scan) : Option Scan :=
  if s.indent < column then some { s with indent := column, outer := s.indent :: s.outer }
  else none

/-- Open a block at the next character, with its token. -/
def openWith (t : Token) (s : Scan) : Scan :=
  match s.openBlock s.cursor.column with
  | some s' => s'.push t
  | none => s

/-! ### Places of keys -/

/-- Forget the places of keys that are too far away. -/
def dropStale (s : Scan) : Except Flaw Scan :=
  let isStale := fun (k : KeyPlace) =>
    k.line != s.cursor.line || 1024 < s.cursor.position - k.position
  if s.keys.any fun (_, k) => isStale k && k.required then .error .malformed
  else .ok { s with keys := s.keys.filter fun (_, k) => !isStale k }

/-- Forget the place of a key on this level. -/
def dropKey (s : Scan) : Except Flaw Scan :=
  if (s.keys.lookup s.flow).any (·.required) then .error .malformed
  else .ok { s with keys := s.keys.filter fun (level, _) => level != s.flow }

/-- Remember that a key may start at the next character. -/
def saveKey (s : Scan) : Except Flaw Scan := do
  if !s.keyAllowed then return s
  else
    let c := s.cursor
    let place : KeyPlace := {
      token := s.tokens.size, required := s.flow == 0 && s.indent == Int.ofNat c.column,
      position := c.position, line := c.line, column := c.column }
    let s ← s.dropKey
    return { s with keys := (s.flow, place) :: s.keys }

/-- Put the token of a key in at the place where it starts, behind that of a block if it opens
one. -/
def putKey (k : KeyPlace) (s : Scan) : Scan :=
  let s := { s with
    keys := s.keys.filter fun (level, _) => level != s.flow
    tokens := s.tokens.insertIdxIfInBounds k.token .key
    keyAllowed := false }
  if s.flow = 0 then
    match s.openBlock k.column with
    | some s' => { s' with tokens := s'.tokens.insertIdxIfInBounds k.token .blockMapping }
    | none => s
  else s

/-! ### Names, tags and directives -/

/-- Whether a character can stand in the name of an anchor, a handle or a directive. -/
def isNameChar (c : Char) : Bool := c.isAlphanum || c == '-' || c == '_'

/-- The name behind the sign of an anchor or an alias. -/
def anchorName (c : Cursor) : Except Flaw (List Char × Cursor) :=
  let (name, c) := c.next.span isNameChar
  let ends := c.endsOr 0 fun x =>
    isSeparator x || ['?', ':', ',', ']', '\x7d', '%', '@', '\x60'].contains x
  if name.isEmpty || !ends then .error .malformed else .ok (name, c)

/-- The handle of a tag. -/
def tagHandle (c : Cursor) : Except Flaw (List Char × Cursor) :=
  if c.head? != some '!' then .error .malformed
  else if c.peek? 1 == some ' ' then .ok (['!'], c.next)
  else
    let (name, c') := c.next.span isNameChar
    if c'.head? == some '!' then .ok ('!' :: name ++ ['!'], c'.next) else .error .malformed

/-- Whether a character can stand in the address of a tag. -/
def isUriChar (c : Char) : Bool :=
  c.isAlphanum || "-;/?:@&=+$,_.!~*'()[]%".toList.contains c

/-- The characters of a run of escaped bytes in an address. -/
def uriBytes (bytes : List UInt8) : List Char → Except Flaw (List Char × List Char)
  | '%' :: a :: b :: r =>
    match Json.hexValue? a, Json.hexValue? b with
    | some m, some n => uriBytes (bytes ++ [UInt8.ofNat (16 * m + n)]) r
    | _, _ => .error .malformed
  | '%' :: _ => .error .malformed
  | r =>
    match Text.decodeUtf8 bytes with
    | .ok cs => .ok (cs, r)
    | .error _ => .error .malformed

/-- The address of a tag. -/
def tagUri (c : Cursor) : Except Flaw (List Char × Cursor) := do
  let (uri, c') ← loop (fun uri c =>
    match c.rest with
    | '%' :: _ => do
      let (cs, r) ← uriBytes [] c.rest
      return .again (uri ++ cs) (c.forward (c.rest.length - r.length))
    | x :: _ => .ok (if isUriChar x then .again (uri ++ [x]) c.next else .done uri c)
    | [] => .ok (.done uri c)) [] c
  if uri.isEmpty then .error .malformed else return (uri, c')

/-- Whether an exclamation mark stands behind the one here, before a blank or a line end. -/
def hasHandle (c : Cursor) : Bool :=
  ((c.rest.drop 1).takeWhile fun x => x != ' ' && !isBreak x).contains '!'

/-- A tag: its handle and its suffix. -/
def tagToken (c : Cursor) : Except Flaw (Token × Cursor) := do
  let (t, c') ←
    if c.peek? 1 == some '<' then do
      let (uri, c) ← tagUri (c.forward 2)
      if c.head? == some '>' then pure (Token.tag none uri, c.next) else .error .malformed
    else if c.endsOr 1 isSeparator then pure (Token.tag none ['!'], c.next)
    else if hasHandle c then do
      let (handle, c) ← tagHandle c
      let (uri, c) ← tagUri c
      pure (Token.tag (some handle) uri, c)
    else do
      let (uri, c) ← tagUri c.next
      pure (Token.tag (some ['!']) uri, c)
  if c'.endsOr 0 fun x => x == ' ' || isBreak x then return (t, c') else .error .malformed

/-- A run of digits of a version. -/
def versionNumber (c : Cursor) : Except Flaw (Nat × Cursor) :=
  let (digits, c) := c.span Char.isDigit
  if digits.isEmpty then .error .malformed
  else if Text.longestNumeral < digits.length then .error .badNumber
  else .ok (Json.digitsValue digits, c)

/-- A directive with the rest of its line. -/
def directive (c : Cursor) : Except Flaw (Directive × Cursor) := do
  let ends := fun (c : Cursor) => c.endsOr 0 fun x => x == ' ' || isBreak x
  let (name, c) := c.next.span isNameChar
  if name.isEmpty || !ends c then .error .malformed
  else
    let (d, c) ←
      if name == "YAML".toList then do
        let (major, c) ← versionNumber c.skipBlanks
        if c.head? != some '.' then .error .malformed
        else
          let (_, c) ← versionNumber c.next
          if ends c then pure (Directive.version major, c) else .error .malformed
      else if name == "TAG".toList then do
        let (handle, c) ← tagHandle c.skipBlanks
        if c.head? != some ' ' then .error .malformed
        else
          let (uri, c) ← tagUri c.skipBlanks
          if ends c then pure (Directive.tag handle uri, c) else .error .malformed
      else pure (Directive.other, c.skipLine)
    return (d, ← ignoredLine c)

/-! ### Tokens -/

/-- Go on behind blanks, comments and line ends.  A line end allows a key outside of flow
collections. -/
def toNextToken (s : Scan) : Except Flaw Scan := do
  let c := if s.cursor.position == 0 && s.cursor.head? == some '\ufeff' then s.cursor.next
    else s.cursor
  let (crossed, c) ← loop (fun crossed c =>
    let c := c.skipBlanks
    let c := if c.at? (· == '#') then c.skipLine else c
    match c.lineBreak with
    | ([], _) => .ok (.done crossed c)
    | (_, c') => .ok (.again true c')) false c
  return { s with cursor := c, keyAllowed := s.keyAllowed || crossed && s.flow == 0 }

/-- A directive or a document marker, which end all blocks. -/
def outermost (s : Scan) : Except Flaw Scan := do
  return { ← (s.unwind (-1)).dropKey with keyAllowed := false }

/-- The opening of a flow collection. -/
def openFlow (t : Token) (s : Scan) : Except Flaw Scan := do
  let s ← s.saveKey
  return { s.push t with flow := s.flow + 1, keyAllowed := true, cursor := s.cursor.next }

/-- The end of a flow collection. -/
def closeFlow (t : Token) (s : Scan) : Except Flaw Scan := do
  let s ← s.dropKey
  return { s.push t with flow := s.flow - 1, keyAllowed := false, cursor := s.cursor.next }

/-- A sign that ends what stood before it on its level. -/
def sign (t : Token) (keyAllowed : Bool) (s : Scan) : Except Flaw Scan := do
  let s ← { s with keyAllowed }.dropKey
  return { s.push t with cursor := s.cursor.next }

/-- A token that may start a key. -/
def mayStartKey (read : Cursor → Except Flaw (Token × Cursor)) (s : Scan) : Except Flaw Scan := do
  let s ← s.saveKey
  let (t, c) ← read s.cursor
  return { s.push t with keyAllowed := false, cursor := c }

/-- A sign that opens a block where a key is allowed. -/
def blockSign (opening t : Token) (keyAllowed : Bool) (s : Scan) : Except Flaw Scan :=
  if s.flow = 0 && !s.keyAllowed then .error .malformed
  else (if s.flow = 0 then s.openWith opening else s).sign t keyAllowed

/-- The colon of a value. -/
def valueSign (s : Scan) : Except Flaw Scan :=
  match s.keys.lookup s.flow with
  | some k =>
    let s := s.putKey k
    .ok { s.push .value with cursor := s.cursor.next }
  | none => s.blockSign .blockMapping .value (s.flow == 0)

/-- A plain scalar. -/
def plainToken (s : Scan) : Except Flaw Scan := do
  let s ← s.saveKey
  let ((text, crossed), c) ← plainScalar (s.flow != 0) (s.indent + 1) s.cursor
  return { s.push (.scalar text true) with keyAllowed := crossed, cursor := c }

/-- A block scalar. -/
def blockToken (folded : Bool) (s : Scan) : Except Flaw Scan := do
  let s ← { s with keyAllowed := true }.dropKey
  let (text, c) ← blockScalar folded s.indent s.cursor
  return { s.push (.scalar text false) with cursor := c }

/-- Whether a plain scalar can start here. -/
def startsPlain (s : Scan) (x : Char) : Bool :=
  !(isSeparator x || "-?:,[]\x7b\x7d#&*!|>'\"%@\x60".toList.contains x) ||
    (!s.cursor.endsOr 1 isSeparator && (x == '-' || s.flow == 0 && (x == '?' || x == ':')))

/-- The token that starts with `x`. -/
def token (s : Scan) (x : Char) : Except Flaw Scan := do
  let c := s.cursor
  let inFlow := s.flow != 0
  let spaced := c.endsOr 1 isSeparator
  if x == '%' && c.column == 0 then
    let s ← s.outermost
    let (d, c) ← directive c
    return (s.push (.directive d)).goto c
  else if c.column == 0 && c.atMarker '-' then
    return ((← s.outermost).push .documentStart).goto (c.forward 3)
  else if c.column == 0 && c.atMarker '.' then
    return ((← s.outermost).push .documentEnd).goto (c.forward 3)
  else if x == '[' then s.openFlow .flowSequence
  else if x == '\x7b' then s.openFlow .flowMapping
  else if x == ']' then s.closeFlow .flowSequenceEnd
  else if x == '\x7d' then s.closeFlow .flowMappingEnd
  else if x == ',' then s.sign .flowEntry true
  else if x == '-' && spaced then s.blockSign .blockSequence .blockEntry true
  else if x == '?' && (inFlow || spaced) then s.blockSign .blockMapping .key (!inFlow)
  else if x == ':' && (inFlow || spaced) then s.valueSign
  else if x == '*' then s.mayStartKey fun c => do
    let (name, c) ← anchorName c
    return (.alias name, c)
  else if x == '&' then s.mayStartKey fun c => do
    let (name, c) ← anchorName c
    return (.anchor name, c)
  else if x == '!' then s.mayStartKey tagToken
  else if x == '|' && !inFlow then s.blockToken false
  else if x == '>' && !inFlow then s.blockToken true
  else if x == '\'' || x == '"' then s.mayStartKey fun c => do
    let (text, c) ← quotedScalar x c
    return (.scalar text false, c)
  else if s.startsPlain x then s.plainToken
  else .error .malformed

/-- Read one more token, or the end of the text. -/
def advance (s : Scan) : Except Flaw Scan := do
  let s ← s.toNextToken
  let s ← s.dropStale
  let s := s.unwind s.cursor.column
  match s.cursor.head? with
  | none =>
    let s ← (s.unwind (-1)).dropKey
    return { s with isDone := true }
  | some x => s.token x

/-- Whether a key may still start at the token of a number. -/
def mayBecomeKey (s : Scan) (n : Nat) : Bool :=
  (s.keys.map fun (_, k) => k.token).min? == some n

/-- Read on until it is certain which token has a number, and that it starts no key. -/
def upTo (n : Nat) (s : Scan) : Except Flaw Scan :=
  if s.isDone then .ok s
  else
    match if s.tokens.size ≤ n then .ok s else s.dropStale with
    | .error f => .error f
    | .ok s' =>
      if s'.tokens.size ≤ n || s'.mayBecomeKey n then
        match s'.advance with
        | .error f => .error f
        | .ok s'' =>
          if s''.isDone then .ok s''
          else if s''.cursor.rest.length < s.cursor.rest.length then s''.upTo n
          else .error .malformed
      else .ok s'
  termination_by s.cursor.rest.length

/-- Nothing read of a text yet. -/
def start (cs : List Char) : Scan := { cursor := { rest := cs } }

end Scan

end ChangeGate.Yaml
