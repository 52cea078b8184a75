import ChangeGate.Json.Reader
import ChangeGate.Yaml.Cursor

/-! # Scalars of YAML

Scalars are written plain, between quotes, or as a block of lines.  Each reader starts at the
first character of a scalar and gives its text and the cursor behind it. -/

namespace ChangeGate.Yaml

/-! ### Scalars between quotes -/

/-- The character of an escape of one letter. -/
def escape? : Char → Option Char
  | '0' => some '\x00'
  | 'a' => some '\x07'
  | 'b' => some '\x08'
  | 't' | '\t' => some '\t'
  | 'n' => some '\n'
  | 'v' => some '\x0b'
  | 'f' => some '\x0c'
  | 'r' => some '\r'
  | 'e' => some '\x1b'
  | ' ' => some ' '
  | '"' => some '"'
  | '\\' => some '\\'
  | '/' => some '/'
  | 'N' => some '\x85'
  | '_' => some '\xa0'
  | 'L' => some '\u2028'
  | 'P' => some '\u2029'
  | _ => none

/-- How many hexadecimal digits follow the letter of an escape. -/
def escapeWidth? : Char → Option Nat
  | 'x' => some 2
  | 'u' => some 4
  | 'U' => some 8
  | _ => none

/-- The character of a code point in hexadecimal digits. -/
def codeChar (digits : List Char) : Except Flaw Char :=
  match digits.mapM Json.hexValue? with
  | none => .error .malformed
  | some ds =>
    let n := ds.foldl (16 * · + ·) 0
    if n < 0x110000 then .ok (Text.unitChar n)
    else if n < 0x80000000 then .error .badCharacter
    else .error .tooLarge

/-- The line ends between two lines of a quoted scalar; blanks around them do not count. -/
def quotedBreaks (c : Cursor) : Except Flaw (List Char × Cursor) :=
  loop (fun breaks c =>
    if c.atDocumentMarker then .error .malformed
    else
      let (_, c) := c.span fun x => x == ' ' || x == '\t'
      match c.lineBreak with
      | ([], _) => .ok (.done breaks c)
      | (br, c') => .ok (.again (breaks ++ br) c')) [] c

/-- The blanks in a quoted scalar.  A single line end counts as a blank, further ones as
themselves. -/
def quotedBlanks (c : Cursor) : Except Flaw (List Char × Cursor) :=
  let (blanks, c) := c.span fun x => x == ' ' || x == '\t'
  match c.head?, c.lineBreak with
  | none, _ => .error .malformed
  | _, ([], _) => .ok (blanks, c)
  | _, (br, c') => do
    let (breaks, c'') ← quotedBreaks c'
    let folded := if br != ['\n'] then br else if breaks.isEmpty then [' '] else []
    return (folded ++ breaks, c'')

/-- An escape behind its backslash. -/
def quotedEscape (c : Cursor) : Except Flaw (List Char × Cursor) :=
  match c.head? with
  | none => .error .malformed
  | some x =>
    match escape? x, escapeWidth? x with
    | some y, _ => .ok ([y], c.next)
    | none, some width => do
      let digits := c.next.rest.take width
      if digits.length < width then .error .malformed
      else
        let y ← codeChar digits
        return ([y], c.next.forward width)
    | none, none =>
      match c.lineBreak with
      | ([], _) => .error .malformed
      | (_, c') => quotedBreaks c'

/-- One round of reading a quoted scalar: a quote ends it, and all else adds to its text. -/
def quotedStep (quote : Char) (text : List Char) (c : Cursor) :
    Except Flaw (Next (List Char) (List Char)) :=
  match c.rest with
  | [] => .error .malformed
  | x :: r =>
    if x == quote then
      if quote == '\'' && r.head? == some '\'' then .ok (.again (text ++ ['\'']) (c.forward 2))
      else .ok (.done text c.next)
    else if x == '\\' && quote == '"' then do
      let (added, c') ← quotedEscape c.next
      return .again (text ++ added) c'
    else if isSeparator x then do
      let (added, c') ← quotedBlanks c
      return .again (text ++ added) c'
    else .ok (.again (text ++ [x]) c.next)

/-- A scalar between quotes. -/
def quotedScalar (quote : Char) (c : Cursor) : Except Flaw (List Char × Cursor) :=
  loop (quotedStep quote) [] c.next

/-! ### Plain scalars -/

/-- Whether a plain scalar ends at the character `k` places ahead. -/
def endsPlain (inFlow : Bool) (c : Cursor) (k : Nat) : Bool :=
  match c.peek? k with
  | none => true
  | some x =>
    isSeparator x ||
    (x == ':' && c.endsOr (k + 1) fun y =>
      isSeparator y || inFlow && [',', '[', ']', '\x7b', '\x7d'].contains y) ||
    (inFlow && [',', '?', '[', ']', '\x7b', '\x7d'].contains x)

/-- How many characters of a plain scalar stand here without a blank, at most `limit`. -/
def plainRun (inFlow : Bool) (c : Cursor) (k : Nat) : Nat → Nat
  | 0 => k
  | limit + 1 => if endsPlain inFlow c k then k else plainRun inFlow c (k + 1) limit

/-- The line ends behind a line of a plain scalar, or nothing where a document marker stands. -/
def plainBreaks (c : Cursor) : Except Flaw (Option (List Char) × Cursor) :=
  loop (fun breaks c =>
    if c.at? (· == ' ') then .ok (.again breaks c.next)
    else
      match c.lineBreak with
      | ([], _) => .ok (.done (some breaks) c)
      | (br, c') =>
        if c'.atDocumentMarker then .ok (.done none c') else .ok (.again (breaks ++ br) c')) [] c

/-- The blanks behind a run of a plain scalar, and whether they reach another line. -/
def plainBlanks (c : Cursor) : Except Flaw ((List Char × Bool) × Cursor) :=
  let (blanks, c) := c.span (· == ' ')
  match c.lineBreak with
  | ([], _) => .ok ((blanks, false), c)
  | (br, c') =>
    if c'.atDocumentMarker then .ok (([], true), c')
    else do
      let (breaks?, c'') ← plainBreaks c'
      match breaks? with
      | none => return (([], true), c'')
      | some breaks =>
        let folded := if br != ['\n'] then br else if breaks.isEmpty then [' '] else []
        return ((folded ++ breaks, true), c'')

/-- What is read of a plain scalar: its text, the blanks behind it, and whether they reach another
line. -/
structure Plain where
  text : List Char := []
  blanks : List Char := []
  crossed : Bool := false

/-- One round of reading a plain scalar. -/
def plainStep (inFlow : Bool) (indent : Int) (s : Plain) (c : Cursor) :
    Except Flaw (Next Plain Plain) :=
  let n := plainRun inFlow c 0 c.rest.length
  if c.at? (· == '#') || n == 0 then .ok (.done s c)
  else do
    let text := s.text ++ s.blanks ++ c.rest.take n
    let ((blanks, crossed), c') ← plainBlanks (c.forward n)
    let s' : Plain := { text, blanks, crossed }
    if blanks.isEmpty || c'.at? (· == '#') || (!inFlow && Int.ofNat c'.column < indent) then
      return .done s' c'
    else return .again s' c'

/-- A plain scalar under a level of indentation, and whether it reaches another line. -/
def plainScalar (inFlow : Bool) (indent : Int) (c : Cursor) :
    Except Flaw ((List Char × Bool) × Cursor) := do
  let (s, c') ← loop (plainStep inFlow indent) {} c
  return ((s.text, s.crossed), c')

/-! ### Block scalars -/

/-- What happens to the line ends at the end of a block scalar. -/
inductive Chomping
  | clip | strip | keep
  deriving DecidableEq

/-- The signs behind the indicator of a block scalar: the chomping and the indentation. -/
def blockSigns (c : Cursor) : Except Flaw ((Chomping × Option Nat) × Cursor) := do
  let chomping := fun (c : Cursor) =>
    match c.head? with
    | some '+' => some (Chomping.keep, c.next)
    | some '-' => some (Chomping.strip, c.next)
    | _ => none
  let width := fun (c : Cursor) =>
    match c.head? with
    | some x => if x.isDigit then some (x.toNat - '0'.toNat, c.next) else none
    | none => none
  let ((ch, w), c') :=
    match chomping c with
    | some (ch, c') =>
      match width c' with
      | some (w, c'') => ((ch, some w), c'')
      | none => ((ch, none), c')
    | none =>
      match width c with
      | some (w, c') =>
        match chomping c' with
        | some (ch, c'') => ((ch, some w), c'')
        | none => ((.clip, some w), c')
      | none => ((.clip, none), c)
  if w == some 0 || !c'.endsOr 0 (fun x => x == ' ' || isBreak x) then .error .malformed
  else return ((ch, w), c')

/-- The rest of a line that may only hold a comment. -/
def ignoredLine (c : Cursor) : Except Flaw Cursor :=
  let c := c.skipBlanks
  let c := if c.at? (· == '#') then c.skipLine else c
  if c.endsOr 0 isBreak then .ok c.lineBreak.2 else .error .malformed

/-- The empty lines at the start of a block scalar and the width of the widest indentation. -/
def blockIndentation (c : Cursor) : Except Flaw ((List Char × Nat) × Cursor) :=
  loop (fun (breaks, width) c =>
    if c.at? (· == ' ') then .ok (.again (breaks, max width c.next.column) c.next)
    else
      match c.lineBreak with
      | ([], _) => .ok (.done (breaks, width) c)
      | (br, c') => .ok (.again (breaks ++ br, width) c')) ([], 0) c

/-- Behind the blanks up to a column. -/
def skipIndent (indent : Nat) (c : Cursor) : Cursor :=
  let blanks := (c.rest.takeWhile (· == ' ')).length
  c.forward (min blanks (indent - c.column))

/-- The empty lines in front of a line of a block scalar. -/
def blockBreaks (indent : Nat) (c : Cursor) : Except Flaw (List Char × Cursor) :=
  loop (fun breaks c =>
    match c.lineBreak with
    | ([], _) => .ok (.done breaks c)
    | (br, c') => .ok (.again (breaks ++ br) (skipIndent indent c'))) [] (skipIndent indent c)

/-- What is read of a block scalar: its text, the end of its last line, and the empty lines behind
it. -/
structure Block where
  text : List Char := []
  lineEnd : List Char := []
  breaks : List Char := []

/-- One line of a block scalar. -/
def blockStep (folded : Bool) (indent : Nat) (s : Block) (c : Cursor) :
    Except Flaw (Next Block Block) :=
  if c.column != indent || c.rest.isEmpty then .ok (.done s c)
  else do
    let isBlank := fun (x : Char) => x == ' ' || x == '\t'
    let indented := c.at? isBlank
    let (line, c) := c.span (!isBreak ·)
    let (lineEnd, c) := c.lineBreak
    let (breaks, c) ← blockBreaks indent c
    let text := s.text ++ s.breaks ++ line
    if c.column == indent && !c.rest.isEmpty then
      let joint :=
        if folded && lineEnd == ['\n'] && !indented && !c.at? isBlank then
          if breaks.isEmpty then [' '] else []
        else lineEnd
      return .again { text := text ++ joint, lineEnd, breaks } c
    else return .done { text, lineEnd, breaks } c

/-- A block scalar inside a block that is indented by `outer`. -/
def blockScalar (folded : Bool) (outer : Int) (c : Cursor) : Except Flaw (List Char × Cursor) := do
  let ((chomping, width), c) ← blockSigns c.next
  let c ← ignoredLine c
  let least := max 1 (outer + 1).toNat
  let ((breaks, indent), c) ←
    match width with
    | none => do
      let ((breaks, widest), c) ← blockIndentation c
      pure ((breaks, max least widest), c)
    | some w => do
      let (breaks, c) ← blockBreaks (least + w - 1) c
      pure ((breaks, least + w - 1), c)
  let (s, c) ← loop (blockStep folded indent) { breaks } c
  let text :=
    match chomping with
    | .strip => s.text
    | .clip => s.text ++ s.lineEnd
    | .keep => s.text ++ s.lineEnd ++ s.breaks
  return (text, c)

end ChangeGate.Yaml
