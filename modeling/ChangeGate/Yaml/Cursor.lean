/-! # Walking over a YAML text

A cursor is what is left of a text and where it starts.  `loop` repeats a step for as long as it
asks for more; every further round has to start at a shorter rest, so it always ends. -/

namespace ChangeGate.Yaml

/-- Why a text gives no value.  A text can fail to be YAML or go too deep, or a scalar can fail to
write a value of its type. -/
inductive Flaw
  | malformed
  | tooDeep
  | badCharacter
  | badNumber
  | emptyNumber
  | tooLarge
  | badTruth
  | badMoment
  | noMomentText
  deriving DecidableEq, Repr

/-- What is left of a text, with the line, column and position where it starts. -/
structure Cursor where
  rest : List Char
  position : Nat := 0
  line : Nat := 0
  column : Nat := 0

/-- Whether a character ends a line. -/
def isBreak (c : Char) : Bool :=
  c == '\n' || c == '\r' || c == '\x85' || c == '\u2028' || c == '\u2029'

/-- Whether a character is a blank, a tab or the end of a line. -/
def isSeparator (c : Char) : Bool := c == ' ' || c == '\t' || isBreak c

/-- Whether a character can stand in a YAML text. -/
def isAllowed (c : Char) : Bool :=
  let n := c.toNat
  n == 0x09 || n == 0x0A || n == 0x0D || (0x20 ≤ n && n ≤ 0x7E) || n == 0x85 ||
    (0xA0 ≤ n && n ≤ 0xD7FF) || (0xE000 ≤ n && n ≤ 0xFFFD) || 0x10000 ≤ n

namespace Cursor

/-- The character `k` places ahead. -/
def peek? (c : Cursor) (k : Nat) : Option Char := c.rest[k]?

/-- The next character. -/
def head? (c : Cursor) : Option Char := c.rest.head?

/-- Whether the next character satisfies `p`. -/
def at? (c : Cursor) (p : Char → Bool) : Bool := c.head?.any p

/-- Whether the character `k` places ahead satisfies `p`, or the text ends before. -/
def endsOr (c : Cursor) (k : Nat) (p : Char → Bool) : Bool := (c.peek? k).all p

/-- Behind the next character. -/
def next (c : Cursor) : Cursor :=
  match c.rest with
  | [] => c
  | x :: r =>
    let c' := { c with rest := r, position := c.position + 1 }
    if isBreak x && !(x == '\r' && r.head? == some '\n') then
      { c' with line := c.line + 1, column := 0 }
    else if x == '\ufeff' then c'
    else { c' with column := c.column + 1 }

/-- Behind the next `n` characters. -/
def forward (c : Cursor) : Nat → Cursor
  | 0 => c
  | n + 1 => c.next.forward n

/-- The characters up to the first one that fails `p`, and the cursor there. -/
def span (c : Cursor) (p : Char → Bool) : List Char × Cursor :=
  let taken := c.rest.takeWhile p
  (taken, c.forward taken.length)

/-- Behind all blanks. -/
def skipBlanks (c : Cursor) : Cursor := (c.span (· == ' ')).2

/-- Behind the rest of the line. -/
def skipLine (c : Cursor) : Cursor := (c.span (!isBreak ·)).2

/-- A line end in the form in which it counts, if one stands here. -/
def lineBreak (c : Cursor) : List Char × Cursor :=
  match c.rest with
  | '\r' :: '\n' :: _ => (['\n'], c.forward 2)
  | x :: _ =>
    if x == '\u2028' || x == '\u2029' then ([x], c.next)
    else if isBreak x then (['\n'], c.next)
    else ([], c)
  | [] => ([], c)

/-- Whether a document marker of three equal characters stands here. -/
def atMarker (c : Cursor) (mark : Char) : Bool :=
  c.rest.take 3 == [mark, mark, mark] && c.endsOr 3 isSeparator

/-- Whether a document ends or starts here. -/
def atDocumentMarker (c : Cursor) : Bool := c.atMarker '-' || c.atMarker '.'

end Cursor

/-! ### Loops -/

variable {σ β : Type}

/-- What a round of a loop comes to. -/
inductive Next (σ β : Type)
  | again (s : σ) (c : Cursor)
  | done (x : β) (c : Cursor)

/-- Repeat a step until it is done. -/
def loop (step : σ → Cursor → Except Flaw (Next σ β)) (s : σ) (c : Cursor) :
    Except Flaw (β × Cursor) :=
  match step s c with
  | .error f => .error f
  | .ok (.done x c') => .ok (x, c')
  | .ok (.again s' c') =>
    if c'.rest.length < c.rest.length then loop step s' c' else .error .malformed
  termination_by c.rest.length

end ChangeGate.Yaml
