import ChangeGate.Source.Error

/-! # Reading a list of tokens

A reader takes tokens from the front of a list and gives back the rest; the end of the list is
the end of the source.  `loop` repeats a step until a condition on the rest holds; a step that
takes no token ends it, which `loop_of_shorter` excludes for the steps in use. -/

namespace ChangeGate.Source

/-- Why a reader stops: a problem at the next token, or at the end of the list. -/
inductive Refusal
  | problem (p : Problem) (got : Option Token)
  | longNumeral
  deriving DecidableEq, Repr

/-- A reader takes tokens from the front of those that are left. -/
abbrev Reader := StateT (List Token) (Except Refusal)

variable {α σ : Type}

/-- A problem at the next token. -/
def refuse (p : Problem) : Reader α := fun ts => .error (.problem p ts.head?)

/-! ### Single tokens -/

/-- Whether the next token is of a kind. -/
def atKind (kind : Token.Kind) (ts : List Token) : Bool := ts.head?.any (·.kind == kind)

/-- Whether the next token is a reserved word. -/
def atKeyword (word : String) (ts : List Token) : Bool := ts.head?.any (·.isKeyword word)

/-- Take a token that satisfies `ok`, or refuse it. -/
def takeIf (ok : Token → Bool) (p : Problem) : Reader Token
  | t :: ts => if ok t then .ok (t, ts) else refuse p (t :: ts)
  | [] => refuse p []

/-- Take a token of a kind. -/
def take (kind : Token.Kind) : Reader Token := takeIf (·.kind == kind) (.expected kind)

/-- Take a reserved word. -/
def takeKeyword (word : String) : Reader Token :=
  takeIf (·.isKeyword word) (.expectedKeyword word)

/-- The text of a string literal. -/
def takeText : Reader String := return (← take .text).text

/-- The text of a name. -/
def takeName : Reader String := return (← take .name).text

/-- Drop the line ends at the front. -/
def skipLineEnds : Reader Unit := modify fun ts => ts.dropWhile (·.kind == .lineEnd)

/-- Leave a statement: over line ends, or without taking a token where a block or the source
ends. -/
def endStatement : Reader Unit
  | [] => .ok ((), [])
  | t :: ts =>
    if t.kind = .lineEnd then skipLineEnds ts
    else if t.kind = .closeBrace then .ok ((), t :: ts)
    else refuse .expectedStatementEnd (t :: ts)

/-- Take an opening brace, with line ends around it. -/
def openBlock : Reader Unit := do
  skipLineEnds
  let _ ← take .openBrace
  skipLineEnds

/-- Take a closing brace and leave the statement that the block is. -/
def closeBlock : Reader Unit := do
  let _ ← take .closeBrace
  endStatement

/-! ### Repetition -/

/-- Repeat a step on a state until `done` holds of the tokens left. -/
def loop (done : List Token → Bool) (step : σ → Reader σ) (s : σ) (ts : List Token) :
    Except Refusal (σ × List Token) :=
  if done ts then .ok (s, ts)
  else
    match step s ts with
    | .error e => .error e
    | .ok (s', rest) => if rest.length < ts.length then loop done step s' rest else .ok (s', rest)
  termination_by ts.length

/-- Repeat a step on a state until `done` holds of the tokens left. -/
def repeated (done : List Token → Bool) (step : σ → Reader σ) (s : σ) : Reader σ :=
  loop done step s

/-- Read items behind those read before, until `done` holds of the tokens left. -/
def items (done : List Token → Bool) (item : Reader α) (xs : List α) : Reader (List α) :=
  repeated done (fun xs => return xs ++ [← item]) xs

/-- One item, and further ones for as long as the next token is `separator`. -/
def separated (separator : Token.Kind) (item : Reader α) : Reader (List α) := do
  let first ← item
  items (fun ts => !atKind separator ts) (do let _ ← take separator; item) [first]

theorem loop_of_done {done : List Token → Bool} {step : σ → Reader σ} {s : σ} {ts : List Token}
    (hd : done ts = true) : loop done step s ts = .ok (s, ts) := by
  rw [loop]
  simp [hd]

theorem loop_of_error {done : List Token → Bool} {step : σ → Reader σ} {s : σ} {ts : List Token}
    {e : Refusal} (hd : done ts = false) (hs : step s ts = .error e) :
    loop done step s ts = .error e := by
  rw [loop]
  simp [hd, hs]

theorem loop_of_shorter {done : List Token → Bool} {step : σ → Reader σ}
    {s s' : σ} {ts rest : List Token} (hd : done ts = false) (hs : step s ts = .ok (s', rest))
    (hlt : rest.length < ts.length) : loop done step s ts = loop done step s' rest := by
  rw [loop]
  simp [hd, hs, hlt]

/-! ### Whole sources -/

/-- Read from the front of a source of a file; the tokens that follow are given too. -/
def readFront (reader : Reader α) (source file : String) : Except Error (α × List Token) :=
  match Token.scan source with
  | .error (flaw, place) => .error (.malformed ⟨file, place, .lexical flaw⟩)
  | .ok (ts, last) =>
    match reader ts with
    | .ok (x, rest) => .ok (x, rest)
    | .error .longNumeral => .error .longNumeral
    | .error (.problem p got) =>
      let t := got.getD (Token.sourceEnd last)
      .error (.malformed ⟨file, t.place, .grammar p t⟩)

/-- Read a whole source of a file. -/
def read (reader : Reader α) (source file : String) : Except Error α :=
  (readFront reader source file).map (·.1)

end ChangeGate.Source
