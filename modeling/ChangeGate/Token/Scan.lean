import ChangeGate.Text.Quoted
import ChangeGate.Token.Basic

/-! # Reading tokens from a source

`scan` cuts a source into tokens.  Blanks and comments separate tokens and leave none; a line end
leaves a token unless no token stands before it or the last token is a line end already.  `head`
says what stands at the head of a text, and `Head.rest_lt` that it is never empty. -/

namespace ChangeGate.Token

/-- What can be wrong with the characters of a source. -/
inductive Flaw
  | unexpected (c : Char)
  | unclosedText
  deriving DecidableEq, Repr

/-- The wording of a flaw. -/
def Flaw.message : Flaw → String
  | .unexpected c => "Unexpected character: " ++ String.ofList (Text.quoted [c])
  | .unclosedText => "Unterminated string literal"

/-! ### Lexemes -/

/-- Whether a character may start a name. -/
def startsName (c : Char) : Bool := c.isAlpha || c == '_'

/-- Whether a character may continue a name. -/
def continuesName (c : Char) : Bool := startsName c || c.isDigit

/-- Whether a character separates tokens and is skipped. -/
def isSpace (c : Char) : Bool := c == ' ' || c == '\t' || c == '\r'

/-- The marks of one character. -/
def mark? : Char → Option Kind
  | '{' => some .openBrace
  | '}' => some .closeBrace
  | '(' => some .openParen
  | ')' => some .closeParen
  | ',' => some .comma
  | ':' => some .colon
  | '.' => some .dot
  | '?' => some .question
  | _ => none

/-- The marks of two characters. -/
def pair? : Char → Char → Option Kind
  | '-', '>' => some .arrow
  | '=', '=' => some .equal
  | '!', '=' => some .unequal
  | '&', '&' => some .both
  | _, _ => none

/-- The inside of a text literal up to and with its closing quote, and what follows it.  A
backslash takes the next character along. -/
def textSpan : List Char → Option (List Char × List Char)
  | [] => none
  | '"' :: r => some (['"'], r)
  | ['\\'] => none
  | '\\' :: c :: r => (textSpan r).map fun (raw, rest) => ('\\' :: c :: raw, rest)
  | c :: r => (textSpan r).map fun (raw, rest) => (c :: raw, rest)

/-- The text that the inside of a literal stands for: every backslash makes way for the character
behind it, and the closing quote goes. -/
def unescape : List Char → List Char
  | '\\' :: c :: r => c :: unescape r
  | '"' :: _ => []
  | c :: r => c :: unescape r
  | [] => []

/-- A run of digits with an optional fraction, and what follows it. -/
def numeralSpan (cs : List Char) : List Char × List Char :=
  let whole := cs.takeWhile Char.isDigit
  match cs.dropWhile Char.isDigit with
  | '.' :: d :: r =>
    if d.isDigit then
      (whole ++ '.' :: d :: r.takeWhile Char.isDigit, r.dropWhile Char.isDigit)
    else (whole, '.' :: d :: r)
  | rest => (whole, rest)

/-! ### The head of a text -/

/-- What stands at the head of a text: what it is written as, and what follows it. -/
inductive Head
  | gap (raw rest : List Char)
  | lineEnd (rest : List Char)
  | token (kind : Kind) (text raw rest : List Char)
  | flaw (f : Flaw)

/-- The head of the text that starts with `c` and goes on with `r`. -/
def head (c : Char) (r : List Char) : Head :=
  if c = '\n' then .lineEnd r
  else if isSpace c then .gap [c] r
  else if c = '/' ∧ r.head? = some '/' then
    .gap (c :: r.takeWhile (· != '\n')) (r.dropWhile (· != '\n'))
  else
    match r.head?.bind (pair? c) with
    | some kind => .token kind (c :: r.take 1) (c :: r.take 1) (r.drop 1)
    | none =>
      match mark? c with
      | some kind => .token kind [c] [c] r
      | none =>
        if c = '"' then
          match textSpan r with
          | some (raw, rest) => .token .text (unescape raw) (c :: raw) rest
          | none => .flaw .unclosedText
        else if c.isDigit then
          let (raw, rest) := numeralSpan (c :: r)
          .token .number raw raw rest
        else if startsName c then
          let raw := c :: r.takeWhile continuesName
          let kind := if keywords.contains (String.ofList raw) then .keyword else .name
          .token kind raw raw (r.dropWhile continuesName)
        else .flaw (.unexpected c)

/-- What follows the head of a text; nothing follows a flaw. -/
def Head.rest : Head → List Char
  | .gap _ rest | .lineEnd rest | .token _ _ _ rest => rest
  | .flaw _ => []

theorem dropWhile_length_le (p : Char → Bool) (cs : List Char) :
    (cs.dropWhile p).length ≤ cs.length :=
  (List.dropWhile_sublist p).length_le

theorem textSpan_rest_le {cs raw rest : List Char} (h : textSpan cs = some (raw, rest)) :
    rest.length ≤ cs.length := by
  fun_induction textSpan cs generalizing raw rest with
  | case1 => cases h
  | case2 r => cases h; simp
  | case3 => cases h
  | case4 c r ih =>
    obtain ⟨⟨raw', rest'⟩, h', h''⟩ := Option.map_eq_some_iff.1 h
    cases h''
    have := ih h'
    simp only [List.length_cons]
    omega
  | case5 c r _ _ _ ih =>
    obtain ⟨⟨raw', rest'⟩, h', h''⟩ := Option.map_eq_some_iff.1 h
    cases h''
    have := ih h'
    simp only [List.length_cons]
    omega

theorem numeralSpan_rest_le (cs : List Char) :
    (numeralSpan cs).2.length ≤ (cs.dropWhile Char.isDigit).length := by
  unfold numeralSpan
  split
  · rename_i d r heq
    rw [heq]
    split
    · have := dropWhile_length_le Char.isDigit r
      simp only [List.length_cons]
      omega
    · exact Nat.le_refl _
  · exact Nat.le_refl _

/-- Every head takes at least one character. -/
theorem Head.rest_lt (c : Char) (r : List Char) : (head c r).rest.length < r.length + 1 := by
  unfold head
  split
  · exact Nat.lt_succ_self _
  split
  · exact Nat.lt_succ_self _
  split
  · exact Nat.lt_succ_of_le (dropWhile_length_le _ _)
  split
  · simp only [Head.rest, List.length_drop]
    omega
  split
  · exact Nat.lt_succ_self _
  split
  · split
    · rename_i h
      exact Nat.lt_succ_of_le (textSpan_rest_le h)
    · exact Nat.zero_lt_succ _
  split
  · rename_i hd
    have h1 := numeralSpan_rest_le (c :: r)
    have h2 := dropWhile_length_le Char.isDigit r
    rw [List.dropWhile_cons_of_pos hd] at h1
    simp only [Head.rest]
    omega
  split
  · exact Nat.lt_succ_of_le (dropWhile_length_le _ _)
  · exact Nat.zero_lt_succ _

/-! ### The whole source -/

/-- The tokens of `cs`, whose first character stands at `p`, with the place of its end.  `breaks`
says whether a line end leaves a token here. -/
def scanFrom (p : Place) (breaks : Bool) :
    (cs : List Char) → Except (Flaw × Place) (List Token × Place)
  | [] => .ok ([], p)
  | c :: r =>
    match h : head c r with
    | .gap raw rest =>
      have : rest.length < r.length + 1 := by have := Head.rest_lt c r; rw [h] at this; exact this
      scanFrom (p.past raw) breaks rest
    | .lineEnd rest =>
      have : rest.length < r.length + 1 := by have := Head.rest_lt c r; rw [h] at this; exact this
      match scanFrom (p.step '\n') false rest with
      | .ok (ts, q) => .ok (if breaks then ⟨.lineEnd, "\n", p⟩ :: ts else ts, q)
      | .error e => .error e
    | .token kind text raw rest =>
      have : rest.length < r.length + 1 := by have := Head.rest_lt c r; rw [h] at this; exact this
      match scanFrom (p.past raw) true rest with
      | .ok (ts, q) => .ok (⟨kind, String.ofList text, p⟩ :: ts, q)
      | .error e => .error e
    | .flaw f => .error (f, p)
  termination_by cs => cs.length

/-- The tokens of a source before its end, and the place of its end. -/
def scan (source : String) : Except (Flaw × Place) (List Token × Place) :=
  scanFrom Place.start false source.toList

/-- All tokens of a source, the source end included. -/
def all (source : String) : Except (Flaw × Place) (List Token) :=
  (scan source).map fun (ts, p) => ts ++ [sourceEnd p]

end ChangeGate.Token
