/-! # Markup

Reports are written in a markup in which a tag stands between brackets.  A bracket opens a tag
when a small letter or one of `#`, `/` and `@` follows and a closing bracket comes before the next
opening one; an odd number of backslashes in front of it makes it plain text.  `escape` writes a
text so that none of its brackets opens a tag, and `pieces` cuts markup into text and tags. -/

namespace ChangeGate.Markup

/-- Whether a character can follow the bracket of a tag. -/
def startsTag (c : Char) : Bool :=
  ('a' ≤ c && c ≤ 'z') || c == '#' || c == '/' || c == '@'

/-- The inside of a tag behind its opening bracket, and what follows its closing bracket. -/
def tag? (cs : List Char) : Option (List Char × List Char) :=
  if cs.head?.any startsTag then
    match cs.dropWhile fun c => c != '[' && c != ']' with
    | ']' :: rest => some (cs.takeWhile (fun c => c != '[' && c != ']'), rest)
    | _ => none
  else none

theorem tag?_rest_lt {cs body rest : List Char} (h : tag? cs = some (body, rest)) :
    rest.length < cs.length := by
  unfold tag? at h
  split at h
  · split at h
    · rename_i rest' hd
      cases h
      have := (List.dropWhile_sublist (l := cs) fun c => c != '[' && c != ']').length_le
      rw [hd] at this
      simp only [List.length_cons] at this
      omega
    · cases h
  · cases h

/-! ### Escaping -/

/-- Escape the text behind a run of backslashes. -/
def escapeFrom (slashes : Nat) (cs : List Char) : List Char :=
  match cs with
  | [] => List.replicate slashes '\\'
  | c :: r =>
    if c = '\\' then escapeFrom (slashes + 1) r
    else if c = '[' then
      match h : tag? r with
      | some (body, rest) =>
        have := tag?_rest_lt h
        List.replicate (2 * slashes + 1) '\\' ++ '[' :: body ++ ']' :: escapeFrom 0 rest
      | none => List.replicate slashes '\\' ++ '[' :: escapeFrom 0 r
    else List.replicate slashes '\\' ++ c :: escapeFrom 0 r
  termination_by cs.length

/-- Whether a text ends in exactly one backslash. -/
def endsInOneSlash (cs : List Char) : Bool :=
  match cs.reverse with
  | '\\' :: '\\' :: _ => false
  | '\\' :: _ => true
  | _ => false

/-- A text as markup: brackets that would open a tag get a backslash, the backslashes in front of
them are doubled, and so is a single one at the end. -/
def escapeChars (cs : List Char) : List Char :=
  let escaped := escapeFrom 0 cs
  if endsInOneSlash escaped then escaped ++ ['\\'] else escaped

/-- A text as markup. -/
def escape (s : String) : String := String.ofList (escapeChars s.toList)

/-! ### Reading markup -/

/-- What markup is made of. -/
inductive Piece
  | text (cs : List Char)
  | tag (cs : List Char)
  deriving DecidableEq, Repr

/-- A text as a piece, if there is any. -/
def textPiece (cs : List Char) : List Piece := if cs.isEmpty then [] else [.text cs]

/-- The pieces of markup; `seen` is the text read of the current piece in reverse, without the
run of backslashes that comes after it. -/
def piecesFrom (seen : List Char) (slashes : Nat) (cs : List Char) : List Piece :=
  match cs with
  | [] => textPiece (seen.reverse ++ List.replicate slashes '\\')
  | c :: r =>
    if c = '\\' then piecesFrom seen (slashes + 1) r
    else
      let plain := fun (_ : Unit) =>
        piecesFrom (c :: (List.replicate slashes '\\' ++ seen)) 0 r
      if c = '[' then
        match h : tag? r with
        | some (body, rest) =>
          have := tag?_rest_lt h
          textPiece seen.reverse ++ textPiece (List.replicate (slashes / 2) '\\') ++
            if slashes % 2 = 1 then .text ('[' :: body ++ [']']) :: piecesFrom [] 0 rest
            else .tag body :: piecesFrom [] 0 rest
        | none => plain ()
      else plain ()
  termination_by cs.length

/-- The pieces of markup in order. -/
def pieces (cs : List Char) : List Piece := piecesFrom [] 0 cs

end ChangeGate.Markup
