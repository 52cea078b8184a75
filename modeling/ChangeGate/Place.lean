/-! # Places in a source

A place is a line and a column, both counted from one.  Only a line feed starts a new line, and a
column counts characters. -/

namespace ChangeGate

/-- A line and a column of a source. -/
structure Place where
  line : Nat
  column : Nat
  deriving DecidableEq, Repr, Inhabited

namespace Place

/-- Where every source starts. -/
def start : Place := ⟨1, 1⟩

/-- The place behind one character. -/
def step (p : Place) (c : Char) : Place :=
  if c = '\n' then ⟨p.line + 1, 1⟩ else ⟨p.line, p.column + 1⟩

/-- The place behind a stretch of text. -/
def past (p : Place) (cs : List Char) : Place := cs.foldl step p

@[simp] theorem past_nil (p : Place) : p.past [] = p := rfl

@[simp] theorem past_cons (p : Place) (c : Char) (cs : List Char) :
    p.past (c :: cs) = (p.step c).past cs := rfl

theorem past_append (p : Place) (as bs : List Char) :
    p.past (as ++ bs) = (p.past as).past bs := List.foldl_append

end Place

end ChangeGate
