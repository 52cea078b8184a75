/-! # Finding words in a text -/

namespace ChangeGate.Text

/-- What stands behind a word at the front of a text. -/
def behind? : List Char → List Char → Option (List Char)
  | [], cs => some cs
  | _ :: _, [] => none
  | w :: ws, c :: cs => if w = c then behind? ws cs else none

/-- What stands behind the first occurrence of a word. -/
def behindFirst? (word : List Char) : List Char → Option (List Char)
  | [] => behind? word []
  | c :: cs =>
    match behind? word (c :: cs) with
    | some rest => some rest
    | none => behindFirst? word cs

/-- The rests of a text behind each of its line feeds. -/
def behindLineFeeds : List Char → List (List Char)
  | [] => []
  | c :: cs => if c = '\n' then cs :: behindLineFeeds cs else behindLineFeeds cs

/-- The rests of a text from each of its lines on. -/
def lineStarts (cs : List Char) : List (List Char) := cs :: behindLineFeeds cs

theorem behind?_eq_some_iff {word cs rest : List Char} :
    behind? word cs = some rest ↔ cs = word ++ rest := by
  fun_induction behind? word cs with
  | case1 cs => simp [eq_comm]
  | case2 w ws => simp
  | case3 ws c cs ih => simp [ih]
  | case4 w ws c cs h => simp [Ne.symm h]

end ChangeGate.Text
