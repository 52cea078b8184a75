import ChangeGate.Json.Writer
import ChangeGate.Proofs.Text.Ascii

/-! # The texts of a JSON value

What is written of a JSON value has bytes exactly if all its texts have: everything else in it is
ASCII, and a character is written as itself or as an escape of ASCII (`hasHalf_pretty`). -/

namespace ChangeGate.Json

open Text (half? half?_of_isAscii hasHalf hasHalf_append hasHalf_cons hasHalf_cons_of_isAscii
  hasHalf_of_isAscii)

/-! ### Texts -/

mutual

/-- The texts of a value, names of members among them. -/
def texts : Json → List String
  | .null | .bool _ | .number _ => []
  | .text s => [s]
  | .list items => itemTexts items
  | .object members => memberTexts members

/-- The texts of items. -/
def itemTexts : List Json → List String
  | [] => []
  | j :: js => j.texts ++ itemTexts js

/-- The texts of members. -/
def memberTexts : List (String × Json) → List String
  | [] => []
  | (name, j) :: members => name :: (j.texts ++ memberTexts members)

end

variable {α : Type}

theorem itemTexts_map (f : α → Json) (xs : List α) :
    itemTexts (xs.map f) = xs.flatMap fun x => (f x).texts := by
  induction xs with
  | nil => rfl
  | cons x xs ih => rw [List.map_cons, itemTexts, ih, List.flatMap_cons]

theorem memberTexts_nil : memberTexts [] = [] := rfl

theorem memberTexts_append (ms ms' : List (String × Json)) :
    memberTexts (ms ++ ms') = memberTexts ms ++ memberTexts ms' := by
  induction ms with
  | nil => rfl
  | cons m ms ih => rw [List.cons_append, memberTexts, memberTexts, ih, List.cons_append,
      List.append_assoc]

/-- What a member says besides its name. -/
theorem any_memberTexts_cons {p : String → Bool} {name : String} (h : p name = false) (j : Json)
    (ms : List (String × Json)) :
    (memberTexts ((name, j) :: ms)).any p = (j.texts.any p || (memberTexts ms).any p) := by
  rw [memberTexts, List.any_cons, h, Bool.false_or, List.any_append]

theorem any_memberTexts_toList {p : String → Bool} {name : String} (h : p name = false)
    (f : α → Json) (x : Option α) :
    (memberTexts (x.toList.map fun y => (name, f y))).any p =
      x.toList.any fun y => (f y).texts.any p := by
  cases x with
  | none => rfl
  | some y => exact any_memberTexts_cons h (f y) []

theorem texts_textOrNull (s : Option String) : (textOrNull s).texts = s.toList := by
  cases s <;> rfl

/-! ### Quoted texts -/

theorem hasHalf_hexQuad (n : Nat) : hasHalf (hexQuad n) = false := by
  refine hasHalf_of_isAscii ?_
  have hdigits : ∀ n < 16, Text.isAscii (Nat.digitChar n) = true := by decide
  have hdigit (k : Nat) : Text.isAscii (Nat.digitChar (k % 16)) = true :=
    hdigits _ (Nat.mod_lt k (by omega))
  simp [hexQuad, hdigit]

/-- A character is written as itself or as an escape of ASCII. -/
theorem hasHalf_escapedChar (c : Char) : hasHalf (escapedChar c) = (half? c).isSome := by
  have hplain (c d : Char) (hc : Text.isAscii c = true) (hd : Text.isAscii d = true) :
      hasHalf ['\\', d] = (half? c).isSome := by
    rw [half?_of_isAscii hc, hasHalf_cons_of_isAscii (by decide), hasHalf_cons_of_isAscii hd]
    rfl
  unfold escapedChar
  split
  case h_8 =>
    split
    · have hc : half? c = none := Text.half?_of_lt (by simp only [Text.halfOffset]; omega)
      rw [hc, hasHalf_cons_of_isAscii (by decide), hasHalf_cons_of_isAscii (by decide),
        hasHalf_hexQuad]
      rfl
    · rw [hasHalf_cons]
      exact Bool.or_false _
  all_goals exact hplain _ _ (by decide) (by decide)

theorem hasHalf_quotedText (s : String) :
    hasHalf (quotedText escapedChar s) = hasHalf s.toList := by
  have hchars : hasHalf (s.toList.flatMap escapedChar) = hasHalf s.toList := by
    rw [hasHalf, List.any_flatMap, hasHalf]
    exact congrArg s.toList.any (funext hasHalf_escapedChar)
  have hquote : hasHalf ['"'] = false := hasHalf_of_isAscii (by decide)
  rw [quotedText, List.cons_append, hasHalf_cons_of_isAscii (by decide), hasHalf_append, hchars,
    hquote, Bool.or_false]

/-! ### Numbers -/

theorem hasHalf_exactDecimal (x : Binary64) : hasHalf (exactDecimal x) = false := by
  have hsign : hasHalf (if x.isNegative then ['-'] else []) = false := by
    split
    · exact hasHalf_of_isAscii (by decide)
    · rfl
  have hdigits (n : Nat) : hasHalf (Nat.toDigits 10 n) = false :=
    hasHalf_of_isAscii (Text.all_isAscii_toDigits n)
  have hzeros (n : Nat) : hasHalf (List.replicate n '0') = false := by
    refine hasHalf_of_isAscii ?_
    rw [List.all_replicate]
    split <;> decide
  unfold exactDecimal
  dsimp only
  split
  · have hpoint : hasHalf ['.', '0'] = false := hasHalf_of_isAscii (by decide)
    simp only [hasHalf_append, hsign, hdigits, hpoint, Bool.or_self]
  · simp only [hasHalf_append, hasHalf_cons_of_isAscii (show Text.isAscii '.' = true by decide),
      hsign, hdigits, hzeros, Bool.or_self]

theorem hasHalf_numeral (n : Number) : hasHalf (numeral n) = false := by
  cases n with
  | whole n => exact hasHalf_of_isAscii (Text.all_isAscii_toString n)
  | fraction x =>
      unfold numeral
      dsimp only
      split
      · exact hasHalf_exactDecimal x
      · refine hasHalf_of_isAscii ?_
        split
        · decide
        · split <;> decide

/-! ### Values -/

theorem hasHalf_newLine (level : Nat) : hasHalf (newLine level) = false := by
  refine hasHalf_of_isAscii ?_
  rw [newLine, List.all_cons, List.all_replicate]
  split <;> decide

mutual

theorem hasHalf_prettyAt (level : Nat) :
    (j : Json) → hasHalf (prettyAt level j) = j.texts.any (hasHalf ·.toList)
  | .null => by
      rw [prettyAt, hasHalf_of_isAscii (by decide)]
      rfl
  | .bool b => by
      rw [prettyAt, hasHalf_of_isAscii (by cases b <;> decide)]
      rfl
  | .number n => hasHalf_numeral n
  | .text s => by
      rw [prettyAt, hasHalf_quotedText, texts, List.any_cons, List.any_nil, Bool.or_false]
  | .list [] => by
      rw [prettyAt, hasHalf_of_isAscii (by decide)]
      rfl
  | .list (j :: js) => by
      have hbrackets : hasHalf [']'] = false := hasHalf_of_isAscii (by decide)
      rw [texts, itemTexts, List.any_append, ← hasHalf_prettyAt (level + 1) j,
        ← hasHalf_prettyItems (level + 1) js, prettyAt]
      simp (disch := decide) only [List.cons_append, List.append_assoc, hasHalf_append,
        hasHalf_cons_of_isAscii, hasHalf_newLine, hbrackets, Bool.false_or, Bool.or_false]
  | .object [] => by
      rw [prettyAt, hasHalf_of_isAscii (by decide)]
      rfl
  | .object ((name, j) :: members) => by
      have hbraces : hasHalf ['\x7d'] = false := hasHalf_of_isAscii (by decide)
      rw [texts, memberTexts, List.any_cons, List.any_append, ← hasHalf_prettyAt (level + 1) j,
        ← hasHalf_prettyMembers (level + 1) members, prettyAt]
      simp (disch := decide) only [List.cons_append, List.nil_append, List.append_assoc,
        hasHalf_append, hasHalf_cons_of_isAscii, hasHalf_newLine, hasHalf_quotedText, hbraces,
        Bool.false_or, Bool.or_false]

theorem hasHalf_prettyItems (level : Nat) :
    (js : List Json) → hasHalf (prettyItems level js) = (itemTexts js).any (hasHalf ·.toList)
  | [] => rfl
  | j :: js => by
      rw [itemTexts, List.any_append, ← hasHalf_prettyAt level j, ← hasHalf_prettyItems level js,
        prettyItems]
      simp (disch := decide) only [List.cons_append, List.append_assoc, hasHalf_append,
        hasHalf_cons_of_isAscii, hasHalf_newLine, Bool.false_or]

theorem hasHalf_prettyMembers (level : Nat) :
    (members : List (String × Json)) →
      hasHalf (prettyMembers level members) = (memberTexts members).any (hasHalf ·.toList)
  | [] => rfl
  | (name, j) :: members => by
      rw [memberTexts, List.any_cons, List.any_append, ← hasHalf_prettyAt level j,
        ← hasHalf_prettyMembers level members, prettyMembers]
      simp (disch := decide) only [List.cons_append, List.nil_append, List.append_assoc,
        hasHalf_append, hasHalf_cons_of_isAscii, hasHalf_newLine, hasHalf_quotedText,
        Bool.false_or]

end

/-- **What is written of a value has bytes exactly if its texts have.** -/
theorem hasHalf_pretty (j : Json) : hasHalf j.pretty.toList = j.texts.any (hasHalf ·.toList) := by
  rw [pretty, String.toList_ofList, hasHalf_prettyAt]

end ChangeGate.Json
