import ChangeGate.Json.Reader
import ChangeGate.Json.Writer
import ChangeGate.Number.Basic
import ChangeGate.Proofs.Text.Runs

/-! # The grammar of JSON

`Reads` says that a text starts with a value, or with what stands behind the first item of a list or
the first member of an object, and what follows.  A document is a value between blanks.  The grammar
sets no limits: numerals may be of any length and values may lie in each other as deep as they like.

`IsDocument.unique`: a text is a document of one value at most.  `isDocument_pretty`: what is written
of a value over several lines is a document of it, if all its numbers are whole. -/

namespace ChangeGate.Json

/-- A text without the blanks in front. -/
def skip (cs : List Char) : List Char := cs.dropWhile isSpace

/-- What stands behind a character that comes next. -/
def behindNext? (c : Char) (cs : List Char) : Option (List Char) := Text.behind? [c] (skip cs)

/-- The name of a member and what stands behind its colon. -/
def label? (cs : List Char) : Option (String × List Char) := do
  let r ← behindNext? '"' cs
  let (name, mid) ← textFrom none r
  let rest ← behindNext? ':' mid
  return (.ofList name, rest)

mutual

/-- The numbers in a value. -/
def numbers : Json → List Number
  | .null | .bool _ | .text _ => []
  | .number n => [n]
  | .list items => itemNumbers items
  | .object members => memberNumbers members

/-- The numbers in items. -/
def itemNumbers : List Json → List Number
  | [] => []
  | j :: js => j.numbers ++ itemNumbers js

/-- The numbers in members. -/
def memberNumbers : List (String × Json) → List Number
  | [] => []
  | (_, j) :: members => j.numbers ++ memberNumbers members

end

namespace Grammar

/-- What a text can start with. -/
inductive Part
  | value (j : Json)
  | items (js : List Json)
  | members (ms : List (String × Json))

/-- A text starts with a part, and what follows. -/
inductive Reads : List Char → Part → List Char → Prop
  | nullWord {rest : List Char} : Reads ('n' :: 'u' :: 'l' :: 'l' :: rest) (.value .null) rest
  | trueWord {rest : List Char} : Reads ('t' :: 'r' :: 'u' :: 'e' :: rest) (.value (.bool true)) rest
  | falseWord {rest : List Char} :
      Reads ('f' :: 'a' :: 'l' :: 's' :: 'e' :: rest) (.value (.bool false)) rest
  | number {c : Char} {r rest : List Char} {n : Number} (hc : c.isDigit = true)
      (h : numberAt false (c :: r) = (n, rest)) : Reads (c :: r) (.value (.number n)) rest
  | negative {c : Char} {r rest : List Char} {n : Number} (hc : c.isDigit = true)
      (h : numberAt true (c :: r) = (n, rest)) : Reads ('-' :: c :: r) (.value (.number n)) rest
  | text {cs s rest : List Char} (h : textFrom none cs = some (s, rest)) :
      Reads ('"' :: cs) (.value (.text (.ofList s))) rest
  | emptyList {cs rest : List Char} (h : skip cs = ']' :: rest) :
      Reads ('[' :: cs) (.value (.list [])) rest
  | list {cs mid rest : List Char} {j : Json} {js : List Json}
      (h : Reads (skip cs) (.value j) mid) (h' : Reads (skip mid) (.items js) rest) :
      Reads ('[' :: cs) (.value (.list (j :: js))) rest
  | emptyObject {cs rest : List Char} (h : skip cs = '\x7d' :: rest) :
      Reads ('\x7b' :: cs) (.value (.object [])) rest
  | object {cs behind mid rest : List Char} {name : String} {j : Json} {ms : List (String × Json)}
      (hname : label? cs = some (name, behind)) (h : Reads (skip behind) (.value j) mid)
      (h' : Reads (skip mid) (.members ms) rest) :
      Reads ('\x7b' :: cs) (.value (.object ((name, j) :: ms))) rest
  | closeList {rest : List Char} : Reads (']' :: rest) (.items []) rest
  | item {cs mid rest : List Char} {j : Json} {js : List Json}
      (h : Reads (skip cs) (.value j) mid) (h' : Reads (skip mid) (.items js) rest) :
      Reads (',' :: cs) (.items (j :: js)) rest
  | closeObject {rest : List Char} : Reads ('\x7d' :: rest) (.members []) rest
  | member {cs behind mid rest : List Char} {name : String} {j : Json} {ms : List (String × Json)}
      (hname : label? cs = some (name, behind)) (h : Reads (skip behind) (.value j) mid)
      (h' : Reads (skip mid) (.members ms) rest) :
      Reads (',' :: cs) (.members ((name, j) :: ms)) rest

/-- A text is a document of a value. -/
def IsDocument (cs : List Char) (j : Json) : Prop :=
  ∃ rest, Reads (skip cs) (.value j) rest ∧ skip rest = []

/-! ### One value at most -/

/-- Parts that stand in the same places. -/
def Part.Alike : Part → Part → Prop
  | .value _, .value _ | .items _, .items _ | .members _, .members _ => True
  | _, _ => False

variable {cs rest rest' : List Char} {x y : Part}

/-- No value starts with the bracket that closes a list. -/
theorem not_reads_closeList {j : Json} {mid : List Char} : ¬ Reads (']' :: rest) (.value j) mid := by
  intro h
  cases h with
  | number hc => exact absurd hc (by decide)

theorem label?_of_closeObject (h : skip cs = '\x7d' :: rest) : label? cs = none := by
  have hquote : behindNext? '"' cs = none := by
    rw [behindNext?, h]
    rfl
  rw [label?, hquote]
  rfl

/-- The only part of its sort that is read at the front of a text. -/
def IsOnly (cs : List Char) (x : Part) (rest : List Char) : Prop :=
  ∀ {y : Part} {rest' : List Char}, Reads cs y rest' → x.Alike y → x = y ∧ rest = rest'

section Only

variable {mid mid' : List Char} {j j' : Json}

/-- A value and the items behind it. -/
theorem IsOnly.items {js js' : List Json} (h : IsOnly cs (.value j) mid)
    (h' : IsOnly (skip mid) (.items js) rest) (hj : Reads cs (.value j') mid')
    (hjs : Reads (skip mid') (.items js') rest') : j :: js = j' :: js' ∧ rest = rest' := by
  obtain ⟨hvalue, rfl⟩ := h hj trivial
  obtain ⟨hitems, hrest⟩ := h' hjs trivial
  exact ⟨congrArg₂ _ (Part.value.inj hvalue) (Part.items.inj hitems), hrest⟩

/-- A name, its value and the members behind them. -/
theorem IsOnly.members {name name' : String} {behind behind' : List Char}
    {ms ms' : List (String × Json)} (hname : label? cs = some (name, behind))
    (h : IsOnly (skip behind) (.value j) mid) (h' : IsOnly (skip mid) (.members ms) rest)
    (hname' : label? cs = some (name', behind')) (hj : Reads (skip behind') (.value j') mid')
    (hms : Reads (skip mid') (.members ms') rest') :
    (name, j) :: ms = (name', j') :: ms' ∧ rest = rest' := by
  rw [hname] at hname'
  cases hname'
  obtain ⟨hvalue, rfl⟩ := h hj trivial
  obtain ⟨hmembers, hrest⟩ := h' hms trivial
  exact ⟨congrArg₂ _ (congrArg _ (Part.value.inj hvalue)) (Part.members.inj hmembers), hrest⟩

end Only

/-- What is read at the front of a text is the only part of its sort. -/
theorem Reads.isOnly (h : Reads cs x rest) : IsOnly cs x rest := by
  intro y rest' h' halike
  induction h generalizing y rest' with
  | nullWord | trueWord | falseWord | closeList | closeObject =>
      cases h' with
      | number hc => exact absurd hc (by decide)
      | _ => exact ⟨rfl, rfl⟩
  | number hc h =>
      cases h' with
      | number _ h' =>
          rw [h] at h'
          cases h'
          exact ⟨rfl, rfl⟩
      | _ => exact absurd hc (by decide)
  | negative _ h =>
      cases h' with
      | number hc => exact absurd hc (by decide)
      | negative _ h' =>
          rw [h] at h'
          cases h'
          exact ⟨rfl, rfl⟩
  | text h =>
      cases h' with
      | number hc => exact absurd hc (by decide)
      | text h' =>
          rw [h] at h'
          cases h'
          exact ⟨rfl, rfl⟩
  | emptyList h =>
      cases h' with
      | number hc => exact absurd hc (by decide)
      | emptyList h' =>
          rw [h] at h'
          cases h'
          exact ⟨rfl, rfl⟩
      | list h' => exact absurd (h ▸ h') not_reads_closeList
  | emptyObject h =>
      cases h' with
      | number hc => exact absurd hc (by decide)
      | emptyObject h' =>
          rw [h] at h'
          cases h'
          exact ⟨rfl, rfl⟩
      | object hname =>
          rw [label?_of_closeObject h] at hname
          cases hname
  | list h _ ih ih' =>
      cases h' with
      | number hc => exact absurd hc (by decide)
      | emptyList h' => exact absurd (h' ▸ h) not_reads_closeList
      | list h' h'' =>
          obtain ⟨hitems, hrest⟩ := IsOnly.items ih ih' h' h''
          exact ⟨by rw [hitems], hrest⟩
  | item _ _ ih ih' =>
      cases h' with
      | number hc => exact absurd hc (by decide)
      | item h' h'' =>
          obtain ⟨hitems, hrest⟩ := IsOnly.items ih ih' h' h''
          exact ⟨by rw [hitems], hrest⟩
      | member => cases halike
  | object hname _ _ ih ih' =>
      cases h' with
      | number hc => exact absurd hc (by decide)
      | emptyObject h' =>
          rw [label?_of_closeObject h'] at hname
          cases hname
      | object hname' h' h'' =>
          obtain ⟨hmembers, hrest⟩ := IsOnly.members hname ih ih' hname' h' h''
          exact ⟨by rw [hmembers], hrest⟩
  | member hname _ _ ih ih' =>
      cases h' with
      | number hc => exact absurd hc (by decide)
      | item => cases halike
      | member hname' h' h'' =>
          obtain ⟨hmembers, hrest⟩ := IsOnly.members hname ih ih' hname' h' h''
          exact ⟨by rw [hmembers], hrest⟩

/-- **A text is a document of one value at most.** -/
theorem IsDocument.unique {j j' : Json} (h : IsDocument cs j) (h' : IsDocument cs j') : j = j' := by
  obtain ⟨_, h, -⟩ := h
  obtain ⟨_, h', -⟩ := h'
  exact Part.value.inj (h.isOnly h' trivial).1

/-! ### Numerals -/

/-- A text that does not go on with what a numeral could go on with. -/
def EndsNumeral (cs : List Char) : Prop :=
  ∀ c ∈ cs.head?, c.isDigit = false ∧ c ≠ '.' ∧ c ≠ 'e' ∧ c ≠ 'E'

theorem head?_toDigits_append (n : Nat) (cs : List Char) :
    (Nat.toDigits 10 n ++ cs).head? = (Nat.toDigits 10 n).head? := by
  obtain ⟨d, ds, hdigits⟩ := List.exists_cons_of_ne_nil (Nat.toDigits_ne_nil : Nat.toDigits 10 n ≠ [])
  rw [hdigits]
  rfl

theorem head?_toDigits_ne {n : Nat} (h : 0 < n) : (Nat.toDigits 10 n).head? ≠ some '0' := by
  induction n using Nat.strongRecOn with
  | ind n ih =>
    by_cases hn : n < 10
    · rw [Nat.toDigits_of_lt_base hn]
      have hdigits : ∀ n < 10, 0 < n → [Nat.digitChar n].head? ≠ some '0' := by decide
      exact hdigits n hn h
    · have hne := ih (n / 10) (by omega) (by omega)
      rw [Nat.toDigits_of_base_le (by decide) (by omega)]
      rwa [head?_toDigits_append]

theorem takeWhile_toDigits (n : Nat) (hrest : EndsNumeral rest) :
    (Nat.toDigits 10 n ++ rest).takeWhile Char.isDigit = Nat.toDigits 10 n := by
  refine Text.takeWhile_run (fun c hc => ?_) fun c hc => (hrest c hc).1
  exact Nat.isDigit_of_mem_toDigits (by decide) (by decide) hc

theorem wholeSpan_toDigits (n : Nat) (hrest : EndsNumeral rest) :
    wholeSpan (Nat.toDigits 10 n ++ rest) = Nat.toDigits 10 n := by
  rcases Nat.eq_zero_or_pos n with rfl | hpos
  · rfl
  · unfold wholeSpan
    split
    · rename_i heq
      refine absurd ?_ (head?_toDigits_ne hpos)
      rw [← head?_toDigits_append, heq]
      rfl
    · exact takeWhile_toDigits n hrest

theorem numberAt_toDigits (negative : Bool) (n : Nat) (hrest : EndsNumeral rest) :
    numberAt negative (Nat.toDigits 10 n ++ rest) =
      (.whole (if negative then -(n : Int) else n), rest) := by
  have hvalue : digitsValue (Nat.toDigits 10 n) = n := Nat.ofDigitChars_ten_toDigits
  have hfraction : fractionSpan rest = ([], rest) := by
    unfold fractionSpan
    split
    · exact absurd rfl (hrest '.' rfl).2.1
    · rfl
  have hexponent : exponentSpan rest = none := by
    cases rest with
    | nil => rfl
    | cons c r =>
        obtain ⟨-, -, he, hE⟩ := hrest c rfl
        simp [exponentSpan, he, hE]
  rw [numberAt, wholeSpan_toDigits n hrest, List.drop_left, hfraction]
  dsimp only
  rw [hexponent, hvalue]
  rfl

/-! ### Quoted texts -/

theorem textFrom_escape {e c : Char} (he : e ≠ 'u') (h : simpleEscape? e = some c)
    (r : List Char) :
    textFrom none ('\\' :: e :: r) = (textFrom none r).map fun (s, rest) => (c :: s, rest) := by
  rw [textFrom]
  · rw [h]
    cases textFrom none r <;> rfl
  · rintro a b c d r rfl
    exact absurd rfl he

theorem textFrom_control {n : Nat} (hn : n < 0x20) (r : List Char) :
    textFrom none ('\\' :: 'u' :: (hexQuad n ++ r)) =
      (textFrom none r).map fun (s, rest) => (Char.ofNat n :: s, rest) := by
  have hquad : ∀ n < 0x20, quad? (Nat.digitChar (n / 0x1000 % 16)) (Nat.digitChar (n / 0x100 % 16))
      (Nat.digitChar (n / 0x10 % 16)) (Nat.digitChar (n % 16)) = some n := by decide
  have hunit : Text.unitChar n = Char.ofNat n := by
    have hhalf : Text.isHalf n = false := by
      simp [Text.isHalf]
      omega
    simp [Text.unitChar, hhalf]
  have hhigh : ¬ (0xD800 ≤ n ∧ n < 0xDC00) := by omega
  show textFrom none ('\\' :: 'u' :: Nat.digitChar (n / 0x1000 % 16) ::
    Nat.digitChar (n / 0x100 % 16) :: Nat.digitChar (n / 0x10 % 16) :: Nat.digitChar (n % 16) :: r) = _
  rw [textFrom, hquad n hn]
  dsimp only [Option.bind_eq_bind, Option.bind_some]
  rw [if_neg hhigh, hunit]
  cases textFrom none r <;> rfl

theorem textFrom_plain {c : Char} (hquote : c ≠ '"') (hslash : c ≠ '\\') (hc : ¬ c.toNat < 0x20)
    (r : List Char) :
    textFrom none (c :: r) = (textFrom none r).map fun (s, rest) => (c :: s, rest) := by
  rw [textFrom]
  · simp [hc, hslash]
    cases textFrom none r <;> rfl
  · simp [hslash]
  · simp [hslash]
  · exact fun h => hquote h

theorem textFrom_escapedChar (c : Char) (r : List Char) :
    textFrom none (escapedChar c ++ r) = (textFrom none r).map fun (s, rest) => (c :: s, rest) := by
  unfold escapedChar
  split
  case h_8 c hquote hslash _ _ _ _ _ =>
    split
    · rename_i hc
      rw [List.cons_append, List.cons_append, textFrom_control hc, Char.ofNat_toNat]
    · rename_i hc
      exact textFrom_plain hquote hslash hc r
  all_goals exact textFrom_escape (by decide) rfl r

/-- A quoted text is read as the text that it was. -/
theorem textFrom_flatMap (cs rest : List Char) :
    textFrom none (cs.flatMap escapedChar ++ '"' :: rest) = some (cs, rest) := by
  induction cs with
  | nil =>
      rw [List.flatMap_nil, List.nil_append, textFrom]
      rfl
  | cons c cs ih =>
      rw [List.flatMap_cons, List.append_assoc, textFrom_escapedChar, ih]
      rfl

/-! ### Values over several lines -/

theorem skip_newLine (level : Nat) (cs : List Char) : skip (newLine level ++ cs) = skip cs := by
  refine List.dropWhile_append_of_pos fun c hc => ?_
  rcases List.mem_cons.mp hc with rfl | hc
  · rfl
  · rw [List.eq_of_mem_replicate hc]
    rfl

theorem skip_of_head {c : Char} (hc : isSpace c = false) (r : List Char) : skip (c :: r) = c :: r := by
  rw [skip, List.dropWhile_cons_of_neg (by simpa using hc)]

/-- No part starts with a blank. -/
theorem Reads.skip_eq (h : Reads cs x rest) : skip cs = cs := by
  have hdigit {c : Char} (hc : c.isDigit = true) : isSpace c = false := by
    cases hspace : isSpace c with
    | false => rfl
    | true =>
        have hblank : ((c = ' ' ∨ c = '\t') ∨ c = '\n') ∨ c = '\r' := by
          simpa [isSpace] using hspace
        rcases hblank with ((rfl | rfl) | rfl) | rfl <;> exact absurd hc (by decide)
  cases h with
  | number hc => exact skip_of_head (hdigit hc) _
  | _ => exact skip_of_head rfl _

theorem Reads.behind_newLine (h : Reads cs x rest) (level : Nat) :
    Reads (skip (newLine level ++ cs)) x rest := by
  rwa [skip_newLine, h.skip_eq]

theorem Reads.behind_blank (h : Reads cs x rest) : Reads (skip (' ' :: cs)) x rest := by
  have hblank : skip (' ' :: cs) = skip cs := rfl
  rwa [hblank, h.skip_eq]

theorem behindNext?_of_head {c : Char} (hc : isSpace c = false) (r : List Char) :
    behindNext? c (c :: r) = some r := by
  rw [behindNext?, skip_of_head hc, Text.behind?_eq_some_iff]
  rfl

theorem label?_quotedText (level : Nat) (name : String) (r : List Char) :
    label? (newLine level ++ (quotedText escapedChar name ++ ':' :: r)) = some (name, r) := by
  have hquoted : quotedText escapedChar name ++ ':' :: r =
      '"' :: (name.toList.flatMap escapedChar ++ '"' :: ':' :: r) := by
    simp [quotedText]
  have hquote : behindNext? '"' (newLine level ++ (quotedText escapedChar name ++ ':' :: r)) =
      some (name.toList.flatMap escapedChar ++ '"' :: ':' :: r) := by
    rw [behindNext?, skip_newLine, hquoted, ← behindNext?, behindNext?_of_head rfl]
  simp only [label?, hquote, textFrom_flatMap, behindNext?_of_head (show isSpace ':' = false by rfl),
    Option.bind_eq_bind, Option.bind_some, String.ofList_toList]
  rfl

theorem endsNumeral_of_head {c : Char} (hc : c = ',' ∨ c = '\n') (r : List Char) :
    EndsNumeral (c :: r) := by
  rintro d ⟨⟩
  rcases hc with rfl | rfl <;> decide

theorem endsNumeral_prettyItems (level level' : Nat) (js : List Json) (r : List Char) :
    EndsNumeral (prettyItems level js ++ (newLine level' ++ r)) := by
  cases js with
  | nil => exact endsNumeral_of_head (.inr rfl) _
  | cons j js => exact endsNumeral_of_head (.inl rfl) _

theorem endsNumeral_prettyMembers (level level' : Nat) (ms : List (String × Json)) (r : List Char) :
    EndsNumeral (prettyMembers level ms ++ (newLine level' ++ r)) := by
  cases ms with
  | nil => exact endsNumeral_of_head (.inr rfl) _
  | cons m ms => exact endsNumeral_of_head (.inl rfl) _

theorem reads_numeral (n : Int) (hrest : EndsNumeral rest) :
    Reads (numeral (.whole n) ++ rest) (.value (.number (.whole n))) rest := by
  have hdigits (k : Nat) : ∃ d ds, d.isDigit = true ∧ Nat.toDigits 10 k = d :: ds := by
    obtain ⟨d, ds, h⟩ := List.exists_cons_of_ne_nil (Nat.toDigits_ne_nil : Nat.toDigits 10 k ≠ [])
    exact ⟨d, ds, Nat.isDigit_of_mem_toDigits (by decide) (by decide) (h ▸ List.mem_cons_self), h⟩
  rw [numeral, Int.toString_eq_repr]
  cases n with
  | ofNat k =>
      obtain ⟨d, ds, hd, h⟩ := hdigits k
      have hnumber := numberAt_toDigits false k hrest
      rw [Int.repr, Nat.toList_repr, h, List.cons_append]
      rw [h, List.cons_append] at hnumber
      exact .number hd hnumber
  | negSucc k =>
      obtain ⟨d, ds, hd, h⟩ := hdigits (k + 1)
      have hnumber := numberAt_toDigits true (k + 1) hrest
      have hsign : "-".toList = ['-'] := by decide
      rw [Int.repr, String.toList_append, Nat.toList_repr, h, hsign, List.append_assoc,
        List.singleton_append, List.cons_append]
      rw [h, List.cons_append] at hnumber
      exact .negative hd hnumber

/-- Numbers that are whole. -/
abbrev AllWhole (ns : List Number) : Prop := ∀ n ∈ ns, ∃ k, n = .whole k

mutual

theorem reads_prettyAt (level : Nat) {rest : List Char} (hrest : EndsNumeral rest) :
    (j : Json) → AllWhole j.numbers → Reads (prettyAt level j ++ rest) (.value j) rest
  | .null, _ => .nullWord
  | .bool true, _ => .trueWord
  | .bool false, _ => .falseWord
  | .number n, h => by
      obtain ⟨k, rfl⟩ := h n (List.mem_singleton_self n)
      exact reads_numeral k hrest
  | .text s, _ => by
      have hquoted : quotedText escapedChar s ++ rest =
          '"' :: (s.toList.flatMap escapedChar ++ '"' :: rest) := by
        simp [quotedText]
      have htext := Reads.text (textFrom_flatMap s.toList rest)
      rwa [String.ofList_toList, ← hquoted] at htext
  | .list [], _ => .emptyList (skip_of_head rfl rest)
  | .list (j :: js), h => by
      rw [numbers, itemNumbers, AllWhole, List.forall_mem_append] at h
      have hvalue := reads_prettyAt (level + 1)
        (endsNumeral_prettyItems (level + 1) level js (']' :: rest)) j h.1
      have hlist := Reads.list (hvalue.behind_newLine (level + 1))
        (reads_prettyItems (level + 1) level rest js h.2)
      rw [prettyAt]
      simpa using hlist
  | .object [], _ => .emptyObject (skip_of_head rfl rest)
  | .object ((name, j) :: ms), h => by
      rw [numbers, memberNumbers, AllWhole, List.forall_mem_append] at h
      have hvalue := reads_prettyAt (level + 1)
        (endsNumeral_prettyMembers (level + 1) level ms ('\x7d' :: rest)) j h.1
      have hobject := Reads.object (label?_quotedText (level + 1) name _) hvalue.behind_blank
        (reads_prettyMembers (level + 1) level rest ms h.2)
      rw [prettyAt]
      simpa using hobject

theorem reads_prettyItems (level level' : Nat) (rest : List Char) :
    (js : List Json) → AllWhole (itemNumbers js) →
      Reads (skip (prettyItems level js ++ (newLine level' ++ ']' :: rest))) (.items js) rest
  | [], _ => Reads.closeList.behind_newLine level'
  | j :: js, h => by
      rw [itemNumbers, AllWhole, List.forall_mem_append] at h
      have hvalue := reads_prettyAt level
        (endsNumeral_prettyItems level level' js (']' :: rest)) j h.1
      have hitem := Reads.item (hvalue.behind_newLine level)
        (reads_prettyItems level level' rest js h.2)
      rw [prettyItems, List.cons_append, List.cons_append, List.cons_append, skip_of_head rfl]
      simpa using hitem

theorem reads_prettyMembers (level level' : Nat) (rest : List Char) :
    (ms : List (String × Json)) → AllWhole (memberNumbers ms) →
      Reads (skip (prettyMembers level ms ++ (newLine level' ++ '\x7d' :: rest))) (.members ms) rest
  | [], _ => Reads.closeObject.behind_newLine level'
  | (name, j) :: ms, h => by
      rw [memberNumbers, AllWhole, List.forall_mem_append] at h
      have hvalue := reads_prettyAt level
        (endsNumeral_prettyMembers level level' ms ('\x7d' :: rest)) j h.1
      have hmember := Reads.member (label?_quotedText level name _) hvalue.behind_blank
        (reads_prettyMembers level level' rest ms h.2)
      rw [prettyMembers, List.cons_append, List.cons_append, List.cons_append, List.cons_append,
        List.cons_append, skip_of_head rfl]
      simpa using hmember

end

/-- **What is written of a value is a document of it**, if all its numbers are whole. -/
theorem isDocument_pretty {j : Json} (h : AllWhole j.numbers) : IsDocument j.pretty.toList j := by
  have hnil : EndsNumeral [] := nofun
  have hreads := reads_prettyAt 0 hnil j h
  rw [List.append_nil] at hreads
  refine ⟨[], ?_, rfl⟩
  rwa [pretty, String.toList_ofList, hreads.skip_eq]

end Grammar

end ChangeGate.Json
