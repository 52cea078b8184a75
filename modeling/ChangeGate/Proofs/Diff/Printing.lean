import ChangeGate.Diff
import ChangeGate.Proofs.Text.Lines
import ChangeGate.Proofs.Text.Runs
import Mathlib.Data.Nat.Digits.Defs

/-! # Diffs as they are printed

A printed diff is a list of sections, one for each file: a header that names the file on its two
sides, and behind it hunk headers and lines of other kinds.  A side of a header is printed as it
is, or between quotes with escapes.

`headerPath?_isSome_iff` says which headers are recognized, and `hunkRanges?_text` and `hunk?_range`
that the numbers of a hunk header are read back. -/

namespace ChangeGate.Diff

/-! ### Numerals -/

/-- A number in decimal digits. -/
def numeral (n : Nat) : List Char := Nat.toDigits 10 n

theorem digitValue?_of_isDigit {c : Char} (h : c.isDigit = true) :
    Text.digitValue? c = some (c.toNat - '0'.toNat) := by
  have hc : 0x30 ≤ c.toNat ∧ c.toNat < 0x30 + 10 := by
    simp only [Char.isDigit, Bool.and_eq_true, decide_eq_true_eq, UInt32.le_iff_toNat_le] at h
    exact ⟨h.1, Nat.lt_succ_of_le h.2⟩
  rw [Text.digitValue?, Text.zeroDigits, List.find?_cons_of_pos (by simpa using hc)]
  rfl

theorem isDigit_of_mem_numeral {n : Nat} {c : Char} (h : c ∈ numeral n) :
    Text.isDigit c = true := by
  rw [Text.isDigit, digitValue?_of_isDigit (Nat.isDigit_of_mem_toDigits (by decide) (by decide) h)]
  rfl

theorem decimalValue_numeral (n : Nat) : Text.decimalValue (numeral n) = n := by
  have hfold : Text.decimalValue (numeral n) = Nat.ofDigitChars 10 (numeral n) 0 := by
    rw [Text.decimalValue, Nat.ofDigitChars]
    refine List.foldl_ext _ _ _ fun m c hc => ?_
    rw [digitValue?_of_isDigit (Nat.isDigit_of_mem_toDigits (by decide) (by decide) hc)]
    rfl
  rw [hfold]
  exact Nat.ofDigitChars_ten_toDigits

/-- A numeral is taken off the front of a text that goes on with no digit. -/
theorem digitRun?_numeral (n : Nat) {c : Char} (rest : List Char) (hc : Text.isDigit c = false) :
    digitRun? (numeral n ++ c :: rest) = some (numeral n, c :: rest) := by
  have hall : ∀ c ∈ numeral n, Text.isDigit c = true := fun c => isDigit_of_mem_numeral
  have hstop : ∀ d ∈ (c :: rest).head?, Text.isDigit d = false := by
    rintro d ⟨⟩
    exact hc
  rw [digitRun?, Text.takeWhile_run hall hstop, Text.dropWhile_run hall hstop]
  split
  · rename_i hnil
    exact absurd hnil Nat.toDigits_ne_nil
  · rfl

/-! ### Hunk headers -/

/-- The lines that a hunk replaces or puts there: where they start, and how many they are when that
is written. -/
structure Span where
  start : Nat
  count? : Option Nat := none
  deriving DecidableEq, Repr

namespace Span

/-- A span as it is printed. -/
def text (s : Span) : List Char :=
  numeral s.start ++ (s.count?.map fun n => ',' :: numeral n).getD []

/-- The numerals of a span. -/
def range (s : Span) : Range := ⟨numeral s.start, s.count?.map numeral⟩

/-- How many lines a span has; one, if that is not written. -/
def lines (s : Span) : Nat := s.count?.getD 1

/-- The numerals of a span are short enough to be read. -/
def Fits (s : Span) : Prop :=
  (numeral s.start).length ≤ Text.longestNumeral ∧
    (numeral s.lines).length ≤ Text.longestNumeral

instance (s : Span) : Decidable s.Fits := inferInstanceAs (Decidable (_ ∧ _))

theorem range?_text (s : Span) (rest : List Char) :
    range? (s.text ++ ' ' :: rest) = some (s.range, ' ' :: rest) := by
  have hrun (n : Nat) : digitRun? (numeral n ++ ' ' :: rest) = some (numeral n, ' ' :: rest) :=
    digitRun?_numeral n rest (by decide)
  obtain ⟨start, count?⟩ := s
  cases count? with
  | none => simp [range?, text, range, hrun]
  | some count =>
      have hcomma : Text.isDigit ',' = false := by decide
      have hstart := digitRun?_numeral start (numeral count ++ ' ' :: rest) hcomma
      simp [range?, text, range, hstart, hrun]

theorem getD_count?_range (s : Span) : s.range.count?.getD ['1'] = numeral s.lines := by
  obtain ⟨start, count?⟩ := s
  cases count? with
  | none =>
      show ['1'] = Nat.toDigits 10 1
      decide
  | some count => rfl

theorem numbers?_range {s : Span} (h : s.Fits) :
    s.range.numbers? = some ((s.start : Int), (s.lines : Int)) := by
  have hnumber {n : Nat} (hn : (numeral n).length ≤ Text.longestNumeral) :
      number? (numeral n) = some (n : Int) := by
    rw [number?, if_neg (Nat.not_lt.mpr hn), decimalValue_numeral]
  rw [Range.numbers?, getD_count?_range, range, hnumber h.1, hnumber h.2]
  rfl

end Span

/-! ### Lines behind a file header -/

/-- A line behind a file header: a hunk header, or another one. -/
inductive Line
  | hunk (old new : Span) (heading : List Char)
  | other (text : List Char)
  deriving DecidableEq, Repr

namespace Line

/-- A line as it is printed. -/
def text : Line → List Char
  | .hunk old new heading =>
    "@@ -".toList ++ (old.text ++ (" +".toList ++ (new.text ++ (" @@".toList ++ heading))))
  | .other text => text

/-- The hunk of a hunk header. -/
def hunk? : Line → Option Hunk
  | .hunk old new _ => some ⟨old.start, old.lines, new.start, new.lines⟩
  | .other _ => none

/-- The word that opens every file header. -/
def fileWord : List Char := "diff --git ".toList

/-- The word that opens every hunk header. -/
def hunkWord : List Char := "@@".toList

/-- Whether a line can stand behind a file header: another line opens like no header.  Lines of the
body, which begin with a blank, a sign or a backslash, and the lines that say more about the file
can. -/
def IsPrinted (l : Line) : Prop :=
  '\n' ∉ l.text ∧
    match l with
    | .hunk old new _ => old.Fits ∧ new.Fits
    | .other text => ¬ fileWord <+: text ∧ ¬ hunkWord <+: text

instance : (l : Line) → Decidable l.IsPrinted
  | .hunk old new _ => inferInstanceAs (Decidable (_ ∧ old.Fits ∧ new.Fits))
  | .other text => inferInstanceAs (Decidable (_ ∧ ¬ fileWord <+: text ∧ ¬ hunkWord <+: text))

end Line

theorem hunkRanges?_text (old new : Span) (heading : List Char) :
    hunkRanges? (Line.hunk old new heading).text = some (old.range, new.range) := by
  have hplus : " +".toList = ' ' :: ['+'] := by decide
  have hend : " @@".toList = ' ' :: ['@', '@'] := by decide
  have hold := old.range?_text (['+'] ++ (new.text ++ (" @@".toList ++ heading)))
  have hnew := new.range?_text (['@', '@'] ++ heading)
  rw [← List.cons_append, ← hplus] at hold
  rw [← List.cons_append, ← hend] at hnew
  simp only [hunkRanges?, Line.text, Text.behind?_append, Option.bind_eq_bind, Option.bind_some,
    hold, hnew]
  rfl

theorem hunk?_range {old new : Span} (ho : old.Fits) (hn : new.Fits) :
    hunk? old.range new.range = some ⟨old.start, old.lines, new.start, new.lines⟩ := by
  rw [hunk?, Span.numbers?_range ho, Span.numbers?_range hn]
  rfl

/-! ### File headers -/

/-- A side of a file header: as it is, or between quotes with escapes. -/
inductive Side
  | plain (path : List Char)
  | quoted (escaped : List Char)
  deriving DecidableEq, Repr

namespace Side

/-- A side as it is printed below a root. -/
def text (root : Char) : Side → List Char
  | .plain path => root :: '/' :: path
  | .quoted escaped => '"' :: root :: '/' :: (escaped ++ ['"'])

/-- What a side says of the path below its root. -/
def inside : Side → List Char
  | .plain path => path
  | .quoted escaped => escaped

end Side

/-- A file header: where the file was, and where it is. -/
structure Header where
  source : Side
  target : Side
  deriving DecidableEq, Repr

namespace Header

/-- A header as it is printed. -/
def text (h : Header) : List Char :=
  Line.fileWord ++ (h.source.text 'a' ++ ' ' :: h.target.text 'b')

/-- A header names a file on one line. -/
def IsPrinted (h : Header) : Prop :=
  (h.source.inside ≠ [] ∧ '\n' ∉ h.source.inside) ∧ h.target.inside ≠ [] ∧ '\n' ∉ h.target.inside

instance (h : Header) : Decidable h.IsPrinted := inferInstanceAs (Decidable ((_ ∧ _) ∧ _ ∧ _))

/-- A header is recognized if its source is not quoted, and neither is its target unless one of the
two has ` b/` inside. -/
def IsRead (h : Header) : Prop :=
  match h.source, h.target with
  | .quoted _, _ => False
  | .plain _, .plain _ => True
  | .plain path, .quoted escaped => headerMiddle <:+: path.tail ∨ headerMiddle <:+: escaped

instance : (h : Header) → Decidable h.IsRead
  | ⟨.quoted _, _⟩ => inferInstanceAs (Decidable False)
  | ⟨.plain _, .plain _⟩ => inferInstanceAs (Decidable True)
  | ⟨.plain path, .quoted escaped⟩ =>
    inferInstanceAs (Decidable (headerMiddle <:+: path.tail ∨ headerMiddle <:+: escaped))

end Header

theorem headerOpening_eq : headerOpening = Line.fileWord ++ ['a', '/'] := by decide

theorem headerMiddle_eq : headerMiddle = [' ', 'b', '/'] := by decide

/-- A path behind a header's opening is what follows the first ` b/` that it goes on with. -/
theorem headerPath?_append (c : Char) (line : List Char) :
    headerPath? (headerOpening ++ c :: line) =
      (Text.behindFirst? headerMiddle line).bind fun path =>
        if path = [] then none else some (forwardSlashes path) := by
  rw [headerPath?, Text.behind?_append]
  cases h : Text.behindFirst? headerMiddle line with
  | none => simp [h]
  | some path => cases path <;> simp [h]

theorem headerPath?_eq_none_of_quoted (escaped : List Char) (target : Side) :
    headerPath? (Header.text ⟨.quoted escaped, target⟩) = none := by
  have hopening : ¬ headerOpening <+: Header.text ⟨.quoted escaped, target⟩ := by
    rw [headerOpening_eq, Header.text, List.prefix_append_right_inj]
    simp [Side.text]
  rw [headerPath?, Text.behind?_eq_none_iff.mpr hopening]

theorem Header.text_plain (c : Char) (path : List Char) (target : Side) :
    Header.text ⟨.plain (c :: path), target⟩ =
      headerOpening ++ c :: (path ++ ' ' :: target.text 'b') := by
  rw [headerOpening_eq, Header.text, List.append_assoc]
  rfl

/-- ` b/` stands in a text before a quoted side and in it exactly where it stands in the two. -/
theorem headerMiddle_infix_quoted_iff {path escaped : List Char} :
    headerMiddle <:+: path ++ ' ' :: (Side.quoted escaped).text 'b' ↔
      headerMiddle <:+: path ∨ headerMiddle <:+: escaped := by
  have hquote : '"' ∉ headerMiddle := by decide
  have htext : path ++ ' ' :: (Side.quoted escaped).text 'b' =
      (path ++ [' ']) ++ '"' :: ('b' :: '/' :: escaped ++ '"' :: []) := by
    simp [Side.text]
  have hbefore : headerMiddle <:+: path ++ [' '] ↔ headerMiddle <:+: path := by
    rw [List.infix_concat_iff, or_iff_right]
    rintro ⟨before, h⟩
    exact absurd (congrArg List.getLast? h) (by simp [headerMiddle_eq])
  have hinside : headerMiddle <:+: 'b' :: '/' :: escaped ↔ headerMiddle <:+: escaped := by
    rw [List.infix_cons_iff, List.infix_cons_iff, headerMiddle_eq]
    simp
  rw [htext, Text.infix_append_cons_iff hquote, Text.infix_append_cons_iff hquote, hbefore, hinside]
  simp [headerMiddle_eq]

/-- Something stands behind ` b/` in such a text, as it ends with a quote. -/
theorem ne_nil_of_text_quoted {path escaped before rest : List Char}
    (h : path ++ ' ' :: (Side.quoted escaped).text 'b' = before ++ (headerMiddle ++ rest)) :
    rest ≠ [] := by
  rintro rfl
  have htext : path ++ ' ' :: (Side.quoted escaped).text 'b' =
      (path ++ ' ' :: '"' :: 'b' :: '/' :: escaped) ++ ['"'] := by simp [Side.text]
  rw [htext] at h
  have hlast := congrArg List.getLast? h
  rw [List.getLast?_concat] at hlast
  simp [headerMiddle_eq] at hlast

/-- A printed header is recognized exactly if it is one that is read. -/
theorem headerPath?_isSome_iff {h : Header} (hp : h.IsPrinted) :
    (headerPath? h.text).isSome ↔ h.IsRead := by
  obtain ⟨source, target⟩ := h
  obtain ⟨⟨hsource, -⟩, htarget, -⟩ := hp
  cases source with
  | quoted escaped =>
      rw [headerPath?_eq_none_of_quoted]
      simp [Header.IsRead]
  | plain path =>
      obtain ⟨c, path, rfl⟩ := List.exists_cons_of_ne_nil hsource
      rw [Header.text_plain, headerPath?_append]
      cases target with
      | plain q =>
          obtain ⟨r, hr, hsuffix⟩ := Text.behindFirst?_append path headerMiddle q
          have hne : r ≠ [] := fun h => htarget (List.suffix_nil.mp (h ▸ hsuffix))
          have htext : path ++ ' ' :: (Side.plain q).text 'b' = path ++ (headerMiddle ++ q) := by
            rw [headerMiddle_eq]
            rfl
          rw [htext, hr]
          simp [hne, Header.IsRead]
      | quoted escaped =>
          have hread : Header.IsRead ⟨.plain (c :: path), .quoted escaped⟩ ↔
              headerMiddle <:+: path ∨ headerMiddle <:+: escaped := Iff.rfl
          rw [hread, ← headerMiddle_infix_quoted_iff]
          cases hr : Text.behindFirst? headerMiddle
              (path ++ ' ' :: (Side.quoted escaped).text 'b') with
          | none => simpa using Text.behindFirst?_eq_none_iff.mp hr
          | some r =>
              obtain ⟨before, he⟩ := Text.eq_of_behindFirst? hr
              have hinfix : headerMiddle <:+: path ++ ' ' :: (Side.quoted escaped).text 'b' :=
                ⟨before, r, by rw [he, List.append_assoc]⟩
              simp [ne_nil_of_text_quoted he, hinfix]

theorem behindFirst?_headerMiddle {path : List Char} (h : ¬ headerMiddle <:+: path)
    (rest : List Char) :
    Text.behindFirst? headerMiddle (path ++ (headerMiddle ++ rest)) = some rest := by
  rw [headerMiddle_eq] at h ⊢
  induction path with
  | nil => simp [Text.behindFirst?, Text.behind?]
  | cons c path ih =>
      rw [List.infix_cons_iff, not_or] at h
      have hnone : ¬ [' ', 'b', '/'] <+: c :: (path ++ ([' ', 'b', '/'] ++ rest)) := by
        intro hprefix
        -- An occurrence that starts in the path would end in it, as only its first character is a
        -- blank.
        obtain _ | ⟨d, _ | ⟨e, path⟩⟩ := path
        · simp at hprefix
        · simp at hprefix
        · exact h.1 (by simpa using hprefix)
      rw [List.cons_append, Text.behindFirst?, Text.behind?_eq_none_iff.mpr hnone]
      exact ih h.2

/-- A header without ` b/` in its source names the file of its target. -/
theorem headerPath?_plain {p q : List Char} (hp : p ≠ []) (hq : q ≠ [])
    (hmiddle : ¬ headerMiddle <:+: p) :
    headerPath? (Header.text ⟨.plain p, .plain q⟩) = some (forwardSlashes q) := by
  obtain ⟨c, path, rfl⟩ := List.exists_cons_of_ne_nil hp
  have htext : path ++ ' ' :: (Side.plain q).text 'b' = path ++ (headerMiddle ++ q) := by
    rw [headerMiddle_eq]
    rfl
  have hpath : ¬ headerMiddle <:+: path :=
    fun h => hmiddle (h.trans (List.suffix_cons c path).isInfix)
  rw [Header.text_plain, headerPath?_append, htext, behindFirst?_headerMiddle hpath,
    Option.bind_some, if_neg hq]

end ChangeGate.Diff
