import ChangeGate.Text.Blank
import ChangeGate.Text.Search
import Mathlib.Data.List.Infix

/-! # Cutting and joining

Pieces that are joined by a character that none of them holds are what the joined text is cut into
(`splitAt_intercalate`), and lines without a line break are the lines of the text that has one on
each (`lines_intercalate`).  A line starts at the front of a text or behind a line feed, and goes up
to the next one (`splitAt_lineFeed`).  A word is found behind a text that holds none, and never later
than an occurrence of it. -/

namespace ChangeGate.Text

/-! ### Pieces -/

theorem splitAt_of_not_mem {sep : Char} {l : List Char} (h : sep ∉ l) : splitAt sep l = [l] := by
  induction l with
  | nil => rfl
  | cons c r ih =>
      rw [List.mem_cons, not_or] at h
      rw [splitAt, if_neg (Ne.symm h.1), ih h.2]

theorem splitAt_ne_nil (sep : Char) (cs : List Char) : splitAt sep cs ≠ [] := by
  unfold splitAt
  split
  · exact List.cons_ne_nil _ _
  · split
    · exact List.cons_ne_nil _ _
    · split <;> exact List.cons_ne_nil _ _

/-- The pieces of two texts with a separator between them. -/
theorem splitAt_append_cons (sep : Char) (xs ys : List Char) :
    splitAt sep (xs ++ sep :: ys) = splitAt sep xs ++ splitAt sep ys := by
  induction xs with
  | nil => simp [splitAt]
  | cons c xs ih =>
      rw [List.cons_append, splitAt, splitAt, ih]
      split
      · rfl
      · cases h : splitAt sep xs with
        | nil => exact absurd h (splitAt_ne_nil sep xs)
        | cons piece pieces => rfl

/-- What stands in front of the first separator is part of the first piece. -/
theorem splitAt_front {sep : Char} {front cs piece : List Char} {pieces : List (List Char)}
    (hfront : sep ∉ front) (h : splitAt sep cs = piece :: pieces) :
    splitAt sep (front ++ cs) = (front ++ piece) :: pieces := by
  induction front with
  | nil => exact h
  | cons c front ih =>
      rw [List.mem_cons, not_or] at hfront
      rw [List.cons_append, splitAt, if_neg (Ne.symm hfront.1), ih hfront.2, List.cons_append]

theorem splitAt_append {sep : Char} {l : List Char} (r : List Char) (h : sep ∉ l) :
    splitAt sep (l ++ sep :: r) = l :: splitAt sep r := by
  rw [splitAt_append_cons, splitAt_of_not_mem h, List.singleton_append]

theorem splitAt_intercalate {sep : Char} {ls : List (List Char)} (hne : ls ≠ [])
    (h : ∀ l ∈ ls, sep ∉ l) : splitAt sep (List.intercalate [sep] ls) = ls := by
  induction ls with
  | nil => exact absurd rfl hne
  | cons l ls ih =>
      obtain ⟨hl, hls⟩ := List.forall_mem_cons.mp h
      cases ls with
      | nil => rw [List.intercalate_singleton, splitAt_of_not_mem hl]
      | cons l' ls =>
          rw [List.intercalate_cons_cons, List.append_assoc, List.singleton_append,
            splitAt_append _ hl, ih (List.cons_ne_nil _ _) hls]

theorem not_mem_of_mem_splitAt {sep : Char} {cs l : List Char} (h : l ∈ splitAt sep cs) :
    sep ∉ l := by
  induction cs generalizing l with
  | nil =>
      obtain rfl := List.mem_singleton.mp h
      exact List.not_mem_nil
  | cons c r ih =>
      rw [splitAt] at h
      split at h
      · rcases List.mem_cons.mp h with rfl | h
        · exact List.not_mem_nil
        · exact ih h
      · rename_i hc
        split at h
        · rename_i hnil
          exact absurd hnil (splitAt_ne_nil sep r)
        · rename_i piece pieces hpieces
          rw [hpieces] at ih
          rcases List.mem_cons.mp h with rfl | h
          · rw [List.mem_cons, not_or]
            exact ⟨Ne.symm hc, ih List.mem_cons_self⟩
          · exact ih (List.mem_cons_of_mem _ h)

theorem mem_intercalate {sep : List Char} {ls : List (List Char)} {c : Char}
    (h : c ∈ sep.intercalate ls) : c ∈ sep ∨ ∃ l ∈ ls, c ∈ l := by
  induction ls with
  | nil => cases h
  | cons l ls ih =>
      cases ls with
      | nil =>
          rw [List.intercalate_singleton] at h
          exact .inr ⟨l, List.mem_cons_self, h⟩
      | cons l' ls =>
          rw [List.intercalate_cons_cons, List.mem_append, List.mem_append] at h
          rcases h with (h | h) | h
          · exact .inr ⟨l, List.mem_cons_self, h⟩
          · exact .inl h
          · exact (ih h).imp_right fun ⟨m, hm, hc⟩ => ⟨m, List.mem_cons_of_mem _ hm, hc⟩

theorem infix_intercalate {sep : List Char} {ls : List (List Char)} {l : List Char} (h : l ∈ ls) :
    l <:+: sep.intercalate ls := by
  induction ls with
  | nil => cases h
  | cons l' ls ih =>
      cases ls with
      | nil =>
          rw [List.intercalate_singleton, ← List.mem_singleton.mp h]
      | cons l'' ls =>
          rw [List.intercalate_cons_cons]
          rcases List.mem_cons.mp h with rfl | h
          · rw [List.append_assoc]
            exact (List.prefix_append ..).isInfix
          · exact (ih h).trans (List.suffix_append ..).isInfix

theorem intercalate_append {sep : List Char} {ls ls' : List (List Char)} (h : ls ≠ [])
    (h' : ls' ≠ []) :
    sep.intercalate (ls ++ ls') = sep.intercalate ls ++ (sep ++ sep.intercalate ls') := by
  induction ls with
  | nil => exact absurd rfl h
  | cons l ls ih =>
      cases ls with
      | nil =>
          rw [List.singleton_append, List.intercalate_cons_of_ne_nil h',
            List.intercalate_singleton, List.append_assoc]
      | cons l' ls =>
          rw [List.cons_append, List.cons_append, List.intercalate_cons_cons,
            List.intercalate_cons_cons, ← List.cons_append, ih (List.cons_ne_nil _ _)]
          simp only [List.append_assoc]

/-- The pieces of a text make up the text. -/
theorem intercalate_splitAt (sep : Char) (cs : List Char) :
    List.intercalate [sep] (splitAt sep cs) = cs := by
  induction cs with
  | nil => rfl
  | cons c r ih =>
      rw [splitAt]
      split
      · rename_i hc
        rw [List.intercalate_cons_of_ne_nil (splitAt_ne_nil sep r), ih, hc]
        rfl
      · cases hpieces : splitAt sep r with
        | nil => exact absurd hpieces (splitAt_ne_nil sep r)
        | cons piece pieces =>
            rw [hpieces] at ih
            rw [← ih]
            cases pieces with
            | nil => simp
            | cons piece' pieces =>
                rw [List.intercalate_cons_cons, List.intercalate_cons_cons]
                simp

/-- Where pieces of a text are taken apart, the text is. -/
theorem exists_of_splitAt_eq_append {sep : Char} {cs : List Char} {front back : List (List Char)}
    (h : splitAt sep cs = front ++ back) (hfront : front ≠ []) (hback : back ≠ []) :
    ∃ xs ys, cs = xs ++ sep :: ys ∧ splitAt sep xs = front ∧ splitAt sep ys = back := by
  have hpieces : ∀ l ∈ front ++ back, sep ∉ l := fun l hl => not_mem_of_mem_splitAt (h ▸ hl)
  obtain ⟨hpieces, hpieces'⟩ := List.forall_mem_append.mp hpieces
  refine ⟨_, _, ?_, splitAt_intercalate hfront hpieces, splitAt_intercalate hback hpieces'⟩
  rw [← intercalate_splitAt sep cs, h, intercalate_append hfront hback, List.singleton_append]

/-! ### Lines -/

theorem linesFrom_append (seen : List Char) {l : List Char} (r : List Char)
    (h : ∀ c ∈ l, isLineBreak c = false) :
    linesFrom seen (l ++ r) = linesFrom (l.reverse ++ seen) r := by
  induction l generalizing seen with
  | nil => rfl
  | cons c l ih =>
      obtain ⟨hc, hl⟩ := List.forall_mem_cons.mp h
      have hcr : c ≠ '\r' := by
        rintro rfl
        exact absurd hc (by decide)
      rw [List.cons_append, linesFrom, if_neg (by simp [hc]), ih _ hl, List.reverse_cons,
        List.append_assoc, List.singleton_append]
      · rintro - rfl
        exact absurd rfl hcr

theorem linesFrom_lineFeed (seen r : List Char) :
    linesFrom seen ('\n' :: r) = seen.reverse :: linesFrom [] r := by
  rw [linesFrom, if_pos (by decide)]
  rintro - h
  exact absurd h (by decide)

/-- Lines that are neither empty nor hold a line break are the lines of the text that they make. -/
theorem lines_intercalate {ls : List (List Char)}
    (h : ∀ l ∈ ls, l ≠ [] ∧ ∀ c ∈ l, isLineBreak c = false) :
    lines (List.intercalate ['\n'] ls) = ls := by
  rw [lines]
  induction ls with
  | nil => rfl
  | cons l ls ih =>
      obtain ⟨⟨hne, hl⟩, hls⟩ := List.forall_mem_cons.mp h
      cases ls with
      | nil =>
          have hlines := linesFrom_append [] [] hl
          rw [List.append_nil, List.append_nil] at hlines
          rw [List.intercalate_singleton, hlines, linesFrom]
          simp [hne]
      | cons l' ls =>
          rw [List.intercalate_cons_cons, List.append_assoc, List.singleton_append,
            linesFrom_append _ _ hl, linesFrom_lineFeed, ih hls, List.append_nil,
            List.reverse_reverse]

/-- No line has a line break in it. -/
theorem isLineBreak_of_mem_linesFrom {seen cs : List Char}
    (hseen : ∀ c ∈ seen, isLineBreak c = false) :
    ∀ l ∈ linesFrom seen cs, ∀ c ∈ l, isLineBreak c = false := by
  have hrev {seen : List Char} (h : ∀ c ∈ seen, isLineBreak c = false) :
      ∀ c ∈ seen.reverse, isLineBreak c = false := fun c hc => h c (List.mem_reverse.mp hc)
  fun_induction linesFrom seen cs with
  | case1 => exact nofun
  | case2 => exact List.forall_mem_singleton.mpr (hrev hseen)
  | case3 seen r ih => exact List.forall_mem_cons.mpr ⟨hrev hseen, ih nofun⟩
  | case4 seen c r _ hc ih => exact List.forall_mem_cons.mpr ⟨hrev hseen, ih nofun⟩
  | case5 seen c r _ hc ih =>
      exact ih (List.forall_mem_cons.mpr ⟨(Bool.not_eq_true _).mp hc, hseen⟩)

/-! ### Starts of lines -/

/-- A line starts at the start of the text or behind a line feed. -/
theorem split_of_mem_lineStarts {cs line : List Char} (h : line ∈ lineStarts cs) :
    line = cs ∨ ∃ front, cs = front ++ '\n' :: line := by
  have hbehind (cs : List Char) :
      line ∈ behindLineFeeds cs → ∃ front, cs = front ++ '\n' :: line := by
    induction cs with
    | nil => simp [behindLineFeeds]
    | cons c cs ih =>
        intro h
        rw [behindLineFeeds] at h
        split at h
        · rename_i hc
          rcases List.mem_cons.mp h with rfl | h
          · exact ⟨[], by rw [hc]; rfl⟩
          · obtain ⟨front, rfl⟩ := ih h
            exact ⟨c :: front, rfl⟩
        · obtain ⟨front, rfl⟩ := ih h
          exact ⟨c :: front, rfl⟩
  exact (List.mem_cons.mp h).imp_right (hbehind cs)

theorem behindLineFeeds_append (cs ds : List Char) :
    behindLineFeeds (cs ++ ds) = (behindLineFeeds cs).map (· ++ ds) ++ behindLineFeeds ds := by
  induction cs with
  | nil => rfl
  | cons c cs ih =>
      rw [List.cons_append, behindLineFeeds, behindLineFeeds, ih]
      split <;> rfl

theorem behindLineFeeds_of_not_mem {cs : List Char} (h : '\n' ∉ cs) : behindLineFeeds cs = [] := by
  induction cs with
  | nil => rfl
  | cons c cs ih =>
      rw [List.mem_cons, not_or] at h
      rw [behindLineFeeds, if_neg (Ne.symm h.1), ih h.2]

/-- Behind a line the lines are those of the rest. -/
theorem behindLineFeeds_line {line : List Char} (h : '\n' ∉ line) (rest : List Char) :
    behindLineFeeds (line ++ '\n' :: rest) = lineStarts rest := by
  rw [behindLineFeeds_append, behindLineFeeds_of_not_mem h, List.map_nil, List.nil_append,
    behindLineFeeds, if_pos rfl, lineStarts]

/-- What stands between the line feeds of a text is what stands at each start of a line, up to the
next line feed. -/
theorem splitAt_lineFeed (cs : List Char) :
    splitAt '\n' cs = (lineStarts cs).map (·.takeWhile (· != '\n')) := by
  induction cs with
  | nil => rfl
  | cons c r ih =>
      rw [lineStarts, List.map_cons] at ih
      rw [splitAt, lineStarts, List.map_cons, behindLineFeeds]
      by_cases hc : c = '\n'
      · rw [if_pos hc, if_pos hc, List.takeWhile_cons_of_neg (by simp [hc]), List.map_cons, ih]
      · rw [if_neg hc, if_neg hc, List.takeWhile_cons_of_pos (by simp [hc]), ih]

theorem findSome?_eq_map {α β γ : Type} {f : α → Option γ} {g : α → Option β} {k : β → γ}
    {l : List α} (h : ∀ x ∈ l, f x = (g x).map k) : l.findSome? f = (l.findSome? g).map k := by
  induction l with
  | nil => rfl
  | cons x l ih =>
      obtain ⟨hx, hl⟩ := List.forall_mem_cons.mp h
      rw [List.findSome?_cons, List.findSome?_cons, hx, ih hl]
      cases g x <;> rfl

theorem findSome?_congr {α β : Type} {f g : α → Option β} {l : List α}
    (h : ∀ x ∈ l, f x = g x) : l.findSome? f = l.findSome? g := by
  rw [findSome?_eq_map (k := id) fun x hx => (h x hx).trans (Option.map_id_apply).symm,
    Option.map_id_apply]

/-! ### Words -/

theorem behind?_append (word rest : List Char) : behind? word (word ++ rest) = some rest :=
  behind?_eq_some_iff.mpr rfl

theorem behind?_eq_none_iff {word cs : List Char} : behind? word cs = none ↔ ¬ word <+: cs := by
  rw [Option.eq_none_iff_forall_ne_some, List.IsPrefix, not_exists]
  refine forall_congr' fun rest => not_congr ?_
  rw [behind?_eq_some_iff, eq_comm]

theorem behindFirst?_eq_none_iff {word cs : List Char} :
    behindFirst? word cs = none ↔ ¬ word <:+: cs := by
  induction cs with
  | nil => rw [behindFirst?, behind?_eq_none_iff, List.prefix_nil, List.infix_nil]
  | cons c cs ih =>
      rw [behindFirst?, List.infix_cons_iff, not_or, ← ih, ← behind?_eq_none_iff]
      cases behind? word (c :: cs) <;> simp

theorem eq_of_behindFirst? {word cs r : List Char} (h : behindFirst? word cs = some r) :
    ∃ before, cs = before ++ (word ++ r) := by
  induction cs with
  | nil =>
      rw [behindFirst?, behind?_eq_some_iff] at h
      exact ⟨[], h⟩
  | cons c cs ih =>
      rw [behindFirst?] at h
      cases hb : behind? word (c :: cs) with
      | none =>
          rw [hb] at h
          obtain ⟨before, rfl⟩ := ih h
          exact ⟨c :: before, rfl⟩
      | some r' =>
          rw [hb] at h
          rw [← Option.some.inj h]
          rw [behind?_eq_some_iff] at hb
          exact ⟨[], hb⟩

/-- A word is found no later than an occurrence of it. -/
theorem behindFirst?_append (before word rest : List Char) :
    ∃ r, behindFirst? word (before ++ (word ++ rest)) = some r ∧ rest <:+ r := by
  induction before with
  | nil =>
      rw [List.nil_append]
      cases h : word ++ rest with
      | nil =>
          obtain ⟨rfl, rfl⟩ := List.append_eq_nil_iff.mp h
          exact ⟨[], rfl, List.suffix_rfl⟩
      | cons c cs =>
          refine ⟨rest, ?_, List.suffix_rfl⟩
          rw [behindFirst?, ← h, behind?_append]
  | cons c before ih =>
      obtain ⟨r, hr, hsuffix⟩ := ih
      rw [List.cons_append, behindFirst?]
      cases hb : behind? word (c :: (before ++ (word ++ rest))) with
      | none => exact ⟨r, hr, hsuffix⟩
      | some r' =>
          have he := behind?_eq_some_iff.mp hb
          have hlength := congrArg List.length he
          simp only [List.length_cons, List.length_append] at hlength
          have hrest : rest <:+ c :: (before ++ (word ++ rest)) := ⟨c :: (before ++ word), by simp⟩
          have hr' : r' <:+ c :: (before ++ (word ++ rest)) := ⟨word, he.symm⟩
          exact ⟨r', rfl, List.suffix_of_suffix_length_le hrest hr' (by omega)⟩

/-- A word does not stand across a character that it does not hold. -/
theorem infix_append_cons_iff {word xs ys : List Char} {c : Char} (hc : c ∉ word) :
    word <:+: xs ++ c :: ys ↔ word <:+: xs ∨ word <:+: ys := by
  constructor
  · rw [List.infix_append_iff, List.infix_cons_iff]
    rintro (h | (h | h) | ⟨l, l', rfl, hl, hl'⟩)
    · exact .inl h
    · cases word with
      | nil => exact .inl (List.nil_infix)
      | cons d word =>
          obtain ⟨rfl, -⟩ := List.cons_prefix_cons.mp h
          exact absurd List.mem_cons_self hc
    · exact .inr h
    · cases l' with
      | nil =>
          rw [List.append_nil]
          exact .inl hl.isInfix
      | cons d l' =>
          obtain ⟨rfl, -⟩ := List.cons_prefix_cons.mp hl'
          exact absurd (List.mem_append_right l List.mem_cons_self) hc
  · rintro (h | h)
    · exact h.trans (List.prefix_append _ _).isInfix
    · exact (h.trans (List.suffix_cons c ys).isInfix).trans (List.suffix_append _ _).isInfix

end ChangeGate.Text
