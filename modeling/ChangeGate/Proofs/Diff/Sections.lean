import ChangeGate.Proofs.Diff.Printing
import Mathlib.Data.List.Forall2

/-! # The sections of a diff

What a line makes of the files read so far is said by `step_header` and `step_line`;
`foldlM_step_section` puts them together for a section, and `parse_text` for a printed diff: a
section whose header is recognized opens a file, and the hunks of any section go to the file that
was opened last.

`parse_sections`: a printed diff has one file for each section, with the section's hunks, exactly
if all of its headers are read, and quoted ones are not. -/

namespace ChangeGate.Diff

/-! ### Sections -/

/-- The section of a file in a printed diff. -/
structure Section where
  header : Header
  lines : List Line
  deriving DecidableEq, Repr

namespace Section

/-- The lines of a section as they are printed. -/
def texts (s : Section) : List (List Char) := s.header.text :: s.lines.map Line.text

/-- The hunks of a section. -/
def hunks (s : Section) : List Hunk := s.lines.filterMap Line.hunk?

/-- A section is printed if its header and its lines are. -/
def IsPrinted (s : Section) : Prop := s.header.IsPrinted ∧ ∀ l ∈ s.lines, l.IsPrinted

instance (s : Section) : Decidable s.IsPrinted := inferInstanceAs (Decidable (_ ∧ _))

/-- A file holds what a section says of it: its hunks, and its path, which is clear unless the
source has ` b/` inside. -/
structure Describes (s : Section) (f : FileDiff) : Prop where
  hunks : f.hunks = s.hunks
  path : ∀ p q, s.header = ⟨.plain p, .plain q⟩ → ¬ headerMiddle <:+: p →
    f.path = String.ofList (forwardSlashes q)

end Section

/-- A diff as it is printed. -/
def text (ss : List Section) : String :=
  String.ofList (List.intercalate ['\n'] (ss.flatMap Section.texts))

/-! ### One line -/

variable {fs : List FileDiff}

/-- The files read so far after further hunks, which go to the last one. -/
def addHunks (hs : List Hunk) : List FileDiff → List FileDiff
  | [] => []
  | f :: fs => { f with hunks := f.hunks ++ hs } :: fs

/-- The files read so far after a header, which opens a file if it is recognized. -/
def openFile (h : Header) (fs : List FileDiff) : List FileDiff :=
  match headerPath? h.text with
  | some path => ⟨String.ofList path, []⟩ :: fs
  | none => fs

theorem hunkRanges?_eq_none {line : List Char} (h : ¬ Line.hunkWord <+: line) :
    hunkRanges? line = none := by
  have hopening : "@@ -".toList = Line.hunkWord ++ [' ', '-'] := by decide
  have hnone : ¬ "@@ -".toList <+: line := by
    rw [hopening]
    exact fun hp => h ((List.prefix_append _ _).trans hp)
  rw [hunkRanges?, Text.behind?_eq_none_iff.mpr hnone]
  rfl

theorem headerPath?_eq_none {line : List Char} (h : ¬ Line.fileWord <+: line) :
    headerPath? line = none := by
  have hnone : ¬ headerOpening <+: line := by
    rw [headerOpening_eq]
    exact fun hp => h ((List.prefix_append _ _).trans hp)
  rw [headerPath?, Text.behind?_eq_none_iff.mpr hnone]

theorem hunkWord_not_prefix_text (h : Header) : ¬ Line.hunkWord <+: h.text := by
  have hword : Line.fileWord = 'd' :: Line.fileWord.tail := by decide
  have hhunk : Line.hunkWord = ['@', '@'] := by decide
  rw [Header.text, hword, hhunk, List.cons_append, List.cons_prefix_cons]
  exact fun h => absurd h.1 (by decide)

theorem fileWord_not_prefix_hunk (old new : Span) (heading : List Char) :
    ¬ Line.fileWord <+: (Line.hunk old new heading).text := by
  have hword : Line.fileWord = 'd' :: Line.fileWord.tail := by decide
  have hopening : "@@ -".toList = '@' :: ['@', ' ', '-'] := by decide
  rw [Line.text, hword, hopening, List.cons_append, List.cons_prefix_cons]
  exact fun h => absurd h.1 (by decide)

theorem step_header (h : Header) : step fs h.text = some (openFile h fs) := by
  unfold step openFile
  cases headerPath? h.text with
  | some path => rfl
  | none =>
      cases fs with
      | nil => rfl
      | cons f fs => simp [hunkRanges?_eq_none (hunkWord_not_prefix_text h)]

theorem step_line {l : Line} (hl : l.IsPrinted) :
    step fs l.text = some (addHunks l.hunk?.toList fs) := by
  obtain ⟨-, hl⟩ := hl
  unfold step
  cases l with
  | hunk old new heading =>
      rw [headerPath?_eq_none (fileWord_not_prefix_hunk old new heading)]
      cases fs with
      | nil => rfl
      | cons f fs =>
          simp only [hunkRanges?_text, hunk?_range hl.1 hl.2]
          rfl
  | other text =>
      have hfile : headerPath? (Line.other text).text = none := headerPath?_eq_none hl.1
      have hhunk : hunkRanges? (Line.other text).text = none := hunkRanges?_eq_none hl.2
      rw [hfile]
      cases fs with
      | nil => rfl
      | cons f fs => simp [hhunk, addHunks, Line.hunk?]

/-! ### One section -/

theorem addHunks_addHunks (hs hs' : List Hunk) :
    addHunks hs' (addHunks hs fs) = addHunks (hs ++ hs') fs := by
  cases fs with
  | nil => rfl
  | cons f fs => simp [addHunks]

theorem foldlM_step_lines {ls : List Line} (hls : ∀ l ∈ ls, l.IsPrinted) :
    (ls.map Line.text).foldlM step fs = some (addHunks (ls.filterMap Line.hunk?) fs) := by
  induction ls generalizing fs with
  | nil => cases fs <;> simp [addHunks]
  | cons l ls ih =>
      obtain ⟨hl, hls⟩ := List.forall_mem_cons.mp hls
      have hhunks : (l :: ls).filterMap Line.hunk? = l.hunk?.toList ++ ls.filterMap Line.hunk? := by
        rw [List.filterMap_cons]
        cases l.hunk? <;> rfl
      rw [List.map_cons, List.foldlM_cons, step_line hl, hhunks, ← addHunks_addHunks]
      exact ih hls

/-- The files read so far after one more section. -/
def record (fs : List FileDiff) (s : Section) : List FileDiff :=
  addHunks s.hunks (openFile s.header fs)

/-- A section opens a file if its header is recognized, and its hunks go to the file opened last. -/
theorem foldlM_step_section {s : Section} (hs : s.IsPrinted) :
    s.texts.foldlM step fs = some (record fs s) := by
  rw [Section.texts, List.foldlM_cons, step_header]
  exact foldlM_step_lines hs.2

/-! ### Whole diffs -/

theorem foldlM_step_sections {ss : List Section} (hss : ∀ s ∈ ss, s.IsPrinted) :
    (ss.flatMap Section.texts).foldlM step fs = some (ss.foldl record fs) := by
  induction ss generalizing fs with
  | nil => rfl
  | cons s ss ih =>
      obtain ⟨hs, hss⟩ := List.forall_mem_cons.mp hss
      rw [List.flatMap_cons, List.foldlM_append, foldlM_step_section hs]
      exact ih hss

theorem lineFeed_not_mem_text {h : Header} (hp : h.IsPrinted) : '\n' ∉ h.text := by
  have hword : '\n' ∉ Line.fileWord := by decide
  have hside {root : Char} {s : Side} (hroot : '\n' ≠ root) (hs : '\n' ∉ s.inside) :
      '\n' ∉ s.text root := by
    cases s <;> simpa [Side.text, Side.inside, hroot] using hs
  rw [Header.text, List.mem_append, List.mem_append, List.mem_cons]
  rintro (h | h | h | h)
  · exact hword h
  · exact hside (by decide) hp.1.2 h
  · exact absurd h (by decide)
  · exact hside (by decide) hp.2.2 h

theorem lineFeed_not_mem_texts {s : Section} (hs : s.IsPrinted) : ∀ l ∈ s.texts, '\n' ∉ l := by
  intro l hl
  rcases List.mem_cons.mp hl with rfl | hl
  · exact lineFeed_not_mem_text hs.1
  · obtain ⟨l', hl', rfl⟩ := List.mem_map.mp hl
    exact (hs.2 l' hl').1

/-- A text is read line by line. -/
theorem parse_intercalate {ls : List (List Char)} (hls : ∀ l ∈ ls, '\n' ∉ l) :
    parse (String.ofList (List.intercalate ['\n'] ls)) =
      (ls.foldlM step []).map List.reverse := by
  by_cases hne : ls = []
  · subst hne
    rfl
  · rw [parse, String.toList_ofList, Text.splitAt_intercalate hne hls]

/-- A printed diff is read section by section. -/
theorem parse_text {ss : List Section} (hss : ∀ s ∈ ss, s.IsPrinted) :
    parse (text ss) = some (ss.foldl record []).reverse := by
  have hlines : ∀ l ∈ ss.flatMap Section.texts, '\n' ∉ l :=
    List.forall_mem_flatMap.mpr fun s hs => lineFeed_not_mem_texts (hss s hs)
  rw [text, parse_intercalate hlines, foldlM_step_sections hss, Option.map_some]

/-! ### One file for each section -/

theorem length_addHunks (hs : List Hunk) : (addHunks hs fs).length = fs.length := by
  cases fs <;> rfl

theorem length_foldl_record {ss : List Section} (hss : ∀ s ∈ ss, s.IsPrinted) :
    (ss.foldl record fs).length = fs.length + ss.countP (·.header.IsRead) := by
  induction ss generalizing fs with
  | nil => rfl
  | cons s ss ih =>
      obtain ⟨hs, hss⟩ := List.forall_mem_cons.mp hss
      have hread := headerPath?_isSome_iff hs.1
      rw [List.foldl_cons, ih hss, record, length_addHunks, openFile, List.countP_cons]
      cases hpath : headerPath? s.header.text with
      | none => simp_all
      | some path => simp_all; omega

theorem record_of_isRead (fs : List FileDiff) {s : Section} (hs : s.IsPrinted)
    (hread : s.header.IsRead) : ∃ f, record fs s = f :: fs ∧ s.Describes f := by
  obtain ⟨path, hpath⟩ := Option.isSome_iff_exists.mp ((headerPath?_isSome_iff hs.1).mpr hread)
  refine ⟨⟨String.ofList path, s.hunks⟩, ?_, rfl, ?_⟩
  · rw [record, openFile, hpath]
    rfl
  · intro p q hheader hmiddle
    obtain ⟨⟨hp, -⟩, hq, -⟩ := hs.1
    rw [hheader] at hp hq hpath
    have hpath' : some path = some (forwardSlashes q) :=
      hpath.symm.trans (headerPath?_plain hp hq hmiddle)
    rw [Option.some.inj hpath']

theorem foldl_record_of_isRead (fs : List FileDiff) {ss : List Section}
    (hss : ∀ s ∈ ss, s.IsPrinted) (hread : ∀ s ∈ ss, s.header.IsRead) :
    ∃ gs, ss.foldl record fs = gs.reverse ++ fs ∧ List.Forall₂ Section.Describes ss gs := by
  induction ss generalizing fs with
  | nil => exact ⟨[], rfl, .nil⟩
  | cons s ss ih =>
      obtain ⟨hs, hss⟩ := List.forall_mem_cons.mp hss
      obtain ⟨hreadFirst, hread⟩ := List.forall_mem_cons.mp hread
      obtain ⟨f, hrecord, hdescribes⟩ := record_of_isRead fs hs hreadFirst
      obtain ⟨gs, hfold, hgs⟩ := ih (f :: fs) hss hread
      refine ⟨f :: gs, ?_, .cons hdescribes hgs⟩
      rw [List.foldl_cons, hrecord, hfold, List.reverse_cons, List.append_assoc,
        List.singleton_append]

/-- A printed diff whose headers are all read has the files that its sections describe. -/
theorem parse_of_isRead {ss : List Section} (hss : ∀ s ∈ ss, s.IsPrinted)
    (hread : ∀ s ∈ ss, s.header.IsRead) :
    ∃ fs, parse (text ss) = some fs ∧ List.Forall₂ Section.Describes ss fs := by
  obtain ⟨gs, hfold, hgs⟩ := foldl_record_of_isRead [] hss hread
  refine ⟨gs, ?_, hgs⟩
  rw [parse_text hss, hfold, List.append_nil, List.reverse_reverse]

/-- **What becomes of the sections of a diff.**  A printed diff has one file for each section
exactly if every header is read, which a quoted source never is, and then the files hold what the
sections say of them, in order. -/
theorem parse_sections {ss : List Section} (hss : ∀ s ∈ ss, s.IsPrinted) :
    ∃ fs, parse (text ss) = some fs ∧
      (fs.length = ss.length ↔ ∀ s ∈ ss, s.header.IsRead) ∧
      ((∀ s ∈ ss, s.header.IsRead) → List.Forall₂ Section.Describes ss fs) := by
  refine ⟨_, parse_text hss, ?_, fun hread => ?_⟩
  · rw [List.length_reverse, length_foldl_record hss, List.length_nil, Nat.zero_add,
      List.countP_eq_length]
    simp
  · obtain ⟨gs, hfold, hgs⟩ := foldl_record_of_isRead [] hss hread
    rw [hfold, List.append_nil, List.reverse_reverse]
    exact hgs

/-- A diff of two files of which the second has a path that is printed between quotes. -/
def quotedSecond : List Section :=
  [⟨⟨.plain "x.py".toList, .plain "x.py".toList⟩,
    [.hunk ⟨1, none⟩ ⟨1, none⟩ [], .other "-a".toList, .other "+b".toList]⟩,
   ⟨⟨.quoted "\\303\\251.py".toList, .quoted "\\303\\251.py".toList⟩,
    [.hunk ⟨5, none⟩ ⟨5, none⟩ [], .other "-c".toList, .other "+d".toList]⟩]

/-- A file whose path is quoted is left out, and its hunk goes to the file before. -/
theorem parse_quotedSecond :
    (∀ s ∈ quotedSecond, s.IsPrinted) ∧ quotedSecond.length = 2 ∧
      parse (text quotedSecond) = some [⟨"x.py", [⟨1, 1, 1, 1⟩, ⟨5, 1, 5, 1⟩]⟩] := by
  refine ⟨by decide +kernel, rfl, ?_⟩
  rw [parse_text (by decide +kernel)]
  decide +kernel

/-- A diff of a file that was moved, with a hunk and other lines. -/
def moved : List Section :=
  [⟨⟨.plain "old name.py".toList, .plain "new name.py".toList⟩,
    [.other "similarity index 90%".toList, .hunk ⟨10, some 3⟩ ⟨12, none⟩ " def f():".toList,
     .other "+diff --git a/x b/x".toList]⟩]

/-- A moved file is found where it went, whatever its lines say. -/
theorem parse_sections_moved :
    (∀ s ∈ moved, s.IsPrinted) ∧
      ∃ f, parse (text moved) = some [f] ∧ f.path = "new name.py" ∧ f.hunks = [⟨10, 3, 12, 1⟩] := by
  have hss : ∀ s ∈ moved, s.IsPrinted := by decide +kernel
  obtain ⟨fs, hparse, -, hdescribes⟩ := parse_sections hss
  obtain ⟨f, fs, hf, hnil, rfl⟩ := List.forall₂_cons_left_iff.mp (hdescribes (by decide +kernel))
  obtain rfl := List.forall₂_nil_left_iff.mp hnil
  refine ⟨hss, f, hparse, ?_, hf.hunks⟩
  rw [hf.path _ _ rfl (by decide +kernel)]
  decide +kernel

end ChangeGate.Diff
