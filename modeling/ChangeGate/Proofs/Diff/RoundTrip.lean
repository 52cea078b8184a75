import ChangeGate.Proofs.Diff.Sections

/-! # Reading a printed diff back

An entry is what a diff prints of a file: where it was, where it is, and the lines behind its
header.  `parse_printed`: a diff of entries, with any lines before the first header, is read as the
files of the entries. -/

namespace ChangeGate.Diff

/-- What a diff prints of a file. -/
structure Entry where
  source : List Char
  target : List Char
  lines : List Line
  deriving DecidableEq, Repr

namespace Entry

/-- The section of an entry. -/
def toSection (e : Entry) : Section := ⟨⟨.plain e.source, .plain e.target⟩, e.lines⟩

/-- An entry can be printed if its paths are on one line each, its source shows where it ends, and
its lines can stand behind a header. -/
def IsPrinted (e : Entry) : Prop := e.toSection.IsPrinted ∧ ¬ headerMiddle <:+: e.source

instance (e : Entry) : Decidable e.IsPrinted := inferInstanceAs (Decidable (_ ∧ _))

/-- The file of an entry: its target with slashes for backslashes, and its hunks. -/
def file (e : Entry) : FileDiff :=
  ⟨String.ofList (forwardSlashes e.target), e.lines.filterMap Line.hunk?⟩

end Entry

/-- The text of a diff with lines before the first header. -/
def printed (preamble : List Line) (es : List Entry) : String :=
  String.ofList
    (List.intercalate ['\n'] (preamble.map Line.text ++ es.flatMap (·.toSection.texts)))

variable {preamble : List Line} {e : Entry} {es : List Entry}

theorem record_toSection (he : e.IsPrinted) (fs : List FileDiff) :
    record fs e.toSection = e.file :: fs := by
  obtain ⟨⟨⟨⟨hsource, -⟩, htarget, -⟩, -⟩, hclear⟩ := he
  have hpath : headerPath? e.toSection.header.text = some (forwardSlashes e.target) :=
    headerPath?_plain hsource htarget hclear
  rw [record, openFile, hpath]
  rfl

theorem foldl_record_entries (hes : ∀ e ∈ es, e.IsPrinted) (fs : List FileDiff) :
    (es.map Entry.toSection).foldl record fs = (es.map Entry.file).reverse ++ fs := by
  induction es generalizing fs with
  | nil => rfl
  | cons e es ih =>
      obtain ⟨he, hes⟩ := List.forall_mem_cons.mp hes
      rw [List.map_cons, List.foldl_cons, record_toSection he, ih hes, List.map_cons,
        List.reverse_cons, List.append_assoc, List.singleton_append]

/-- **A printed diff is read as what it was printed from.**  Whatever lines stand before the first
header, there is one file for each entry, in order, with its target for a path and its hunks. -/
theorem parse_printed (hpreamble : ∀ l ∈ preamble, l.IsPrinted) (hes : ∀ e ∈ es, e.IsPrinted) :
    parse (printed preamble es) = some (es.map Entry.file) := by
  have hsections : ∀ s ∈ es.map Entry.toSection, s.IsPrinted :=
    List.forall_mem_map.mpr fun e he => (hes e he).1
  have hlines : ∀ l ∈ preamble.map Line.text ++ es.flatMap (·.toSection.texts), '\n' ∉ l :=
    List.forall_mem_append.mpr
      ⟨List.forall_mem_map.mpr fun l hl => (hpreamble l hl).1,
        List.forall_mem_flatMap.mpr fun e he => lineFeed_not_mem_texts (hes e he).1⟩
  have htexts : es.flatMap (·.toSection.texts) = (es.map Entry.toSection).flatMap Section.texts :=
    (List.flatMap_map _ _ _).symm
  -- Hunks before the first header have no file to go to.
  have hskipped : (preamble.map Line.text).foldlM step [] = some [] := foldlM_step_lines hpreamble
  rw [printed, parse_intercalate hlines, List.foldlM_append, hskipped, htexts]
  show ((es.map Entry.toSection).flatMap Section.texts |>.foldlM step []).map List.reverse = _
  rw [foldlM_step_sections hsections, foldl_record_entries hes, List.append_nil, Option.map_some,
    List.reverse_reverse]

/-- Two files, one of which was moved to a path with ` b/` and a backslash inside. -/
def movedAndNew : List Entry :=
  [⟨"old name.py".toList, "x b/new\\name.py".toList,
      [.other "similarity index 90%".toList, .hunk ⟨10, some 3⟩ ⟨12, none⟩ " def f():".toList,
        .other "+diff --git a/x b/x".toList, .hunk ⟨40, none⟩ ⟨41, some 1⟩ [], .other [] ]⟩,
    ⟨"empty.py".toList, "empty.py".toList, [.hunk ⟨0, some 0⟩ ⟨1, none⟩ []]⟩]

/-- Counts that are left out are one, and those that are zero stay zero; the hunk before the first
header is no file's. -/
theorem parse_printed_movedAndNew :
    parse (printed [.other "From: x".toList, .hunk ⟨7, none⟩ ⟨7, none⟩ []] movedAndNew) =
      some [⟨"x b/new/name.py", [⟨10, 3, 12, 1⟩, ⟨40, 1, 41, 1⟩]⟩,
        ⟨"empty.py", [⟨0, 0, 1, 1⟩]⟩] := by
  rw [parse_printed (by decide +kernel) (by decide +kernel)]
  decide +kernel

end ChangeGate.Diff
