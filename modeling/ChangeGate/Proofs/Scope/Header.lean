import ChangeGate.Proofs.Text.Lines
import ChangeGate.Proofs.Text.Runs
import ChangeGate.Scope

/-! # Headers of a description

A header stands at the start of a line and says something: a scope header and a scope command say
the word behind them, and a tag header says the rest of its line.  The blanks behind the words of a
header are passed over, and they may hold line feeds.  A header with nothing else on its line
therefore runs on, and says what the next line with anything on it does.

`onLine_or_runsOn`: what a header says stands on its line, or the header runs on.
`findSome?_lines`: if none runs on, a description says what its lines say, each by itself. -/

namespace ChangeGate.Scope

open Text (behind? isBlank lineStarts splitAt)

variable {body cs gap head line rest row said word : List Char}

/-! ### What stands behind the words of a header -/

/-- All characters are blank. -/
def IsGap (cs : List Char) : Prop := ∀ c ∈ cs, isBlank c = true

/-- A text starts with a word, at which it ends or goes on with a blank. -/
structure StartsWithWord (cs word : List Char) : Prop where
  ne_nil : word ≠ []
  solid : ∀ c ∈ word, isBlank c = false
  ends : ∃ rest, cs = word ++ rest ∧ ∀ c ∈ rest.head?, isBlank c = true

/-- A text starts with no blank, and this is its first line. -/
structure StartsWithLine (cs listed : List Char) : Prop where
  solid : ∃ c ∈ cs.head?, isBlank c = false
  line : listed = cs.takeWhile (· != '\n')

theorem isBlank_lineFeed : isBlank '\n' = true := by decide

theorem wordAt?_eq_some_iff : wordAt? cs = some word ↔ StartsWithWord cs word := by
  have htake : wordAt? cs = some word ↔ cs.takeWhile (!isBlank ·) = word ∧ word ≠ [] := by
    unfold wordAt?
    split
    · rename_i hnil
      exact ⟨nofun, fun ⟨h, hne⟩ => absurd (h.symm.trans hnil) hne⟩
    · rename_i hne
      rw [Option.some.injEq]
      exact ⟨fun h => ⟨h, h ▸ hne⟩, And.left⟩
  rw [htake]
  constructor
  · rintro ⟨rfl, hne⟩
    refine ⟨hne, fun c hc => by simpa using List.mem_takeWhile_imp hc,
      cs.dropWhile (!isBlank ·), List.takeWhile_append_dropWhile.symm, fun c hc => ?_⟩
    simpa using Text.head?_dropWhile_eq_false c hc
  · rintro ⟨hne, hsolid, rest, rfl, hends⟩
    exact ⟨Text.takeWhile_run (by simpa using hsolid) (by simpa using hends), hne⟩

theorem StartsWithWord.head_solid (h : StartsWithWord cs word) :
    ∃ c ∈ cs.head?, isBlank c = false := by
  obtain ⟨hne, hsolid, rest, rfl, -⟩ := h
  obtain ⟨c, word, rfl⟩ := List.exists_cons_of_ne_nil hne
  exact ⟨c, rfl, hsolid c List.mem_cons_self⟩

/-- A word stands on one line. -/
theorem StartsWithWord.takeWhile_iff :
    StartsWithWord (cs.takeWhile (· != '\n')) word ↔ StartsWithWord cs word := by
  constructor
  · rintro ⟨hne, hsolid, rest, hsplit, hends⟩
    refine ⟨hne, hsolid, rest ++ cs.dropWhile (· != '\n'), ?_, fun c hc => ?_⟩
    · rw [← List.append_assoc, ← hsplit, List.takeWhile_append_dropWhile]
    · cases rest with
      | nil =>
          have hstop := Text.head?_dropWhile_eq_false c hc
          obtain rfl : c = '\n' := by simpa using hstop
          exact isBlank_lineFeed
      | cons d rest => exact hends c hc
  · rintro ⟨hne, hsolid, rest, rfl, hends⟩
    have hword : ∀ c ∈ word, (c != '\n') = true := by
      intro c hc
      rw [bne_iff_ne]
      rintro rfl
      exact absurd (hsolid _ hc) (by decide)
    refine ⟨hne, hsolid, rest.takeWhile (· != '\n'), List.takeWhile_append_of_pos hword, ?_⟩
    intro c hc
    rw [List.head?_takeWhile] at hc
    exact hends c (Option.mem_filter_iff.mp hc).1

theorem StartsWithLine.takeWhile_iff :
    StartsWithLine (cs.takeWhile (· != '\n')) said ↔ StartsWithLine cs said := by
  have hhead : (∃ c ∈ (cs.takeWhile (· != '\n')).head?, isBlank c = false) ↔
      ∃ c ∈ cs.head?, isBlank c = false := by
    rw [List.head?_takeWhile]
    refine exists_congr fun c => ?_
    rw [Option.mem_filter_iff, and_right_comm]
    refine and_iff_left_of_imp fun ⟨_, hc⟩ => ?_
    rw [bne_iff_ne]
    rintro rfl
    exact absurd hc (by decide)
  have hline : (cs.takeWhile (· != '\n')).takeWhile (· != '\n') = cs.takeWhile (· != '\n') :=
    List.takeWhile_eq_self_iff.mpr fun _ => List.mem_takeWhile_imp (p := (· != '\n'))
  constructor
  · rintro ⟨hsolid, hsaid⟩
    exact ⟨hhead.mp hsolid, hsaid.trans hline⟩
  · rintro ⟨hsolid, hsaid⟩
    exact ⟨hhead.mpr hsolid, hsaid.trans hline.symm⟩

/-! ### Headers -/

/-- A kind of header: the words that open it, with the blanks behind them, and what a text says that
goes on there, which stands on the first line of that text. -/
structure Header where
  Opens : List Char → Prop
  Says : List Char → List Char → Prop
  solid : ∀ {rest said}, Says rest said → ∃ c ∈ rest.head?, isBlank c = false
  says_line : ∀ {rest said}, Says (rest.takeWhile (· != '\n')) said ↔ Says rest said

/-- The header of a scope. -/
def scopeHeader : Header where
  Opens head := ∃ gap, IsGap gap ∧ head = "INTENT-SCOPE:".toList ++ gap
  Says := StartsWithWord
  solid := StartsWithWord.head_solid
  says_line := StartsWithWord.takeWhile_iff

/-- The command that sets a scope. -/
def scopeCommand : Header where
  Opens head := ∃ gap gap', (IsGap gap ∧ gap ≠ []) ∧ (IsGap gap' ∧ gap' ≠ []) ∧
    head = "/intent".toList ++ (gap ++ ("scope".toList ++ gap'))
  Says := StartsWithWord
  solid := StartsWithWord.head_solid
  says_line := StartsWithWord.takeWhile_iff

/-- The header of tags. -/
def tagHeader : Header where
  Opens head := ∃ gap, IsGap gap ∧ head = "INTENT-TAGS:".toList ++ gap
  Says := StartsWithLine
  solid := StartsWithLine.solid
  says_line := StartsWithLine.takeWhile_iff

namespace Header

variable {h : Header} {read? : List Char → Option (List Char)}

/-- A text starts with a header, and this is what the header says. -/
def StartsWith (h : Header) (cs said : List Char) : Prop :=
  ∃ head rest, cs = head ++ rest ∧ h.Opens head ∧ h.Says rest said

/-- A line of a text starts with a header and what it says. -/
def OnLine (h : Header) (cs said : List Char) : Prop :=
  ∃ row ∈ splitAt '\n' cs, h.StartsWith row said

/-- A header of a text has nothing but blanks behind it on its line, and says what a later line
does. -/
def RunsOn (h : Header) (cs said : List Char) : Prop :=
  ∃ line ∈ lineStarts cs, ∃ head rest, line = head ++ rest ∧ h.Opens head ∧ '\n' ∈ head ∧
    h.Says rest said

/-- A function that reads a header off the front of a text. -/
def IsReadBy (h : Header) (read? : List Char → Option (List Char)) : Prop :=
  ∀ cs said, read? cs = some said ↔ h.StartsWith cs said

/-- A header that opens on one line says what it says on this line. -/
theorem startsWith_row (hhead : h.Opens head) (hline : '\n' ∉ head) (hgives : h.Says rest said) :
    h.StartsWith ((head ++ rest).takeWhile (· != '\n')) said := by
  refine ⟨head, rest.takeWhile (· != '\n'), List.takeWhile_append_of_pos fun c hc => ?_, hhead,
    h.says_line.mpr hgives⟩
  rw [bne_iff_ne]
  rintro rfl
  exact hline hc

/-- What a header says on its line it says in the text. -/
theorem StartsWith.of_row (hrow : h.StartsWith (cs.takeWhile (· != '\n')) said) :
    h.StartsWith cs said := by
  obtain ⟨head, rest, hsplit, hhead, hgives⟩ := hrow
  have hstop : ∀ d ∈ (cs.dropWhile (· != '\n')).head?, (d != '\n') = false :=
    Text.head?_dropWhile_eq_false
  have hrest : ∀ c ∈ rest, (c != '\n') = true := by
    intro c hc
    have hmem : c ∈ cs.takeWhile (· != '\n') := hsplit ▸ List.mem_append_right head hc
    exact List.mem_takeWhile_imp (p := (· != '\n')) hmem
  refine ⟨head, rest ++ cs.dropWhile (· != '\n'), ?_, hhead, ?_⟩
  · rw [← List.append_assoc, ← hsplit, List.takeWhile_append_dropWhile]
  · rw [← h.says_line, Text.takeWhile_run hrest hstop]
    exact hgives

theorem mem_lines (hline : line ∈ lineStarts cs) :
    line.takeWhile (· != '\n') ∈ splitAt '\n' cs := by
  rw [Text.splitAt_lineFeed]
  exact List.mem_map_of_mem hline

/-- **What a header says stands on its line, or the header runs on.** -/
theorem onLine_or_runsOn (hline : line ∈ lineStarts cs) (hgives : h.StartsWith line said) :
    h.OnLine cs said ∨ h.RunsOn cs said := by
  obtain ⟨head, rest, rfl, hhead, hgives⟩ := hgives
  by_cases hlong : '\n' ∈ head
  · exact .inr ⟨_, hline, head, rest, rfl, hhead, hlong, hgives⟩
  · exact .inl ⟨_, mem_lines hline, startsWith_row hhead hlong hgives⟩

/-- **Where no header runs on, a text says what its lines say, each by itself.** -/
theorem findSome?_lines (hread : h.IsReadBy read?) (hruns : ∀ said, ¬ h.RunsOn cs said) :
    (lineStarts cs).findSome? read? = (splitAt '\n' cs).findSome? read? := by
  rw [Text.splitAt_lineFeed, List.findSome?_map]
  refine Text.findSome?_congr fun line hline => ?_
  rw [Function.comp_apply]
  ext said
  rw [hread, hread]
  refine ⟨fun ⟨head, rest, hsplit, hhead, hgives⟩ => ?_, .of_row⟩
  have hshort : '\n' ∉ head := fun hlong =>
    hruns said ⟨line, hline, head, rest, hsplit, hhead, hlong, hgives⟩
  rw [hsplit]
  exact startsWith_row hhead hshort hgives

end Header

/-! ### Reading headers -/

/-- Blanks that are passed over end where a text starts with none. -/
theorem dropWhile_isBlank_eq_iff (hrest : ∃ c ∈ rest.head?, isBlank c = false) :
    cs.dropWhile isBlank = rest ↔ ∃ gap, IsGap gap ∧ cs = gap ++ rest := by
  constructor
  · rintro rfl
    exact ⟨cs.takeWhile isBlank, fun _ => List.mem_takeWhile_imp,
      List.takeWhile_append_dropWhile.symm⟩
  · rintro ⟨gap, hgap, rfl⟩
    obtain ⟨c, hc, hsolid⟩ := hrest
    refine Text.dropWhile_run hgap fun d hd => ?_
    rwa [Option.mem_unique hd hc]

theorem behindBlanks?_eq_some_iff (hrest : ∃ c ∈ rest.head?, isBlank c = false) :
    behindBlanks? cs = some rest ↔ ∃ gap, (IsGap gap ∧ gap ≠ []) ∧ cs = gap ++ rest := by
  cases cs with
  | nil =>
      refine ⟨nofun, fun ⟨gap, ⟨_, hne⟩, hsplit⟩ => ?_⟩
      exact absurd (List.append_eq_nil_iff.mp hsplit.symm).1 hne
  | cons c cs =>
      rw [behindBlanks?]
      split
      · rename_i hc
        rw [Option.some.injEq, dropWhile_isBlank_eq_iff hrest]
        constructor
        · rintro ⟨gap, hgap, rfl⟩
          exact ⟨c :: gap, ⟨List.forall_mem_cons.mpr ⟨hc, hgap⟩, List.cons_ne_nil _ _⟩, rfl⟩
        · rintro ⟨gap, ⟨hgap, hne⟩, hsplit⟩
          obtain ⟨d, gap, rfl⟩ := List.exists_cons_of_ne_nil hne
          exact ⟨gap, (List.forall_mem_cons.mp hgap).2, (List.cons.inj hsplit).2⟩
      · rename_i hc
        refine ⟨nofun, fun ⟨gap, ⟨hgap, hne⟩, hsplit⟩ => ?_⟩
        obtain ⟨d, gap, rfl⟩ := List.exists_cons_of_ne_nil hne
        rw [(List.cons.inj hsplit).1] at hc
        exact absurd (hgap d List.mem_cons_self) hc

/-- The domain of a scope header at the front of a text. -/
def headerAt? (cs : List Char) : Option (List Char) := do
  wordAt? ((← behind? "INTENT-SCOPE:".toList cs).dropWhile isBlank)

/-- The domain of a scope command at the front of a text. -/
def commandAt? (cs : List Char) : Option (List Char) := do
  let cs ← behindBlanks? (← behind? "/intent".toList cs)
  wordAt? (← behindBlanks? (← behind? "scope".toList cs))

/-- What a tag header at the front of a text lists. -/
def listAt? (cs : List Char) : Option (List Char) := do
  match (← behind? "INTENT-TAGS:".toList cs).dropWhile isBlank with
  | [] => none
  | listed => some (listed.takeWhile (· != '\n'))

theorem headerDomain?_eq (body : List Char) :
    headerDomain? body = (lineStarts body).findSome? headerAt? := rfl

theorem commandDomain?_eq (body : List Char) :
    commandDomain? body = (lineStarts body).findSome? commandAt? := rfl

theorem tagList?_eq (body : List Char) :
    tagList? body = (lineStarts body).findSome? listAt? := rfl

/-- Behind the words that open it a header says what stands behind the blanks. -/
theorem Header.isReadBy_of_words {h : Header} {words : List Char}
    {read? : List Char → Option (List Char)}
    (hopens : ∀ head, h.Opens head ↔ ∃ gap, IsGap gap ∧ head = words ++ gap)
    (hread : ∀ cs said, read? cs = some said ↔
      ∃ after, behind? words cs = some after ∧ h.Says (after.dropWhile isBlank) said) :
    h.IsReadBy read? := by
  intro cs said
  rw [hread]
  constructor
  · rintro ⟨after, hafter, hgives⟩
    obtain ⟨gap, hgap, hsplit⟩ := (dropWhile_isBlank_eq_iff (h.solid hgives)).mp rfl
    rw [Text.behind?_eq_some_iff] at hafter
    refine ⟨words ++ gap, _, ?_, (hopens _).mpr ⟨gap, hgap, rfl⟩, hgives⟩
    rw [List.append_assoc, ← hsplit]
    exact hafter
  · rintro ⟨head, rest, rfl, hhead, hgives⟩
    obtain ⟨gap, hgap, rfl⟩ := (hopens head).mp hhead
    refine ⟨gap ++ rest, Text.behind?_eq_some_iff.mpr (List.append_assoc _ _ _), ?_⟩
    rwa [(dropWhile_isBlank_eq_iff (h.solid hgives)).mpr ⟨gap, hgap, rfl⟩]

theorem isReadBy_headerAt? : scopeHeader.IsReadBy headerAt? := by
  refine Header.isReadBy_of_words (fun _ => Iff.rfl) fun cs said => ?_
  rw [headerAt?, Option.bind_eq_bind, Option.bind_eq_some_iff]
  exact exists_congr fun after => and_congr_right fun _ => wordAt?_eq_some_iff

theorem isReadBy_listAt? : tagHeader.IsReadBy listAt? := by
  refine Header.isReadBy_of_words (fun _ => Iff.rfl) fun cs said => ?_
  rw [listAt?, Option.bind_eq_bind, Option.bind_eq_some_iff]
  refine exists_congr fun after => and_congr_right fun _ => ?_
  split
  · rename_i hnil
    refine ⟨nofun, fun h => ?_⟩
    obtain ⟨c, hc, -⟩ := h.solid
    rw [hnil] at hc
    cases hc
  · rename_i hne
    obtain ⟨c, rest, hrest⟩ := List.exists_cons_of_ne_nil hne
    rw [Option.some.injEq, eq_comm]
    refine ⟨fun h => ⟨⟨c, by rw [hrest]; rfl, ?_⟩, h⟩, fun h => h.line⟩
    exact Text.head?_dropWhile_eq_false c (by rw [hrest]; rfl)

theorem isReadBy_commandAt? : scopeCommand.IsReadBy commandAt? := by
  intro cs said
  have hscope (rest : List Char) : ∃ c ∈ ("scope".toList ++ rest).head?, isBlank c = false :=
    ⟨'s', rfl, by decide⟩
  simp only [commandAt?, Option.bind_eq_bind, Option.bind_eq_some_iff]
  constructor
  · rintro ⟨after, hafter, scope, hscope', word, hword, rest, hrest, hsaid⟩
    have hgives := wordAt?_eq_some_iff.mp hsaid
    rw [Text.behind?_eq_some_iff] at hafter hword
    subst hword
    obtain ⟨gap, hgap, rfl⟩ := (behindBlanks?_eq_some_iff (hscope word)).mp hscope'
    obtain ⟨gap', hgap', rfl⟩ := (behindBlanks?_eq_some_iff hgives.head_solid).mp hrest
    refine ⟨_, rest, ?_, ⟨gap, gap', hgap, hgap', rfl⟩, hgives⟩
    simp only [hafter, List.append_assoc]
  · rintro ⟨_, rest, rfl, ⟨gap, gap', hgap, hgap', rfl⟩, hgives⟩
    have hsplit : "/intent".toList ++ (gap ++ ("scope".toList ++ gap')) ++ rest =
        "/intent".toList ++ (gap ++ ("scope".toList ++ (gap' ++ rest))) := by
      simp only [List.append_assoc]
    exact ⟨_, Text.behind?_eq_some_iff.mpr hsplit, _,
      (behindBlanks?_eq_some_iff (hscope _)).mpr ⟨gap, hgap, rfl⟩, _,
      Text.behind?_eq_some_iff.mpr rfl, rest,
      (behindBlanks?_eq_some_iff (scopeCommand.solid hgives)).mpr ⟨gap', hgap', rfl⟩,
      wordAt?_eq_some_iff.mpr hgives⟩

end ChangeGate.Scope
