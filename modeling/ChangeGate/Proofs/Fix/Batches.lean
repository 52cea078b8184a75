import ChangeGate.Proofs.Fix.Insertion
import ChangeGate.Proofs.Starter.Specification

/-! # Globs that come in batches

A file that shows the place for globs shows it again when globs are added: the block that was found
is found at the same brace (`behindUnmapped?_of_found`), and a block that is added is the first one
(`showsPlace_insertChars`).  A starter architecture shows the place to begin with
(`showsPlace_architecture`), so it can be given any number of batches.

`read_batches`: it is then read as it was, with the last batch in front. -/

namespace ChangeGate

/-- A system with batches of globs for files without a domain, the last batch in front. -/
def Architecture.withBatches (s : Architecture) (batches : List (List String)) : Architecture :=
  if batches = [] then s else s.withUnmapped batches.reverse.flatten

namespace Fix

open Token Architecture
open Text (behindLineFeeds behindLineFeeds_append behindLineFeeds_line findSome?_eq_map
  lineStarts)
open Starter (HasPlainBlock architecture blocksText headerText laidOut_blocks laidOut_header specified)

variable {content front rest more cs line : List Char} {brace : Char} {globs : List String}
  {s : Architecture}

/-! ### Blocks that are found in front of a brace -/

theorem not_mem_opening (hbrace : brace = '\x7b' ∨ brace = '\x7d') {blanks : List Char}
    (hblanks : ∀ c ∈ blanks, Text.isBlank c = true) : brace ∉ opening blanks := by
  intro hmem
  have hnot : brace ∉ blanks := by
    intro hmem
    rcases hbrace with rfl | rfl <;> exact absurd (hblanks _ hmem) (by decide)
  unfold opening at hmem
  repeat rw [String.toList_ofList] at hmem
  rcases hbrace with rfl | rfl <;> simp [hnot] at hmem

theorem opened?_opening (more : List Char) :
    opened? (opening [' '] ++ '\x7b' :: more) = some more :=
  opened?_eq_some_iff.mpr ⟨[' '], by simp [Text.isBlank], rfl⟩

/-- What stands behind a brace has no say in whether a block is opened in front of it. -/
theorem opened?_append (hbrace : brace = '\x7b' ∨ brace = '\x7d') (front more : List Char) :
    opened? (front ++ brace :: more) = (opened? (front ++ [brace])).map (· ++ more) := by
  ext rest
  rw [Option.map_eq_some_iff, opened?_eq_some_iff]
  constructor
  · rintro ⟨blanks, hblanks, hsplit⟩
    have hnot := not_mem_opening hbrace hblanks
    rcases List.append_eq_append_iff.mp hsplit with ⟨mid, hopening, hmid⟩ | ⟨mid, rfl, hmid⟩
    · cases mid with
      | nil =>
          obtain ⟨rfl, rfl⟩ := List.cons.inj hmid
          refine ⟨[], opened?_eq_some_iff.mpr ⟨blanks, hblanks, ?_⟩, rfl⟩
          rw [hopening, List.append_nil]
      | cons c mid =>
          obtain ⟨rfl, -⟩ := List.cons.inj hmid
          exact absurd (hopening ▸ by simp) hnot
    · cases mid with
      | nil =>
          obtain ⟨rfl, rfl⟩ := List.cons.inj hmid
          refine ⟨[], opened?_eq_some_iff.mpr ⟨blanks, hblanks, ?_⟩, rfl⟩
          rw [List.append_nil]
      | cons c mid =>
          obtain ⟨rfl, rfl⟩ := List.cons.inj hmid
          refine ⟨mid ++ [brace], opened?_eq_some_iff.mpr ⟨blanks, hblanks, ?_⟩, by simp⟩
          simp
  · rintro ⟨rest, h, rfl⟩
    obtain ⟨blanks, hblanks, hsplit⟩ := opened?_eq_some_iff.mp h
    refine ⟨blanks, hblanks, ?_⟩
    rw [List.append_cons, hsplit]
    simp

/-- A block `Unmapped` is opened by the word `domain`. -/
theorem opened?_of_head (h : cs.head? ≠ some 'd') : opened? cs = none := by
  refine Option.eq_none_iff_forall_ne_some.mpr fun rest hrest => ?_
  obtain ⟨blanks, -, rfl⟩ := opened?_eq_some_iff.mp hrest
  unfold opening at h
  rw [String.toList_ofList] at h
  exact h rfl

/-- A block is found in front of a brace, or else behind it. -/
theorem behindUnmapped?_append (hbrace : brace = '\x7b' ∨ brace = '\x7d') (front more : List Char) :
    behindUnmapped? (front ++ brace :: more) =
      ((behindUnmapped? (front ++ [brace])).map (· ++ more)).or
        ((behindLineFeeds more).findSome? opened?) := by
  have hline : ∀ line ∈ lineStarts (front ++ [brace]), ∃ front', line = front' ++ [brace] := by
    intro line hline
    rcases Text.split_of_mem_lineStarts hline with rfl | ⟨front', hsplit⟩
    · exact ⟨front, rfl⟩
    · have hne : line ≠ [] := by
        rintro rfl
        obtain ⟨-, hlast⟩ := List.append_inj' hsplit rfl
        rcases hbrace with rfl | rfl <;> cases hlast
      refine ⟨line.dropLast, ?_⟩
      have hlast : (front ++ [brace]).getLast? = (front' ++ '\n' :: line).getLast? := by
        rw [hsplit]
      rw [List.getLast?_concat, List.getLast?_append, List.getLast?_cons,
        List.getLast?_eq_some_getLast hne] at hlast
      obtain rfl : brace = line.getLast hne := by simpa using hlast
      exact (List.dropLast_append_getLast hne).symm
  have hstarts : lineStarts (front ++ brace :: more) =
      (lineStarts (front ++ [brace])).map (· ++ more) ++ behindLineFeeds more := by
    rw [lineStarts, List.append_cons, behindLineFeeds_append, lineStarts, List.map_cons,
      List.cons_append]
  rw [behindUnmapped?_eq, behindUnmapped?_eq, hstarts, List.findSome?_append, List.findSome?_map]
  refine congrArg (Option.or · _) (findSome?_eq_map fun line hmem => ?_)
  obtain ⟨front', rfl⟩ := hline line hmem
  rw [Function.comp_apply, List.append_assoc, List.singleton_append, opened?_append hbrace]

/-- A block that is found at a brace is found there whatever follows. -/
theorem behindUnmapped?_of_found (h : behindUnmapped? (front ++ '\x7b' :: rest) = some rest)
    (more : List Char) : behindUnmapped? (front ++ '\x7b' :: more) = some more := by
  rw [behindUnmapped?_append (.inl rfl)] at h ⊢
  cases hfront : behindUnmapped? (front ++ ['\x7b']) with
  | some rest' =>
      rw [hfront] at h
      obtain rfl : rest' = [] := by simpa using h
      rfl
  | none =>
      rw [hfront] at h
      obtain ⟨line, hline, hopened⟩ := List.exists_of_findSome?_eq_some h
      obtain ⟨blanks, -, rfl⟩ := opened?_eq_some_iff.mp hopened
      rcases Text.split_of_mem_lineStarts (List.mem_cons_of_mem rest hline) with hrest | ⟨f, hrest⟩
      · have hlength := congrArg List.length hrest
        simp at hlength
        omega
      · have hlength := congrArg List.length hrest
        simp at hlength
        omega

/-- A block that is added behind a brace is the first one, if there was none. -/
theorem behindUnmapped?_of_added (h : behindUnmapped? (front ++ '\x7d' :: rest) = none)
    (more : List Char) :
    behindUnmapped? (front ++ '\x7d' :: '\n' :: '\n' :: (opening [' '] ++ '\x7b' :: more)) =
      some more := by
  rw [behindUnmapped?_append (.inr rfl), Option.or_eq_none_iff] at h
  have hopened := opened?_opening more
  have hempty : opened? ('\n' :: (opening [' '] ++ '\x7b' :: more)) = none :=
    opened?_of_head nofun
  have hlines : behindLineFeeds ('\n' :: '\n' :: (opening [' '] ++ '\x7b' :: more)) =
      ('\n' :: (opening [' '] ++ '\x7b' :: more)) ::
        lineStarts (opening [' '] ++ '\x7b' :: more) := by
    rw [behindLineFeeds, if_pos rfl, behindLineFeeds, if_pos rfl, lineStarts]
  rw [behindUnmapped?_append (.inr rfl), Option.map_eq_none_iff.mp h.1, hlines,
    List.findSome?_cons, hempty, lineStarts, List.findSome?_cons, hopened]
  rfl

/-! ### Showing the place again -/

theorem isSome_of_spells {ss : List Sign} {breaks : Bool} (h : Spells false content ss breaks []) :
    (scan (.ofList content)).toOption.isSome = true := by
  obtain ⟨ts, last, -, hscan⟩ := h.scanFrom_eq_ok .start
  have hscan' : scan (.ofList content) = .ok (ts, last) := by
    rw [scan, String.toList_ofList]
    exact hscan
  rw [hscan']
  rfl

/-- The opening of an added block is spelled. -/
theorem spells_opened (more : List Char) :
    ∃ ss, Spells false (opening [' '] ++ '\x7b' :: more) ss true more := by
  have hblank : ∀ c ∈ [' '], Text.isBlank c = true := by simp [Text.isBlank]
  have hspace : ∀ c ∈ [' '], isSpace c = true ∨ c = '\n' := by simp [isSpace]
  obtain ⟨gap, -, hbrace⟩ := spells_blanks hspace
  exact ⟨_, (spells_words hblank false more).trans (hbrace more)⟩

theorem showsPlace_of_opened (h : behindUnmapped? (front ++ '\x7b' :: rest) = some rest) :
    ShowsPlace (front ++ '\x7b' :: rest) s ↔
      (scan (.ofList (front ++ ['\x7b']))).toOption.isSome = true := by
  rw [showsPlace_of_found h, take_behind]

theorem blockText_unmapped (globs : List String) :
    blockText "Unmapped" globs =
      opening [' '] ++ '\x7b' :: '\n' :: (globsLine globs ++ "\x7d\n".toList) := by
  unfold blockText opening
  repeat rw [String.toList_ofList]
  simp

/-- **A file shows the place for globs again when globs are added.** -/
theorem showsPlace_insertChars {file : String}
    (hread : Architecture.read (.ofList content) file = .ok s) (hplace : ShowsPlace content s)
    (hne : globs ≠ []) (s' : Architecture) : ShowsPlace (insertChars content globs) s' := by
  cases hfound : behindUnmapped? content with
  | some rest =>
      obtain ⟨front, blanks, rfl, -, -⟩ := behindUnmapped?_eq_some hfound
      rw [← List.append_assoc] at hfound hplace ⊢
      rw [insertChars_of_found hne hfound, take_behind, List.append_assoc, List.singleton_append,
        showsPlace_of_opened (behindUnmapped?_of_found hfound _)]
      exact (showsPlace_of_opened hfound).mp hplace
  | none =>
      obtain ⟨inside, rest, rfl, hrest, hlast⟩ := exists_lastBrace hread
      obtain ⟨ts, breaks, hderives, hspells⟩ := derives_of_read hread
      obtain ⟨before, c, after, rfl, ⟨hc, hend⟩, -⟩ := hderives.concat
      obtain ⟨mid, _, _, hfront, -, -⟩ := spells_lastBlock hspells hrest hc hend
      obtain ⟨_, hopened⟩ := spells_opened []
      have htext : insertChars (inside ++ '\x7d' :: rest) globs =
          inside ++ '\x7d' :: '\n' :: '\n' :: (opening [' '] ++ '\x7b' ::
            '\n' :: (globsLine globs ++ ("\x7d\n".toList ++ rest))) := by
        rw [insertChars_of_missing hne hfound hlast, block, blockText_unmapped]
        simp only [List.append_assoc, List.cons_append, List.nil_append]
      have hfound' := behindUnmapped?_of_added hfound
        ('\n' :: (globsLine globs ++ ("\x7d\n".toList ++ rest)))
      have hsplit (more : List Char) :
          inside ++ '\x7d' :: '\n' :: '\n' :: (opening [' '] ++ '\x7b' :: more) =
            ((inside ++ ['\x7d']) ++ '\n' :: '\n' :: opening [' ']) ++ '\x7b' :: more := by
        simp
      rw [hsplit] at hfound'
      rw [htext, hsplit, showsPlace_of_opened hfound', List.append_assoc]
      exact isSome_of_spells ((hfront.behind_lineFeed _).trans (.lineEnd (.lineEnd hopened)))

/-! ### Lines that open no block -/

/-- Lines in which no block `Unmapped` is found. -/
def PassedOver (cs : List Char) : Prop :=
  ∀ more, behindUnmapped? (cs ++ more) = behindUnmapped? more

theorem PassedOver.append {ds : List Char} (h : PassedOver cs) (h' : PassedOver ds) :
    PassedOver (cs ++ ds) := fun more => by
  rw [List.append_assoc, h, h']

theorem passedOver_flatMap {α : Type} {f : α → List Char} {xs : List α}
    (h : ∀ x ∈ xs, PassedOver (f x)) : PassedOver (xs.flatMap f) := by
  induction xs with
  | nil => exact fun _ => rfl
  | cons x xs ih =>
      obtain ⟨hx, hxs⟩ := List.forall_mem_cons.mp h
      exact hx.append (ih hxs)

theorem passedOver_line (hline : '\n' ∉ line) (h : ∀ more, opened? (line ++ '\n' :: more) = none) :
    PassedOver (line ++ ['\n']) := by
  intro more
  rw [List.append_assoc, List.singleton_append, behindUnmapped?_eq, lineStarts,
    behindLineFeeds_line hline, List.findSome?_cons, h, behindUnmapped?_eq]

theorem passedOver_line_of_head (hline : '\n' ∉ line) (h : (line ++ ['\n']).head? ≠ some 'd') :
    PassedOver (line ++ ['\n']) :=
  passedOver_line hline fun more => opened?_of_head (by cases line <;> exact h)

theorem passedOver_lineFeed : PassedOver ['\n'] :=
  passedOver_line_of_head List.not_mem_nil (by decide)

/-- The words in front of two texts that go on with no character of a word are the same. -/
theorem word_eq_of_append_eq {word word' rest rest' : List Char} (hword : IsWord word)
    (hword' : IsWord word') (hrest : ∀ c ∈ rest.head?, continuesName c = false)
    (hrest' : ∀ c ∈ rest'.head?, continuesName c = false) (h : word ++ rest = word' ++ rest') :
    word = word' := by
  have htake {word rest : List Char} (hword : IsWord word)
      (hrest : ∀ c ∈ rest.head?, continuesName c = false) :
      (word ++ rest).takeWhile continuesName = word := by
    obtain ⟨hc, hcs⟩ := hword
    exact Text.takeWhile_run (List.forall_mem_cons.mpr ⟨continuesName_of_startsName hc, hcs⟩) hrest
  rw [← htake hword hrest, h, htake hword' hrest']

/-- A domain of another name opens no block `Unmapped`. -/
theorem opened?_domain {name : String} (hname : IsWord name.toList) (hne : name ≠ "Unmapped")
    (more : List Char) : opened? ("domain ".toList ++ (name.toList ++ ' ' :: more)) = none := by
  refine Option.eq_none_iff_forall_ne_some.mpr fun rest hrest => hne (String.toList_inj.mp ?_)
  obtain ⟨blanks, hblanks, hsplit⟩ := opened?_eq_some_iff.mp hrest
  have hdomain (cs : List Char) : "domain ".toList ++ cs = "domain".toList ++ ' ' :: cs := by
    repeat rw [String.toList_ofList]
    rfl
  rw [opening_append, hdomain] at hsplit
  have hnames := List.tail_eq_of_cons_eq (List.append_cancel_left hsplit)
  refine word_eq_of_append_eq hname (by decide) (fun c hc => by cases hc; rfl) (fun c hc => ?_)
    hnames
  cases blanks with
  | nil =>
      cases hc
      rfl
  | cons b blanks =>
      cases hc
      exact continuesName_of_isBlank (hblanks _ List.mem_cons_self)

theorem not_mem_globsText (h : ∀ g ∈ globs, '\n' ∉ g.toList) : '\n' ∉ globsText globs := by
  intro hmem
  rw [globsText, String.toList_intercalate] at hmem
  rcases Text.mem_intercalate hmem with hsep | ⟨cs, hcs, hmem⟩
  · exact absurd hsep (by decide)
  · rw [List.map_map, List.mem_map] at hcs
    obtain ⟨g, hg, rfl⟩ := hcs
    rw [Function.comp_apply, String.toList_append, String.toList_append] at hmem
    simp [h g hg] at hmem

/-- The block of another domain is passed over. -/
theorem passedOver_block {name : String} (hname : IsWord name.toList) (hne : name ≠ "Unmapped")
    (hglobs : ∀ g ∈ globs, '\n' ∉ g.toList) : PassedOver ('\n' :: blockText name globs) := by
  have htext : '\n' :: blockText name globs = ['\n'] ++
      (("domain ".toList ++ (name.toList ++ [' ', '\x7b']) ++ ['\n']) ++
        (("  paths allow ".toList ++ globsText globs ++ ['\n']) ++ (['\x7d'] ++ ['\n']))) := by
    unfold blockText globsLine
    repeat rw [String.toList_ofList]
    simp
  rw [htext]
  refine passedOver_lineFeed.append ((passedOver_line ?_ fun more => ?_).append
    ((passedOver_line_of_head ?_ ?_).append (passedOver_line_of_head ?_ ?_)))
  · rw [List.mem_append, not_or, List.mem_append, not_or]
    exact ⟨by decide, hname.not_mem rfl, by decide⟩
  · rw [List.append_assoc, List.append_assoc]
    exact opened?_domain hname hne _
  · rw [List.mem_append, not_or]
    exact ⟨by decide, not_mem_globsText hglobs⟩
  · rw [String.toList_ofList]
    simp
  · decide
  · nofun

theorem passedOver_blocks {ds : List Domain} (h : ∀ d ∈ ds, HasPlainBlock d)
    (hlines : ∀ d ∈ ds, ∀ g ∈ d.allow, '\n' ∉ g.toList) (hne : "Unmapped" ∉ ds.map (·.name)) :
    PassedOver (blocksText ds) :=
  passedOver_flatMap fun d hd => passedOver_block (h d hd).name.word
    (fun heq => hne (heq ▸ List.mem_map_of_mem hd)) (hlines d hd)

theorem passedOver_header {name policy : String} (hname : IsWord name.toList)
    (hpolicy : '\n' ∉ policy.toList) : PassedOver (headerText name policy) := by
  have htext : headerText name policy = ("intent 2.0".toList ++ ['\n']) ++ (['\n'] ++
      (("system ".toList ++ name.toList ++ ['\n']) ++ (['\n'] ++
        ("import \"".toList ++ (policy.toList ++ ['"']) ++ ['\n'])))) := by
    unfold headerText
    repeat rw [String.toList_ofList]
    simp
  rw [htext]
  refine (passedOver_line_of_head (by decide) (by decide)).append (passedOver_lineFeed.append
    ((passedOver_line_of_head ?_ ?_).append (passedOver_lineFeed.append
      (passedOver_line_of_head ?_ ?_))))
  · rw [List.mem_append, not_or]
    exact ⟨by decide, hname.not_mem rfl⟩
  · rw [String.toList_ofList]
    simp
  · rw [List.mem_append, not_or, List.mem_append, not_or]
    exact ⟨by decide, hpolicy, by decide⟩
  · rw [String.toList_ofList]
    simp

/-! ### Starter architectures -/

section

variable {name policy : String} {ds : List Domain}

/-- The last block ends in a closing brace on a line of its own. -/
theorem exists_blocksText_eq (hne : ds ≠ []) :
    ∃ front, blocksText ds = front ++ '\x7d' :: ['\n'] := by
  obtain ⟨others, d, rfl⟩ := (List.eq_nil_or_concat ds).resolve_left hne
  have hclosing (cs ds : List Char) : cs ++ (ds ++ "\x7d\n".toList) = (cs ++ ds) ++ ['\x7d', '\n'] := by
    rw [String.toList_ofList, List.append_assoc]
  obtain ⟨front, hfront⟩ : ∃ front, blockText d.name d.allow = front ++ '\x7d' :: ['\n'] :=
    ⟨_, hclosing _ _⟩
  refine ⟨blocksText others ++ ('\n' :: front), ?_⟩
  rw [List.concat_eq_append, blocksText, List.flatMap_append, List.flatMap_singleton, hfront,
    ← blocksText, List.append_assoc, List.cons_append]

theorem behindUnmapped?_opening (more : List Char) :
    behindUnmapped? (opening [' '] ++ '\x7b' :: more) = some more := by
  rw [behindUnmapped?_eq, lineStarts, List.findSome?_cons, opened?_opening]

variable (hname : IsWord name.toList) (hpolicy : Plain [policy]) (hpolicyLine : '\n' ∉ policy.toList)
  (hne : ds ≠ []) (h : ∀ d ∈ ds, HasPlainBlock d)
  (hlines : ∀ d ∈ ds, ∀ g ∈ d.allow, '\n' ∉ g.toList) (hnames : (ds.map (·.name)).Nodup)

include hname hpolicy hpolicyLine hne h hlines hnames

/-- A starter architecture shows the place for globs. -/
theorem showsPlace_architecture :
    ShowsPlace (headerText name policy ++ blocksText ds) (specified name policy ds) := by
  have hheader := passedOver_header hname hpolicyLine
  by_cases hmem : "Unmapped" ∈ ds.map (·.name)
  · obtain ⟨d, hd, hdname⟩ := List.mem_map.mp hmem
    obtain ⟨before, after, rfl⟩ := List.append_of_mem hd
    rw [List.forall_mem_append] at h hlines
    rw [List.map_append, List.map_cons, List.nodup_middle, List.nodup_cons, hdname, List.mem_append,
      not_or] at hnames
    have hbefore := passedOver_blocks h.1 hlines.1 hnames.1.1
    have hspells := ((laidOut_header hname hpolicy).append (laidOut_blocks h.1)).spells
    obtain ⟨_, hopened⟩ := spells_opened []
    generalize hmore : '\n' :: (globsLine d.allow ++ "\x7d\n".toList) ++ blocksText after = more
    have htext : headerText name policy ++ blocksText (before ++ d :: after) =
        (headerText name policy ++ blocksText before ++ '\n' :: opening [' ']) ++ '\x7b' :: more := by
      rw [blocksText, List.flatMap_append, List.flatMap_cons, hdname, blockText_unmapped, ← hmore]
      simp [blocksText]
    have hfound : behindUnmapped? ((headerText name policy ++ blocksText before ++
        '\n' :: opening [' ']) ++ '\x7b' :: more) = some more := by
      have hskipped := ((hheader.append hbefore).append passedOver_lineFeed) (opening [' '] ++ '\x7b' :: more)
      rw [behindUnmapped?_opening] at hskipped
      simpa using hskipped
    rw [htext, showsPlace_of_opened hfound, List.append_assoc]
    exact isSome_of_spells ((hspells _).trans (.lineEnd hopened))
  · have hnone : behindUnmapped? (headerText name policy ++ blocksText ds) = none := by
      have hskipped := (hheader.append (passedOver_blocks h hlines hmem)) []
      rwa [List.append_nil] at hskipped
    refine (showsPlace_of_missing hnone).mpr ⟨hmem, fun split hsplit => ?_⟩
    obtain ⟨front, hfront⟩ := exists_blocksText_eq hne
    rw [hfront, ← List.append_assoc, splitLastBrace?_append _ (by decide)] at hsplit
    obtain rfl := Option.some.inj hsplit
    have hscan : (scan (.ofList ['\n'])).toOption.any (·.1.isEmpty) = true := by decide +kernel
    exact hscan

end

/-! ### One batch after another -/

theorem withUnmapped_withUnmapped (s : Architecture) (globs globs' : List String) :
    (s.withUnmapped globs).withUnmapped globs' = s.withUnmapped (globs' ++ globs) := by
  by_cases hmem : "Unmapped" ∈ s.domains.map (·.name)
  · have hmem' : "Unmapped" ∈ (s.withUnmapped globs).domains.map (·.name) := by
      rwa [names_withUnmapped hmem]
    have hdomains : (s.withUnmapped globs).domains = s.domains.map fun d =>
        if d.name = "Unmapped" then { d with allow := globs ++ d.allow } else d := if_pos hmem
    rw [withUnmapped, if_pos hmem', hdomains, withUnmapped, withUnmapped, if_pos hmem, if_pos hmem,
      List.map_map]
    refine congrArg (fun ds => { s with domains := ds }) (List.map_congr_left fun d _ => ?_)
    by_cases hname : d.name = "Unmapped" <;> simp [hname]
  · have hdomains : (s.withUnmapped globs).domains = s.domains ++ [⟨"Unmapped", globs, []⟩] :=
      if_neg hmem
    have hmem' : "Unmapped" ∈ (s.withUnmapped globs).domains.map (·.name) := by simp [hdomains]
    have hother : ∀ d ∈ s.domains,
        (if d.name = "Unmapped" then { d with allow := globs' ++ d.allow } else d) = d := by
      intro d hd
      have hname : d.name ≠ "Unmapped" := fun heq => hmem (heq ▸ List.mem_map_of_mem hd)
      rw [if_neg hname]
    rw [withUnmapped, if_pos hmem', hdomains, List.map_append, List.map_congr_left hother,
      List.map_id', withUnmapped, withUnmapped, if_neg hmem, if_neg hmem]
    rfl

theorem withBatches_concat (s : Architecture) (batches : List (List String)) (globs : List String) :
    s.withBatches (batches ++ [globs]) = (s.withBatches batches).withUnmapped globs := by
  rw [withBatches, if_neg (by simp), withBatches, List.reverse_append, List.reverse_singleton,
    List.singleton_append, List.flatten_cons]
  split
  · rename_i hnil
    rw [hnil, List.reverse_nil, List.flatten_nil, List.append_nil]
  · rw [withUnmapped_withUnmapped]

/-- A file that globs can be added to: it is read as a system without problems and shows the place
for them. -/
structure TakesGlobs (content : String) (s : Architecture) : Prop where
  read (file : String) : Architecture.read content file = .ok s
  sound : s.Sound
  place : ShowsPlace content.toList s

theorem TakesGlobs.insert {content : String} (h : TakesGlobs content s) (hne : globs ≠ [])
    (hplain : Plain globs) : TakesGlobs (insert content globs) (s.withUnmapped globs) := by
  have hread (file : String) : Architecture.read (.ofList content.toList) file = .ok s := by
    rw [content.ofList_toList]
    exact h.read file
  refine ⟨read_insertChars (hread "") h.sound h.place hne hplain,
    sound_withUnmapped h.sound hne, ?_⟩
  rw [Fix.insert, String.toList_ofList]
  exact showsPlace_insertChars (hread "") h.place hne _

theorem TakesGlobs.batches {content : String} (h : TakesGlobs content s)
    {batches : List (List String)} (hbatches : ∀ globs ∈ batches, globs ≠ [] ∧ Plain globs) :
    TakesGlobs (batches.foldl Fix.insert content) (s.withBatches batches) := by
  induction batches using List.reverseRecOn with
  | nil => exact h
  | append_singleton batches globs ih =>
      obtain ⟨hbefore, hlast⟩ := List.forall_mem_append.mp hbatches
      obtain ⟨hne, hplain⟩ := hlast globs (List.mem_singleton_self globs)
      rw [List.foldl_append, List.foldl_cons, List.foldl_nil, withBatches_concat]
      exact (ih hbefore).insert hne hplain

section

variable {name policy : String} {ds : List Domain}

/-- **A starter architecture takes any number of batches of globs.**  The file that is left is read
as the architecture with the globs of all batches, the last batch in front, before those that
`Unmapped` was given; everything else is what it was, and the system has no problems. -/
theorem read_batches (hname : IsWord name.toList) (hpolicy : Plain [policy])
    (hpolicyLine : '\n' ∉ policy.toList) (hne : ds ≠ []) (h : ∀ d ∈ ds, HasPlainBlock d)
    (hlines : ∀ d ∈ ds, ∀ g ∈ d.allow, '\n' ∉ g.toList) (hnames : (ds.map (·.name)).Nodup)
    {batches : List (List String)} (hbatches : ∀ globs ∈ batches, globs ≠ [] ∧ Plain globs)
    (file : String) :
    Architecture.read (batches.foldl insert (architecture name ds policy)) file =
        .ok ((specified name policy ds).withBatches batches) ∧
      ((specified name policy ds).withBatches batches).problems = [] := by
  have hstarter : TakesGlobs (architecture name ds policy) (specified name policy ds) := by
    refine ⟨Starter.read_architecture hname hne h hpolicy,
      problems_eq_nil_iff.mp (Starter.problems_specified hname hne h hnames), ?_⟩
    rw [Starter.toList_architecture name policy hne]
    exact showsPlace_architecture hname hpolicy hpolicyLine hne h hlines hnames
  have hfilled := hstarter.batches hbatches
  exact ⟨hfilled.read file, problems_eq_nil_iff.mpr hfilled.sound⟩

/-- A domain `Unmapped` that is drafted keeps its globs behind those of the batches, and a glob may
look like the opening of a block. -/
theorem read_batches_drafted :
    IsWord "system".toList ∧
    Architecture.read ([["a/**"], ["domain Unmapped \x7b", "b"]].foldl insert
        (architecture "system" [⟨"Src", ["src/**"], []⟩, ⟨"Unmapped", ["u"], []⟩] "p/d.intent")) =
      .ok ⟨"2.0", "system", [⟨"Src", ["src/**"], []⟩,
        ⟨"Unmapped", ["domain Unmapped \x7b", "b", "a/**", "u"], []⟩], ["p/d.intent"]⟩ := by
  have hname : IsWord "system".toList := by decide
  have hplain : Plain ["p/d.intent"] ∧ Plain ["src/**"] ∧ Plain ["u"] ∧ Plain ["a/**"] ∧
      Plain ["domain Unmapped \x7b", "b"] := by
    unfold Plain
    decide
  obtain ⟨hpolicy, hsrc, hunmapped, hfirst, hsecond⟩ := hplain
  have hsrcName : IsName "Src" := by decide
  have hunmappedName : IsName "Unmapped" := by decide
  have hblocks : ∀ d ∈ ([⟨"Src", ["src/**"], []⟩, ⟨"Unmapped", ["u"], []⟩] : List Domain),
      HasPlainBlock d := by
    simp only [List.forall_mem_cons, List.not_mem_nil, false_imp_iff, implies_true, and_true]
    exact ⟨⟨hsrcName, List.cons_ne_nil _ _, hsrc, rfl⟩,
      ⟨hunmappedName, List.cons_ne_nil _ _, hunmapped, rfl⟩⟩
  have hlines : ∀ d ∈ ([⟨"Src", ["src/**"], []⟩, ⟨"Unmapped", ["u"], []⟩] : List Domain),
      ∀ g ∈ d.allow, '\n' ∉ g.toList := by decide
  have hbatches : ∀ globs ∈ [["a/**"], ["domain Unmapped \x7b", "b"]],
      globs ≠ [] ∧ Plain globs := by
    simp only [List.forall_mem_cons, List.not_mem_nil, false_imp_iff, implies_true, and_true]
    exact ⟨⟨List.cons_ne_nil _ _, hfirst⟩, ⟨List.cons_ne_nil _ _, hsecond⟩⟩
  have hread := (read_batches hname hpolicy (by decide) (List.cons_ne_nil _ _) hblocks
    hlines (by decide) hbatches "system.intent").1
  exact ⟨hname, hread⟩

end

end Fix

end ChangeGate
