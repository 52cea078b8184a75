import ChangeGate.Fix.Globs
import ChangeGate.Proofs.Architecture.Check
import ChangeGate.Proofs.Architecture.Layout
import ChangeGate.Proofs.Architecture.Splice
import ChangeGate.Proofs.Fix.Place

/-! # Adding globs to a system file

The globs are added to the text of a system file, which need not look as if it had been written in
one layout.  `ShowsPlace` says of a text that the place that is found for the globs is the right
one.

`read_insert`: a system file that shows the place is still read when globs are added, as the system
that it was with the globs in front of those of `Unmapped`, and has no problems if it had none. -/

namespace ChangeGate

/-- A system with globs for files without a domain: they stand in front of those of the domain
`Unmapped`, which is the last one if there was none. -/
def Architecture.withUnmapped (s : Architecture) (globs : List String) : Architecture :=
  { s with domains :=
      if "Unmapped" ∈ s.domains.map (·.name) then
        s.domains.map fun d =>
          if d.name = "Unmapped" then { d with allow := globs ++ d.allow } else d
      else s.domains ++ [⟨"Unmapped", globs, []⟩] }

namespace Fix

open Token Source Architecture
open Architecture.Grammar (Block)

variable {content front rest : List Char} {globs : List String} {s : Architecture}

/-! ### The system with the globs -/

theorem names_withUnmapped (h : "Unmapped" ∈ s.domains.map (·.name)) :
    (s.withUnmapped globs).domains.map (·.name) = s.domains.map (·.name) := by
  rw [withUnmapped, if_pos h, List.map_map]
  refine List.map_congr_left fun d _ => ?_
  rw [Function.comp_apply]
  split <;> rfl

theorem sound_withUnmapped (h : s.Sound) (hglobs : globs ≠ []) : (s.withUnmapped globs).Sound := by
  by_cases hmem : "Unmapped" ∈ s.domains.map (·.name)
  · have hnames : (s.withUnmapped globs).domains.map (·.name) = _ := names_withUnmapped hmem
    have hdomains : (s.withUnmapped globs).domains = s.domains.map fun d =>
        if d.name = "Unmapped" then { d with allow := globs ++ d.allow } else d := if_pos hmem
    refine ⟨h.version, h.name, ?_, hnames ▸ h.names, ?_, ?_⟩
    · rw [hdomains]
      simpa using h.domains
    · rw [hdomains, List.forall_mem_map]
      intro d hd
      split
      · simp [hglobs]
      · exact h.globs d hd
    · rw [hnames, hdomains, List.forall_mem_map]
      intro d hd
      split <;> exact h.targets d hd
  · have hdomains : (s.withUnmapped globs).domains = s.domains ++ [⟨"Unmapped", globs, []⟩] :=
      if_neg hmem
    refine ⟨h.version, h.name, ?_, ?_, ?_, ?_⟩
    · simp [hdomains]
    · rw [hdomains, List.map_append, List.map_singleton, ← List.concat_eq_append,
        List.nodup_concat]
      exact ⟨hmem, h.names⟩
    · rw [hdomains, List.forall_mem_append]
      exact ⟨h.globs, by simpa using hglobs⟩
    · rw [hdomains, List.forall_mem_append]
      refine ⟨fun d hd target ht => ?_, by simp⟩
      rw [List.map_append]
      exact List.mem_append_left _ (h.targets d hd target ht)

/-- A domain `Unmapped` is the only one of its name. -/
theorem withUnmapped_of_split {before after : List Domain} {d : Domain}
    (hnames : (s.domains.map (·.name)).Nodup) (hsplit : s.domains = before ++ d :: after)
    (hd : d.name = "Unmapped") (globs : List String) :
    s.withUnmapped globs =
      { s with domains := before ++ { d with allow := globs ++ d.allow } :: after } := by
  have hmem : "Unmapped" ∈ s.domains.map (·.name) := by simp [hsplit, hd]
  rw [hsplit, List.map_append, List.map_cons, List.nodup_middle, List.nodup_cons, hd,
    List.mem_append, not_or] at hnames
  have hother (ds : List Domain) (h : "Unmapped" ∉ ds.map (·.name)) :
      ds.map (fun d => if d.name = "Unmapped" then { d with allow := globs ++ d.allow } else d) =
        ds := by
    refine (List.map_congr_left fun d hd => if_neg fun heq => h ?_).trans (List.map_id _)
    exact heq ▸ List.mem_map_of_mem hd
  rw [withUnmapped, if_pos hmem, hsplit, List.map_append, List.map_cons, if_pos hd,
    hother before hnames.1.1, hother after hnames.1.2]

/-! ### The lines with the globs -/

/-- The block of a domain `Unmapped`, behind an empty line. -/
def block (globs : List String) : List Char := '\n' :: blockText "Unmapped" globs

theorem insertChars_of_found (hne : globs ≠ []) (h : behindUnmapped? content = some rest) :
    insertChars content globs =
      content.take (content.length - rest.length) ++ '\n' :: (globsLine globs ++ rest) := by
  rw [insertChars, if_neg (by simpa using hne), h]
  -- A literal gives its characters away by unification.
  unfold globsLine listed globsText
  repeat rw [String.toList_ofList]
  simp only [List.append_assoc, List.cons_append, List.nil_append]

theorem insertChars_of_missing (hne : globs ≠ []) (h : behindUnmapped? content = none)
    (hlast : splitLastBrace? content = some (front, rest)) :
    insertChars content globs = front ++ '\n' :: (block globs ++ rest) := by
  rw [insertChars, if_neg (by simpa using hne), h, hlast]
  unfold block blockText globsLine listed globsText
  repeat rw [String.toList_ofList]
  simp only [List.append_assoc, List.cons_append, List.nil_append]

theorem insertChars_of_braceless (hne : globs ≠ []) (h : behindUnmapped? content = none)
    (hlast : splitLastBrace? content = none) :
    insertChars content globs = content ++ block globs := by
  rw [insertChars, if_neg (by simpa using hne), h, hlast]
  unfold block blockText globsLine listed globsText
  repeat rw [String.toList_ofList]
  simp only [List.append_assoc, List.cons_append, List.nil_append]

theorem laidOut_block (hne : globs ≠ []) (h : Plain globs) :
    LaidOut (Domain.lines ⟨"Unmapped", globs, []⟩) (block globs) :=
  (Architecture.laidOut_block (by decide) hne h).behind_lineFeed

/-! ### Adding the globs -/

/-- A text shows the place for globs: no literal goes over the block that is found; if none is found
there is none, and behind the last closing brace nothing follows but blanks and comments. -/
def ShowsPlace (content : List Char) (s : Architecture) : Prop :=
  match behindUnmapped? content with
  | some rest =>
    (scan (.ofList (content.take (content.length - rest.length)))).toOption.isSome = true
  | none => "Unmapped" ∉ s.domains.map (·.name) ∧
    ∀ split ∈ splitLastBrace? content,
      (scan (.ofList split.2)).toOption.any (·.1.isEmpty) = true

theorem showsPlace_of_found (h : behindUnmapped? content = some rest) : ShowsPlace content s ↔
    (scan (.ofList (content.take (content.length - rest.length)))).toOption.isSome = true := by
  rw [ShowsPlace, h]

theorem showsPlace_of_missing (h : behindUnmapped? content = none) : ShowsPlace content s ↔
    "Unmapped" ∉ s.domains.map (·.name) ∧ ∀ split ∈ splitLastBrace? content,
      (scan (.ofList split.2)).toOption.any (·.1.isEmpty) = true := by
  rw [ShowsPlace, h]

instance (content : List Char) (s : Architecture) : Decidable (ShowsPlace content s) :=
  match h : behindUnmapped? content with
  | some _ => decidable_of_iff _ (showsPlace_of_found h).symm
  | none => decidable_of_iff _ (showsPlace_of_missing h).symm

theorem exists_of_isSome {source : String} (h : (scan source).toOption.isSome = true) :
    ∃ scanned, scan source = .ok scanned := by
  cases hscan : scan source with
  | error e =>
      rw [hscan] at h
      cases h
  | ok scanned => exact ⟨scanned, rfl⟩

theorem exists_of_isEmpty {source : String}
    (h : (scan source).toOption.any (·.1.isEmpty) = true) :
    ∃ last, scan source = .ok ([], last) := by
  cases hscan : scan source with
  | error e =>
      rw [hscan] at h
      cases h
  | ok scanned =>
      obtain ⟨ts, last⟩ := scanned
      rw [hscan] at h
      obtain rfl : ts = [] := List.isEmpty_iff.mp h
      exact ⟨last, rfl⟩

/-- The text up to the brace that is found. -/
theorem take_behind (front rest : List Char) (c : Char) :
    (front ++ c :: rest).take ((front ++ c :: rest).length - rest.length) = front ++ [c] := by
  rw [List.append_cons]
  exact List.take_left' (by simp; omega)

theorem read_insert_found {file : String} (hread : Architecture.read (.ofList content) file = .ok s)
    (hnames : (s.domains.map (·.name)).Nodup) (hfound : behindUnmapped? content = some rest)
    (hplace : ShowsPlace content s)
    (hne : globs ≠ []) (hplain : Plain globs) (file' : String) :
    Architecture.read (.ofList (insertChars content globs)) file' =
      .ok (s.withUnmapped globs) := by
  rw [showsPlace_of_found hfound] at hplace
  obtain ⟨front, blanks, rfl, hfront, hblanks⟩ := behindUnmapped?_eq_some hfound
  obtain ⟨ts, breaks, hderives, hspells⟩ := derives_of_read hread
  have htake := take_behind (front ++ opening blanks) rest '\x7b'
  rw [List.append_assoc, List.append_assoc] at htake
  rw [htake] at hplace
  obtain ⟨⟨us, last⟩, hscan⟩ := exists_of_isSome hplace
  obtain ⟨_, hopened⟩ := spells_of_scan hscan
  obtain ⟨before, gap, hgap, hopening⟩ := spells_opening hspells hopened hfront hblanks
  obtain ⟨behind, hsplit, hbehind⟩ := (hopening rest).split hspells
  obtain ⟨others, _, hothers, hshape⟩ := hbehind.unbroken
  have hline := (laidOut_globsLine hne hplain).spells rest
  have hnew : insertChars (front ++ (opening blanks ++ '\x7b' :: rest)) globs =
      front ++ (opening blanks ++ '\x7b' :: ('\n' :: (globsLine globs ++ rest))) := by
    rw [insertChars_of_found hne hfound, htake]
    simp
  have hts : ts.map sign = before ++ .reserved "domain" :: .name "Unmapped" ::
      (gap ++ .openBrace :: behind) := by
    rw [hsplit]
    simp
  rw [hnew]
  refine read_of_derives ((hopening _).trans (.lineEnd (hline.trans hothers))) (fun ts' hts' => ?_)
    file'
  have hts'' : ts'.map sign = before ++ .reserved "domain" :: .name "Unmapped" ::
      (gap ++ .openBrace :: .lineEnd :: (signs (Domain.allowLines globs) ++ others)) := by
    rw [hts']
    simp
  obtain ⟨before', d, after, hdomains, hd, hderives'⟩ :=
    derives_addGlobs hderives hts hgap hshape hothers.head_kind hts''
  rw [withUnmapped_of_split hnames hdomains hd]
  exact hderives'

theorem split_of_append_eq {α : Type} {p : α → Prop} {as bs cs ds : List α} {x : α}
    (h : as ++ bs = cs ++ x :: ds) (hx : p x) (hbs : ∀ y ∈ bs, ¬ p y) :
    ∃ mid, as = cs ++ x :: mid ∧ ds = mid ++ bs := by
  rcases List.append_eq_append_iff.mp h with ⟨mid, rfl, rfl⟩ | ⟨mid, rfl, hmid⟩
  · exact absurd hx (hbs x (by simp))
  · cases mid with
    | nil =>
        obtain rfl : x :: ds = bs := hmid
        exact absurd hx (hbs x (by simp))
    | cons y mid =>
        obtain ⟨rfl, rfl⟩ := List.cons.inj hmid
        exact ⟨mid, rfl, rfl⟩

/-- Behind a closing brace there is one line end, in the text or by the line feed that follows. -/
theorem exists_line {before mid : List Sign} {c : Sign} {breaks : Bool}
    (h : Spells false content (before ++ c :: mid) breaks []) (hc : c.kind ≠ .lineEnd)
    (hmid : ∀ s ∈ mid, s.kind = .lineEnd) (hlength : mid.length ≤ 1) :
    ∃ line : Sign, line.kind = .lineEnd ∧
      mid ++ (if breaks then [.lineEnd] else []) = [line] := by
  have hbreaks := h.breaks_eq
  rw [List.getLast?_append, List.getLast?_cons] at hbreaks
  match mid with
  | [] => exact ⟨.lineEnd, rfl, by rw [hbreaks]; simp [hc]⟩
  | [s] =>
      have hs := hmid s (by simp)
      exact ⟨s, hs, by rw [hbreaks]; simp [hs]⟩

/-- Behind the last block of a file there is one line end at most. -/
theorem kind_of_ending {ts : List Token} (h : Ending ts []) : ∀ t ∈ ts, t.kind = .lineEnd := by
  cases h with
  | line ht => simpa using ht
  | source => nofun

theorem length_of_ending {ts : List Token} (h : Ending ts []) : ts.length ≤ 1 := by
  cases h <;> simp

/-- Up to the brace of its last block a file spells what it does, and the line end behind the brace
comes from the text or from a line feed that follows. -/
theorem spells_lastBlock {inside : List Char} {before after : List Token} {c : Token} {breaks : Bool}
    (h : Spells false (inside ++ '\x7d' :: rest) ((before ++ c :: after).map sign) breaks [])
    (hrest : '\x7d' ∉ rest) (hc : c.kind = .closeBrace) (hend : Ending after []) :
    ∃ mid breaks' line, Spells false (inside ++ ['\x7d']) (before.map sign ++ c.sign :: mid) breaks' [] ∧
      Sign.kind line = .lineEnd ∧ mid ++ (if breaks' then [.lineEnd] else []) = [line] := by
  obtain ⟨ss₁, ss₂, hss, hnobrace, hfront⟩ := h.front_of_closeBrace hrest
  rw [List.map_append, List.map_cons] at hss
  obtain ⟨mid, rfl, hafter⟩ :=
    split_of_append_eq (p := fun s : Sign => s.kind = .closeBrace) hss.symm hc hnobrace
  have hlines : ∀ s ∈ mid ++ ss₂, s.kind = .lineEnd := by
    rw [← hafter, List.forall_mem_map]
    exact kind_of_ending hend
  obtain ⟨breaks', hfront⟩ := hfront.resolve_right <| by
    rintro ⟨s, hs, htext⟩
    rw [hlines s (List.mem_append_right _ (List.mem_of_mem_head? hs))] at htext
    cases htext
  have hlength : mid.length ≤ 1 := by
    have hle := length_of_ending hend
    rw [← List.length_map (f := sign), hafter, List.length_append] at hle
    omega
  have hbrace : c.sign.kind ≠ .lineEnd := by simp [Token.sign, hc]
  obtain ⟨line, hline, hmid⟩ := exists_line hfront hbrace
    (fun s hs => hlines s (List.mem_append_left _ hs)) hlength
  exact ⟨mid, breaks', line, hfront, hline, hmid⟩

/-- A file that is read has a last closing brace. -/
theorem exists_lastBrace {file : String} (hread : Architecture.read (.ofList content) file = .ok s) :
    ∃ inside rest, content = inside ++ '\x7d' :: rest ∧ '\x7d' ∉ rest ∧
      splitLastBrace? content = some (inside ++ ['\x7d'], rest) := by
  obtain ⟨ts, breaks, hderives, hspells⟩ := derives_of_read hread
  obtain ⟨before, c, after, rfl, ⟨hc, -⟩, -⟩ := hderives.concat
  cases hlast : splitLastBrace? content with
  | none =>
      have hbrace := hspells.kind_ne_closeBrace (mem_of_splitLastBrace?_eq_none hlast) c.sign
        (by simp)
      exact absurd hc hbrace
  | some split =>
      obtain ⟨_, rest⟩ := split
      obtain ⟨inside, rfl, hsplit, hrest⟩ := splitLastBrace?_eq_some hlast
      exact ⟨inside, rest, hsplit, hrest, rfl⟩

theorem read_insert_missing {file : String}
    (hread : Architecture.read (.ofList content) file = .ok s)
    (hnone : behindUnmapped? content = none) (hplace : ShowsPlace content s)
    (hne : globs ≠ []) (hplain : Plain globs) (file' : String) :
    Architecture.read (.ofList (insertChars content globs)) file' =
      .ok (s.withUnmapped globs) := by
  obtain ⟨hmissing, hplace⟩ := (showsPlace_of_missing hnone).mp hplace
  obtain ⟨inside, rest, rfl, hrest, hlast⟩ := exists_lastBrace hread
  obtain ⟨last, hscan⟩ := exists_of_isEmpty (hplace _ hlast)
  obtain ⟨ts, breaks, hderives, hspells⟩ := derives_of_read hread
  obtain ⟨before, c, after, rfl, ⟨hc, hend⟩, hconcat⟩ := hderives.concat
  obtain ⟨mid, _, line, hfront, hline, hmid⟩ := spells_lastBlock hspells hrest hc hend
  have hblock := (laidOut_block hne hplain).spells rest
  obtain ⟨_, hrest⟩ := spells_of_scan hscan
  have hmissing' : s.withUnmapped globs =
      { s with domains := s.domains ++ [⟨"Unmapped", globs, []⟩] } := by
    rw [withUnmapped, if_neg hmissing]
  rw [insertChars_of_missing hne hnone hlast, hmissing']
  refine read_of_derives ((hfront.behind_lineFeed _).trans (.lineEnd (hblock.trans hrest)))
    (fun ts hts => ?_) file'
  have hts' : ts.map sign = before.map sign ++ c.sign :: line ::
      signs (Domain.lines ⟨"Unmapped", globs, []⟩) := by
    rw [hts, List.map_nil, List.append_nil, List.append_assoc, List.cons_append,
      ← List.append_assoc mid, hmid]
    rfl
  obtain ⟨block, hblock⟩ := exists_map_sign (signs (Domain.lines ⟨"Unmapped", globs, []⟩))
  have hwritten := writes_domain ⟨"Unmapped", globs, []⟩ block [] hblock
  rw [List.append_nil] at hwritten
  refine derives_of_sign_eq (hconcat ⟨line.kind, line.text, .start⟩ block _ hline hwritten) ?_
  rw [hts']
  simp [hblock, Token.sign]

/-- Wherever the place is shown, the globs come in front of those of `Unmapped`. -/
theorem read_insertChars {file : String}
    (hread : Architecture.read (.ofList content) file = .ok s) (hsound : s.Sound)
    (hplace : ShowsPlace content s) (hne : globs ≠ []) (hplain : Plain globs) (file' : String) :
    Architecture.read (.ofList (insertChars content globs)) file' =
      .ok (s.withUnmapped globs) := by
  cases hfound : behindUnmapped? content with
  | some rest => exact read_insert_found hread hsound.names hfound hplace hne hplain file'
  | none => exact read_insert_missing hread hfound hplace hne hplain file'

/-- **A system stays what it is when globs are added.**  A system file without problems that shows
the place for globs is read, when globs are added, as the system with these in front of the globs of
`Unmapped`, which becomes the last domain if there was none; and that system has no problems. -/
theorem read_insert {content file : String} (hread : Architecture.read content file = .ok s)
    (hproblems : s.problems = []) (hplace : ShowsPlace content.toList s) (hne : globs ≠ [])
    (hplain : Plain globs) (file' : String) :
    Architecture.read (insert content globs) file' = .ok (s.withUnmapped globs) ∧
      (s.withUnmapped globs).problems = [] := by
  have hsound := problems_eq_nil_iff.mp hproblems
  rw [← content.ofList_toList] at hread
  exact ⟨read_insertChars hread hsound hplace hne hplain file',
    problems_eq_nil_iff.mpr (sound_withUnmapped hsound hne)⟩

/-- A system whose domain `Unmapped` is the first one. -/
def unmappedFirst : Architecture :=
  ⟨"2.0", "S", [⟨"Unmapped", ["u"], ["D"]⟩, ⟨"D", ["d/**"], []⟩], []⟩

/-- A file of the system with a brace on a line of its own and a comment behind it. -/
def commented : String :=
  "intent 2.0\nsystem S\ndomain Unmapped\n\x7b // \"\n depends_on D\n paths allow \"u\" \x7d\n" ++
    "domain D \x7b paths allow \"d/**\" \x7d"

theorem read_insert_commented :
    Architecture.read commented = .ok unmappedFirst ∧ unmappedFirst.problems = [] ∧
      ShowsPlace commented.toList unmappedFirst ∧
      Architecture.read (insert commented ["a/**", "b"]) = .ok
        ⟨"2.0", "S", [⟨"Unmapped", ["a/**", "b", "u"], ["D"]⟩, ⟨"D", ["d/**"], []⟩], []⟩ := by
  have hread : Architecture.read commented = .ok unmappedFirst := by decide +kernel
  have hproblems : unmappedFirst.problems = [] := by decide +kernel
  have hplace : ShowsPlace commented.toList unmappedFirst := by decide +kernel
  have hplain : Plain ["a/**", "b"] := by
    unfold Plain
    decide +kernel
  have hsystem : unmappedFirst.withUnmapped ["a/**", "b"] =
      ⟨"2.0", "S", [⟨"Unmapped", ["a/**", "b", "u"], ["D"]⟩, ⟨"D", ["d/**"], []⟩], []⟩ := rfl
  have hinserted := read_insert hread hproblems hplace (List.cons_ne_nil _ _) hplain "system.intent"
  rw [hsystem] at hinserted
  exact ⟨hread, hproblems, hplace, hinserted.1⟩

/-- A file whose domain `Unmapped` is indented. -/
def indented : String :=
  "intent 2.0\nsystem S\n  domain Unmapped \x7b\n    paths allow \"u\"\n  \x7d\n"

/-- The block of a domain that is indented is not found, and a second one is added. -/
theorem read_insert_indented :
    Architecture.read indented = .ok ⟨"2.0", "S", [⟨"Unmapped", ["u"], []⟩], []⟩ ∧
    (⟨"2.0", "S", [⟨"Unmapped", ["u"], []⟩], []⟩ : Architecture).problems = [] ∧
    Architecture.read (insert indented ["a/**"]) =
      .ok ⟨"2.0", "S", [⟨"Unmapped", ["u"], []⟩, ⟨"Unmapped", ["a/**"], []⟩], []⟩ ∧
    (⟨"2.0", "S", [⟨"Unmapped", ["u"], []⟩, ⟨"Unmapped", ["a/**"], []⟩], []⟩ :
      Architecture).problems = ["Duplicate domain name: 'Unmapped'."] := by
  refine ⟨?_, ?_, ?_, ?_⟩ <;> decide +kernel

end Fix
end ChangeGate
