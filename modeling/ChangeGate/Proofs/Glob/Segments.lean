import ChangeGate.Proofs.Glob.Match
import ChangeGate.Proofs.Text.Lines

/-! # Patterns segment by segment

A pattern whose segments are `**` or free of `**` can be read one segment after another: `**` stands
for any segments of a path, and any other segment for one (`Covers`).

A wildcard within a segment stays there (`matchParts_segment_iff`), and `**/` takes whole segments
(`matchParts_skip_iff`).  `accepts_iff_covers`: on a line without empty segments such a pattern
accepts exactly the paths whose segments it covers. -/

namespace ChangeGate.Glob

open Text (splitAt)

/-- The segments of a text, between its slashes. -/
def segments (s : String) : List (List Char) := splitAt '/' s.toList

/-- A segment of a pattern fits a segment of a path: `*` stands for any run of characters, `?` for
one, and every other character for itself. -/
def Fits : List Char → List Char → Prop
  | [], s => s = []
  | c :: p, s =>
    if c = '*' then ∃ run rest, s = run ++ rest ∧ Fits p rest
    else ∃ d rest, s = d :: rest ∧ (c = '?' ∨ c = d) ∧ Fits p rest

/-- The segments of a pattern cover those of a path in order: `**` stands for any segments or none,
at the end for at least one, and every other segment for one that it fits. -/
def Covers : List (List Char) → List (List Char) → Prop
  | [], ss => ss = []
  | p :: ps, ss =>
    if p = ['*', '*'] then
      if ps = [] then ss ≠ [] else ∃ skipped rest, ss = skipped ++ rest ∧ Covers ps rest
    else ∃ s rest, ss = s :: rest ∧ Fits p s ∧ Covers ps rest

/-- A segment that a pattern may have: it is not empty, and two stars stand alone. -/
def IsSegment (p : List Char) : Prop := p ≠ [] ∧ (p = ['*', '*'] ∨ ¬ ['*', '*'] <:+: p)

instance : DecidablePred IsSegment := fun _ => inferInstanceAs (Decidable (_ ∧ _))

/-- A text on one line none of whose segments is empty. -/
structure IsWhole (u : List Char) : Prop where
  lineFeed : '\n' ∉ u
  segments : ∀ s ∈ splitAt '/' u, s ≠ []

variable {cs p t u : List Char} {ps : List (List Char)}

theorem IsWhole.ne_nil (h : IsWhole u) : u ≠ [] := by
  rintro rfl
  exact h.segments [] (List.mem_singleton_self _) rfl

/-- What stands before and behind a slash is whole. -/
theorem isWhole_append_cons : IsWhole (t ++ '/' :: u) ↔ IsWhole t ∧ IsWhole u := by
  constructor
  · rintro ⟨hline, hsegments⟩
    rw [Text.splitAt_append_cons, List.forall_mem_append] at hsegments
    rw [List.mem_append, List.mem_cons, not_or, not_or] at hline
    exact ⟨⟨hline.1, hsegments.1⟩, ⟨hline.2.2, hsegments.2⟩⟩
  · rintro ⟨ht, hu⟩
    refine ⟨?_, ?_⟩
    · rw [List.mem_append, List.mem_cons, not_or, not_or]
      exact ⟨ht.lineFeed, by decide, hu.lineFeed⟩
    · rw [Text.splitAt_append_cons, List.forall_mem_append]
      exact ⟨ht.segments, hu.segments⟩

/-! ### One segment -/

/-- A character of a pattern that is no star takes one character, which is no slash. -/
theorem matchParts_cons_iff {c : Char} (hstar : c ≠ '*') (hslash : c ≠ '/') :
    matchParts (parts (c :: cs)) u = true ↔
      ∃ d v, u = d :: v ∧ d ≠ '/' ∧ (c = '?' ∨ c = d) ∧ matchParts (parts cs) v = true := by
  by_cases hone : c = '?'
  · subst hone
    have hparts : parts ('?' :: cs) = .one :: parts cs := rfl
    rw [hparts]
    cases u with
    | nil => simp [matchParts, Part.takes]
    | cons d v => simp [matchParts, Part.takes, and_assoc]
  · rw [parts_char hstar hone]
    cases u with
    | nil => simp [matchParts, Part.takes]
    | cons d v =>
        simp only [matchParts, Part.takes, Bool.and_eq_true, beq_iff_eq, List.cons.injEq, hone,
          false_or]
        constructor
        · rintro ⟨rfl, h⟩
          exact ⟨d, v, ⟨rfl, rfl⟩, hslash, rfl, h⟩
        · rintro ⟨_, _, ⟨rfl, rfl⟩, -, rfl, h⟩
          exact ⟨rfl, h⟩

/-- A segment takes a text without slashes that it fits. -/
theorem matchParts_segment_iff (hstars : ¬ ['*', '*'] <:+: p) (hslash : '/' ∉ p)
    (ht : ∀ r, t ≠ '*' :: r) :
    matchParts (parts (p ++ t)) u = true ↔
      ∃ s v, u = s ++ v ∧ '/' ∉ s ∧ Fits p s ∧ matchParts (parts t) v = true := by
  induction p generalizing u with
  | nil =>
      constructor
      · exact fun h => ⟨[], u, rfl, List.not_mem_nil, rfl, h⟩
      · rintro ⟨s, v, rfl, -, rfl, h⟩
        exact h
  | cons c p ih =>
      rw [List.mem_cons, not_or] at hslash
      have ih {u : List Char} := @ih u (fun h => hstars (h.trans (List.suffix_cons c p).isInfix))
        hslash.2
      by_cases hstar : c = '*'
      · subst hstar
        -- Two stars in a row would be one part.
        have hnext : ∀ r, p ++ t ≠ '*' :: r := by
          intro r hr
          cases p with
          | nil => exact ht r hr
          | cons d p =>
              obtain ⟨rfl, -⟩ := List.cons.inj hr
              exact hstars ⟨[], p, rfl⟩
        rw [List.cons_append, parts_star hnext]
        show someRun (· != '/') (matchParts (parts (p ++ t))) u = true ↔ _
        simp only [someRun_iff, Fits, if_true, bne_iff_ne]
        constructor
        · rintro ⟨run, r, rfl, hrun, h⟩
          obtain ⟨s, v, rfl, hs, hfits, hv⟩ := ih.mp h
          refine ⟨run ++ s, v, (List.append_assoc run s v).symm, ?_, ⟨run, s, rfl, hfits⟩, hv⟩
          rw [List.mem_append, not_or]
          exact ⟨fun hmem => hrun _ hmem rfl, hs⟩
        · rintro ⟨_, v, rfl, hs, ⟨run, s, rfl, hfits⟩, hv⟩
          rw [List.mem_append, not_or] at hs
          refine ⟨run, s ++ v, List.append_assoc run s v, ?_, ih.mpr ⟨s, v, rfl, hs.2, hfits, hv⟩⟩
          exact fun d hd => ne_of_mem_of_not_mem hd hs.1
      · rw [List.cons_append, matchParts_cons_iff hstar (Ne.symm hslash.1)]
        simp only [Fits, if_neg hstar]
        constructor
        · rintro ⟨d, w, rfl, hd, hc, h⟩
          obtain ⟨s, v, rfl, hs, hfits, hv⟩ := ih.mp h
          refine ⟨d :: s, v, rfl, ?_, ⟨d, s, rfl, hc, hfits⟩, hv⟩
          rw [List.mem_cons, not_or]
          exact ⟨Ne.symm hd, hs⟩
        · rintro ⟨_, v, rfl, hs, ⟨d, s, rfl, hc, hfits⟩, hv⟩
          rw [List.mem_cons, not_or] at hs
          exact ⟨d, s ++ v, rfl, Ne.symm hs.1, hc, ih.mpr ⟨s, v, rfl, hs.2, hfits, hv⟩⟩

theorem matchParts_slash_iff : matchParts (parts ('/' :: cs)) u = true ↔
    ∃ v, u = '/' :: v ∧ matchParts (parts cs) v = true := by
  have hslash : IsLiteral ['/'] := ⟨by decide, by decide⟩
  exact matchParts_literal hslash

/-! ### Any segments -/

/-- Two stars and a slash take nothing, or all up to some slash. -/
theorem matchParts_directories_iff (hu : '\n' ∉ u) :
    matchParts (parts ('*' :: '*' :: '/' :: cs)) u = true ↔
      matchParts (parts cs) u = true ∨
        ∃ x y, x ≠ [] ∧ u = x ++ '/' :: y ∧ matchParts (parts cs) y = true := by
  show Part.takes (matchParts (parts cs)) .directories u = true ↔ _
  cases u with
  | nil => simp [Part.takes]
  | cons c u =>
      rw [List.mem_cons, not_or] at hu
      rw [Part.takes, Bool.or_eq_true, Bool.and_eq_true, bne_iff_ne, someSlash_iff]
      refine or_congr_right ⟨?_, ?_⟩
      · rintro ⟨-, x, y, rfl, -, h⟩
        exact ⟨c :: x, y, List.cons_ne_nil _ _, rfl, h⟩
      · rintro ⟨x, y, hx, hxy, h⟩
        obtain ⟨d, x, rfl⟩ := List.exists_cons_of_ne_nil hx
        rw [List.cons_append] at hxy
        obtain ⟨rfl, rfl⟩ := List.cons.inj hxy
        rw [List.mem_append, not_or] at hu
        exact ⟨Ne.symm hu.1, x, y, rfl, hu.2.1, h⟩

/-- Only the pattern without segments covers nothing. -/
theorem Covers.eq_nil (h : Covers ps []) : ps = [] := by
  induction ps with
  | nil => rfl
  | cons p ps ih =>
      rw [Covers] at h
      split at h
      · split at h
        · exact absurd rfl h
        · obtain ⟨skipped, rest, hnil, h⟩ := h
          obtain ⟨rfl, rfl⟩ := List.append_eq_nil_iff.mp hnil.symm
          exact absurd (ih h) ‹_›
      · obtain ⟨s, rest, hcons, -⟩ := h
        cases hcons

/-- What follows two stars and a slash covers some last segments. -/
theorem matchParts_skip_iff (hps : ps ≠ []) (hu : IsWhole u)
    (ih : ∀ v, IsWhole v → (matchParts (parts cs) v = true ↔ Covers ps (splitAt '/' v))) :
    matchParts (parts ('*' :: '*' :: '/' :: cs)) u = true ↔
      ∃ skipped rest, splitAt '/' u = skipped ++ rest ∧ Covers ps rest := by
  rw [matchParts_directories_iff hu.lineFeed, ih u hu]
  constructor
  · rintro (h | ⟨x, y, -, rfl, h⟩)
    · exact ⟨[], _, rfl, h⟩
    · exact ⟨_, _, Text.splitAt_append_cons '/' x y, (ih y (isWhole_append_cons.mp hu).2).mp h⟩
  · rintro ⟨skipped, rest, hsegments, h⟩
    by_cases hskipped : skipped = []
    · rw [hskipped, List.nil_append] at hsegments
      exact .inl (hsegments ▸ h)
    · have hrest : rest ≠ [] := fun hnil => hps (hnil ▸ h).eq_nil
      obtain ⟨x, y, rfl, -, rfl⟩ := Text.exists_of_splitAt_eq_append hsegments hskipped hrest
      obtain ⟨hx, hy⟩ := isWhole_append_cons.mp hu
      exact .inr ⟨x, y, hx.ne_nil, rfl, (ih y hy).mpr h⟩

/-! ### Whole patterns -/

/-- The last segment of a pattern takes the only segment left. -/
theorem matchParts_last_iff (hstars : ¬ ['*', '*'] <:+: p) (hslash : '/' ∉ p) :
    matchParts (parts p) u = true ↔ ∃ s rest, splitAt '/' u = s :: rest ∧ Fits p s ∧ rest = [] := by
  have hseg := matchParts_segment_iff (t := []) (u := u) hstars hslash nofun
  rw [List.append_nil] at hseg
  rw [hseg]
  constructor
  · rintro ⟨s, v, rfl, hs, hfits, hv⟩
    rw [List.isEmpty_iff.mp hv, List.append_nil, Text.splitAt_of_not_mem hs]
    exact ⟨s, [], rfl, hfits, rfl⟩
  · rintro ⟨s, rest, hsegments, hfits, rfl⟩
    have hu := Text.intercalate_splitAt '/' u
    rw [hsegments, List.intercalate_singleton] at hu
    subst hu
    have hs : '/' ∉ s := Text.not_mem_of_mem_splitAt (hsegments ▸ List.mem_singleton_self s)
    exact ⟨s, [], (List.append_nil s).symm, hs, hfits, rfl⟩

/-- A segment before others takes the first segment. -/
theorem matchParts_first_iff (hps : ps ≠ []) (hstars : ¬ ['*', '*'] <:+: p) (hslash : '/' ∉ p)
    (hu : IsWhole u)
    (ih : ∀ v, IsWhole v → (matchParts (parts cs) v = true ↔ Covers ps (splitAt '/' v))) :
    matchParts (parts (p ++ '/' :: cs)) u = true ↔
      ∃ s rest, splitAt '/' u = s :: rest ∧ Fits p s ∧ Covers ps rest := by
  have hslashNext : ∀ r, '/' :: cs ≠ '*' :: r := fun r hr => absurd (List.cons.inj hr).1 (by decide)
  rw [matchParts_segment_iff hstars hslash hslashNext]
  simp only [matchParts_slash_iff]
  constructor
  · rintro ⟨s, _, rfl, hs, hfits, v, rfl, h⟩
    rw [Text.splitAt_append v hs]
    exact ⟨s, _, rfl, hfits, (ih v (isWhole_append_cons.mp hu).2).mp h⟩
  · rintro ⟨s, rest, hsegments, hfits, h⟩
    have hrest : rest ≠ [] := fun hnil => hps (hnil ▸ h).eq_nil
    rw [← List.singleton_append] at hsegments
    obtain ⟨x, v, rfl, hx, rfl⟩ :=
      Text.exists_of_splitAt_eq_append hsegments (List.cons_ne_nil _ _) hrest
    have hxs := Text.intercalate_splitAt '/' x
    rw [hx, List.intercalate_singleton] at hxs
    subst hxs
    have hs : '/' ∉ s := Text.not_mem_of_mem_splitAt (hx ▸ List.mem_singleton_self s)
    exact ⟨s, _, rfl, hs, hfits, v, rfl, (ih v (isWhole_append_cons.mp hu).2).mpr h⟩

theorem matchParts_iff_covers (hne : ps ≠ []) (hps : ∀ p ∈ ps, IsSegment p ∧ '/' ∉ p)
    (hu : IsWhole u) :
    matchParts (parts (List.intercalate ['/'] ps)) u = true ↔ Covers ps (splitAt '/' u) := by
  induction ps generalizing u with
  | nil => exact absurd rfl hne
  | cons p ps ih =>
      obtain ⟨⟨hp, hslash⟩, hps⟩ := List.forall_mem_cons.mp hps
      rw [Covers]
      by_cases hlast : ps = []
      · subst hlast
        rw [List.intercalate_singleton]
        by_cases hstars : p = ['*', '*']
        · rw [if_pos hstars, if_pos rfl, hstars, matchParts_stars]
          exact iff_of_true hu.lineFeed (Text.splitAt_ne_nil '/' u)
        · rw [if_neg hstars]
          exact matchParts_last_iff (hp.2.resolve_left hstars) hslash
      · have ih (v : List Char) (hv : IsWhole v) := @ih v hlast hps hv
        rw [List.intercalate_cons_of_ne_nil hlast]
        by_cases hstars : p = ['*', '*']
        · rw [if_pos hstars, if_neg hlast, hstars]
          exact matchParts_skip_iff hlast hu ih
        · rw [if_neg hstars, List.append_assoc, List.singleton_append]
          exact matchParts_first_iff hlast (hp.2.resolve_left hstars) hslash hu ih

/-- **A glob accepts the paths whose segments it covers.**  Its segments are not empty and are `**`
or free of `**`; the paths are on one line and have no empty segment. -/
theorem accepts_iff_covers {pattern path : String} (hpattern : ∀ p ∈ segments pattern, IsSegment p)
    (hline : '\n' ∉ path.toList) (hpath : ∀ s ∈ segments path, s ≠ []) :
    accepts pattern path = true ↔ Covers (segments pattern) (segments path) := by
  have hps : ∀ p ∈ segments pattern, IsSegment p ∧ '/' ∉ p :=
    fun p hp => ⟨hpattern p hp, Text.not_mem_of_mem_splitAt hp⟩
  rw [accepts, ← Text.intercalate_splitAt '/' pattern.toList]
  exact matchParts_iff_covers (Text.splitAt_ne_nil _ _) hps ⟨hline, hpath⟩

/-- Two `**` in a row stand for no segment or for several, and the last one for at least one. -/
theorem accepts_iff_covers_adjacent :
    (∀ p ∈ segments "**/**/te?t*/**", IsSegment p) ∧
    Covers (segments "**/**/te?t*/**") (segments "test_a/x.py") ∧
    Covers (segments "**/**/te?t*/**") (segments "src/app/tests/unit/x.py") ∧
    ¬ Covers (segments "**/**/te?t*/**") (segments "src/tests") := by
  have hpattern : ∀ p ∈ segments "**/**/te?t*/**", IsSegment p := by decide +kernel
  refine ⟨hpattern, ?_, ?_, ?_⟩
  · rw [← accepts_iff_covers hpattern (by decide +kernel) (by decide +kernel)]
    decide +kernel
  · rw [← accepts_iff_covers hpattern (by decide +kernel) (by decide +kernel)]
    decide +kernel
  · rw [← accepts_iff_covers hpattern (by decide +kernel) (by decide +kernel)]
    decide +kernel

end ChangeGate.Glob
