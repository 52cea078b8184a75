import ChangeGate.Proofs.Verdict.Status
import Mathlib.Data.List.Forall2

/-! # The gate of the starter policy

Under the starter policy a changed file has a violation exactly if it has no domain or another one
than the task's, and then it has one.  A tag excuses the second and never the first.

`starter_gate`: what the starter policy lets pass, what it warns about and what it blocks. -/

namespace ChangeGate.Starter

/-! ### One violation for each stray file -/

section lists
variable {α β : Type} {l : List α}

/-- Two selections of which one is always empty are together a selection. -/
theorem filterMap_append_perm {f g h : α → Option β}
    (hfg : ∀ x ∈ l, f x = h x ∧ g x = none ∨ f x = none ∧ g x = h x) :
    (l.filterMap f ++ l.filterMap g).Perm (l.filterMap h) := by
  induction l with
  | nil => exact .nil
  | cons x l ih =>
      rw [List.forall_mem_cons] at hfg
      have ih := ih hfg.2
      rcases hfg.1 with ⟨hf, hg⟩ | ⟨hf, hg⟩
      · rw [List.filterMap_cons, List.filterMap_cons_none hg, List.filterMap_cons, hf]
        cases h x with
        | none => exact ih
        | some y => exact ih.cons y
      · rw [List.filterMap_cons_none hf, List.filterMap_cons, List.filterMap_cons, hg]
        cases h x with
        | none => exact ih
        | some y => exact List.perm_middle.trans (ih.cons y)

/-- A selection stands entry by entry beside what it selects from. -/
theorem forall₂_filter_filterMap {f : α → Option β} {p : α → Bool} {R : α → β → Prop}
    (hp : ∀ x ∈ l, p x = true → ∃ y, f x = some y ∧ R x y)
    (hn : ∀ x ∈ l, p x = false → f x = none) :
    List.Forall₂ R (l.filter p) (l.filterMap f) := by
  induction l with
  | nil => exact .nil
  | cons x l ih =>
      rw [List.forall_mem_cons] at hp hn
      have ih := ih hp.2 hn.2
      cases hx : p x with
      | true =>
          obtain ⟨y, hy, hR⟩ := hp.1 hx
          rw [List.filter_cons_of_pos hx, List.filterMap_cons_some hy]
          exact .cons hR ih
      | false =>
          rw [List.filter_cons_of_neg (by simp [hx]), List.filterMap_cons_none (hn.1 hx)]
          exact ih

end lists

variable {as : List Action} {t : Task}

/-- The rule that a stray file breaks. -/
def ruleFor (a : Action) : Rule := if a.fileDomain = none then unmapped else crossing

/-- A file strays if it has no domain or another one than the task's. -/
def strays (t : Task) (a : Action) : Bool := a.fileDomain = none ∨ a.fileDomain ≠ t.domain

theorem gathered_policySet (as : List Action) (t : Task) :
    Verdict.gathered [policySet] as t =
      as.filterMap (crossing.found? · t) ++ as.filterMap (unmapped.found? · t) := by
  have hpairs : Verdict.pairs [policySet] as = as.map (crossing, ·) ++ as.map (unmapped, ·) := by
    simp [Verdict.pairs, policySet, PolicySet.rules]
  rw [Verdict.gathered, hpairs, List.filterMap_append, List.filterMap_map, List.filterMap_map]
  rfl

theorem ruleFor_matches_iff {a : Action} (hk : a.kind = .modifyFile) :
    (ruleFor a).Matches a t ↔ strays t a = true := by
  unfold ruleFor strays
  by_cases h : a.fileDomain = none
  · simp [h, unmapped_matches_iff hk]
  · simp [h, crossing_matches_iff hk]

/-- The rules never both find something in a file, so what they gather is found by the rule for
each file. -/
theorem gathered_policySet_perm (hk : ∀ a ∈ as, a.kind = .modifyFile) :
    (Verdict.gathered [policySet] as t).Perm
      (as.filterMap fun a => (ruleFor a).found? a t) := by
  rw [gathered_policySet]
  refine filterMap_append_perm fun a ha => ?_
  unfold ruleFor
  by_cases h : a.fileDomain = none
  · have hm : ¬ crossing.Matches a t := fun hm => ((crossing_matches_iff (hk a ha)).mp hm).1 h
    rw [if_pos h]
    exact .inr ⟨Rule.found?_of_not_matches hm, rfl⟩
  · have hm : ¬ unmapped.Matches a t := fun hm => h ((unmapped_matches_iff (hk a ha)).mp hm)
    rw [if_neg h]
    exact .inl ⟨rfl, Rule.found?_of_not_matches hm⟩

theorem settles_policySet (as : List Action) (t : Task) :
    ∀ r ∈ Verdict.rules [policySet], ∀ a ∈ as, r.Settles a t :=
  fun r hr a ha => .of_isNamed (isNamed_policySet r hr) (judged_policySet as t r hr a ha)

theorem ruleFor_mem (a : Action) : ruleFor a ∈ Verdict.rules [policySet] := by
  rw [mem_rules_policySet]
  unfold ruleFor
  split
  · exact .inr rfl
  · exact .inl rfl

/-- Each stray file has its violation, and the other files have none. -/
theorem forall₂_strays (hk : ∀ a ∈ as, a.kind = .modifyFile) :
    List.Forall₂ (fun a w => (ruleFor a).Describes a t w) (as.filter (strays t))
      (as.filterMap fun a => (ruleFor a).found? a t) := by
  apply forall₂_filter_filterMap
  · intro a ha hstrays
    have hs := settles_policySet as t _ (ruleFor_mem a) a ha
    obtain ⟨w, hw⟩ := hs.exists_found ((ruleFor_matches_iff (hk a ha)).mpr hstrays)
    exact ⟨w, hw, (Rule.found?_eq_some_iff.mp hw).2⟩
  · intro a ha hstays
    refine Rule.found?_of_not_matches fun hm => ?_
    rw [(ruleFor_matches_iff (hk a ha)).mp hm] at hstays
    cases hstays

/-! ### What is blocked -/

theorem unmapped_blocks (t : Task) : unmapped.Blocks t := ⟨rfl, rfl, rfl⟩

theorem crossing_blocks_iff : crossing.Blocks t ↔ crossingTag ∉ t.tags := by
  rw [Rule.Blocks, ← Bool.not_eq_true, crossing_isBypassed_iff]
  exact ⟨fun h => h.2.2, fun h => ⟨rfl, rfl, h⟩⟩

/-- What the rules match, and what else is known of the rule. -/
theorem exists_match_and_iff {Q : Rule → Prop} (hk : ∀ a ∈ as, a.kind = .modifyFile) :
    (∃ r ∈ Verdict.rules [policySet], ∃ a ∈ as, r.Matches a t ∧ Q r) ↔
      (∃ a ∈ as, a.fileDomain = none) ∧ Q unmapped ∨
        (∃ a ∈ as, a.fileDomain ≠ none ∧ a.fileDomain ≠ t.domain) ∧ Q crossing := by
  constructor
  · rintro ⟨r, hr, a, ha, hm, hQ⟩
    rcases mem_rules_policySet.mp hr with rfl | rfl
    · exact .inr ⟨⟨a, ha, (crossing_matches_iff (hk a ha)).mp hm⟩, hQ⟩
    · exact .inl ⟨⟨a, ha, (unmapped_matches_iff (hk a ha)).mp hm⟩, hQ⟩
  · rintro (⟨⟨a, ha, hd⟩, hQ⟩ | ⟨⟨a, ha, hd⟩, hQ⟩)
    · exact ⟨unmapped, mem_rules_policySet.mpr (.inr rfl), a, ha,
        (unmapped_matches_iff (hk a ha)).mpr hd, hQ⟩
    · exact ⟨crossing, mem_rules_policySet.mpr (.inl rfl), a, ha,
        (crossing_matches_iff (hk a ha)).mpr hd, hQ⟩

theorem exists_match_iff (hk : ∀ a ∈ as, a.kind = .modifyFile) :
    (∃ r ∈ Verdict.rules [policySet], ∃ a ∈ as, r.Matches a t) ↔
      (∃ a ∈ as, a.fileDomain = none) ∨
        ∃ a ∈ as, a.fileDomain ≠ none ∧ a.fileDomain ≠ t.domain := by
  simpa using exists_match_and_iff (t := t) (Q := fun _ => True) hk

theorem statusOf_policySet_eq_blocked_iff (hk : ∀ a ∈ as, a.kind = .modifyFile) :
    Verdict.statusOf (Verdict.gathered [policySet] as t) t = .blocked ↔
      (∃ a ∈ as, a.fileDomain = none) ∨
        (∃ a ∈ as, a.fileDomain ≠ none ∧ a.fileDomain ≠ t.domain) ∧ crossingTag ∉ t.tags := by
  rw [Verdict.statusOf_gathered_eq_blocked_iff (settles_policySet as t), exists_match_and_iff hk,
    crossing_blocks_iff, and_iff_left (unmapped_blocks t)]

theorem statusOf_policySet_eq_pass_iff (hk : ∀ a ∈ as, a.kind = .modifyFile) :
    Verdict.statusOf (Verdict.gathered [policySet] as t) t = .pass ↔
      ¬ ((∃ a ∈ as, a.fileDomain = none) ∨
        ∃ a ∈ as, a.fileDomain ≠ none ∧ a.fileDomain ≠ t.domain) ∧ t.source ≠ .unknown := by
  rw [Verdict.statusOf_eq_pass_iff, Verdict.gathered_eq_nil_iff (settles_policySet as t),
    exists_match_iff hk]

theorem bypassed_of_unmapped {w : Violation} (hw : w ∈ Verdict.gathered [policySet] as t)
    (hcode : w.code = unmapped.code) : w.bypassed = none := by
  obtain ⟨r, hr, a, -, -, hd⟩ := Verdict.mem_gathered.mp hw
  rcases mem_rules_policySet.mp hr with rfl | rfl
  · exact absurd (hd.code.symm.trans hcode) (by decide)
  · exact hd.bypassed_eq_none_iff.mpr rfl

/-- **The starter policy stops every stray file.**  A change set of modified files is blocked if a
file has no domain, or if one has another domain than the task's and no tag excuses that; the rest
is warned about where a file crosses domains or the task is unknown, and passes otherwise.  The
violations are one for each stray file. -/
theorem starter_gate (hk : ∀ a ∈ as, a.kind = .modifyFile) :
    ∃ p v, PolicySet.read policy = .ok p ∧ Verdict.evaluate [p] as t = .ok v ∧
      (v.status = .blocked ↔ (∃ a ∈ as, a.fileDomain = none) ∨
        (∃ a ∈ as, a.fileDomain ≠ none ∧ a.fileDomain ≠ t.domain) ∧ crossingTag ∉ t.tags) ∧
      (v.status = .warn ↔ v.status ≠ .blocked ∧
        ((∃ a ∈ as, a.fileDomain ≠ none ∧ a.fileDomain ≠ t.domain) ∨ t.source = .unknown)) ∧
      (v.status = .pass ↔ (∀ a ∈ as, a.fileDomain ≠ none ∧ a.fileDomain = t.domain) ∧
        t.source ≠ .unknown) ∧
      (∃ ws, ws.Perm v.violations ∧
        List.Forall₂ (fun a w => (ruleFor a).Describes a t w) (as.filter (strays t)) ws) ∧
      ∀ w ∈ v.violations, w.code = unmapped.code → w.bypassed = none := by
  have hblocked := statusOf_policySet_eq_blocked_iff (t := t) hk
  have hpass := statusOf_policySet_eq_pass_iff (t := t) hk
  refine ⟨policySet, _, read_policy,
    Verdict.evaluate_eq_ok_iff.mpr ⟨settles_policySet as t, rfl⟩, hblocked, ?_, ?_, ?_, ?_⟩
  · rw [Status.eq_warn_iff]
    refine and_congr_right fun hne => ?_
    have hmapped : ¬ ∃ a ∈ as, a.fileDomain = none := fun h => hne (hblocked.mpr (.inl h))
    rw [ne_eq, hpass, not_and_or, not_not, not_not, or_iff_right hmapped]
  · rw [hpass]
    refine and_congr_left' ⟨fun h a ha => ?_, ?_⟩
    · have hmapped : a.fileDomain ≠ none := fun hn => h (.inl ⟨a, ha, hn⟩)
      refine ⟨hmapped, ?_⟩
      by_contra hne
      exact h (.inr ⟨a, ha, hmapped, hne⟩)
    · rintro h (⟨a, ha, hn⟩ | ⟨a, ha, -, hne⟩)
      · exact (h a ha).1 hn
      · exact hne (h a ha).2
  · exact ⟨_, (gathered_policySet_perm hk).symm.trans (List.mergeSort_perm _ _).symm,
      forall₂_strays hk⟩
  · intro w hw
    exact bypassed_of_unmapped (List.mem_mergeSort.mp hw)

/-- A tag that excuses one file does not let the file beside it through. -/
theorem starter_gate_shut :
    (∀ a ∈ sampleFiles, a.kind = .modifyFile) ∧
    ∃ p v, PolicySet.read policy = .ok p ∧
      Verdict.evaluate [p] sampleFiles (sampleTask [crossingTag]) = .ok v ∧
      v.status = .blocked := by
  have hk : ∀ a ∈ sampleFiles, a.kind = .modifyFile := by decide
  obtain ⟨p, v, hp, hv, hblocked, -⟩ := starter_gate hk (t := sampleTask [crossingTag])
  exact ⟨hk, p, v, hp, hv, hblocked.mpr (.inl ⟨{ path := "a.sh" }, by simp [sampleFiles], rfl⟩)⟩

end ChangeGate.Starter
