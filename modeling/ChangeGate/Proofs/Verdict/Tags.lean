import ChangeGate.Proofs.Verdict.Status

/-! # What the tags of a task can do

Tags are the one part of a change that no other field can equal: a list of texts is compared with
itself or with something that is no list.  So a predicate is judged alike under any two tasks of one
domain (`Predicate.judge_eq_of_domain_eq`), and tags work on a verdict through bypasses alone.

`evaluate_tags`: tags hide no violation, more of them never block, and they never turn a warning
into a pass. -/

namespace ChangeGate

variable {t t' : Task}

/-! ### Judging under other tags -/

/-- What an operand stands for under two tasks that differ in their tags at most. -/
inductive Operand.Alike (t t' : Task) : Operand → Operand → Prop
  | null : Alike t t' .null .null
  | text (s : String) : Alike t t' (.text s) (.text s)
  | number (n : Number) : Alike t t' (.number n) (.number n)
  | tags : Alike t t' (.texts t.tags) (.texts t'.tags)

namespace Operand.Alike

variable {x x' y y' : Operand}

theorem ofField {s : Option String} :
    Alike t t' (.ofField (s.map .text)) (.ofField (s.map .text)) := by
  cases s with
  | none => exact .null
  | some s => exact .text s

/-- Tags are equal to tags and to nothing else, whatever they are. -/
theorem same_eq (hx : Alike t t' x x') (hy : Alike t t' y y') : x.same y = x'.same y' := by
  cases hx <;> cases hy <;> first | rfl | simp [Operand.same]

theorem holds_eq (hx : Alike t t' x x') (hy : Alike t t' y y') (relation : Relation) :
    relation.holds x y = relation.holds x' y' := by
  cases relation with
  | equal => rw [Relation.holds, Relation.holds, hx.same_eq hy]
  | unequal => rw [Relation.holds, Relation.holds, hx.same_eq hy]
  | other symbol => rfl

end Operand.Alike

namespace Predicate

variable (a : Action)

theorem read_alike (hd : t.domain = t'.domain) (f : Field) :
    Operand.Alike t t' (.ofField (f.read a t)) (.ofField (f.read a t')) := by
  cases f with
  | actionKind => exact .text _
  | actionPath => exact .text _
  | filePath => exact .text _
  | taskTags => exact .tags
  | taskDomain =>
      show Operand.Alike t t' (.ofField (t.domain.map .text)) (.ofField (t'.domain.map .text))
      rw [← hd]
      exact .ofField
  | _ => exact .ofField

theorem lookup_alike (hd : t.domain = t'.domain) (path : String) :
    ∃ x x' us, lookup a t path = (x, us) ∧ lookup a t' path = (x', us) ∧
      Operand.Alike t t' x x' := by
  unfold lookup
  cases Field.ofPath? path with
  | none => exact ⟨_, _, _, rfl, rfl, .null⟩
  | some f => exact ⟨_, _, _, rfl, rfl, read_alike a hd f⟩

theorem operand_alike (hd : t.domain = t'.domain) (p : Predicate) :
    (∃ f us, operand a t p = (.error f, us) ∧ operand a t' p = (.error f, us)) ∨
      ∃ x x' us, operand a t p = (.ok x, us) ∧ operand a t' p = (.ok x', us) ∧
        Operand.Alike t t' x x' := by
  cases p with
  | both _ _ => exact .inl ⟨_, _, rfl, rfl⟩
  | compare _ _ _ => exact .inl ⟨_, _, rfl, rfl⟩
  | other _ => exact .inl ⟨_, _, rfl, rfl⟩
  | text s => exact .inr ⟨_, _, _, rfl, rfl, .text s⟩
  | number n => exact .inr ⟨_, _, _, rfl, rfl, .number n⟩
  | null => exact .inr ⟨_, _, _, rfl, rfl, .null⟩
  | field path =>
      obtain ⟨x, x', us, e, e', hx⟩ := lookup_alike a hd path
      exact .inr ⟨x, x', us, by rw [operand, e], by rw [operand, e'], hx⟩

/-- Tasks of one domain are not told apart by a predicate. -/
theorem judge_eq_of_domain_eq (hd : t.domain = t'.domain) (p : Predicate) :
    p.judge a t = p.judge a t' := by
  induction p with
  | both left right ihl ihr => rw [judge, judge, ihl, ihr]
  | text s => rfl
  | number n => rfl
  | null => rfl
  | other kind => rfl
  | field path =>
      obtain ⟨x, x', us, e, e', hx⟩ := lookup_alike a hd path
      simp only [judge, e, e', hx.same_eq .null]
  | compare relation left right _ _ =>
      rw [judge, judge]
      rcases operand_alike a hd left with ⟨f, us, e, e'⟩ | ⟨x, x', us, e, e', hx⟩
      · rw [e, e']
      rcases operand_alike a hd right with ⟨f, us', e₂, e₂'⟩ | ⟨y, y', us', e₂, e₂', hy⟩
      · rw [e, e', e₂, e₂']
      · simp only [e, e', e₂, e₂', hx.holds_eq hy]

end Predicate

/-! ### Verdicts under other tags -/

namespace Rule

variable {r : Rule} {a : Action}

theorem matches_iff_of_domain_eq (hd : t.domain = t'.domain) :
    r.Matches a t ↔ r.Matches a t' := by
  rw [Matches, Matches, Predicate.judge_eq_of_domain_eq a hd]

/-- More tags excuse more. -/
theorem isBypassed_mono (h : t.tags ⊆ t'.tags) (hb : r.isBypassed t = true) :
    r.isBypassed t' = true := by
  obtain ⟨tag, htag, hmem⟩ := isBypassed_iff.mp hb
  exact isBypassed_iff.mpr ⟨tag, htag, h hmem⟩

/-- What blocks under more tags blocks under fewer. -/
theorem Blocks.anti (h : t.tags ⊆ t'.tags) (hb : r.Blocks t') : r.Blocks t := by
  obtain ⟨hs, hc, hexcused⟩ := hb
  refine ⟨hs, hc, ?_⟩
  rw [← Bool.not_eq_true] at hexcused ⊢
  exact fun hb => hexcused (isBypassed_mono h hb)

end Rule

namespace Violation

/-- The part of a violation that tags leave alone: what was found, where, and how sure it is. -/
def finding (v : Violation) : String × Evidence × Confidence :=
  (v.code, v.evidence, v.confidence)

end Violation

namespace Rule

variable {r : Rule} {a : Action}

theorem evidence_eq_of_domain_eq (hd : t.domain = t'.domain) (a : Action) :
    evidence a t = evidence a t' := by
  rw [evidence, evidence, hd]

theorem Describes.finding_eq {v v' : Violation} (hd : t.domain = t'.domain)
    (h : r.Describes a t v) (h' : r.Describes a t' v') : v.finding = v'.finding := by
  have hc := Confidence.label_injective _ _ (h.confidence.trans h'.confidence.symm)
  rw [Violation.finding, Violation.finding, h.code, h'.code, h.evidence, h'.evidence, hc,
    evidence_eq_of_domain_eq hd]

/-- A settled rule finds the same under other tags. -/
theorem found?_finding_eq (hd : t.domain = t'.domain) (hs : r.Settles a t)
    (hs' : r.Settles a t') :
    (r.found? a t).map Violation.finding = (r.found? a t').map Violation.finding := by
  by_cases hm : r.Matches a t
  · have hm' := (matches_iff_of_domain_eq hd).mp hm
    obtain ⟨v, hv⟩ := hs.exists_found hm
    obtain ⟨v', hv'⟩ := hs'.exists_found hm'
    have hdesc := (found?_eq_some_iff.mp hv).2
    have hdesc' := (found?_eq_some_iff.mp hv').2
    rw [hv, hv', Option.map_some, Option.map_some, hdesc.finding_eq hd hdesc']
  · have hm' := fun h => hm ((matches_iff_of_domain_eq hd).mpr h)
    rw [found?_of_not_matches hm, found?_of_not_matches hm']

end Rule

namespace Verdict

variable {ps : List PolicySet} {as : List Action}

theorem judged_of_domain_eq (hd : t.domain = t'.domain) (hj : Judged ps as t) :
    Judged ps as t' := by
  intro r hr a ha
  rw [← Predicate.judge_eq_of_domain_eq a hd]
  exact hj r hr a ha

/-- Settled rules gather the same findings under other tags. -/
theorem gathered_finding_eq (hd : t.domain = t'.domain)
    (hs : ∀ r ∈ rules ps, ∀ a ∈ as, r.Settles a t)
    (hs' : ∀ r ∈ rules ps, ∀ a ∈ as, r.Settles a t') :
    (gathered ps as t).map Violation.finding = (gathered ps as t').map Violation.finding := by
  rw [gathered, gathered, List.map_filterMap, List.map_filterMap]
  refine List.filterMap_congr fun p hp => ?_
  obtain ⟨hr, ha⟩ := mem_pairs.mp hp
  exact Rule.found?_finding_eq hd (hs _ hr _ ha) (hs' _ hr _ ha)

/-- **Tags bypass, and do nothing else.**  Under two tasks of one domain and source the same rules
match the same actions with the same findings; and where the second task has all tags of the first,
its status is no worse, and a pass only if the first is. -/
theorem evaluate_tags (hd : t.domain = t'.domain) (hsource : t.source = t'.source)
    (hj : Judged ps as t) :
    (∀ r a, Rule.Matches r a t ↔ Rule.Matches r a t') ∧
    ((∀ r ∈ rules ps, r.IsNamed) →
      (∃ v, evaluate ps as t = .ok v) ∧ ∃ v', evaluate ps as t' = .ok v') ∧
    ∀ v v', evaluate ps as t = .ok v → evaluate ps as t' = .ok v' →
      (v.violations.map Violation.finding).Perm (v'.violations.map Violation.finding) ∧
      (t.tags ⊆ t'.tags → v'.status ≤ v.status ∧ (v'.status = .pass ↔ v.status = .pass)) := by
  refine ⟨fun r a => Rule.matches_iff_of_domain_eq hd, fun hn =>
    ⟨exists_evaluate hj hn, exists_evaluate (judged_of_domain_eq hd hj) hn⟩, ?_⟩
  intro v v' hv hv'
  obtain ⟨hs, rfl⟩ := evaluate_eq_ok_iff.mp hv
  obtain ⟨hs', rfl⟩ := evaluate_eq_ok_iff.mp hv'
  have hfindings := gathered_finding_eq hd hs hs'
  refine ⟨?_, fun htags => ⟨?_, ?_⟩⟩
  · have hperm := (List.mergeSort_perm (gathered ps as t) Violation.before).map Violation.finding
    have hperm' := (List.mergeSort_perm (gathered ps as t') Violation.before).map Violation.finding
    rw [hfindings] at hperm
    exact hperm.trans hperm'.symm
  · refine statusOf_le_statusOf hsource.symm fun w' hw' => ?_
    obtain ⟨r, hr, a, ha, hm, hdesc'⟩ := mem_gathered.mp hw'
    obtain ⟨w, hw, hdesc⟩ :=
      exists_mem_gathered hs hr ha ((Rule.matches_iff_of_domain_eq hd).mpr hm)
    refine ⟨w, hw, ?_⟩
    by_cases hblocks : r.Blocks t'
    · have hb := hdesc.status_eq_blocked_iff.mpr (hblocks.anti htags)
      rw [hb, hdesc'.status_eq_blocked_iff.mpr hblocks]
    · have hne := fun h => hblocks (hdesc'.status_eq_blocked_iff.mp h)
      exact ((Status.le_warn_iff _).mpr hne).trans w.warn_le_status
  · rw [statusOf_eq_pass_iff, statusOf_eq_pass_iff, ← List.map_eq_nil_iff (f := Violation.finding),
      ← hfindings, List.map_eq_nil_iff, hsource]

/-- The tag that excuses a file of another domain leaves its finding where it is. -/
theorem evaluate_tags_excused :
    Judged [Starter.policySet] Starter.sampleFiles (Starter.sampleTask []) ∧
    ∃ v v', evaluate [Starter.policySet] Starter.sampleFiles (Starter.sampleTask []) = .ok v ∧
      evaluate [Starter.policySet] Starter.sampleFiles
        (Starter.sampleTask [Starter.crossingTag]) = .ok v' ∧
      (v.violations.map Violation.finding).Perm (v'.violations.map Violation.finding) ∧
      v'.status ≤ v.status ∧ (v'.status = .pass ↔ v.status = .pass) := by
  have hd : (Starter.sampleTask []).domain = (Starter.sampleTask [Starter.crossingTag]).domain := rfl
  have hj := Starter.judged_policySet Starter.sampleFiles (Starter.sampleTask [])
  obtain ⟨-, hreturns, hverdicts⟩ := evaluate_tags hd rfl hj
  obtain ⟨⟨v, hv⟩, v', hv'⟩ := hreturns Starter.isNamed_policySet
  obtain ⟨hfindings, hstatus⟩ := hverdicts v v' hv hv'
  exact ⟨hj, v, v', hv, hv', hfindings, hstatus (List.nil_subset _)⟩

end Verdict

end ChangeGate
