import ChangeGate.Proofs.Policy.RoundTrip
import ChangeGate.Proofs.Predicate.Conjuncts
import ChangeGate.Proofs.Verdict.Status

/-! # Verdicts on policies that are read

The predicates of a policy file that is read are chains, and the severities and levels of confidence
that it names are known ones (`PolicySet.known_of_read`).  So judging its rules never comes to a
fault, and a match is never refused as a violation.

`evaluate_of_read`: policy files that are read have a verdict on every change set. -/

namespace ChangeGate

/-- A policy set that some source is read as. -/
def PolicySet.IsRead (s : PolicySet) : Prop :=
  ∃ source file, PolicySet.read source file = .ok s

theorem Status.label_mem (s : Status) : s.label ∈ ["pass", "warn", "blocked"] := by
  cases s <;> decide

namespace Rule

variable {r : Rule} {a : Action} {t : Task} {v : Violation}

/-- A violation that is excused is excused by the rule's tag, which the task has. -/
theorem Describes.bypass_tag (h : r.Describes a t v) {b : Bypass} (hb : v.bypassed = some b) :
    r.exceptTag = some b.tag ∧ b.tag ∈ t.tags := by
  rw [h.bypassed] at hb
  split at hb
  · rename_i hbypassed
    obtain ⟨tag, htag, hmem⟩ := isBypassed_iff.mp hbypassed
    rw [Option.mem_def.mp htag] at hb
    cases hb
    exact ⟨htag, hmem⟩
  · cases hb

end Rule

namespace Verdict

variable {ps : List PolicySet} {r : Rule}

/-- The rules of policy files that are read are rules as they are read. -/
theorem isKnown_of_mem_rules (hps : ∀ p ∈ ps, p.IsRead) (hr : r ∈ rules ps) :
    Policy.IsKnown r := by
  obtain ⟨p, hp, hr⟩ := List.mem_flatMap.mp hr
  obtain ⟨source, file, hread⟩ := hps p hp
  exact (PolicySet.known_of_read hread).2 r hr

theorem isNamed_of_mem_rules (hps : ∀ p ∈ ps, p.IsRead) (hr : r ∈ rules ps) : r.IsNamed :=
  have hknown := isKnown_of_mem_rules hps hr
  ⟨hknown.severity, hknown.confidence⟩

/-- Rules that are read are settled on every action. -/
theorem settles_of_mem_rules (hps : ∀ p ∈ ps, p.IsRead) (hr : r ∈ rules ps) (a : Action)
    (t : Task) : r.Settles a t :=
  .of_isNamed (isNamed_of_mem_rules hps hr)
    (Predicate.exists_truth_of_isChain a t (isKnown_of_mem_rules hps hr).sound)

/-- **What is read can be evaluated.**  No rule of policy files that are read has a predicate that
cannot be judged or a match that is refused, so there is a verdict on every change set; and each
violation in it is what a rule says of an action that it matches, with a known severity and level of
confidence and with no tag but one that the rule names and the task has. -/
theorem evaluate_of_read (hps : ∀ p ∈ ps, p.IsRead) (as : List Action) (t : Task) :
    (∀ r ∈ rules ps, ∀ a : Action,
      (∀ fault, (r.when.judge a t).truth ≠ .error fault) ∧
        ∀ issues, r.violation a t ≠ .bad issues) ∧
    ∃ v, evaluate ps as t = .ok v ∧
      v.status.label ∈ ["pass", "warn", "blocked"] ∧
      ∀ w ∈ v.violations, ∃ r ∈ rules ps, ∃ a ∈ as, r.Matches a t ∧ r.Describes a t w ∧
        w.severity.label ∈ severityNames ∧ w.confidence.label ∈ confidenceNames ∧
        ∀ b, w.bypassed = some b → r.exceptTag = some b.tag ∧ b.tag ∈ t.tags := by
  refine ⟨fun r hr a => ⟨fun fault hfault => ?_, fun issues hissues => ?_⟩, ?_⟩
  · obtain ⟨b, hb⟩ := Predicate.exists_truth_of_isChain a t (isKnown_of_mem_rules hps hr).sound
    rw [hb] at hfault
    cases hfault
  · obtain ⟨w, hw⟩ := (isNamed_of_mem_rules hps hr).exists_violation a t
    rw [hw] at hissues
    cases hissues
  · have hs : ∀ r ∈ rules ps, ∀ a ∈ as, r.Settles a t :=
      fun r hr a _ => settles_of_mem_rules hps hr a t
    refine ⟨_, evaluate_eq_ok_iff.mpr ⟨hs, rfl⟩, ?_, fun w hw => ?_⟩
    · exact Status.label_mem _
    · obtain ⟨r, hr, a, ha, hm, hd⟩ := mem_gathered.mp (List.mem_mergeSort.mp hw)
      obtain ⟨hseverity, hconfidence⟩ := isNamed_of_mem_rules hps hr
      refine ⟨r, hr, a, ha, hm, hd, ?_, hd.confidence ▸ hconfidence, fun b => hd.bypass_tag⟩
      rw [hd.severity]
      exact Rule.effectiveSeverity_mem hseverity _ _

/-- The starter policy, as it is read, has a verdict with the violations of two rules. -/
theorem evaluate_of_read_starter :
    (∀ p ∈ [Starter.policySet], p.IsRead) ∧
    ∃ v, evaluate [Starter.policySet] Starter.sampleFiles (Starter.sampleTask []) = .ok v ∧
      ∀ w ∈ v.violations, ∃ r ∈ rules [Starter.policySet], ∃ a ∈ Starter.sampleFiles,
        r.Matches a (Starter.sampleTask []) ∧ r.Describes a (Starter.sampleTask []) w := by
  have hread : ∀ p ∈ [Starter.policySet], p.IsRead :=
    List.forall_mem_singleton.mpr ⟨_, _, Starter.read_policy⟩
  obtain ⟨-, v, hv, -, hviolations⟩ :=
    evaluate_of_read hread Starter.sampleFiles (Starter.sampleTask [])
  refine ⟨hread, v, hv, fun w hw => ?_⟩
  obtain ⟨r, hr, a, ha, hm, hd, -⟩ := hviolations w hw
  exact ⟨r, hr, a, ha, hm, hd⟩

end Verdict

end ChangeGate
