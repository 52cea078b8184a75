import ChangeGate.Proofs.Starter.Policy
import Mathlib.Data.List.Perm.Basic
import Mathlib.Data.Nat.Basic
import Mathlib.Order.Lattice

/-! # The status of a verdict

Statuses are ordered from best to worst, and `statusOf` is the worst that any violation makes of
the source of the task (`statusOf_le_iff`).  A violation blocks exactly if its rule does as it is
declared (`status_eq_blocked_iff`), whatever became of the severity on the way, so the status of a
verdict can be read off the declared rules and the actions alone.

`evaluate_status` puts this together: when a change set is blocked, warned about or passed, and
that the status depends neither on an order nor gets better when rules or actions are added. -/

namespace ChangeGate
namespace Status

/-- How bad a status is. -/
def rank : Status → Nat
  | .pass => 0
  | .warn => 1
  | .blocked => 2

theorem rank_injective : Function.Injective rank := by
  intro s s' h
  cases s <;> cases s' <;> first | rfl | exact absurd h (by decide)

instance : LinearOrder Status := LinearOrder.lift' rank rank_injective

theorem worse_le_iff (s s' u : Status) : worse s s' ≤ u ↔ s ≤ u ∧ s' ≤ u := by
  cases s <;> cases s' <;> cases u <;> decide

theorem foldl_worse_le_iff (ss : List Status) (s u : Status) :
    ss.foldl worse s ≤ u ↔ s ≤ u ∧ ∀ x ∈ ss, x ≤ u := by
  induction ss generalizing s with
  | nil => simp
  | cons x ss ih =>
      rw [List.foldl_cons, ih, worse_le_iff, List.forall_mem_cons, and_assoc]

theorem pass_le (s : Status) : .pass ≤ s := by cases s <;> decide

theorem le_pass_iff (s : Status) : s ≤ .pass ↔ s = .pass := by cases s <;> decide

theorem le_warn_iff (s : Status) : s ≤ .warn ↔ s ≠ .blocked := by cases s <;> decide

theorem eq_warn_iff (s : Status) : s = .warn ↔ s ≠ .blocked ∧ s ≠ .pass := by
  cases s <;> decide

end Status

/-! ### One violation -/

namespace Violation

theorem status_ne_pass (v : Violation) : v.status ≠ .pass := by
  unfold status
  split <;> decide

theorem status_eq_blocked_iff (v : Violation) :
    v.status = .blocked ↔ v.bypassed = none ∧ v.severity = .error ∧ v.confidence = .high := by
  unfold status
  split <;> simp_all

theorem warn_le_status (v : Violation) : .warn ≤ v.status := by
  unfold status
  split <;> decide

end Violation

namespace Rule

variable {r : Rule} {a : Action} {t : Task} {v : Violation}

theorem isBypassed_iff : r.isBypassed t = true ↔ ∃ tag ∈ r.exceptTag, tag ∈ t.tags := by
  simp [isBypassed, Option.any_eq_true]

theorem Describes.bypassed_eq_none_iff (h : r.Describes a t v) :
    v.bypassed = none ↔ r.isBypassed t = false := by
  rw [h.bypassed]
  cases hb : r.isBypassed t with
  | false => simp
  | true =>
      obtain ⟨tag, htag, -⟩ := isBypassed_iff.mp hb
      simp [Option.mem_def.mp htag]

theorem effectiveSeverity_high (severity : String) :
    effectiveSeverity severity "high" false = severity := by
  simp [effectiveSeverity]

/-- A violation blocks exactly if its rule does. -/
theorem Describes.status_eq_blocked_iff (h : r.Describes a t v) :
    v.status = .blocked ↔ r.Blocks t := by
  rw [Violation.status_eq_blocked_iff, h.bypassed_eq_none_iff]
  have hs := h.severity
  have hc := h.confidence
  constructor
  · rintro ⟨hb, he, hh⟩
    rw [hh] at hc
    rw [he, hb, ← hc] at hs
    exact ⟨(effectiveSeverity_high _).symm.trans hs.symm, hc.symm, hb⟩
  · rintro ⟨he, hh, hb⟩
    rw [hb, hh, effectiveSeverity_high, he] at hs
    exact ⟨hb, Severity.label_injective _ _ hs, Confidence.label_injective _ _ (hc.trans hh)⟩

end Rule

namespace Verdict

variable {ps : List PolicySet} {as : List Action} {t : Task}

/-! ### The fold over violations -/

/-- The status of violations is the least one that none of them and not the task's source
exceeds. -/
theorem statusOf_le_iff {vs : List Violation} {s : Status} :
    statusOf vs t ≤ s ↔ (t.source = .unknown → .warn ≤ s) ∧ ∀ v ∈ vs, v.status ≤ s := by
  rw [statusOf, Status.foldl_worse_le_iff, List.forall_mem_map]
  by_cases ht : t.source = .unknown
  · simp [ht]
  · simp [ht, Status.pass_le]

/-- Violations come to no better status when each is outdone by another. -/
theorem statusOf_le_statusOf {t' : Task} {vs ws : List Violation} (ht : t.source = t'.source)
    (h : ∀ v ∈ vs, ∃ w ∈ ws, v.status ≤ w.status) : statusOf vs t ≤ statusOf ws t' := by
  obtain ⟨hsource, hall⟩ := statusOf_le_iff.mp (le_refl (statusOf ws t'))
  refine statusOf_le_iff.mpr ⟨fun hu => hsource (ht ▸ hu), fun v hv => ?_⟩
  obtain ⟨w, hw, hle⟩ := h v hv
  exact hle.trans (hall w hw)

/-- The order of violations has no part in their status. -/
theorem statusOf_perm {vs ws : List Violation} (h : vs.Perm ws) (t : Task) :
    statusOf vs t = statusOf ws t :=
  le_antisymm (statusOf_le_statusOf rfl fun v hv => ⟨v, h.mem_iff.mp hv, le_refl _⟩)
    (statusOf_le_statusOf rfl fun v hv => ⟨v, h.mem_iff.mpr hv, le_refl _⟩)

theorem statusOf_eq_blocked_iff {vs : List Violation} :
    statusOf vs t = .blocked ↔ ∃ v ∈ vs, v.status = .blocked := by
  rw [← not_iff_not, ← ne_eq, ← Status.le_warn_iff, statusOf_le_iff]
  simp [Status.le_warn_iff]

theorem statusOf_eq_pass_iff {vs : List Violation} :
    statusOf vs t = .pass ↔ vs = [] ∧ t.source ≠ .unknown := by
  rw [← Status.le_pass_iff, statusOf_le_iff, and_comm]
  refine and_congr ?_ ?_
  · rw [List.eq_nil_iff_forall_not_mem]
    refine forall₂_congr fun v _ => ?_
    rw [Status.le_pass_iff]
    exact iff_of_false v.status_ne_pass not_false
  · exact ⟨fun h hu => absurd (h hu) (by decide), fun h hu => absurd hu h⟩

/-! ### The status of what is gathered -/

section gathered
variable (hs : ∀ r ∈ rules ps, ∀ a ∈ as, r.Settles a t)
include hs

theorem statusOf_gathered_eq_blocked_iff :
    statusOf (gathered ps as t) t = .blocked ↔
      ∃ r ∈ rules ps, ∃ a ∈ as, r.Matches a t ∧ r.Blocks t := by
  rw [statusOf_eq_blocked_iff]
  constructor
  · rintro ⟨w, hw, hblocked⟩
    obtain ⟨r, hr, a, ha, hm, hd⟩ := mem_gathered.mp hw
    exact ⟨r, hr, a, ha, hm, hd.status_eq_blocked_iff.mp hblocked⟩
  · rintro ⟨r, hr, a, ha, hm, hb⟩
    obtain ⟨w, hw, hd⟩ := exists_mem_gathered hs hr ha hm
    exact ⟨w, hw, hd.status_eq_blocked_iff.mpr hb⟩

theorem gathered_eq_nil_iff :
    gathered ps as t = [] ↔ ¬ ∃ r ∈ rules ps, ∃ a ∈ as, r.Matches a t := by
  rw [List.eq_nil_iff_forall_not_mem]
  constructor
  · rintro h ⟨r, hr, a, ha, hm⟩
    obtain ⟨w, hw, -⟩ := exists_mem_gathered hs hr ha hm
    exact h w hw
  · intro h w hw
    obtain ⟨r, hr, a, ha, hm, -⟩ := mem_gathered.mp hw
    exact h ⟨r, hr, a, ha, hm⟩

end gathered

/-- More rules and more actions gather at least what fewer do. -/
theorem gathered_subset {ps' : List PolicySet} {as' : List Action} (hr : rules ps ⊆ rules ps')
    (ha : as ⊆ as') : gathered ps as t ⊆ gathered ps' as' t := by
  intro w hw
  obtain ⟨r, hr', a, ha', h⟩ := mem_gathered.mp hw
  exact mem_gathered.mpr ⟨r, hr hr', a, ha ha', h⟩

theorem statusOf_gathered_mono {ps' : List PolicySet} {as' : List Action}
    (hr : rules ps ⊆ rules ps') (ha : as ⊆ as') :
    statusOf (gathered ps as t) t ≤ statusOf (gathered ps' as' t) t :=
  statusOf_le_statusOf rfl fun w hw => ⟨w, gathered_subset hr ha hw, le_refl _⟩

/-- Rearranged policy files have the same rules. -/
theorem rules_perm {ps ps' : List PolicySet} (h : ps'.Perm ps) : (rules ps').Perm (rules ps) :=
  h.flatMap_right _

/-! ### The verdict on a change set -/

/-- **The status follows the declared rules.**  It is the worst that a declared rule makes of an
action that it matches, so it is the same for any order of the policy files, of the rules and of
the actions, and no addition to them makes it better. -/
theorem evaluate_status (hj : Judged ps as t) :
    ((∀ r ∈ rules ps, r.IsNamed) → ∃ v, evaluate ps as t = .ok v) ∧
    (∀ v, evaluate ps as t = .ok v →
      (v.status = .blocked ↔ ∃ r ∈ rules ps, ∃ a ∈ as, r.Matches a t ∧ r.Blocks t) ∧
      (v.status = .warn ↔ v.status ≠ .blocked ∧
        ((∃ r ∈ rules ps, ∃ a ∈ as, r.Matches a t) ∨ t.source = .unknown)) ∧
      (v.status = .pass ↔ (¬ ∃ r ∈ rules ps, ∃ a ∈ as, r.Matches a t) ∧ t.source ≠ .unknown) ∧
      (∀ ps' as', ps'.Perm ps ∨ (rules ps').Perm (rules ps) → as'.Perm as →
        ∃ v', evaluate ps' as' t = .ok v' ∧ v'.status = v.status) ∧
      (∀ ps' as' v', evaluate ps' as' t = .ok v' → rules ps ⊆ rules ps' → as ⊆ as' →
        v.status ≤ v'.status)) ∧
    ∀ vs ws : List Violation, ws.Perm vs → statusOf ws t = statusOf vs t := by
  refine ⟨exists_evaluate hj, ?_, fun vs ws h => statusOf_perm h t⟩
  intro v hv
  obtain ⟨hs, rfl⟩ := evaluate_eq_ok_iff.mp hv
  have hpass : statusOf (gathered ps as t) t = .pass ↔
      (¬ ∃ r ∈ rules ps, ∃ a ∈ as, r.Matches a t) ∧ t.source ≠ .unknown := by
    rw [statusOf_eq_pass_iff, gathered_eq_nil_iff hs]
  refine ⟨statusOf_gathered_eq_blocked_iff hs, ?_, hpass, ?_, ?_⟩
  · rw [Status.eq_warn_iff, ne_eq (statusOf _ _) Status.pass, hpass, not_and_or, not_not, not_not]
  · intro ps' as' hps has
    have hr : (rules ps').Perm (rules ps) := hps.elim rules_perm id
    refine ⟨_, evaluate_eq_ok_iff.mpr ⟨?_, rfl⟩, ?_⟩
    · intro r hr' a ha'
      exact hs r (hr.mem_iff.mp hr') a (has.mem_iff.mp ha')
    · exact le_antisymm (statusOf_gathered_mono hr.subset has.subset)
        (statusOf_gathered_mono hr.symm.subset has.symm.subset)
  · intro ps' as' v' hv' hr ha
    obtain ⟨-, rfl⟩ := evaluate_eq_ok_iff.mp hv'
    exact statusOf_gathered_mono hr ha

/-- A file without a domain blocks beside a file that a tag excuses. -/
theorem evaluate_status_beside_excused :
    Judged [Starter.policySet] Starter.sampleFiles (Starter.sampleTask [Starter.crossingTag]) ∧
    ∃ v, evaluate [Starter.policySet] Starter.sampleFiles
        (Starter.sampleTask [Starter.crossingTag]) = .ok v ∧
      v.status = .blocked := by
  have hj := Starter.judged_policySet Starter.sampleFiles (Starter.sampleTask [Starter.crossingTag])
  obtain ⟨hreturns, hstatus, -⟩ := evaluate_status hj
  obtain ⟨v, hv⟩ := hreturns Starter.isNamed_policySet
  refine ⟨hj, v, hv, (hstatus v hv).1.mpr ⟨Starter.unmapped, ?_, { path := "a.sh" }, ?_, ?_⟩⟩
  · exact Starter.mem_rules_policySet.mpr (.inr rfl)
  · simp [Starter.sampleFiles]
  · decide

end Verdict

end ChangeGate
