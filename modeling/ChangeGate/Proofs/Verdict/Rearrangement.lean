import ChangeGate.Plan
import ChangeGate.Proofs.Scope.Majority
import ChangeGate.Proofs.Verdict.Order
import ChangeGate.Proofs.Verdict.Status
import ChangeGate.Review
import Mathlib.Data.List.Sort

/-! # Change sets in another order

A violation names the file that it was seen in, so where no two changed files have one path,
violations that agree in severity, path and code come from one file and stand in the order of their
rules (`pairwise_sorted_ranked`).  That leaves one order for the violations of a change set, however
its files are listed (`sorted_gathered_perm`).

`evaluate_perm`: the verdict on a change set, or what keeps it from having one, does not depend on
the order of the files.  `Plan.text_rearranged` says so of the whole way from the changed files to
the text of the plan. -/

namespace ChangeGate

variable {ps : List PolicySet} {as as' : List Action} {t : Task}

namespace Verdict

/-! ### Violations by their rules -/

/-- The violations of a change set as they are found, each with the position of its rule. -/
def ranked (ps : List PolicySet) (as : List Action) (t : Task) : List (Nat × Violation) :=
  (rules ps).zipIdx.flatMap fun r => as.filterMap fun a => (r.1.found? a t).map (r.2, ·)

theorem map_snd_ranked : (ranked ps as t).map (·.2) = gathered ps as t := by
  have hrule (r : Rule × Nat) :
      (as.filterMap fun a => (r.1.found? a t).map (r.2, ·)).map (·.2) =
        as.filterMap (r.1.found? · t) := by
    rw [List.map_filterMap]
    refine List.filterMap_congr fun a _ => ?_
    cases r.1.found? a t <;> rfl
  have hgathered : gathered ps as t = (rules ps).flatMap fun r => as.filterMap (r.found? · t) := by
    rw [gathered, pairs, List.filterMap_flatMap]
    simp only [List.filterMap_map]
    rfl
  rw [hgathered, ranked, List.map_flatMap]
  simp only [hrule]
  exact Occurrence.flatMap_zipIdx (rules ps) fun r => as.filterMap (r.found? · t)

theorem ranked_perm (h : as'.Perm as) : (ranked ps as' t).Perm (ranked ps as t) :=
  List.Perm.flatMap_left _ fun _ _ => h.filterMap _

theorem gathered_perm (h : as'.Perm as) : (gathered ps as' t).Perm (gathered ps as t) := by
  rw [← map_snd_ranked, ← map_snd_ranked]
  exact (ranked_perm h).map _

/-- Violations are found rule by rule, and one rule finds no two at one path. -/
theorem pairwise_ranked (ps : List PolicySet) (t : Task) (hpaths : (as.map (·.path)).Nodup) :
    (ranked ps as t).Pairwise fun x y =>
      x.1 < y.1 ∨ x.1 = y.1 ∧ x.2.evidence.path ≠ y.2.evidence.path := by
  refine List.pairwise_flatMap.mpr ⟨fun r _ => ?_, ?_⟩
  · refine List.pairwise_filterMap.mpr ((List.pairwise_map.mp hpaths).imp ?_)
    intro a b hne x hx y hy
    obtain ⟨v, hv, rfl⟩ := Option.map_eq_some_iff.mp hx
    obtain ⟨w, hw, rfl⟩ := Option.map_eq_some_iff.mp hy
    have hva := (Rule.found?_eq_some_iff.mp hv).2.evidence
    have hwb := (Rule.found?_eq_some_iff.mp hw).2.evidence
    refine .inr ⟨rfl, ?_⟩
    rw [hva, hwb]
    exact hne
  · refine (Occurrence.pairwise_zipIdx (rules ps)).imp fun hlt => ?_
    intro x hx y hy
    obtain ⟨a, -, ha⟩ := List.mem_filterMap.mp hx
    obtain ⟨b, -, hb⟩ := List.mem_filterMap.mp hy
    obtain ⟨v, -, rfl⟩ := Option.map_eq_some_iff.mp ha
    obtain ⟨w, -, rfl⟩ := Option.map_eq_some_iff.mp hb
    exact .inl hlt

/-- In order, violations stand by their keys and then by their rules. -/
theorem pairwise_sorted_ranked (hpaths : (as.map (·.path)).Nodup) :
    ((ranked ps as t).mergeSort fun x y => x.2.before y.2).Pairwise fun x y =>
      x.2.key < y.2.key ∨ x.2.key = y.2.key ∧ x.1 < y.1 := by
  have h := pairwise_mergeSort_of_pairwise (fun x y => x.2.before y.2)
    (fun x y z => Violation.before_trans x.2 y.2 z.2)
    (fun x y => Violation.before_total x.2 y.2) (pairwise_ranked ps t hpaths)
  refine h.imp fun {x y} hxy => ?_
  rw [Violation.before_iff, Violation.before_iff] at hxy
  rcases hxy.1.lt_or_eq with hlt | heq
  · exact .inl hlt
  · -- Equal keys have equal paths, which one rule never gives two violations.
    have hpath : x.2.evidence.path = y.2.evidence.path :=
      congrArg (fun k => (ofLex (ofLex k).2).1) heq
    rcases hxy.2 heq.ge with hrule | ⟨-, hne⟩
    · exact .inr ⟨heq, hrule⟩
    · exact absurd hpath hne

theorem map_snd_sorted_ranked :
    ((ranked ps as t).mergeSort fun x y => x.2.before y.2).map (·.2) =
      Violation.sorted (gathered ps as t) := by
  rw [Violation.sorted, ← map_snd_ranked]
  exact List.map_mergeSort fun _ _ _ _ => rfl

/-- A change set has one list of violations, however its files are ordered. -/
theorem sorted_gathered_perm (h : as'.Perm as) (hpaths : (as.map (·.path)).Nodup) :
    Violation.sorted (gathered ps as' t) = Violation.sorted (gathered ps as t) := by
  have hpaths' : (as'.map (·.path)).Nodup := (h.map _).nodup_iff.mpr hpaths
  have hperm : ((ranked ps as' t).mergeSort fun x y => x.2.before y.2).Perm
      ((ranked ps as t).mergeSort fun x y => x.2.before y.2) :=
    (List.mergeSort_perm _ _).trans ((ranked_perm h).trans (List.mergeSort_perm _ _).symm)
  rw [← map_snd_sorted_ranked, ← map_snd_sorted_ranked]
  refine congrArg (List.map (·.2)) (hperm.eq_of_pairwise ?_ (pairwise_sorted_ranked hpaths')
    (pairwise_sorted_ranked hpaths))
  rintro x y - - (hlt | ⟨heq, hlt⟩) (hlt' | ⟨heq', hlt'⟩)
  · exact absurd hlt' hlt.asymm
  · exact absurd heq' hlt.ne'
  · exact absurd heq hlt'.ne'
  · exact absurd hlt' hlt.asymm

theorem distinct_perm {us us' : List String} (h : us'.Perm us) : distinct us' = distinct us := by
  have hsorted : us'.mergeSort (· ≤ ·) = us.mergeSort (· ≤ ·) := by
    refine ((List.mergeSort_perm _ _).trans (h.trans (List.mergeSort_perm _ _).symm)).eq_of_pairwise
      ?_ (List.pairwise_mergeSort' _ _) (List.pairwise_mergeSort' _ _)
    exact fun _ _ _ _ => le_antisymm
  rw [distinct, distinct, hsorted]

theorem consulted_perm (h : as'.Perm as) : (consulted ps as' t).Perm (consulted ps as t) :=
  List.Perm.flatMap_right _ (List.Perm.flatMap_left _ fun _ _ => h.map _)

end Verdict

/-! ### What keeps a change set from having a verdict -/

/-- What is wrong with a pair of parts does not depend on what would be made of them. -/
theorem Schema.Checked.map_seq_eq_bad {α β γ : Type} {f g : α → β → γ} {c : Checked α}
    {d : Checked β} {issues : List Issue} (h : f <$> c <*> d = .bad issues) :
    g <$> c <*> d = .bad issues := by
  cases c with
  | good x =>
      cases d with
      | good y => cases h
      | bad _ => exact h
  | bad _ =>
      cases d with
      | good y => exact h
      | bad _ => exact h

/-- A rule without a violation has none on any action, and for the same reason. -/
theorem Rule.violation_eq_bad {r : Rule} {a : Action} {issues : List Schema.Issue} (a' : Action)
    (h : r.violation a t = .bad issues) : r.violation a' t = .bad issues := by
  unfold violation at h ⊢
  exact Schema.Checked.map_seq_eq_bad h

namespace Verdict

variable {e : EvaluationError}

/-- A rule that can be judged on an action is kept from being settled by a match without a
violation. -/
theorem match?_eq_error_iff {r : Rule} {a : Action}
    (hj : ∃ b, (r.when.judge a t).truth = .ok b) :
    match? r a t = .error e ↔
      r.Matches a t ∧ ∃ issues, r.violation a t = .bad issues ∧ e = .invalid issues := by
  obtain ⟨b, hb⟩ := hj
  rw [match?, Rule.Matches, hb]
  cases b with
  | false => simp
  | true => cases r.violation a t <;> simp [eq_comm]

theorem matchAll_cons_eq_error_iff {p : Rule × Action} {prs : List (Rule × Action)} :
    matchAll t (p :: prs) = .error e ↔
      match? p.1 p.2 t = .error e ∨ p.1.Settles p.2 t ∧ matchAll t prs = .error e := by
  rw [matchAll]
  cases hm : match? p.1 p.2 t with
  | error e' =>
      have hs : ¬ p.1.Settles p.2 t := by
        intro hs
        rw [match?_eq_ok_iff.mpr ⟨hs, rfl, rfl⟩] at hm
        cases hm
      simp [hs]
  | ok first =>
      have hs := (match?_eq_ok_iff.mp hm).1
      cases matchAll t prs <;> simp [hs]

theorem matchAll_append_eq_error_iff {prs qrs : List (Rule × Action)} :
    matchAll t (prs ++ qrs) = .error e ↔
      matchAll t prs = .error e ∨ (∀ p ∈ prs, p.1.Settles p.2 t) ∧ matchAll t qrs = .error e := by
  induction prs with
  | nil => simp [matchAll]
  | cons p prs ih =>
      rw [List.cons_append, matchAll_cons_eq_error_iff, matchAll_cons_eq_error_iff, ih,
        List.forall_mem_cons, and_or_left, and_assoc, or_assoc]

/-- A rule that can be judged on some actions is kept from being settled on all of them by a match
without a violation, whichever it is. -/
theorem matchAll_map_eq_error_iff {r : Rule}
    (hj : ∀ a ∈ as, ∃ b, (r.when.judge a t).truth = .ok b) :
    matchAll t (as.map (r, ·)) = .error e ↔
      ∃ a ∈ as, r.Matches a t ∧ ∃ issues, r.violation a t = .bad issues ∧ e = .invalid issues := by
  induction as with
  | nil => simp [matchAll]
  | cons a as ih =>
      obtain ⟨ha, hj⟩ := List.forall_mem_cons.mp hj
      rw [List.map_cons, matchAll_cons_eq_error_iff, match?_eq_error_iff ha, ih hj,
        List.exists_mem_cons_iff]
      constructor
      · rintro (h | ⟨-, h⟩)
        · exact .inl h
        · exact .inr h
      · rintro (h | ⟨a', ha', hm, issues, hbad, rfl⟩)
        · exact .inl h
        · -- The first action may fail too, and then it fails in the same way.
          have hbad' := Rule.violation_eq_bad a hbad
          obtain ⟨b, hb⟩ := ha
          cases b with
          | true => exact .inl ⟨hb, issues, hbad', rfl⟩
          | false => exact .inr ⟨.inl hb, a', ha', hm, issues, hbad, rfl⟩

/-- The first rule that has no violation for a match keeps a change set from having a verdict,
however its files are ordered. -/
theorem matchAll_pairs_perm (h : as'.Perm as) {rs : List Rule}
    (hj : ∀ r ∈ rs, ∀ a ∈ as, ∃ b, (r.when.judge a t).truth = .ok b)
    (he : matchAll t (rs.flatMap fun r => as.map (r, ·)) = .error e) :
    matchAll t (rs.flatMap fun r => as'.map (r, ·)) = .error e := by
  induction rs with
  | nil => exact he
  | cons r rs ih =>
      obtain ⟨hr, hj⟩ := List.forall_mem_cons.mp hj
      have hr' : ∀ a ∈ as', ∃ b, (r.when.judge a t).truth = .ok b :=
        fun a ha => hr a (h.mem_iff.mp ha)
      rw [List.flatMap_cons, matchAll_append_eq_error_iff] at he ⊢
      rcases he with hfirst | ⟨hs, hrest⟩
      · obtain ⟨a, ha, hbad⟩ := (matchAll_map_eq_error_iff hr).mp hfirst
        exact .inl ((matchAll_map_eq_error_iff hr').mpr ⟨a, h.mem_iff.mpr ha, hbad⟩)
      · exact .inr ⟨fun p hp => hs p ((h.map _).mem_iff.mp hp), ih hj hrest⟩

/-! ### Verdicts and plans -/

theorem evaluate_eq_error_iff :
    evaluate ps as t = .error e ↔ matchAll t (pairs ps as) = .error e := by
  rw [evaluate]
  cases matchAll t (pairs ps as) <;> simp

/-- The verdict on a change set does not depend on the order of its files. -/
theorem evaluate_perm (h : as'.Perm as) (hpaths : (as.map (·.path)).Nodup)
    (hj : Judged ps as t) : evaluate ps as' t = evaluate ps as t := by
  cases hv : evaluate ps as t with
  | ok v =>
      obtain ⟨hs, rfl⟩ := evaluate_eq_ok_iff.mp hv
      refine evaluate_eq_ok_iff.mpr ⟨fun r hr a ha => hs r hr a (h.mem_iff.mp ha), ?_⟩
      rw [sorted_gathered_perm h hpaths, statusOf_perm (gathered_perm h),
        distinct_perm (consulted_perm h)]
  | error e =>
      rw [evaluate_eq_error_iff] at hv ⊢
      exact matchAll_pairs_perm h hj hv

end Verdict

/-- The task of a review does not depend on the order of the files. -/
theorem Review.taskOf_perm (h : as'.Perm as) (settings : Settings) (request : Request) :
    taskOf settings request as' = taskOf settings request as := by
  have htask (body : String) :=
    Scope.Sources.task_perm ⟨request.scope, body, request.labels, as, settings.defaultTags⟩ h
  simp only [taskOf, htask]

namespace Plan

/-- The plan of an evaluation does not depend on the order of the files. -/
theorem of_perm (h : as'.Perm as) (version : Option String) (status : Status) (t : Task)
    (vs : List Violation) : of version status t as' vs = of version status t as vs := by
  rw [of, of, (h.filter _).length_eq, (h.filter _).length_eq]

open Verdict

/-- **The order of the changed files leaves no trace.**  Where no two files have one path and every
predicate can be judged, the same files in another order come to the same task, to the same verdict
with its violations and unknown fields, or the same failure, and to the same text of the plan. -/
theorem text_rearranged {s s' : Scope.Sources} (hs : s' = { s with actions := s'.actions })
    (h : s'.actions.Perm s.actions) (hpaths : (s.actions.map (·.path)).Nodup)
    (hj : Judged ps s.actions s.task) :
    ((∀ r ∈ rules ps, r.IsNamed) → ∃ v, evaluate ps s.actions s.task = .ok v) ∧
    s'.task = s.task ∧
    (∀ settings request, Review.taskOf settings request s'.actions =
      Review.taskOf settings request s.actions) ∧
    evaluate ps s'.actions s'.task = evaluate ps s.actions s.task ∧
    ∀ version status vs, (of version status s'.task s'.actions vs).text =
      (of version status s.task s.actions vs).text := by
  have htask : s'.task = s.task := by
    rw [hs]
    exact s.task_perm h
  refine ⟨exists_evaluate hj, htask, Review.taskOf_perm h, ?_, fun version status vs => ?_⟩
  · rw [htask, evaluate_perm h hpaths hj]
  · rw [htask, of_perm h]

/-- Two files whose domains have one vote each. -/
def tiedFiles : List Action :=
  [{ path := "b.ts", fileDomain := some "Billing" },
   { path := "a.ts", fileDomain := some "Identity" }]

/-- A tie between two domains is broken alike in both orders. -/
theorem text_rearranged_tied :
    tiedFiles.reverse.Perm tiedFiles ∧ (tiedFiles.map (·.path)).Nodup ∧
    Judged [Starter.policySet] tiedFiles ({ actions := tiedFiles } : Scope.Sources).task ∧
    ({ actions := tiedFiles.reverse } : Scope.Sources).task.domain = some "Billing" ∧
    ∃ v, evaluate [Starter.policySet] tiedFiles.reverse
        ({ actions := tiedFiles.reverse } : Scope.Sources).task = .ok v ∧
      evaluate [Starter.policySet] tiedFiles ({ actions := tiedFiles } : Scope.Sources).task =
        .ok v ∧
      (of none v.status ({ actions := tiedFiles.reverse } : Scope.Sources).task
        tiedFiles.reverse v.violations).text =
      (of none v.status ({ actions := tiedFiles } : Scope.Sources).task
        tiedFiles v.violations).text := by
  have hperm := List.reverse_perm tiedFiles
  have hpaths : (tiedFiles.map (·.path)).Nodup := by decide
  have hj := Starter.judged_policySet tiedFiles ({ actions := tiedFiles } : Scope.Sources).task
  have hsources : ({ actions := tiedFiles.reverse } : Scope.Sources) =
      { ({ actions := tiedFiles } : Scope.Sources) with actions := tiedFiles.reverse } := rfl
  obtain ⟨hreturns, -, -, hverdict, htext⟩ :=
    text_rearranged (s := { actions := tiedFiles }) hsources hperm hpaths hj
  obtain ⟨v, hv⟩ := hreturns Starter.isNamed_policySet
  exact ⟨hperm, hpaths, hj, by decide, v, hverdict.trans hv, hv, htext none v.status v.violations⟩

end Plan

end ChangeGate
