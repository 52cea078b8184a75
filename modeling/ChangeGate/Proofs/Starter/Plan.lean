import ChangeGate.Proofs.Change.Placeholder
import ChangeGate.Proofs.Review.Stored
import ChangeGate.Proofs.Starter.Gate

/-! # Plans under the starter policy

The starter policy has texts of its own and takes over paths, domains and a tag, so a plan under it
can be written if the changed files, the task and the version have bytes (`hasHalf_planText`). -/

namespace ChangeGate.Starter

open Text (hasHalf hasHalf_of_isAscii isAscii)

variable {as : List Action} {t : Task} {v : Violation}

/-- The texts that a rule puts into a plan are ASCII, and what it suggests names no field. -/
structure IsPlainRule (r : Rule) : Prop where
  code : r.code.toList.all isAscii = true
  suggest : ∀ s ∈ r.suggest, s.toList.all isAscii = true ∧ '\x7b' ∉ s.toList
  exceptTag : ∀ s ∈ r.exceptTag, s.toList.all isAscii = true
  approver : ∀ s ∈ r.approver, s.toList.all isAscii = true

theorem isPlainRule_of_mem {r : Rule} (hr : r ∈ Verdict.rules [policySet]) : IsPlainRule r := by
  rcases mem_rules_policySet.mp hr with rfl | rfl
  · refine ⟨?_, ?_, ?_, ?_⟩ <;> decide
  · refine ⟨?_, ?_, ?_, ?_⟩ <;> decide

theorem suggest_eq {r : Rule} {a : Action} (hr : IsPlainRule r) (h : r.Describes a t v) :
    v.suggest = r.suggest := by
  rw [h.suggest]
  cases hsuggest : r.suggest with
  | none => rfl
  | some s => exact congrArg some (Template.render_eq_self (.inl (hr.suggest s hsuggest).2) a t)

theorem hasHalf_of_mem_filter {o : Option String} {p : String → Bool}
    (h : ∀ s ∈ o, hasHalf s.toList = false) {s : String} (hs : s ∈ (o.filter p).toList) :
    hasHalf s.toList = false := by
  exact h s (Option.mem_filter_iff.mp (Option.mem_toList.mp hs)).1

/-- A violation says nothing that has no bytes. -/
theorem hasHalf_of_mem_texts (hv : v ∈ Verdict.gathered [policySet] as t)
    (hfiles : ∀ a ∈ as, hasHalf a.path.toList = false ∧
      ∀ d ∈ a.fileDomain, hasHalf d.toList = false)
    (ht : ∀ d ∈ t.domain, hasHalf d.toList = false) :
    ∀ s ∈ (Plan.entry v).texts, hasHalf s.toList = false := by
  obtain ⟨r, hr, a, ha, -, hd⟩ := Verdict.mem_gathered.mp hv
  have hplain := isPlainRule_of_mem hr
  obtain ⟨hpath, hdomain⟩ := hfiles a ha
  have hseverity : hasHalf v.severity.label.toList = false := by
    cases v.severity <;> decide
  have hconfidence : hasHalf v.confidence.label.toList = false := by
    cases v.confidence <;> decide
  have hbypassed : ∀ s ∈ v.bypassed.toList.flatMap (fun b => b.tag :: b.approver.toList),
      hasHalf s.toList = false := by
    intro s hs
    obtain ⟨b, hb, hmem⟩ := List.mem_flatMap.mp hs
    rw [Option.mem_toList, hd.bypassed] at hb
    split at hb
    · obtain ⟨tag, htag, rfl⟩ := Option.mem_map.mp hb
      rcases List.mem_cons.mp hmem with rfl | happrover
      · exact hasHalf_of_isAscii (hplain.exceptTag _ htag)
      · exact hasHalf_of_isAscii (hplain.approver _ (Option.mem_toList.mp happrover))
    · cases hb
  have hactions : ∀ s ∈ v.suggest.toList, hasHalf s.toList = false := by
    intro s hs
    rw [Option.mem_toList, suggest_eq hplain hd] at hs
    exact hasHalf_of_isAscii (hplain.suggest s hs).1
  have hcode : hasHalf v.code.toList = false := by
    rw [hd.code]
    exact hasHalf_of_isAscii hplain.code
  simp only [Plan.entry, PlanEntry.texts, hd.evidence, hd.remediation, Rule.evidence,
    List.forall_mem_append, List.forall_mem_cons]
  exact ⟨⟨⟨⟨⟨⟨hcode, hseverity, hconfidence, hpath, List.forall_mem_nil _⟩,
    fun s hs => hasHalf_of_mem_filter hdomain hs⟩, fun s hs => hasHalf_of_mem_filter ht hs⟩,
    hactions⟩, List.forall_mem_nil _⟩, hbypassed⟩

/-- **A plan under the starter policy can be written** if its version and its task, and the paths
and domains of the changed files have bytes. -/
theorem hasHalf_planText {p : Plan}
    (hviolations : p.violations =
      (Violation.sorted (Verdict.gathered [policySet] as p.task)).map Plan.entry)
    (hversion : hasHalf p.version.toList = false)
    (hdomain : ∀ d ∈ p.task.domain, hasHalf d.toList = false)
    (htags : ∀ tag ∈ p.task.tags, hasHalf tag.toList = false)
    (hfiles : ∀ a ∈ as, hasHalf a.path.toList = false ∧
      ∀ d ∈ a.fileDomain, hasHalf d.toList = false) :
    hasHalf (Review.planText p).toList = false := by
  have hsaid : ∀ s ∈ p.violations.flatMap (·.texts), hasHalf s.toList = false := by
    intro s hs
    obtain ⟨_, hentry, hmem⟩ := List.mem_flatMap.mp hs
    rw [hviolations] at hentry
    obtain ⟨v, hv, rfl⟩ := List.mem_map.mp hentry
    exact hasHalf_of_mem_texts (List.mem_mergeSort.mp hv) hfiles hdomain s hmem
  rw [Plan.hasHalf_planText, List.any_eq_false, Plan.said]
  simp only [List.forall_mem_cons, List.forall_mem_append, Bool.not_eq_true, Option.mem_toList]
  exact ⟨hversion, ⟨hdomain, htags⟩, hsaid⟩

end ChangeGate.Starter
