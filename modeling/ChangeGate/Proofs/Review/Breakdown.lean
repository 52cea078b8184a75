import ChangeGate.Proofs.Change.Breakdown
import ChangeGate.Proofs.Repository.Breakdown
import ChangeGate.Proofs.Scope.Breakdown
import ChangeGate.Proofs.Settings.Breakdown
import ChangeGate.Review

/-! # What a session breaks down for

A session loads the settings of a repository and reviews its changes with them.  Policies that are
read have a verdict, and changes that are read start at lines whose numbers can be printed, so that
the plan has a text (`json?_of_dry`).  So what breaks a review down lies in the specification, the
changes, the description or the plan file (`Review.Cause`), and for a session the settings file
comes to that.

`answers_session`: a session comes to a review, to a complaint, or to a breakdown for one of these
causes. -/

namespace ChangeGate

open Procedure (BreaksFor Answers)

/-! ### Numbers in a plan -/

/-- Violations of actions whose lines have numbers that can be printed. -/
theorem Verdict.hasLongLine_of_mem_gathered {ps : List PolicySet} {as : List Action} {t : Task}
    (has : ∀ a ∈ as, Diff.Printable a.hunks) {v : Violation} (hv : v ∈ gathered ps as t) :
    v.evidence.hasLongLine = false := by
  obtain ⟨⟨r, a⟩, hpair, hfound⟩ := List.mem_filterMap.mp hv
  have hprintable := has a (mem_pairs.mp hpair).2
  rw [(Rule.found?_eq_some_iff.mp hfound).2.evidence, Evidence.hasLongLine, Rule.evidence]
  cases hhunks : a.hunks with
  | nil => rfl
  | cons h hs => exact hprintable h (hhunks ▸ List.mem_cons_self)

theorem Plan.json?_of {vs : List Violation} (h : ∀ v ∈ vs, v.evidence.hasLongLine = false)
    (version : Option String) (status : Status) (t : Task) (as : List Action) :
    (of version status t as vs).json? = some (of version status t as vs).text := by
  refine if_neg (Bool.not_eq_true _ ▸ List.any_eq_false.mpr ?_)
  exact List.forall_mem_map.mpr fun v hv => Bool.not_eq_true _ ▸ h v hv

namespace Review

variable {g : Workspace} {root : Path} {s : Settings} {r : Request}

/-- A review that writes nothing. -/
def Request.dry (r : Request) : Request := { r with writes := false }

/-- Write the plan of a review, if that is asked for. -/
def write (root : Path) (s : Settings) (r : Request) (v : Review) : Procedure Review := do
  if r.writes then writePlan (planTarget root s r) v.plan
  return { v with planPath := if r.writes then some (planTarget root s r) else none }

/-- A plan with a text is written as one. -/
theorem writePlan_eq {p : Plan} (h : p.json? = some p.text) (path : Path) :
    writePlan path p = Procedure.writeBelow path (planText p) := by
  rw [writePlan, h]
  rfl

/-- A review writes the plan of a review that writes nothing. -/
theorem run_eq (root : Path) (s : Settings) (r : Request) :
    run root s r = run root s r.dry >>= write root s r := by
  unfold run write Request.dry
  simp only [bind_assoc]
  refine bind_congr fun specs => bind_congr fun actions => bind_congr fun task =>
    bind_congr fun v => ?_
  cases r.writes <;> simp

/-- What a review of a workspace breaks down for. -/
inductive Cause (g : Workspace) (root : Path) (s : Settings) (r : Request) : Breakdown → Prop
  | specs {b : Breakdown} {w : Workspace}
      (hspecs : (Repository.specs root s).outcome g = (.error (.breakdown b), w))
      (h : Repository.Cause g root s b) : Cause g root s r b
  | changes {b : Breakdown}
      (h : Change.Cause g (chosen r.base s.base) (chosen r.head s.head) r.diff s.unified b) :
      Cause g root s r b
  | description {b : Breakdown} (hnone : r.description = none) (h : Scope.Cause g b) :
      Cause g root s r b
  | unwritable {b : Breakdown} (hwrites : r.writes = true)
      (h : g.Unwritable (planTarget root s r) b) : Cause g root s r b
  | halves {v : Review} {w : Workspace} (hwrites : r.writes = true)
      (hv : (run root s r.dry).outcome g = (.ok v, w))
      (h : Text.hasHalf (planText v.plan).toList = true) : Cause g root s r .unencodable

theorem breaksFor_taskOf (actions : List Action) :
    BreaksFor g (Cause g root s r) (fun _ => True) (taskOf s r actions) := by
  unfold taskOf
  cases hbody : r.description with
  | some body => exact .pure trivial
  | none =>
      refine BreaksFor.bind (Q := fun _ => True) ?_ fun _ _ => .pure trivial
      exact Scope.breaksFor_description.widen fun _ h => .description hbody h

/-- Policies that are read have a verdict. -/
theorem breaksFor_verdict {ps : List PolicySet} (hps : ∀ p ∈ ps, p.IsRead) {actions : List Action}
    (hactions : ∀ a ∈ actions, Diff.Printable a.hunks) (t : Task) :
    BreaksFor g (Cause g root s r)
      (fun v => ∀ x ∈ v.violations, x.evidence.hasLongLine = false) (verdict ps actions t) := by
  have hsettles : ∀ r ∈ Verdict.rules ps, ∀ a ∈ actions, r.Settles a t :=
    fun r hr a _ => Verdict.settles_of_mem_rules hps hr a t
  have hv : Verdict.evaluate ps actions t = _ := Verdict.evaluate_eq_ok_iff.mpr ⟨hsettles, rfl⟩
  unfold verdict
  rw [hv]
  refine (BreaksFor.forM fun text _ => .warn text).bind fun _ _ => .pure fun x hx => ?_
  exact Verdict.hasLongLine_of_mem_gathered hactions (List.mem_mergeSort.mp hx)

/-- A review that writes nothing leaves the ground, and its plan has a text. -/
theorem answers_dry (g : Workspace) (root : Path) (s : Settings) (r : Request) :
    g.SameGround ((run root s r.dry).outcome g).2 ∧
      Answers (Cause g root s r) (fun v => v.plan.json? = some v.plan.text)
        ((run root s r.dry).outcome g).1 := by
  obtain ⟨hground, hspecs⟩ := Repository.breaksFor_specs g root s g (.refl g)
  unfold run
  rw [Procedure.outcome_bind]
  match hout : (Repository.specs root s).outcome g with
  | (.error (.complaint c), w) =>
      rw [hout] at hground
      exact ⟨hground, trivial⟩
  | (.error (.breakdown b), w) =>
      rw [hout] at hground hspecs
      exact ⟨hground, .specs hout hspecs⟩
  | (.ok specs, w) =>
      rw [hout] at hground hspecs
      have hlog : BreaksFor g (Cause g root s r) (fun as => ∀ a ∈ as, Diff.Printable a.hunks)
          (actionsOf s r.dry specs.architecture.domains) :=
        (Change.breaksFor_log _).widen fun _ h => .changes h
      refine (hlog.bind fun actions hactions => ?_) w hground
      exact (breaksFor_taskOf actions).bind fun task _ =>
        (breaksFor_verdict hspecs hactions task).bind fun v hv => .pure (Plan.json?_of hv ..)

theorem json?_of_dry {v : Review} (h : ((run root s r.dry).outcome g).1 = .ok v) :
    v.plan.json? = some v.plan.text := by
  have hanswers := (answers_dry g root s r).2
  rw [h] at hanswers
  exact hanswers

/-- A review that is had is one that writes nothing, and then its plan. -/
theorem exists_dry_of_run {v : Review} {w : Workspace}
    (h : (run root s r).outcome g = (.ok v, w)) :
    ∃ v₀ w₀, g.SameGround w₀ ∧ (run root s r.dry).outcome g = (.ok v₀, w₀) ∧
      (write root s r v₀).outcome w₀ = (.ok v, w) := by
  rw [run_eq] at h
  obtain ⟨v₀, w₀, hdry, hwrite⟩ := Procedure.outcome_bind_eq_ok_iff.mp h
  have hground := (answers_dry g root s r).1
  rw [hdry] at hground
  exact ⟨v₀, w₀, hground, hdry, hwrite⟩

/-- A review breaks down for its causes alone. -/
theorem answers_run (g : Workspace) (root : Path) (s : Settings) (r : Request) :
    Answers (Cause g root s r) (fun v => v.plan.json? = some v.plan.text)
      ((run root s r).outcome g).1 := by
  obtain ⟨hground, hanswers⟩ := answers_dry g root s r
  -- Writing does not leave the ground, so it is taken off and looked at by itself.
  rw [run_eq]
  refine hanswers.bind fun v w hout hjson => ?_
  rw [hout] at hground
  unfold write
  rw [writePlan_eq hjson]
  cases hwrites : r.writes with
  | false => exact hjson
  | true =>
      have hwritten : Answers (Cause g root s r) (fun _ => True)
          ((Procedure.writeBelow (planTarget root s r) (planText v.plan)).outcome w).1 := by
        refine (Procedure.answers_writeBelow hground _).widen ?_
        rintro b (h | ⟨rfl, h⟩)
        · exact .unwritable hwrites h
        · exact .halves hwrites hout h
      exact hwritten.bind fun _ _ _ _ => hjson

/-! ### Sessions -/

/-- Load the settings of a repository and review its changes with them. -/
def session (root : Path) (r : Request) : Procedure Review := do
  run root (← Settings.load root) r

/-- What a session on a workspace breaks down for. -/
inductive SessionCause (g : Workspace) (root : Path) (r : Request) : Breakdown → Prop
  | settings {b : Breakdown} (h : Settings.Cause g root b) : SessionCause g root r b
  | review {b : Breakdown} {s : Settings} {w : Workspace}
      (hs : (Settings.load root).outcome g = (.ok s, w)) (h : Cause w root s r b) :
      SessionCause g root r b

theorem answers_session (g : Workspace) (root : Path) (r : Request) :
    Answers (SessionCause g root r) (fun v => v.plan.json? = some v.plan.text)
      ((session root r).outcome g).1 := by
  have hload := (Settings.breaksFor_load g root g (.refl g)).2
  refine (hload.widen fun _ h => .settings h).bind fun s w hs _ => ?_
  exact (answers_run w root s r).widen fun _ h => .review hs h

end Review

end ChangeGate
