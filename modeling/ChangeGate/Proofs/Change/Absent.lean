import ChangeGate.Proofs.Change.Listing
import ChangeGate.Proofs.Workspace.Answer

/-! # Changed files without a version control program

A program that is not there answers no call.  No revisions are compared then, and the changes are
those that the environment lists.  A call can still break down before it is made, as its arguments
may be no names, but then it does so on every workspace.

`log_absent`: the log is that of the listed paths, or fails in one way whatever the domains are. -/

namespace ChangeGate

/-- There is no version control program, and the environment lists paths. -/
structure Workspace.Unversioned (listed : String) (w : Workspace) : Prop where
  git : w.git = none
  setting : w.setting? "CHANGED_FILES" = some listed

theorem Workspace.grounded_unversioned (listed : String) : Grounded (Unversioned listed) :=
  fun _ _ h hground => ⟨hground.git.trans h.git, (hground.setting? _).trans h.setting⟩

namespace Change

open Procedure (Failed Gives)
open Workspace (Unversioned)

variable (listed base head : String)

/-- A program that is not there answers no call. -/
theorem git_absent (arguments : List String) :
    Gives (Unversioned listed) Failed (Procedure.git arguments) := by
  have hcall : Gives (Unversioned listed) Failed (Procedure.call arguments) := by
    refine .asks (.throw ⟨.complaint (.git arguments .absent), rfl⟩) fun w hw => ?_
    rw [hw.git]
    rfl
  rw [Procedure.git_eq]
  split
  · refine .bind (.fileFault (Q := Failed) ⟨_, rfl⟩) (.fileFault _ _)
      (Workspace.grounded_unversioned listed) (fun _ _ => hcall) fun failure _ => ⟨failure, rfl⟩
  · exact hcall

theorem comparison_absent (options : List String) :
    Gives (Unversioned listed) Failed (comparison base head options) := by
  refine .tryCatch (git_absent listed _) (.git _) (Workspace.grounded_unversioned listed) ?_ ?_
  · rintro x ⟨_, ⟨⟩⟩
  · intro failure _
    split
    · exact git_absent listed _
    · exact .throw ⟨_, rfl⟩

/-- No diff is had. -/
theorem fullDiff?_absent (unified : Int) :
    Gives (Unversioned listed) (fun x => ∀ diff, x = .ok diff → diff = none)
      (fullDiff? base head unified) := by
  have hW := Workspace.grounded_unversioned listed
  have hoption : Gives (Unversioned listed) (fun _ => True) (unifiedOption unified) := by
    unfold unifiedOption
    split
    · exact .throw trivial
    · exact .pure trivial
  refine .bind hoption (observes_unifiedOption unified) hW (fun option _ => ?_)
    fun _ _ _ h => by cases h
  have hcompare : Gives (Unversioned listed) Failed
      (some <$> comparison base head [option, "--no-color"]) := by
    rw [map_eq_pure_bind]
    refine .bind (comparison_absent listed base head _) (observes_comparison _ _ _) hW ?_
      fun failure _ => ⟨failure, rfl⟩
    rintro x ⟨_, ⟨⟩⟩
  refine .tryCatch hcompare (.map (observes_comparison _ _ _)) hW ?_ fun failure _ => ?_
  · rintro x ⟨_, ⟨⟩⟩
  · split
    · refine ⟨.ok none, fun _ h => (Except.ok.inj h).symm, fun w hw => ?_⟩
      rw [Procedure.outcome_bind_of_ok (outcome_givenPaths? hw.setting)]
      rfl
    · exact .throw fun _ h => by cases h

/-- **The log is read from the list.**  Without a version control program the changes are those of
the listed paths, or the revisions cannot be asked for at all. -/
theorem log_absent (unified : Int) :
    ∃ x : Except Failure Unit, ∀ domains, Gives (Unversioned listed)
      (· = x.map fun _ => (listedPaths listed.toList).map (ofPath domains))
      (log domains base head none unified) := by
  obtain ⟨x, hnone, hx⟩ := fullDiff?_absent listed base head unified
  refine ⟨x.map fun _ => (), fun domains => ?_⟩
  refine Gives.bind ⟨x, rfl, hx⟩ (observes_fullDiff? base head unified)
    (Workspace.grounded_unversioned listed) (fun diff hdiff => ?_) ?_
  · obtain rfl := hnone diff hdiff
    refine ⟨_, rfl, fun w hw => ?_⟩
    rw [hdiff]
    dsimp only
    rw [Procedure.outcome_bind_of_ok (outcome_changedPaths base head hw.setting)]
    rfl
  · intro failure hfailure
    rw [hfailure]
    rfl

end Change
end ChangeGate
