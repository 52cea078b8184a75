import ChangeGate.Command.Run
import ChangeGate.Proofs.Review.Breakdown
import Mathlib

/-! # How a plan ends

A plan ends as its session does: with the exit code of the plan, with 2 for a complaint, and with 1
for a breakdown.  So the exit code of a breakdown is that of a blocked plan.

`run_plan`: the exit code for everything that a session can come to, and what it breaks down for. -/

namespace ChangeGate

variable {root : Path}

namespace Command

/-- A command ends with an exit code unless what it shows cannot be shown, and JSON can. -/
def Outcome.Exits (e : Outcome) (json : Bool) (code : Nat) : Prop :=
  (json = true → e.breakdown = none) ∧ (e.breakdown = none → e.exitCode = code)

theorem Outcome.exits_showing (blocks : List Report.Block) (code : Nat) :
    (Outcome.showing blocks code).Exits false code := by
  refine ⟨nofun, ?_⟩
  unfold Outcome.showing
  dsimp only
  split
  · exact fun _ => rfl
  · exact nofun

theorem exits_planned (json : Bool) {v : Review} (h : v.plan.json? = some v.plan.text) :
    (planned json v).Exits json v.plan.exitCode := by
  unfold planned
  rw [h]
  split
  · exact ⟨fun _ => rfl, fun _ => rfl⟩
  · rename_i hjson
    rw [Bool.not_eq_true] at hjson
    exact hjson ▸ Outcome.exits_showing _ _

theorem exits_complained (r : Review.Request) (json : Bool) (c : Complaint) :
    (complained (.plan r json) c).Exits json refusedCode := by
  cases json with
  | true => exact ⟨fun _ => rfl, fun _ => rfl⟩
  | false => exact Outcome.exits_showing _ _

/-- In a repository that is found a plan ends as its session does. -/
theorem run_plan_eq {g w : Workspace} {directory : Option String}
    (hroot : (Repository.root (.ofText (directory.getD ""))).outcome w = (.ok root, g))
    (r : Review.Request) (json : Bool) :
    (run (.inside directory (.plan r json)) w).1 =
      match ((Review.session root r).outcome g).1 with
      | .ok v => planned json v
      | .error (.complaint c) => complained (.plan r json) c
      | .error (.breakdown b) => ⟨"", brokenCode, some b⟩ := by
  have hperform : perform root (.plan r json) = planned json <$> Review.session root r := by
    simp only [perform, Review.session, map_eq_pure_bind, bind_assoc]
  have hwork : (work directory (.plan r json)).outcome w =
      (((Review.session root r).outcome g).1.map (planned json),
        ((Review.session root r).outcome g).2) := by
    rw [work, Procedure.outcome_bind, hroot, ← Procedure.outcome_map, ← hperform]
  unfold run
  change (match (work directory (.plan r json)).outcome w with
    | (.ok outcome, w) => (outcome, w)
    | (.error (.complaint c), w) => (complained (.plan r json) c, w)
    | (.error (.breakdown b), w) => (⟨"", brokenCode, some b⟩, w) : Outcome × Workspace).1 = _
  rw [hwork]
  cases ((Review.session root r).outcome g).1 with
  | ok v => rfl
  | error failure => cases failure <;> rfl

/-- **What leaves a session.**  Whatever stands in the workspace, a session comes to a review, to a
complaint, or to a breakdown for one of its causes.  A plan in the same repository then ends with
the exit code of the review's plan, with 2, or with 1, unless what it prints cannot be shown; JSON
can be shown. -/
theorem run_plan (g : Workspace) (root : Path) (r : Review.Request) :
    (∀ b, ((Review.session root r).outcome g).1 = .error (.breakdown b) →
      Review.SessionCause g root r b) ∧
    ∀ (w : Workspace) (directory : Option String) (json : Bool),
      (Repository.root (.ofText (directory.getD ""))).outcome w = (.ok root, g) →
      match ((Review.session root r).outcome g).1, (run (.inside directory (.plan r json)) w).1 with
      | .ok v, e => e.Exits json (if v.plan.status = .blocked then 1 else 0)
      | .error (.complaint _), e => e.Exits json 2
      | .error (.breakdown b), e => e.exitCode = 1 ∧ e.breakdown = some b := by
  have hanswers := Review.answers_session g root r
  refine ⟨fun b hb => ?_, fun w directory json hroot => ?_⟩
  · rw [hb] at hanswers
    exact hanswers
  · rw [run_plan_eq hroot]
    generalize ((Review.session root r).outcome g).1 = result at hanswers ⊢
    cases result with
    | ok v => exact exits_planned json hanswers
    | error failure =>
        cases failure with
        | complaint c => exact exits_complained r json c
        | breakdown b => exact ⟨rfl, rfl⟩

/-! ### A number for the revisions -/

/-- Where the repository stands. -/
def home : Path := ⟨true, ["repo"]⟩

/-- A repository whose settings hold a number where the revisions belong. -/
def numbered : Workspace where
  files := ⟨[(["repo"], .directory),
    (["repo", "system.intent"], .file (Text.encodeUtf8
      "intent 2.0\nsystem S\ndomain D \x7b\npaths allow \"**\"\n\x7d\n".toList)),
    (["repo", ".intent"], .directory),
    (["repo", ".intent", "config.yaml"], .file (Text.encodeUtf8 "diff: 5\n".toList))]⟩
  directory := home

theorem read_number :
    Yaml.read Settings.levels "diff: 5\n".toList = .ok (.map [(.text "diff", .int 5)]) := by
  have hcs : "diff: 5\n".toList = ['d', 'i', 'f', 'f', ':', ' ', '5', '\n'] := by decide
  rw [hcs]
  -- The reader goes by well-founded recursion, on which `decide` gets stuck.
  cbv

/-- Loading stops at the number before its shape is looked at. -/
theorem load_numbered :
    (Settings.load home).outcome numbered = (.error (.breakdown .diffEntry), numbered) := by
  have hthere : (Procedure.isThere (Settings.file home)).outcome numbered = (.ok true, numbered) :=
    rfl
  have htext : (Procedure.readText (Settings.file home)).outcome numbered =
      (.ok "diff: 5\n".toList, numbered) := rfl
  have hentries : (Settings.entries (Settings.file home)).outcome numbered =
      (.ok [(.text "diff", .int 5)], numbered) := by
    rw [Settings.entries, Procedure.outcome_bind, htext]
    dsimp only
    rw [read_number]
    rfl
  unfold Settings.load
  rw [Procedure.outcome_bind, hthere]
  change (Settings.entries (Settings.file home) >>= Settings.ofEntries home).outcome numbered = _
  rw [Procedure.outcome_bind, hentries]
  rfl

/-- The system of this repository is read and has no problems, and yet its session comes to neither
a review nor a complaint, and its plan ends with the exit code of a blocked one. -/
theorem run_plan_numbered :
    (∃ specs, ((Repository.specs home {}).outcome numbered).1 = .ok specs) ∧
    ((Review.session home {}).outcome numbered).1 = .error (.breakdown .diffEntry) ∧
    (run (.inside none (.plan {} true)) numbered).1 = ⟨"", 1, some .diffEntry⟩ := by
  have hroot : (Repository.root (.ofText ((none : Option String).getD ""))).outcome numbered =
      (.ok home, numbered) := rfl
  have hsession : ((Review.session home {}).outcome numbered).1 =
      .error (.breakdown .diffEntry) := by
    rw [Review.session, Procedure.outcome_bind, load_numbered]
  have hok : ((Repository.specs home {}).outcome numbered).1.isOk = true := by decide +kernel
  refine ⟨?_, hsession, ?_⟩
  · generalize ((Repository.specs home {}).outcome numbered).1 = result at hok ⊢
    cases result with
    | ok specs => exact ⟨specs, rfl⟩
    | error failure => cases hok
  · rw [run_plan_eq hroot, hsession]
    rfl

end Command

end ChangeGate
