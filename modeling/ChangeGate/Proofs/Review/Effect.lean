import ChangeGate.Proofs.Repository.Reading
import ChangeGate.Proofs.Review.Breakdown
import ChangeGate.Proofs.Workspace.Writing

/-! # What a review does to the files

A review looks at everything before it writes its plan, so a review that fails before that has
changed no file.  `contents_run`: the plan is the only file that a review changes, and one that
fails has changed no file, unless its plan is a text without bytes, which leaves the file of the
plan empty.  Behind a review that is had paths lead where they led (`keeps_run`). -/

namespace ChangeGate.Review

variable {g : Workspace} {root : Path} {s : Settings} {r : Request}

/-! ### A review that is had -/

section had

variable {w : Workspace} {v : Review}

/-- A review that is had leaves the ground, or writes its plan into a tree with the directories on
the way to it. -/
theorem exists_wrote_of_run (h : (run root s r).outcome g = (.ok v, w)) :
    r.writes = false ∧ g.SameGround w ∨
      r.writes = true ∧ ∃ files loc, g.files.Grows files ∧
        files.locate (g.whole (planTarget root s r)) = .ok loc ∧
        { g with files }.Wrote loc (Text.encodeUtf8 (planText v.plan).toList) w := by
  obtain ⟨v₀, w₀, hground, hdry, hwrite⟩ := exists_dry_of_run h
  rw [write, writePlan_eq (json?_of_dry (congrArg Prod.fst hdry))] at hwrite
  cases hwrites : r.writes with
  | false =>
      rw [hwrites] at hwrite
      cases hwrite
      exact .inl ⟨rfl, hground⟩
  | true =>
      rw [hwrites, if_pos rfl] at hwrite
      obtain ⟨_, w₁, hwritten, hpure⟩ := Procedure.outcome_bind_eq_ok_iff.mp hwrite
      cases hpure
      obtain ⟨files, loc, hgrows, hloc, hwrote⟩ := Procedure.wrote_of_writeBelow hwritten
      rw [hground.files] at hgrows
      rw [hground.whole] at hloc
      have hfiles : { g with files }.SameGround { w₀ with files } :=
        ⟨rfl, hground.directory, hground.environment, hground.git⟩
      exact .inr ⟨rfl, files, loc, hgrows, hloc, hwrote.of_sameGround hfiles⟩

/-- Behind a review paths lead where they led. -/
theorem keeps_run (h : (run root s r).outcome g = (.ok v, w)) :
    g.files.Keeps w.files ∧ ∀ p, w.whole p = g.whole p := by
  rcases exists_wrote_of_run h with ⟨-, hground⟩ | ⟨-, files, loc, hgrows, -, hwrote⟩
  · rw [hground.files]
    exact ⟨fun _ hl => hl, hground.whole⟩
  · exact ⟨fun l hl => hwrote.keeps l (hgrows.keeps l hl), hwrote.whole⟩

/-- The plan of a review belongs at a location. -/
def HoldsPlan (root : Path) (s : Settings) (r : Request) (w : Workspace) (l : Location) : Prop :=
  r.writes = true ∧ w.files.locate (w.whole (planTarget root s r)) = .ok l

/-- A review leaves all but its plan as it is. -/
theorem content?_of_run (h : (run root s r).outcome g = (.ok v, w)) {l : Location}
    (hl : ¬HoldsPlan root s r w l) : w.files.content? l = g.files.content? l := by
  rcases exists_wrote_of_run h with ⟨-, hground⟩ | ⟨hwrites, files, loc, hgrows, hloc, hwrote⟩
  · rw [hground.files]
  · have hne : l ≠ loc := by
      rintro rfl
      exact hl ⟨hwrites, hwrote.locate_iff.mpr (hwrote.whole _ ▸ hloc)⟩
    rw [Files.content?, hwrote.at?_of_ne hne, ← Files.content?]
    exact hgrows.content? l

/-- A review that is had has read the system file. -/
theorem shows_of_run (h : (run root s r).outcome g = (.ok v, w)) :
    ∃ cs, g.Shows (root.under (.ofText s.systemFile)) cs := by
  obtain ⟨_, _, hspecs, -⟩ := Procedure.outcome_bind_eq_ok_iff.mp h
  exact Repository.shows_of_specs hspecs

end had

/-! ### What is left of the files -/

/-- **What a review leaves of the files.**  With its plan it leaves the text of the plan and a line
feed where the plan belongs, and nothing else is changed; without writing it changes nothing.  A
review that fails changes no file, but for one whose plan has no bytes: that one empties the file
of the plan. -/
theorem contents_run (g : Workspace) (root : Path) (s : Settings) (r : Request) :
    match (run root s r).outcome g with
    | (.ok v, w) =>
      if r.writes then
        g.files.Rewrites w.files (g.whole (planTarget root s r))
          (Text.encodeUtf8 (v.plan.text ++ "\n").toList)
      else w.files = g.files
    | (.error failure, w) =>
      (∀ loc, w.files.content? loc = g.files.content? loc) ∨
        failure = .breakdown .unencodable ∧ r.writes = true ∧
          (∃ v w', (run root s r.dry).outcome g = (.ok v, w') ∧
            Text.hasHalf (v.plan.text ++ "\n").toList = true) ∧
          g.files.Rewrites w.files (g.whole (planTarget root s r)) [] := by
  obtain ⟨hground, hanswers⟩ := answers_dry g root s r
  rw [run_eq, Procedure.outcome_bind]
  match hdry : (run root s r.dry).outcome g with
  | (.error failure, w) =>
      rw [hdry] at hground
      exact .inl fun loc => by rw [hground.files]
  | (.ok v, w) =>
      rw [hdry] at hground hanswers
      dsimp only
      rw [write, writePlan_eq hanswers]
      cases hwrites : r.writes with
      | false => exact hground.files
      | true =>
          have hcontents := Procedure.contents_writeBelow w (planTarget root s r) (planText v.plan)
          rw [hground.files, hground.whole] at hcontents
          rw [if_pos rfl, Procedure.outcome_bind]
          match hwrite :
            (Procedure.writeBelow (planTarget root s r) (planText v.plan)).outcome w with
          | (.ok (), w') =>
              rw [hwrite] at hcontents
              exact hcontents
          | (.error failure, w') =>
              rw [hwrite] at hcontents
              rcases hcontents with hsame | ⟨hfailure, hhalf, hrewrites⟩
              · exact .inl hsame
              · exact .inr ⟨hfailure, rfl, ⟨v, w, rfl, hhalf⟩, hrewrites⟩

/-! ### A plan without bytes -/

/-- A description whose scope is cut off in the middle of a surrogate pair, and a plan of an earlier
review. -/
def cutOff : Workspace where
  files := ⟨[(["repo"], .directory),
    (["repo", "system.intent"], .file (Text.encodeUtf8
      "intent 2.0\nsystem S\ndomain D \x7b\npaths allow \"d/**\"\n\x7d\n".toList)),
    (["repo", "event.json"], .file (Text.encodeUtf8
      "\x7b\"pull_request\": \x7b\"body\": \"INTENT-SCOPE: D\\ud83d\"\x7d\x7d".toList)),
    (["repo", "intent.plan.json"], .file (Text.encodeUtf8 "kept\n".toList))]⟩
  directory := ⟨true, ["repo"]⟩
  environment := [("GITHUB_EVENT_PATH", "/repo/event.json"), ("CHANGED_FILES", "d/x.py")]

/-- The review fails, and the plan of the earlier one is gone. -/
theorem contents_run_cutOff :
    cutOff.files.content? ["repo", "intent.plan.json"] = some (Text.encodeUtf8 "kept\n".toList) ∧
    ∃ w, (run cutOff.directory {} {}).outcome cutOff = (.error (.breakdown .unencodable), w) ∧
      w.files.content? ["repo", "intent.plan.json"] = some [] := by
  refine ⟨by decide, ?_⟩
  have hrun : (match (run cutOff.directory {} {}).outcome cutOff with
      | (.error failure, w) => failure == .breakdown .unencodable &&
          w.files.content? ["repo", "intent.plan.json"] == some []
      | _ => false) = true := by decide +kernel
  match hout : (run cutOff.directory {} {}).outcome cutOff with
  | (.ok v, w) =>
      rw [hout] at hrun
      cases hrun
  | (.error failure, w) =>
      rw [hout] at hrun
      obtain ⟨hfailure, hcontent⟩ := Bool.and_eq_true_iff.mp hrun
      exact ⟨w, by rw [eq_of_beq hfailure], eq_of_beq hcontent⟩

end ChangeGate.Review
