import ChangeGate.Proofs.Change.Absent
import ChangeGate.Proofs.Repository.Writing
import ChangeGate.Proofs.Review.Breakdown
import ChangeGate.Proofs.Scope.Reading
import ChangeGate.Proofs.Starter.Plan

/-! # Reviewing listed files under the starter policy

Without a version control program, a review under the starter policy is known from the system, the
list of changed files and the description (`gives_dry`).  What a review writes, and what is written
into the system file, leaves the list and the description as they are (`Prepared.write_plan`,
`Prepared.write_system`), so reviews that follow one another differ in the system alone. -/

namespace ChangeGate

theorem Workspace.Describes.trans {g w w' : Workspace} (h : g.Describes w) (h' : w.Describes w') :
    g.Describes w' :=
  ⟨h'.environment.trans h.environment, h'.event.trans h.event⟩

namespace Review

open Procedure (BreaksFor Gives)
open Repository (UsualPaths)
open Starter (policySet)

variable {g w w' : Workspace} {listed system : String} {root : Path} {s : Settings}
  {loc : Location} {a : Architecture} {r : Request}

/-! ### Repositories under the starter policy -/

/-- A repository under the starter policy with listed changes and no version control program.  The
event file is none of the files that are written. -/
structure Prepared (listed : String) (root : Path) (s : Settings) (loc : Location)
    (system : String) (w : Workspace) : Prop where
  unversioned : w.Unversioned listed
  leads : w.files.Leads (w.whole root) loc
  stands : ∃ name, Repository.Stands w root s system [name] fun _ => Starter.policy
  apart : ∀ path ∈ w.setting? "GITHUB_EVENT_PATH", ∀ l,
    w.files.locate (w.whole (.ofText path)) = .ok l →
      l ≠ loc ++ ["system.intent"] ∧ l ≠ loc ++ ["intent.plan.json"]

/-- A file of a repository that is written leaves the list and the description as they are. -/
theorem Prepared.write (h : Prepared listed root s loc system w) {file : String}
    {bytes : List UInt8} (hw : w.Wrote (loc ++ [file]) bytes w')
    (hfile : file = "system.intent" ∨ file = "intent.plan.json") {system' : String}
    (hstands : ∃ name, Repository.Stands w' root s system' [name] fun _ => Starter.policy) :
    Prepared listed root s loc system' w' ∧ w.Describes w' := by
  refine ⟨⟨⟨hw.git.trans h.unversioned.git, (hw.setting? _).trans h.unversioned.setting⟩, ?_,
    hstands, ?_⟩, hw.environment, ?_⟩
  · rw [hw.whole]
    exact h.leads.of_keeps hw.keeps
  · intro path hpath l hloc
    rw [hw.setting?] at hpath
    rw [hw.whole, hw.locate_iff] at hloc
    exact h.apart path hpath l hloc
  · rw [Workspace.event?, Workspace.event?, hw.setting?]
    cases hpath : w.setting? "GITHUB_EVENT_PATH" with
    | none => rfl
    | some path =>
        rw [Option.map_some, Option.map_some, hw.whole, hw.look_of_ne]
        intro l hloc
        obtain ⟨hsystem, hplan⟩ := h.apart path hpath l hloc
        rcases hfile with rfl | rfl
        · exact hsystem
        · exact hplan

theorem Prepared.write_plan (hs : UsualPaths s) (h : Prepared listed root s loc system w)
    {bytes : List UInt8} (hw : w.Wrote (loc ++ ["intent.plan.json"]) bytes w') :
    Prepared listed root s loc system w' ∧ w.Describes w' := by
  obtain ⟨name, hstands⟩ := h.stands
  exact h.write hw (.inr rfl) ⟨name, hstands.write_other hs h.leads hw (by decide)⟩

theorem Prepared.write_system (hs : UsualPaths s) (h : Prepared listed root s loc system w)
    {system' : String} {bytes : List UInt8} {raw : List Char}
    (hw : w.Wrote (loc ++ ["system.intent"]) bytes w') (hraw : Text.decodeUtf8 bytes = .ok raw)
    (htext : system'.toList = Text.unifyLineEnds raw) :
    Prepared listed root s loc system' w' ∧ w.Describes w' := by
  obtain ⟨name, hstands⟩ := h.stands
  exact h.write hw (.inl rfl) ⟨name, hstands.write_system hs h.leads hw hraw htext⟩

theorem Prepared.outcome_specs (h : Prepared listed root s loc system w)
    (hread : Architecture.read system = .ok a) (hproblems : a.problems = []) :
    (Repository.specs root s).outcome w = (.ok ⟨a, [policySet]⟩, w) := by
  obtain ⟨name, hstands⟩ := h.stands
  refine Repository.outcome_specs (p := fun _ => policySet) hstands (Source.read_of_read hread)
    hproblems fun _ _ => ⟨Source.read_of_read Starter.read_policy, by decide⟩

/-! ### What a review comes to -/

/-- The review of changed files under the starter policy. -/
def reviewed (s : Settings) (r : Request) (a : Architecture) (paths : List String) (body : String) :
    Review :=
  let actions := paths.map (Change.ofPath a.domains)
  let task := Scope.Sources.task {
    explicit := r.scope, body, labels := r.labels, actions, defaultTags := s.defaultTags }
  let found := Verdict.gathered [policySet] actions task
  { plan := .of (some a.version) (Verdict.statusOf found task) task actions (Violation.sorted found)
    violations := Violation.sorted found
    architecture := a
    task
    actions
    planPath := none }

/-- Review the changes of a repository whose specification is known, and write nothing. -/
def underSpecs (s : Settings) (r : Request) (specs : Repository.Specs) : Procedure Review := do
  let actions ← actionsOf s r specs.architecture.domains
  let task ← taskOf s r actions
  let v ← verdict specs.policies actions task
  return { plan := Plan.of (some specs.architecture.version) v.status task actions v.violations,
           violations := v.violations, architecture := specs.architecture, task, actions,
           planPath := none }

theorem dry_eq (root : Path) (s : Settings) (r : Request) :
    run root s r.dry = Repository.specs root s >>= underSpecs s r.dry := by
  unfold run underSpecs Request.dry
  simp

/-- The description of changed files, unless these cannot be found out. -/
def account (s : Settings) (r : Request) : Procedure String := do
  let _ ← actionsOf s r []
  Scope.description

/-- A request that says nothing of the changes but their revisions and their scope, and has the plan
written where it belongs. -/
structure Request.IsPlain (r : Request) : Prop where
  diff : r.diff = none
  description : r.description = none
  planPath : r.planPath = none
  writes : r.writes = true

/-- A workspace whose changes are listed is described like another one. -/
def Told (g : Workspace) (listed : String) (w : Workspace) : Prop :=
  w.Unversioned listed ∧ g.Describes w

theorem grounded_told (g : Workspace) (listed : String) : Workspace.Grounded (Told g listed) :=
  fun w w' h hground => ⟨Workspace.grounded_unversioned listed w w' h.1 hground,
    Scope.grounded_describes g w w' h.2 hground⟩

theorem observes_warnings (texts : List String) : (texts.forM Procedure.warn).Observes := by
  intro w
  have hbreaks : BreaksFor w (fun _ => False) (fun _ => True) (texts.forM Procedure.warn) :=
    .forM fun text _ => .warn text
  exact (hbreaks w (.refl w)).1

theorem observes_verdict (ps : List PolicySet) (as : List Action) (t : Task) :
    (verdict ps as t).Observes := by
  unfold verdict
  split
  · exact .breakDown _
  · exact .breakDown _
  · exact .bind (observes_warnings _) fun _ => .pure _

theorem gives_warnings {W : Workspace → Prop} (hW : Workspace.Grounded W) (texts : List String) :
    Gives W (· = .ok ()) (texts.forM Procedure.warn) := by
  induction texts with
  | nil => exact .pure rfl
  | cons text texts ih =>
      exact Gives.bind_of_ok (.warn rfl) (.warn text) hW ih

/-- The verdict of the starter policy. -/
theorem gives_verdict {W : Workspace → Prop} (hW : Workspace.Grounded W) (as : List Action)
    (t : Task) : Gives W
      (fun x => ∃ unknown, x = .ok ⟨Violation.sorted (Verdict.gathered [policySet] as t),
        Verdict.statusOf (Verdict.gathered [policySet] as t) t, unknown⟩)
      (verdict [policySet] as t) := by
  have hv : Verdict.evaluate [policySet] as t = _ :=
    Verdict.evaluate_eq_ok_iff.mpr ⟨Starter.settles_policySet as t, rfl⟩
  unfold verdict
  rw [hv]
  exact (gives_warnings hW _).bind_of_ok (observes_warnings _) hW (.pure ⟨_, rfl⟩)

/-- A review of listed changes is known from the account of them, which is the same wherever they are
described alike. -/
theorem exists_account (hr : r.IsPlain) (g : Workspace) (listed : String) (s : Settings) :
    ∃ x, (∀ w, Told g listed w → ((account s r).outcome w).1 = x) ∧
      ∀ a, Gives (Told g listed)
        (· = x.map (reviewed s r a (Change.listedPaths listed.toList)))
        (underSpecs s r ⟨a, [policySet]⟩) := by
  have hW := grounded_told g listed
  obtain ⟨logged, hlogged⟩ :=
    Change.log_absent listed (chosen r.base s.base) (chosen r.head s.head) s.unified
  obtain ⟨body, -, hbody⟩ := Scope.gives_description g
  have hactions (ds : List Domain) : Gives (Told g listed)
      (· = logged.map fun _ => (Change.listedPaths listed.toList).map (Change.ofPath ds))
      (actionsOf s r ds) := by
    rw [actionsOf, hr.diff]
    exact (hlogged ds).restrict fun _ h => h.1
  have hobserves (ds : List Domain) : (actionsOf s r ds).Observes :=
    fun w => (Change.breaksFor_log ds w (.refl w)).1
  have hobserves' : Scope.description.Observes :=
    fun w => (Scope.breaksFor_description w (.refl w)).1
  have hdescribed : Gives (Told g listed) (· = body) Scope.description :=
    ⟨body, rfl, fun w hw => hbody w hw.2⟩
  cases logged with
  | error failure =>
      refine ⟨.error failure, ?_, fun a => (hactions a.domains).bind_of_error⟩
      obtain ⟨_, rfl, haccount⟩ := (hactions []).bind_of_error (f := fun _ => Scope.description)
      exact haccount
  | ok _ =>
      refine ⟨body, ?_, fun a => ?_⟩
      · obtain ⟨_, rfl, haccount⟩ := (hactions []).bind_of_ok (f := fun _ => Scope.description)
          (hobserves []) hW hdescribed
        exact haccount
      · refine (hactions a.domains).bind_of_ok (hobserves a.domains) hW ?_
        unfold taskOf
        rw [hr.description]
        cases body with
        | error failure =>
            exact hdescribed.bind_of_error.bind_of_error
        | ok body =>
            refine Gives.bind_of_ok (hdescribed.bind_of_ok hobserves' hW (.pure rfl))
              (hobserves'.bind fun _ => .pure _) hW ?_
            refine (gives_verdict hW _ _).bind (observes_verdict _ _ _) hW (fun v hv => ?_) ?_
            · obtain ⟨unknown, hv⟩ := hv
              cases hv
              exact .pure rfl
            · rintro failure ⟨_, h⟩
              cases h

/-- A review that writes nothing, of a repository under the starter policy. -/
theorem outcome_dry (hr : r.IsPlain) (h : Prepared listed root s loc system w)
    (hread : Architecture.read system = .ok a) (hproblems : a.problems = []) :
    ((run root s r.dry).outcome w).1 =
      ((account s r).outcome w).1.map (reviewed s r a (Change.listedPaths listed.toList)) := by
  obtain ⟨x, haccount, hgives⟩ := exists_account hr w listed s
  obtain ⟨_, rfl, hgives⟩ := hgives a
  have htold : Told w listed w := ⟨h.unversioned, rfl, rfl⟩
  rw [dry_eq, Procedure.outcome_bind_of_ok (h.outcome_specs hread hproblems), haccount w htold]
  exact hgives w htold

/-- The account of listed changes is the same in workspaces that are described alike. -/
theorem account_alike (hr : r.IsPlain) (hunversioned : w.Unversioned listed)
    (hunversioned' : w'.Unversioned listed) (hdescribes : w.Describes w') :
    ((account s r).outcome w').1 = ((account s r).outcome w).1 := by
  obtain ⟨x, haccount, -⟩ := exists_account hr w listed s
  rw [haccount w ⟨hunversioned, rfl, rfl⟩, haccount w' ⟨hunversioned', hdescribes⟩]

/-! ### Writing the plan -/

section plan

variable (hs : UsualPaths s) (hr : r.IsPlain)

include hs hr

theorem planTarget_eq (root : Path) : planTarget root s r = root.child "intent.plan.json" := by
  rw [planTarget, hr.planPath, Option.getD_none, (hs.under root).2.2]

theorem outcome_write (hleads : w.files.Leads (w.whole root) loc) {v : Review}
    (hjson : v.plan.json? = some v.plan.text) :
    (write root s r v).outcome w =
      (Procedure.writeText (root.child "intent.plan.json") (planText v.plan) >>= fun _ =>
        return { v with planPath := some (root.child "intent.plan.json") }).outcome w := by
  have hparent : (root.child "intent.plan.json").parent = root := by
    simp [Path.child, Path.parent]
  rw [write, hr.writes, writePlan_eq hjson, planTarget_eq hs hr]
  simp only [if_true]
  rw [Procedure.outcome_bind, Procedure.outcome_bind, Procedure.outcome_writeBelow_of_leads]
  rwa [hparent]

/-- A review that is had is the one that writes nothing, and its plan stands in the root. -/
theorem wrote_of_run (hleads : w.files.Leads (w.whole root) loc) {v : Review}
    (h : (run root s r).outcome w = (.ok v, w')) :
    ∃ v₀, ((run root s r.dry).outcome w).1 = .ok v₀ ∧ v.violations = v₀.violations ∧
      Text.hasHalf (planText v₀.plan).toList = false ∧
      w.files.locate ((w.whole root).child "intent.plan.json") =
        .ok (loc ++ ["intent.plan.json"]) ∧
      w.Wrote (loc ++ ["intent.plan.json"]) (Text.encodeUtf8 (planText v₀.plan).toList) w' := by
  obtain ⟨v₀, w₀, hground, hdry, hwrite⟩ := exists_dry_of_run h
  have hleads' : w₀.files.Leads (w₀.whole root) loc := by
    rwa [hground.files, hground.whole]
  rw [outcome_write hs hr hleads' (json?_of_dry (congrArg Prod.fst hdry))] at hwrite
  obtain ⟨_, w₁, hwritten, hpure⟩ := Procedure.outcome_bind_eq_ok_iff.mp hwrite
  cases hpure
  obtain ⟨hbytes, l, hloc, hwrote⟩ := Procedure.wrote_of_writeText hwritten
  rw [Workspace.whole_child] at hloc
  obtain rfl := hleads'.eq_of_locate_child (by decide) hloc
  rw [hground.files, hground.whole] at hloc
  exact ⟨v₀, by rw [hdry], rfl, hbytes, hloc, hwrote.of_sameGround hground⟩

/-- A review has a plan that can be written if its texts have bytes and its path leads to no
directory. -/
theorem exists_run_of_dry (hleads : w.files.Leads (w.whole root) loc) {v₀ : Review}
    (hdry : ((run root s r.dry).outcome w).1 = .ok v₀)
    (hloc : w.files.locate (w.whole (root.child "intent.plan.json")) =
      .ok (loc ++ ["intent.plan.json"]))
    (hfree : w.files.at? (loc ++ ["intent.plan.json"]) ≠ some .directory)
    (hbytes : Text.hasHalf (planText v₀.plan).toList = false) :
    ∃ v w', (run root s r).outcome w = (.ok v, w') ∧ v.violations = v₀.violations ∧
      w.Wrote (loc ++ ["intent.plan.json"]) (Text.encodeUtf8 (planText v₀.plan).toList) w' := by
  obtain ⟨hground, -⟩ := answers_dry w root s r
  have hjson := json?_of_dry hdry
  rw [run_eq, Procedure.outcome_bind, ← Prod.eta ((run root s r.dry).outcome w), hdry]
  generalize ((run root s r.dry).outcome w).2 = w₀ at hground ⊢
  have hleads' : w₀.files.Leads (w₀.whole root) loc := by
    rwa [hground.files, hground.whole]
  rw [← hground.files, ← hground.whole] at hloc
  rw [← hground.files] at hfree
  obtain ⟨w', hwritten, hwrote⟩ := Procedure.exists_writeText hloc hfree hbytes
  dsimp only
  rw [outcome_write hs hr hleads' hjson, Procedure.outcome_bind_of_ok hwritten]
  exact ⟨_, w', rfl, rfl, hwrote.of_sameGround hground⟩

end plan

/-! ### Reviews that follow one another -/

/-- A repository that is described like another one, and in which the path of the plan leads to no
directory. -/
structure Ready (g : Workspace) (listed : String) (root : Path) (s : Settings) (loc : Location)
    (system : String) (w : Workspace) : Prop extends Prepared listed root s loc system w where
  described : g.Describes w
  plan : w.files.locate (w.whole (root.child "intent.plan.json")) =
    .ok (loc ++ ["intent.plan.json"])
  free : w.files.at? (loc ++ ["intent.plan.json"]) ≠ some .directory

/-- Behind a review that is had the next one can be had. -/
theorem Prepared.ready_of_run (hs : UsualPaths s) (hr : r.IsPlain)
    (h : Prepared listed root s loc system w) {v : Review}
    (hrun : (run root s r).outcome w = (.ok v, w')) :
    ∃ v₀, ((run root s r.dry).outcome w).1 = .ok v₀ ∧ v.violations = v₀.violations ∧
      Text.hasHalf (planText v₀.plan).toList = false ∧ Ready w listed root s loc system w' := by
  obtain ⟨v₀, hdry, hviolations, hbytes, hloc, hwrote⟩ := wrote_of_run hs hr h.leads hrun
  obtain ⟨hprepared, hdescribes⟩ := h.write_plan hs hwrote
  rw [← Workspace.whole_child, ← hwrote.locate_iff, ← hwrote.whole] at hloc
  exact ⟨v₀, hdry, hviolations, hbytes, hprepared, hdescribes, hloc, by simp [hwrote.at?_self]⟩

theorem Ready.write_system (hs : UsualPaths s) (h : Ready g listed root s loc system w)
    {system' : String} {bytes : List UInt8} {raw : List Char}
    (hw : w.Wrote (loc ++ ["system.intent"]) bytes w') (hraw : Text.decodeUtf8 bytes = .ok raw)
    (htext : system'.toList = Text.unifyLineEnds raw) : Ready g listed root s loc system' w' := by
  obtain ⟨hprepared, hdescribes⟩ := h.toPrepared.write_system hs hw hraw htext
  refine ⟨hprepared, h.described.trans hdescribes, ?_, ?_⟩
  · rw [hw.whole, hw.locate_iff]
    exact h.plan
  · rw [hw.at?_of_ne (by simp)]
    exact h.free

/-- Reviews that follow one another have the account of the first one, and leave all files but the
plan as they are. -/
theorem Ready.exists_run (hs : UsualPaths s) (hr : r.IsPlain) (hg : g.Unversioned listed)
    (h : Ready g listed root s loc system w)
    (hread : Architecture.read system = .ok a) (hproblems : a.problems = []) {body : String}
    (hbody : ((account s r).outcome g).1 = .ok body)
    (hbytes : Text.hasHalf
      (planText (reviewed s r a (Change.listedPaths listed.toList) body).plan).toList = false) :
    ∃ v w', (run root s r).outcome w = (.ok v, w') ∧
      v.violations = (reviewed s r a (Change.listedPaths listed.toList) body).violations ∧
      Ready g listed root s loc system w' ∧
      ∀ l, l ≠ loc ++ ["intent.plan.json"] → w'.files.content? l = w.files.content? l := by
  have hdry := outcome_dry hr h.toPrepared hread hproblems
  rw [account_alike hr hg h.unversioned h.described, hbody] at hdry
  obtain ⟨v, w', hrun, hviolations, hwrote⟩ :=
    exists_run_of_dry hs hr h.leads hdry h.plan h.free hbytes
  obtain ⟨hprepared, hdescribes⟩ := h.toPrepared.write_plan hs hwrote
  refine ⟨v, w', hrun, hviolations, ⟨hprepared, h.described.trans hdescribes, ?_, ?_⟩, ?_⟩
  · rw [hwrote.whole, hwrote.locate_iff]
    exact h.plan
  · simp [hwrote.at?_self]
  · intro l hl
    rw [Files.content?, Files.content?, hwrote.at?_of_ne hl]

end Review

end ChangeGate
