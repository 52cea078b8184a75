import ChangeGate.Proofs.Scope.Breakdown
import ChangeGate.Proofs.Scope.Priority
import ChangeGate.Proofs.Workspace.Answer

/-! # What the scope of a change set depends on

The description depends on the environment and on what stands where the event file is
(`gives_description`).  The domain of a task depends on the changed files only where nothing else
names one (`domain_task`). -/

namespace ChangeGate

/-! ### What is read once is read again -/

namespace Procedure

variable {W : Workspace → Prop} {path : Path}

theorem gives_look {seen : Except FaultKind (Option Entry)}
    (h : ∀ w, W w → w.files.look (w.whole path) = seen) :
    Gives W (fun x => ∀ e, x = .ok e → seen = .ok e) (look path) := by
  cases seen with
  | ok e =>
      refine .asks (.pure (x := e) fun _ he => congrArg Except.ok (Except.ok.inj he)) fun w hw => ?_
      rw [h w hw]
  | error kind =>
      have hfault : Gives W (fun x => ∀ e : Option Entry, x = .ok e → Except.error kind = .ok e)
          (fileFault path kind) := .fileFault fun _ he => by cases he
      refine .asks hfault fun w hw => ?_
      rw [h w hw]

/-- The bytes of a file are read as the same text. -/
theorem gives_readText (hW : Workspace.Grounded W) {bytes : List UInt8}
    (h : ∀ w, W w → w.files.look (w.whole path) = .ok (some (.file bytes))) :
    Gives W (fun _ => True) (readText path) := by
  have hbytes : Gives W (fun _ => True) (readBytes path) := by
    refine .asks (.pure (x := bytes) trivial) fun w hw => ?_
    rw [Files.read_of_look (h w hw)]
  have hobserves : (readBytes path).Observes := by
    refine .bind .get fun w => ?_
    split
    · exact .pure _
    · exact .fileFault _ _
  exact hbytes.bind hobserves hW (fun _ _ => .decode) fun _ _ => trivial

end Procedure

/-- What stands where the environment says that the event file is. -/
def Workspace.event? (w : Workspace) : Option (Except FaultKind (Option Entry)) :=
  (w.setting? "GITHUB_EVENT_PATH").map fun path => w.files.look (w.whole (.ofText path))

/-- The environment and the event file of a workspace are those of another one. -/
structure Workspace.Describes (g w : Workspace) : Prop where
  environment : w.environment = g.environment
  event : w.event? = g.event?

theorem Workspace.Describes.setting? {g w : Workspace} (h : g.Describes w) (name : String) :
    w.setting? name = g.setting? name := by
  rw [Workspace.setting?, Workspace.setting?, valueOf?, valueOf?, h.environment]

namespace Scope

open Procedure (BreaksFor Gives Observes)

variable {g : Workspace} {W : Workspace → Prop}

/-! ### The description -/

theorem grounded_describes (g : Workspace) : Workspace.Grounded g.Describes := by
  intro w w' h hground
  refine ⟨hground.environment.trans h.environment, ?_⟩
  rw [← h.event, Workspace.event?, Workspace.event?, hground.setting?, hground.files]
  simp only [hground.whole]

theorem observes_fileBody? (path : Path) : (fileBody? path).Observes := by
  refine .bind (fun w => (BreaksFor.readText path w (.refl w)).1) fun cs => ?_
  split
  · exact .pure _
  · exact .breakDown _
  · exact .breakDown _
  · split
    · exact .pure _
    · exact .breakDown _

/-- The body that an event file holds is known from its bytes. -/
theorem gives_fileBody? (hW : Workspace.Grounded W) {path : Path} {bytes : List UInt8}
    (h : ∀ w, W w → w.files.look (w.whole path) = .ok (some (.file bytes))) :
    Gives W (fun _ => True) (fileBody? path) := by
  refine (Procedure.gives_readText hW h).bind (fun w => (BreaksFor.readText path w (.refl w)).1) hW
    (fun cs _ => ?_) fun _ _ => trivial
  split
  · exact .pure trivial
  · exact .throw trivial
  · exact .throw trivial
  · split
    · exact .pure trivial
    · exact .throw trivial

theorem gives_eventBody? (g : Workspace) : Gives g.Describes (fun _ => True) eventBody? := by
  have hW := grounded_describes g
  cases hpath : g.setting? "GITHUB_EVENT_PATH" with
  | none =>
      refine .asks (.pure (x := none) trivial) fun w hw => ?_
      rw [hw.setting?, hpath]
  | some path =>
      have hlook (w : Workspace) (hw : g.Describes w) :
          w.files.look (w.whole (.ofText path)) = g.files.look (g.whole (.ofText path)) := by
        have hevent := hw.event
        rw [Workspace.event?, Workspace.event?, hw.setting?, hpath] at hevent
        exact Option.some.inj hevent
      have hfile : Gives g.Describes
          (fun x => ∀ isFile, x = .ok isFile → ∃ e,
            g.files.look (g.whole (.ofText path)) = .ok e ∧ isFile = e.any (·.isFile))
          (Procedure.isFile (.ofText path)) := by
        refine (Procedure.gives_look hlook).bind (fun w => (BreaksFor.look _ w (.refl w)).1) hW
          (fun e he => .pure fun isFile hisFile => ⟨e, he e rfl, (Except.ok.inj hisFile).symm⟩) ?_
        intro failure _ isFile hisFile
        cases hisFile
      refine Gives.asks (p := ?step) ?answer fun w hw => ?asked
      case asked => rw [hw.setting?, hpath]
      refine hfile.bind (fun w => (BreaksFor.asks _ _ w (.refl w)).1) hW (fun isFile hisFile => ?_)
        fun _ _ => trivial
      obtain ⟨e, he, rfl⟩ := hisFile isFile rfl
      match e with
      | none => exact .pure trivial
      | some .directory => exact .pure trivial
      | some (.file bytes) =>
          have hbody := gives_fileBody? hW fun w hw => (hlook w hw).trans he
          refine hbody.bind (observes_fileBody? _) hW (fun body _ => ?_) fun _ _ => trivial
          split
          · exact .pure trivial
          · exact Gives.bind (Q := fun _ => True) (.warn trivial) (.warn _) hW
              (fun _ _ => .pure trivial) fun _ _ => trivial

/-- The description depends on the environment and on what stands where the event file is. -/
theorem gives_description (g : Workspace) : Gives g.Describes (fun _ => True) description := by
  refine (gives_eventBody? g).bind (fun w => (breaksFor_eventBody? w (.refl w)).1)
    (grounded_describes g) (fun body _ => ?_) fun _ _ => trivial
  split
  · exact .pure trivial
  · refine .asks (.pure (x := (g.valueOf? "PR_BODY").getD "") trivial) fun w hw => ?_
    rw [Workspace.valueOf?, hw.environment]
    rfl

/-! ### The domain of a task -/

/-- Other files with the same description leave the tags of a task, and its domain unless that is
the one of most files. -/
theorem domain_task (s : Sources) (as : List Action) :
    { s with actions := as }.task.tags = s.task.tags ∧
      ({ s with actions := as }.task.domain = s.task.domain ∨
        { s with actions := as }.task.domain = majority? as) := by
  have hsplit (s : Sources) : s.candidates =
      s.candidates.take 4 ++ [(majority? s.actions, .inferred)] := rfl
  have hfirst : { s with actions := as }.candidates.take 4 = s.candidates.take 4 := rfl
  refine ⟨by rw [tags_task, tags_task]; rfl, ?_⟩
  unfold Sources.task
  rw [hsplit, hsplit s, hfirst, List.find?_append, List.find?_append]
  cases (s.candidates.take 4).find? (·.1.isSome) with
  | some candidate => exact .inl rfl
  | none =>
      right
      dsimp only
      cases majority? as <;> rfl

end Scope
end ChangeGate
