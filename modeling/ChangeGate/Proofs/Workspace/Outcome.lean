import ChangeGate.Workspace.Basic

/-! # What a procedure comes to

`Procedure.outcome` is what a procedure comes to on a workspace and the workspace that it leaves,
with one lemma for each way of putting procedures together.  A procedure that only observes leaves
the files, the directory, the environment and the version control program as they are, whether it
fails or not; calls and warnings may be added. -/

namespace ChangeGate

/-- Two workspaces that differ in what was called and logged at most. -/
structure Workspace.SameGround (w w' : Workspace) : Prop where
  files : w'.files = w.files
  directory : w'.directory = w.directory
  environment : w'.environment = w.environment
  git : w'.git = w.git

namespace Workspace.SameGround

variable {w w' w'' : Workspace}

theorem refl (w : Workspace) : w.SameGround w := ⟨rfl, rfl, rfl, rfl⟩

theorem trans (h : w.SameGround w') (h' : w'.SameGround w'') : w.SameGround w'' :=
  ⟨h'.files.trans h.files, h'.directory.trans h.directory, h'.environment.trans h.environment,
    h'.git.trans h.git⟩

theorem setting? (h : w.SameGround w') (name : String) : w'.setting? name = w.setting? name := by
  rw [Workspace.setting?, Workspace.setting?, valueOf?, valueOf?, h.environment]

theorem whole (h : w.SameGround w') (p : Path) : w'.whole p = w.whole p := by
  rw [Workspace.whole, Workspace.whole, h.directory]

end Workspace.SameGround

namespace Procedure

variable {α β : Type}

/-- What a procedure comes to on a workspace, and the workspace that it leaves. -/
def outcome (p : Procedure α) (w : Workspace) : Except Failure α × Workspace := p.run.run w

/-! ### Outcomes -/

variable (p : Procedure α) (w : Workspace)

@[simp] theorem outcome_pure (x : α) : (pure x : Procedure α).outcome w = (.ok x, w) := rfl

@[simp] theorem outcome_get : (get : Procedure Workspace).outcome w = (.ok w, w) := rfl

theorem outcome_bind (f : α → Procedure β) :
    (p >>= f).outcome w =
      match p.outcome w with
      | (.ok x, w') => (f x).outcome w'
      | (.error failure, w') => (.error failure, w') := by
  show (ExceptT.bindCont f (p.run.run w).1).run (p.run.run w).2 = _
  unfold outcome
  cases h : p.run.run w with
  | mk result w' => cases result <;> rfl

variable {p w} in
/-- A procedure goes on behind what another one comes to. -/
theorem outcome_bind_of_ok {w' : Workspace} {x : α} (h : p.outcome w = (.ok x, w'))
    (f : α → Procedure β) : (p >>= f).outcome w = (f x).outcome w' := by
  rw [outcome_bind, h]

variable {p w} in
/-- Two procedures come to a value if the first one does and the second one goes on to it. -/
theorem outcome_bind_eq_ok_iff {f : α → Procedure β} {w' : Workspace} {y : β} :
    (p >>= f).outcome w = (.ok y, w') ↔
      ∃ x w₁, p.outcome w = (.ok x, w₁) ∧ (f x).outcome w₁ = (.ok y, w') := by
  rw [outcome_bind]
  match hp : p.outcome w with
  | (.ok x, w₁) =>
      refine ⟨fun h => ⟨x, w₁, rfl, h⟩, ?_⟩
      rintro ⟨x', w₁', heq, h⟩
      cases heq
      exact h
  | (.error failure, w₁) =>
      refine ⟨nofun, ?_⟩
      rintro ⟨x', w₁', heq, -⟩
      cases heq

theorem outcome_map (f : α → β) :
    (f <$> p).outcome w = ((p.outcome w).1.map f, (p.outcome w).2) := by
  rw [map_eq_pure_bind, outcome_bind]
  cases h : p.outcome w with
  | mk result w' => cases result <;> rfl

theorem outcome_tryCatch (handle : Failure → Procedure α) :
    (tryCatch p handle).outcome w =
      match p.outcome w with
      | (.ok x, w') => (.ok x, w')
      | (.error failure, w') => (handle failure).outcome w' := by
  show (ExceptT.tryCatch p handle).run.run w = _
  unfold outcome ExceptT.run StateT.run
  simp only [ExceptT.tryCatch, ExceptT.mk, bind, StateT.bind]
  cases p w with
  | mk result w' => cases result <;> rfl

/-! ### Procedures that observe -/

/-- A procedure that observes leaves the ground as it is, whether it fails or not. -/
def Observes (p : Procedure α) : Prop := ∀ w : Workspace, w.SameGround (p.outcome w).2

/-- What a call prints, by the answer of the program. -/
def printed (arguments : List String) (reply : Git.Reply) : Procedure (List Char) := do
  let out ← decode reply.out
  let err ← decode reply.err
  if reply.code = 0 then return out
  else complain (.git arguments (.exited (String.ofList err)))

/-- A call with arguments that can be passed. -/
def call (arguments : List String) : Procedure (List Char) := do
  let w ← get
  match w.git with
  | none => complain (.git arguments .absent)
  | some answers =>
    set { w with gitCalls := w.gitCalls ++ [arguments] }
    printed arguments (answers w.gitCalls.length)

theorem git_eq (arguments : List String) :
    git arguments =
      match arguments.findSome? Files.nameFault? with
      | some kind => do fileFault .root kind; call arguments
      | none => call arguments := by
  unfold git
  cases arguments.findSome? Files.nameFault? <;> rfl

namespace Observes

variable {p : Procedure α}

theorem pure (x : α) : (Pure.pure x : Procedure α).Observes := fun w => .refl w

theorem throw (failure : Failure) : (MonadExcept.throw failure : Procedure α).Observes :=
  fun w => .refl w

theorem complain (c : Complaint) : (Procedure.complain c : Procedure α).Observes := throw _

theorem breakDown (b : Breakdown) : (Procedure.breakDown b : Procedure α).Observes := throw _

theorem get : (MonadState.get : Procedure Workspace).Observes := fun w => .refl w

theorem bind {f : α → Procedure β} (hp : p.Observes) (hf : ∀ x, (f x).Observes) :
    (p >>= f).Observes := by
  intro w
  have h := hp w
  rw [outcome_bind]
  match hout : p.outcome w with
  | (.ok x, w') =>
      rw [hout] at h
      exact h.trans (hf x w')
  | (.error failure, w') =>
      rw [hout] at h
      exact h

theorem map {f : α → β} (hp : p.Observes) : (f <$> p).Observes := by
  intro w
  rw [outcome_map]
  exact hp w

theorem tryCatch {handle : Failure → Procedure α} (hp : p.Observes)
    (hhandle : ∀ failure, (handle failure).Observes) :
    (MonadExcept.tryCatch p handle).Observes := by
  intro w
  have h := hp w
  rw [outcome_tryCatch]
  match hout : p.outcome w with
  | (.ok x, w') =>
      rw [hout] at h
      exact h
  | (.error failure, w') =>
      rw [hout] at h
      exact h.trans (hhandle failure w')

theorem warn (text : String) : (Procedure.warn text).Observes := fun _ => ⟨rfl, rfl, rfl, rfl⟩

theorem fileFault (path : Path) (kind : FaultKind) :
    (Procedure.fileFault path kind : Procedure α).Observes := by
  cases kind <;> exact breakDown _

theorem decode (bytes : List UInt8) : (Procedure.decode bytes).Observes := by
  unfold Procedure.decode
  split
  · exact pure _
  · exact breakDown _

theorem printed (arguments : List String) (reply : Git.Reply) :
    (Procedure.printed arguments reply).Observes := by
  refine bind (decode _) fun out => bind (decode _) fun err => ?_
  split
  · exact pure _
  · exact complain _

/-- A call is noted in a part of the workspace that is no ground. -/
theorem call (arguments : List String) : (Procedure.call arguments).Observes := by
  intro w
  rw [Procedure.call, outcome_bind, outcome_get]
  dsimp only
  split
  · exact complain _ w
  · have hnoted : w.SameGround { w with gitCalls := w.gitCalls ++ [arguments] } :=
      ⟨rfl, rfl, rfl, rfl⟩
    exact hnoted.trans (printed _ _ _)

theorem git (arguments : List String) : (Procedure.git arguments).Observes := by
  rw [git_eq]
  split
  · exact bind (fileFault _ _) fun _ => call _
  · exact call _

end Observes

end Procedure
end ChangeGate
