import ChangeGate.Proofs.Workspace.Reading

/-! # Procedures with one answer

A procedure gives one answer on a class of workspaces if it looks at nothing in which they differ:
what it comes to on one of them is what it comes to on all (`Procedure.Gives`).  A procedure that
observes does not leave a class that is closed under calls and warnings, so what follows it can be
looked at on the same class (`Gives.bind`). -/

namespace ChangeGate

/-- A class of workspaces that is closed under what calls and warnings change. -/
def Workspace.Grounded (W : Workspace → Prop) : Prop := ∀ w w', W w → w.SameGround w' → W w'

namespace Procedure

variable {α β : Type}

/-- A procedure comes to one answer on all workspaces of a class, and the answer has a property. -/
def Gives (W : Workspace → Prop) (Q : Except Failure α → Prop) (p : Procedure α) : Prop :=
  ∃ x, Q x ∧ ∀ w, W w → (p.outcome w).1 = x

/-- An answer that is a failure. -/
def Failed (x : Except Failure α) : Prop := ∃ failure, x = .error failure

namespace Gives

variable {W W' : Workspace → Prop} {Q Q' : Except Failure α → Prop} {R : Except Failure β → Prop}
  {p : Procedure α} {failure : Failure}

theorem mono (h : Gives W Q p) (hQ : ∀ x, Q x → Q' x) : Gives W Q' p := by
  obtain ⟨x, hx, hp⟩ := h
  exact ⟨x, hQ x hx, hp⟩

theorem restrict (h : Gives W Q p) (hW : ∀ w, W' w → W w) : Gives W' Q p := by
  obtain ⟨x, hx, hp⟩ := h
  exact ⟨x, hx, fun w hw => hp w (hW w hw)⟩

theorem pure {x : α} (h : Q (.ok x)) : Gives W Q (Pure.pure x) := ⟨_, h, fun _ _ => rfl⟩

theorem throw (h : Q (.error failure)) : Gives W Q (MonadExcept.throw failure) :=
  ⟨_, h, fun _ _ => rfl⟩

theorem warn {text : String} {Q : Except Failure Unit → Prop} (h : Q (.ok ())) :
    Gives W Q (Procedure.warn text) := ⟨_, h, fun _ _ => rfl⟩

theorem fileFault {path : Path} {kind : FaultKind}
    (h : Q (.error (.breakdown (.ofFault path kind)))) :
    Gives W Q (Procedure.fileFault path kind) := by
  cases kind <;> exact throw h

theorem decode {bytes : List UInt8} : Gives W (fun _ => True) (Procedure.decode bytes) := by
  unfold Procedure.decode
  split
  · exact pure trivial
  · exact throw trivial

/-- What is asked of a workspace is the same on all of a class. -/
theorem asks {f : Workspace → Procedure α} (h : Gives W Q p) (hf : ∀ w, W w → f w = p) :
    Gives W Q (get >>= f) := by
  obtain ⟨x, hx, hp⟩ := h
  refine ⟨x, hx, fun w hw => ?_⟩
  rw [outcome_bind_of_ok (outcome_get w), hf w hw]
  exact hp w hw

theorem bind {f : α → Procedure β} (hp : Gives W Q p) (hobserves : p.Observes)
    (hW : Workspace.Grounded W) (hf : ∀ x, Q (.ok x) → Gives W R (f x))
    (hfailure : ∀ failure, Q (.error failure) → R (.error failure)) : Gives W R (p >>= f) := by
  obtain ⟨x, hx, hp⟩ := hp
  cases x with
  | error failure =>
      refine ⟨_, hfailure failure hx, fun w hw => ?_⟩
      rw [outcome_bind, ← Prod.eta (p.outcome w), hp w hw]
  | ok x =>
      obtain ⟨y, hy, hf⟩ := hf x hx
      refine ⟨y, hy, fun w hw => ?_⟩
      rw [outcome_bind, ← Prod.eta (p.outcome w), hp w hw]
      exact hf _ (hW w _ hw (hobserves w))

/-- Behind a known value. -/
theorem bind_of_ok {f : α → Procedure β} {x : α} (hp : Gives W (· = .ok x) p)
    (hobserves : p.Observes) (hW : Workspace.Grounded W) (hf : Gives W R (f x)) :
    Gives W R (p >>= f) := by
  refine hp.bind hobserves hW (fun y hy => ?_) fun _ h => by cases h
  cases hy
  exact hf

theorem bind_of_error {f : α → Procedure β} (hp : Gives W (· = .error failure) p) :
    Gives W (· = .error failure) (p >>= f) := by
  obtain ⟨_, rfl, hp⟩ := hp
  refine ⟨_, rfl, fun w hw => ?_⟩
  rw [outcome_bind, ← Prod.eta (p.outcome w), hp w hw]

theorem tryCatch {handle : Failure → Procedure α} (hp : Gives W Q' p) (hobserves : p.Observes)
    (hW : Workspace.Grounded W) (hok : ∀ x, Q' (.ok x) → Q (.ok x))
    (hhandle : ∀ failure, Q' (.error failure) → Gives W Q (handle failure)) :
    Gives W Q (MonadExcept.tryCatch p handle) := by
  obtain ⟨x, hx, hp⟩ := hp
  cases x with
  | ok x =>
      refine ⟨_, hok x hx, fun w hw => ?_⟩
      rw [outcome_tryCatch, ← Prod.eta (p.outcome w), hp w hw]
  | error failure =>
      obtain ⟨y, hy, hhandle⟩ := hhandle failure hx
      refine ⟨y, hy, fun w hw => ?_⟩
      rw [outcome_tryCatch, ← Prod.eta (p.outcome w), hp w hw]
      exact hhandle _ (hW w _ hw (hobserves w))

end Gives

end Procedure
end ChangeGate
