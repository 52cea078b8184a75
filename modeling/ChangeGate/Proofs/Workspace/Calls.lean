import ChangeGate.Proofs.Workspace.Breakdown

/-! # Calls and what they answer

A workspace settles what the next calls of the version control program print (`answer?`).  A
procedure asks for an answer by some calls if it comes to the answer, or to a complaint about the
program where there is none, and notes these calls (`Procedure.Asks`).

`asks_git` says so of a single call, and `Asks.bind`, `Asks.tryCatch_of_some` and
`Asks.tryCatch_of_none` put procedures together. -/

namespace ChangeGate

/-! ### Answers -/

namespace Git.Reply

/-- What a reply prints, unless the call failed. -/
def text? (r : Reply) : Option (List Char) :=
  if r.code = 0 then (Text.decodeUtf8 r.out).toOption.map Text.unifyLineEnds else none

/-- A reply is text on both of its channels. -/
def IsText (r : Reply) : Prop :=
  (∃ cs, Text.decodeUtf8 r.out = .ok cs) ∧ ∃ cs, Text.decodeUtf8 r.err = .ok cs

end Git.Reply

namespace Workspace

variable {w w' w'' : Workspace} {calls calls' : List (List String)}

/-- What one of the next calls prints, counted from zero, unless it fails. -/
def answer? (w : Workspace) (n : Nat) : Option (List Char) :=
  w.git.bind fun answers => (answers (w.gitCalls.length + n)).text?

/-- The version control program answers in text. -/
def AnswersText (w : Workspace) : Prop := ∀ answers ∈ w.git, ∀ n, (answers n).IsText

/-- The calls that are noted: none, if there is no program. -/
def noted (w : Workspace) (calls : List (List String)) : List (List String) :=
  if w.git.isSome then calls else []

theorem length_noted_le (w : Workspace) (calls : List (List String)) :
    (w.noted calls).length ≤ calls.length := by
  rw [noted]
  split
  · exact Nat.le_refl _
  · exact Nat.zero_le _

/-- A workspace as it stands after some calls. -/
structure After (w : Workspace) (calls : List (List String)) (w' : Workspace) : Prop where
  ground : w.SameGround w'
  gitCalls : w'.gitCalls = w.gitCalls ++ w.noted calls

namespace After

theorem refl (w : Workspace) : w.After [] w := ⟨.refl w, by simp [noted]⟩

theorem trans (h : w.After calls w') (h' : w'.After calls' w'') :
    w.After (calls ++ calls') w'' := by
  refine ⟨h.ground.trans h'.ground, ?_⟩
  rw [h'.gitCalls, h.gitCalls, noted, noted, noted, h.ground.git, List.append_assoc]
  split <;> rfl

theorem answer? (h : w.After calls w') (n : Nat) : w'.answer? n = w.answer? (calls.length + n) := by
  rw [Workspace.answer?, Workspace.answer?, h.ground.git, h.gitCalls]
  cases hgit : w.git with
  | none => rfl
  | some answers => simp [noted, hgit, Nat.add_assoc]

theorem answersText (h : w.After calls w') (htext : w.AnswersText) : w'.AnswersText := by
  rw [AnswersText, h.ground.git]
  exact htext

end After

end Workspace

/-! ### Asking -/

namespace Procedure

variable {α β : Type} {p : Procedure α} {f : α → Procedure β} {w : Workspace} {x : α}
  {x? : Option α} {y? : Option β} {calls calls' : List (List String)} {arguments : List String}

/-- A result is an answer, or where there is none a complaint about the program. -/
def Answered : Option α → Except Failure α → Prop
  | some x, result => result = .ok x
  | none, result => ∃ arguments trouble, result = .error (.complaint (.git arguments trouble))

/-- There is a complaint about the program exactly where there is no answer. -/
theorem Answered.complains_iff {result : Except Failure α} (h : Answered x? result) :
    (∃ arguments trouble, result = .error (.complaint (.git arguments trouble))) ↔ x? = none := by
  cases x? with
  | none => exact iff_of_true h rfl
  | some x =>
      obtain rfl : result = .ok x := h
      refine iff_of_false ?_ (Option.some_ne_none x)
      rintro ⟨_, _, ⟨⟩⟩

/-- On a workspace a procedure asks for an answer by some calls. -/
structure Asks (p : Procedure α) (w : Workspace) (calls : List (List String)) (x? : Option α) :
    Prop where
  result : Answered x? (p.outcome w).1
  after : w.After calls (p.outcome w).2

namespace Asks

theorem outcome_eq (h : p.Asks w calls (some x)) : p.outcome w = (.ok x, (p.outcome w).2) :=
  Prod.ext h.result rfl

theorem of_outcome {result : Except Failure α} {w' : Workspace} (h : p.outcome w = (result, w'))
    (hresult : Answered x? result) (hafter : w.After calls w') : p.Asks w calls x? := by
  refine ⟨?_, ?_⟩
  · rwa [h]
  · rwa [h]

theorem pure : (Pure.pure x : Procedure α).Asks w [] (some x) := ⟨rfl, .refl w⟩

theorem warn (text : String) : (Procedure.warn text).Asks w [] (some ()) :=
  ⟨rfl, ⟨rfl, rfl, rfl, rfl⟩, (Workspace.After.refl w).gitCalls⟩

/-- A procedure goes on behind an answer. -/
theorem bind (hp : p.Asks w calls (some x))
    (hf : ∀ w', w.After calls w' → (f x).Asks w' calls' y?) :
    (p >>= f).Asks w (calls ++ calls') y? := by
  have hbehind := hf _ hp.after
  exact .of_outcome (outcome_bind_of_ok hp.outcome_eq f) hbehind.result
    (hp.after.trans hbehind.after)

/-- Behind no answer there is none. -/
theorem bind_of_none (hp : p.Asks w calls none) : (p >>= f).Asks w calls none := by
  obtain ⟨arguments, trouble, hresult⟩ := hp.result
  have houtcome : (p >>= f).outcome w =
      (.error (.complaint (.git arguments trouble)), (p.outcome w).2) := by
    rw [outcome_bind, ← Prod.eta (p.outcome w), hresult]
  exact .of_outcome houtcome ⟨arguments, trouble, rfl⟩ hp.after

theorem map (hp : p.Asks w calls x?) (g : α → β) : (g <$> p).Asks w calls (x?.map g) := by
  rw [map_eq_pure_bind]
  cases x? with
  | none => exact hp.bind_of_none
  | some x => exact List.append_nil calls ▸ hp.bind fun _ _ => pure

/-- An answer is not handled. -/
theorem tryCatch_of_some (hp : p.Asks w calls (some x)) (handle : Failure → Procedure α) :
    (MonadExcept.tryCatch p handle).Asks w calls (some x) := by
  have houtcome : (MonadExcept.tryCatch p handle).outcome w = p.outcome w := by
    rw [outcome_tryCatch, hp.outcome_eq]
  exact .of_outcome houtcome hp.result hp.after

/-- Where there is no answer the handler asks again. -/
theorem tryCatch_of_none {handle : Failure → Procedure α} (hp : p.Asks w calls none)
    (hhandle : ∀ arguments trouble w', w.After calls w' →
      (handle (.complaint (.git arguments trouble))).Asks w' calls' x?) :
    (MonadExcept.tryCatch p handle).Asks w (calls ++ calls') x? := by
  obtain ⟨arguments, trouble, hresult⟩ := hp.result
  have hhandled := hhandle arguments trouble _ hp.after
  have houtcome : (MonadExcept.tryCatch p handle).outcome w =
      (handle (.complaint (.git arguments trouble))).outcome (p.outcome w).2 := by
    rw [outcome_tryCatch, ← Prod.eta (p.outcome w), hresult]
  exact .of_outcome houtcome hhandled.result (hp.after.trans hhandled.after)

end Asks

/-- What a reply prints is an answer. -/
theorem asks_printed (arguments : List String) {reply : Git.Reply} (htext : reply.IsText) :
    (printed arguments reply).Asks w [] reply.text? := by
  obtain ⟨⟨out, hout⟩, err, herr⟩ := htext
  have hdecode {bytes : List UInt8} {cs : List Char} (h : Text.decodeUtf8 bytes = .ok cs) :
      decode bytes = Pure.pure (Text.unifyLineEnds cs) := by
    rw [decode, h]
  rw [printed, hdecode hout, hdecode herr, pure_bind, pure_bind, Git.Reply.text?, hout]
  split
  · exact .pure
  · exact ⟨⟨_, _, rfl⟩, .refl w⟩

/-- A call asks for what it prints, if its arguments can be passed. -/
theorem asks_git (htext : w.AnswersText) (harguments : ∀ a ∈ arguments, Files.nameFault? a = none) :
    (git arguments).Asks w [arguments] (w.answer? 0) := by
  rw [git_eq, List.findSome?_eq_none_iff.mpr harguments]
  cases hgit : w.git with
  | none =>
      have houtcome : (call arguments).outcome w =
          (.error (.complaint (.git arguments .absent)), w) := by
        rw [call, outcome_bind_of_ok (outcome_get w), hgit]
        rfl
      have hnone : w.answer? 0 = none := by rw [Workspace.answer?, hgit, Option.bind_none]
      rw [hnone]
      refine .of_outcome houtcome ⟨arguments, .absent, rfl⟩ ⟨.refl w, ?_⟩
      simp [Workspace.noted, hgit]
  | some answers =>
      have hprinted := asks_printed (w := { w with gitCalls := w.gitCalls ++ [arguments] })
        arguments (htext answers hgit w.gitCalls.length)
      have houtcome : (call arguments).outcome w =
          (printed arguments (answers w.gitCalls.length)).outcome
            { w with gitCalls := w.gitCalls ++ [arguments] } := by
        rw [call, outcome_bind_of_ok (outcome_get w), hgit]
        rfl
      have hsome : w.answer? 0 = (answers w.gitCalls.length).text? := by
        rw [Workspace.answer?, hgit, Option.bind_some, Nat.add_zero]
      have hnoted : w.After [arguments] { w with gitCalls := w.gitCalls ++ [arguments] } :=
        ⟨⟨rfl, rfl, rfl, rfl⟩, by simp [Workspace.noted, hgit]⟩
      rw [hsome]
      exact .of_outcome houtcome hprinted.result (hnoted.trans hprinted.after)

/-- A call with an argument that cannot be passed is not made. -/
theorem outcome_git_of_fault (w : Workspace) {a : String} (ha : a ∈ arguments)
    (hfault : Files.nameFault? a ≠ none) :
    ∃ kind, (git arguments).outcome w = (.error (.breakdown (.ofFault .root kind)), w) := by
  have hne : arguments.findSome? Files.nameFault? ≠ none :=
    fun hnone => hfault (List.findSome?_eq_none_iff.mp hnone a ha)
  obtain ⟨kind, hkind⟩ := Option.ne_none_iff_exists'.mp hne
  refine ⟨kind, ?_⟩
  rw [git_eq, hkind]
  dsimp only
  rw [outcome_bind, outcome_fileFault]

end Procedure
end ChangeGate
