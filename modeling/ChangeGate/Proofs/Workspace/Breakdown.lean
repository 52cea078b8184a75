import ChangeGate.Proofs.Workspace.Outcome

/-! # What a procedure breaks down for

On the ground of a workspace a procedure breaks down for some causes if it leaves the ground and
comes to a value with a property, to a complaint, or to a breakdown for one of these causes
(`Procedure.BreaksFor`).  Complaints may be caught, and nothing is asked of them.

`BreaksFor.bind` and `BreaksFor.tryCatch` put procedures together; below them stands what reading
files, calling the version control program and writing a file break down for. -/

namespace ChangeGate

/-- The breakdown that a fault at a path is. -/
def Breakdown.ofFault (p : Path) : FaultKind → Breakdown
  | .nullCharacter => .nullCharacter
  | .unencodable => .unencodable
  | kind => .file ⟨kind, p.text⟩

namespace Workspace

variable (g : Workspace)

/-- A path leads to a file with a text, in which every line end is a line feed. -/
def Shows (p : Path) (cs : List Char) : Prop :=
  ∃ bytes raw, g.files.read (g.whole p) = .ok bytes ∧ Text.decodeUtf8 bytes = .ok raw ∧
    cs = Text.unifyLineEnds raw

/-- What keeps a path from being read as text: it cannot be followed, what stands there is no file,
or the file is no UTF-8. -/
inductive Unreadable (p : Path) : Breakdown → Prop
  | look {kind : FaultKind} (h : g.files.look (g.whole p) = .error kind) :
      Unreadable p (.ofFault p kind)
  | read {kind : FaultKind} (h : g.files.read (g.whole p) = .error kind) :
      Unreadable p (.ofFault p kind)
  | bytes {bytes : List UInt8} {flaw : Text.Utf8Flaw × Nat}
      (h : g.files.read (g.whole p) = .ok bytes) (hflaw : Text.decodeUtf8 bytes = .error flaw) :
      Unreadable p .undecodable

/-- The version control program prints a text, in which every line end is a line feed. -/
def Prints (cs : List Char) : Prop :=
  ∃ answers n raw, g.git = some answers ∧ Text.decodeUtf8 (answers n).out = .ok raw ∧
    cs = Text.unifyLineEnds raw

/-- What keeps a call from an answer that is text: an argument that cannot be passed, or output that
is no UTF-8. -/
inductive Uncallable (arguments : List String) : Breakdown → Prop
  | argument {a : String} {kind : FaultKind} (ha : a ∈ arguments)
      (h : Files.nameFault? a = some kind) : Uncallable arguments (.ofFault .root kind)
  | output {answers : Nat → Git.Reply} {n : Nat} {bytes : List UInt8} {flaw : Text.Utf8Flaw × Nat}
      (h : g.git = some answers) (hbytes : bytes = (answers n).out ∨ bytes = (answers n).err)
      (hflaw : Text.decodeUtf8 bytes = .error flaw) : Uncallable arguments .undecodable

/-- What keeps a text from being written below a path: the way to it cannot be made, or the path
leads to no file. -/
inductive Unwritable (p : Path) : Breakdown → Prop
  | way {files : Files} {kind : FaultKind} {place : Path}
      (h : g.files.makeDirectories (g.whole p.parent) = (files, some (kind, place))) :
      Unwritable p (.ofFault place kind)
  | file {files : Files} {bytes : List UInt8} {kind : FaultKind}
      (h : g.files.makeDirectories (g.whole p.parent) = (files, none))
      (hwrite : files.write (g.whole p) bytes = .error kind) : Unwritable p (.ofFault p kind)

end Workspace

namespace Procedure

variable {α β : Type}

theorem outcome_fileFault (w : Workspace) (p : Path) (kind : FaultKind) :
    (fileFault p kind : Procedure α).outcome w = (.error (.breakdown (.ofFault p kind)), w) := by
  cases kind <;> rfl

/-- What a procedure may come to: a value with a property, a complaint, or a breakdown for one of
some causes. -/
def Answers (cause : Breakdown → Prop) (Q : α → Prop) : Except Failure α → Prop
  | .ok x => Q x
  | .error (.complaint _) => True
  | .error (.breakdown b) => cause b

/-- On a ground a procedure leaves the ground and comes to what it may. -/
def BreaksFor (g : Workspace) (cause : Breakdown → Prop) (Q : α → Prop) (p : Procedure α) : Prop :=
  ∀ w, g.SameGround w → g.SameGround (p.outcome w).2 ∧ Answers cause Q (p.outcome w).1

variable {g : Workspace} {cause cause' : Breakdown → Prop} {Q R : α → Prop} {S : β → Prop}
  {p : Procedure α} {f : α → Procedure β}

theorem Answers.mono {result : Except Failure α} (h : Answers cause Q result)
    (hcause : ∀ b, cause b → cause' b) (hQ : ∀ x, Q x → R x) : Answers cause' R result := by
  cases result with
  | ok x => exact hQ x h
  | error failure =>
      cases failure with
      | complaint c => trivial
      | breakdown b => exact hcause b h

theorem Answers.widen {result : Except Failure α} (h : Answers cause Q result)
    (hcause : ∀ b, cause b → cause' b) : Answers cause' Q result :=
  h.mono hcause fun _ hx => hx

theorem Answers.bind {w : Workspace} (hp : Answers cause Q (p.outcome w).1)
    (hf : ∀ x w', p.outcome w = (.ok x, w') → Q x → Answers cause S ((f x).outcome w').1) :
    Answers cause S ((p >>= f).outcome w).1 := by
  rw [outcome_bind]
  match hout : p.outcome w with
  | (.ok x, w') =>
      rw [hout] at hp
      exact hf x w' hout hp
  | (.error (.complaint c), w') => trivial
  | (.error (.breakdown b), w') =>
      rw [hout] at hp
      exact hp

namespace BreaksFor

theorem mono (hp : BreaksFor g cause Q p) (hcause : ∀ b, cause b → cause' b)
    (hQ : ∀ x, Q x → R x) : BreaksFor g cause' R p := fun w hw =>
  ⟨(hp w hw).1, (hp w hw).2.mono hcause hQ⟩

theorem widen (hp : BreaksFor g cause Q p) (hcause : ∀ b, cause b → cause' b) :
    BreaksFor g cause' Q p :=
  hp.mono hcause fun _ hx => hx

theorem pure {x : α} (hx : Q x) : BreaksFor g cause Q (Pure.pure x) := fun _ hw => ⟨hw, hx⟩

theorem complain (c : Complaint) : BreaksFor g cause Q (Procedure.complain c) :=
  fun _ hw => ⟨hw, trivial⟩

theorem breakDown {b : Breakdown} (hb : cause b) : BreaksFor g cause Q (Procedure.breakDown b) :=
  fun _ hw => ⟨hw, hb⟩

theorem get : BreaksFor g cause g.SameGround (get : Procedure Workspace) := fun _ hw => ⟨hw, hw⟩

theorem warn (text : String) : BreaksFor g cause (fun _ => True) (Procedure.warn text) :=
  fun w hw => ⟨hw.trans (Observes.warn text w), trivial⟩

theorem bind (hp : BreaksFor g cause Q p) (hf : ∀ x, Q x → BreaksFor g cause S (f x)) :
    BreaksFor g cause S (p >>= f) := by
  intro w hw
  have h := hp w hw
  rw [outcome_bind]
  match hout : p.outcome w with
  | (.ok x, w') =>
      rw [hout] at h
      exact hf x h.2 w' h.1
  | (.error (.complaint c), w') =>
      rw [hout] at h
      exact ⟨h.1, trivial⟩
  | (.error (.breakdown b), w') =>
      rw [hout] at h
      exact ⟨h.1, h.2⟩

theorem map {f : α → β} (hp : BreaksFor g cause Q p) (hf : ∀ x, Q x → S (f x)) :
    BreaksFor g cause S (f <$> p) := by
  rw [map_eq_pure_bind]
  exact hp.bind fun x hx => pure (hf x hx)

/-- A handler is given complaints, and breakdowns that have a cause. -/
theorem tryCatch {handle : Failure → Procedure α} (hp : BreaksFor g cause Q p)
    (hcomplaint : ∀ c, BreaksFor g cause Q (handle (.complaint c)))
    (hbreakdown : ∀ b, cause b → BreaksFor g cause Q (handle (.breakdown b))) :
    BreaksFor g cause Q (MonadExcept.tryCatch p handle) := by
  intro w hw
  have h := hp w hw
  rw [outcome_tryCatch]
  match hout : p.outcome w with
  | (.ok x, w') =>
      rw [hout] at h
      exact h
  | (.error (.complaint c), w') =>
      rw [hout] at h
      exact hcomplaint c w' h.1
  | (.error (.breakdown b), w') =>
      rw [hout] at h
      exact hbreakdown b h.2 w' h.1

/-- A list of procedures breaks down for what each of them does. -/
theorem mapM {xs : List α} (hf : ∀ x ∈ xs, BreaksFor g cause S (f x)) :
    BreaksFor g cause (fun ys => ∀ y ∈ ys, S y) (xs.mapM f) := by
  induction xs with
  | nil => exact pure nofun
  | cons x xs ih =>
      obtain ⟨hx, hxs⟩ := List.forall_mem_cons.mp hf
      rw [List.mapM_cons]
      refine hx.bind fun y hy => (ih hxs).bind fun ys hys => pure ?_
      exact List.forall_mem_cons.mpr ⟨hy, hys⟩

theorem forM {f : α → Procedure PUnit} {xs : List α}
    (hf : ∀ x ∈ xs, BreaksFor g cause (fun _ => True) (f x)) :
    BreaksFor g cause (fun _ => True) (xs.forM f) := by
  induction xs with
  | nil => exact pure trivial
  | cons x xs ih =>
      obtain ⟨hx, hxs⟩ := List.forall_mem_cons.mp hf
      exact hx.bind fun _ _ => ih hxs

/-! ### Files -/

theorem fileFault (path : Path) (kind : FaultKind) :
    BreaksFor g (· = .ofFault path kind) Q (Procedure.fileFault path kind) := by
  cases kind <;> exact breakDown rfl

theorem decode (bytes : List UInt8) :
    BreaksFor g (fun b => b = .undecodable ∧ ∃ flaw, Text.decodeUtf8 bytes = .error flaw)
      (fun cs => ∃ raw, Text.decodeUtf8 bytes = .ok raw ∧ cs = Text.unifyLineEnds raw)
      (Procedure.decode bytes) := by
  unfold Procedure.decode
  split
  · rename_i raw hraw
    exact pure ⟨raw, hraw, rfl⟩
  · rename_i flaw hflaw
    exact breakDown ⟨rfl, flaw, hflaw⟩

theorem look (path : Path) :
    BreaksFor g (g.Unreadable path) (fun e => g.files.look (g.whole path) = .ok e)
      (Procedure.look path) := by
  refine get.bind fun w hw => ?_
  rw [hw.files, hw.whole]
  split
  · rename_i e he
    exact pure he
  · rename_i kind hkind
    exact (fileFault path kind).widen fun b hb => hb ▸ .look hkind

/-- A question about what a path leads to. -/
theorem asks (path : Path) (f : Option Entry → Bool) :
    BreaksFor g (g.Unreadable path) (fun _ => True) (do return f (← Procedure.look path)) :=
  (look path).bind fun _ _ => pure trivial

theorem list (path : Path) :
    BreaksFor g (fun b => ∃ kind, g.files.list (g.whole path) = .error kind ∧ b = .ofFault path kind)
      (fun names => g.files.list (g.whole path) = .ok names) (Procedure.list path) := by
  refine get.bind fun w hw => ?_
  rw [hw.files, hw.whole]
  split
  · rename_i names hnames
    exact pure hnames
  · rename_i kind hkind
    exact (fileFault path kind).widen fun b hb => ⟨kind, hkind, hb⟩

theorem readText (path : Path) :
    BreaksFor g (g.Unreadable path) (g.Shows path) (Procedure.readText path) := by
  have hbytes : BreaksFor g (g.Unreadable path)
      (fun bytes => g.files.read (g.whole path) = .ok bytes) (Procedure.readBytes path) := by
    refine get.bind fun w hw => ?_
    rw [hw.files, hw.whole]
    split
    · rename_i bytes hbytes
      exact pure hbytes
    · rename_i kind hkind
      exact (fileFault path kind).widen fun b hb => hb ▸ .read hkind
  refine hbytes.bind fun bytes hbytes => (decode bytes).mono ?_ ?_
  · rintro _ ⟨rfl, flaw, hflaw⟩
    exact .bytes hbytes hflaw
  · rintro cs ⟨raw, hraw, hcs⟩
    exact ⟨bytes, raw, hbytes, hraw, hcs⟩

/-! ### Calls -/

theorem git (arguments : List String) :
    BreaksFor g (g.Uncallable arguments) g.Prints (Procedure.git arguments) := by
  have hprinted {answers : Nat → Git.Reply} (hgit : g.git = some answers) (n : Nat) :
      BreaksFor g (g.Uncallable arguments) g.Prints (printed arguments (answers n)) := by
    have houtput {bytes : List UInt8} (hbytes : bytes = (answers n).out ∨ bytes = (answers n).err) :
        ∀ b, (b = .undecodable ∧ ∃ flaw, Text.decodeUtf8 bytes = .error flaw) →
          g.Uncallable arguments b := by
      rintro _ ⟨rfl, flaw, hflaw⟩
      exact .output hgit hbytes hflaw
    refine ((decode _).widen (houtput (.inl rfl))).bind fun out hout =>
      ((decode _).widen (houtput (.inr rfl))).bind fun err _ => ?_
    split
    · obtain ⟨raw, hraw, rfl⟩ := hout
      exact pure ⟨answers, n, raw, hgit, hraw, rfl⟩
    · exact complain _
  have hcall : BreaksFor g (g.Uncallable arguments) g.Prints (call arguments) := by
    intro w hw
    rw [call, outcome_bind, outcome_get]
    dsimp only
    split
    · exact complain _ w hw
    · rename_i answers hanswers
      exact hprinted (hw.git ▸ hanswers) _ _ ⟨hw.files, hw.directory, hw.environment, hw.git⟩
  rw [git_eq]
  split
  · rename_i kind hkind
    obtain ⟨a, ha, hfault⟩ := List.exists_of_findSome?_eq_some hkind
    have hargument : BreaksFor g (g.Uncallable arguments) (fun _ => True)
        (Procedure.fileFault .root kind : Procedure PUnit) :=
      (fileFault .root kind).widen fun b hb => hb ▸ .argument ha hfault
    exact hargument.bind fun _ _ => hcall
  · exact hcall

end BreaksFor

/-! ### Writing -/

variable {w : Workspace} {path : Path}

theorem answers_fileFault {α : Type} {cause : Breakdown → Prop} {Q : α → Prop} {kind : FaultKind}
    (h : cause (.ofFault path kind)) : Answers cause Q ((fileFault path kind).outcome w).1 := by
  rw [outcome_fileFault]
  exact h

/-- A text that can be written is one without halves of surrogate pairs. -/
theorem answers_writeBelow (hw : g.SameGround w) (text : String) :
    Answers (fun b => g.Unwritable path b ∨ b = .unencodable ∧ Text.hasHalf text.toList = true)
      (fun _ => True) ((writeBelow path text).outcome w).1 := by
  have hway : (makeDirectories path.parent).outcome w =
      match g.files.makeDirectories (g.whole path.parent) with
      | (files, none) => (.ok (), { w with files })
      | (files, some (kind, place)) => (fileFault place kind).outcome { w with files } := by
    rw [makeDirectories, outcome_bind, outcome_get]
    dsimp only
    rw [hw.files, hw.whole]
    rcases g.files.makeDirectories (g.whole path.parent) with ⟨files, _ | ⟨kind, place⟩⟩ <;> rfl
  rw [writeBelow, outcome_bind, hway]
  rcases h : g.files.makeDirectories (g.whole path.parent) with ⟨files, _ | ⟨kind, place⟩⟩
  · dsimp only
    rw [writeText, outcome_bind, outcome_get]
    dsimp only
    split
    · cases hhalf : Text.hasHalf text.toList with
      | false => trivial
      | true => exact .inr ⟨rfl, rfl⟩
    · rename_i kind hkind
      exact answers_fileFault (.inl (.file h (hw.whole path ▸ hkind)))
  · cases kind <;> exact .inl (.way h)

end Procedure
end ChangeGate
