import ChangeGate.Proofs.Files.Below
import ChangeGate.Proofs.Text.Stored
import ChangeGate.Proofs.Workspace.Breakdown

/-! # What reading comes to

What the procedures that look, list and read come to on a workspace where a path leads somewhere;
none of them changes the workspace.  A file that holds the bytes of a text without carriage returns
shows the text (`shows_of_read`). -/

namespace ChangeGate

/-! ### Paths -/

namespace Workspace

variable {w w' : Workspace} {p : Path} {cs : List Char}

theorem whole_child (w : Workspace) (p : Path) (name : String) :
    w.whole (p.child name) = (w.whole p).child name := by
  rcases p with ⟨_ | _, names⟩ <;> simp [whole, Path.under, Path.child]

theorem whole_files (w : Workspace) (files : Files) (p : Path) :
    ({ w with files } : Workspace).whole p = w.whole p := rfl

theorem shows_of_read (h : w.files.read (w.whole p) = .ok (Text.encodeUtf8 cs)) (hcs : '\r' ∉ cs) :
    w.Shows p cs :=
  ⟨_, cs, h, Text.decodeUtf8_encodeUtf8 cs, (Text.unifyLineEnds_eq_self hcs).symm⟩

end Workspace

namespace Procedure

variable {α β : Type} {w : Workspace} {p : Path}

theorem outcome_look {e : Option Entry} (h : w.files.look (w.whole p) = .ok e) :
    (look p).outcome w = (.ok e, w) := by
  rw [look, outcome_bind_of_ok (outcome_get w)]
  rw [h, outcome_pure]

theorem outcome_isThere {e : Option Entry} (h : w.files.look (w.whole p) = .ok e) :
    (isThere p).outcome w = (.ok e.isSome, w) := outcome_bind_of_ok (outcome_look h) _

theorem outcome_isFile {e : Option Entry} (h : w.files.look (w.whole p) = .ok e) :
    (isFile p).outcome w = (.ok (e.any (·.isFile)), w) := outcome_bind_of_ok (outcome_look h) _

theorem outcome_isDirectory {e : Option Entry} (h : w.files.look (w.whole p) = .ok e) :
    (isDirectory p).outcome w = (.ok (e.any (·.isDirectory)), w) :=
  outcome_bind_of_ok (outcome_look h) _

theorem outcome_list {names : List String} (h : w.files.list (w.whole p) = .ok names) :
    (list p).outcome w = (.ok names, w) := by
  rw [list, outcome_bind_of_ok (outcome_get w)]
  rw [h, outcome_pure]

theorem outcome_readBytes {bytes : List UInt8} (h : w.files.read (w.whole p) = .ok bytes) :
    (readBytes p).outcome w = (.ok bytes, w) := by
  rw [readBytes, outcome_bind_of_ok (outcome_get w)]
  rw [h, outcome_pure]

theorem outcome_readText {cs : List Char} (h : w.Shows p cs) :
    (readText p).outcome w = (.ok cs, w) := by
  obtain ⟨bytes, raw, hbytes, hraw, rfl⟩ := h
  rw [readText, outcome_bind_of_ok (outcome_readBytes hbytes), decode, hraw, outcome_pure]

/-- What is read is what the path shows. -/
theorem outcome_readText_iff {cs : List Char} {w' : Workspace} :
    (readText p).outcome w = (.ok cs, w') ↔ w.Shows p cs ∧ w' = w := by
  constructor
  · intro h
    have hshows := (BreaksFor.readText (g := w) p w (.refl w)).2
    rw [h] at hshows
    have hsame := (outcome_readText hshows).symm.trans h
    exact ⟨hshows, (Prod.mk.inj hsame).2.symm⟩
  · rintro ⟨h, rfl⟩
    exact outcome_readText h

/-- A list of procedures that leave a workspace as it is comes to the list of what they come to. -/
theorem outcome_mapM {f : α → Procedure β} {g : α → β} {xs : List α}
    (h : ∀ x ∈ xs, (f x).outcome w = (.ok (g x), w)) :
    (xs.mapM f).outcome w = (.ok (xs.map g), w) := by
  induction xs with
  | nil => rfl
  | cons x xs ih =>
      obtain ⟨hx, hxs⟩ := List.forall_mem_cons.mp h
      rw [List.mapM_cons, outcome_bind_of_ok hx, outcome_bind_of_ok (ih hxs), List.map_cons,
        outcome_pure]

end Procedure
end ChangeGate
