import ChangeGate.Proofs.Files.Below
import ChangeGate.Proofs.Workspace.Breakdown

/-! # What writing a text does to a workspace

`outcome_writeBelow`: a text is written below a path by making the directories on the way to it and
then writing its bytes.  The file is emptied before a text without bytes is refused, so writing that
fails has changed a file exactly in that case (`contents_writeBelow`).

`Workspace.Wrote` says that a workspace is another one with one file written.  Paths lead where they
led before, and what stands elsewhere is the same. -/

namespace ChangeGate.Procedure

variable (w : Workspace) (p : Path) (text : String)

theorem outcome_makeDirectories :
    (makeDirectories p).outcome w =
      match w.files.makeDirectories (w.whole p) with
      | (files, none) => (.ok (), { w with files })
      | (files, some (kind, place)) =>
        (.error (.breakdown (.ofFault place kind)), { w with files }) := by
  rw [makeDirectories, outcome_bind, outcome_get]
  dsimp only
  rcases w.files.makeDirectories (w.whole p) with ⟨files, _ | ⟨kind, place⟩⟩
  · rfl
  · exact outcome_fileFault { w with files } place kind

/-- The bytes that are left of a text when it is written. -/
def bytesLeft : List UInt8 :=
  if Text.hasHalf text.toList then [] else Text.encodeUtf8 text.toList

theorem outcome_writeText :
    (writeText p text).outcome w =
      match w.files.write (w.whole p) (bytesLeft text) with
      | .ok files =>
        (if Text.hasHalf text.toList then .error (.breakdown .unencodable) else .ok (),
          { w with files })
      | .error kind => (.error (.breakdown (.ofFault p kind)), w) := by
  rw [writeText, outcome_bind, outcome_get]
  dsimp only
  unfold bytesLeft
  cases Text.hasHalf text.toList with
  | false =>
      simp only [Bool.not_false, Bool.false_eq_true, if_true, if_false]
      cases w.files.write (w.whole p) (Text.encodeUtf8 text.toList) with
      | ok files => rfl
      | error kind => exact outcome_fileFault w p kind
  | true =>
      simp only [Bool.not_true, Bool.false_eq_true, if_true, if_false]
      cases w.files.write (w.whole p) [] with
      | ok files => rfl
      | error kind => exact outcome_fileFault w p kind

theorem outcome_writeBelow :
    (writeBelow p text).outcome w =
      match w.files.makeDirectories (w.whole p.parent) with
      | (files, some (kind, place)) =>
        (.error (.breakdown (.ofFault place kind)), { w with files })
      | (files, none) => (writeText p text).outcome { w with files } := by
  rw [writeBelow, outcome_bind, outcome_makeDirectories]
  rcases w.files.makeDirectories (w.whole p.parent) with ⟨files, _ | ⟨kind, place⟩⟩ <;> rfl

/-- A text with bytes is written where its path leads once the way to it is made. -/
theorem outcome_writeBelow_of_ok {files : Files} {loc : Location}
    (hmade : w.files.makeDirectories (w.whole p.parent) = (files, none))
    (hloc : files.locate (w.whole p) = .ok loc) (hat : files.at? loc ≠ some .directory)
    (hbytes : Text.hasHalf text.toList = false) :
    (writeBelow p text).outcome w =
      (.ok (), { w with files := files.put loc (.file (Text.encodeUtf8 text.toList)) }) := by
  have hwrite : files.write (w.whole p) (bytesLeft text) =
      .ok (files.put loc (.file (Text.encodeUtf8 text.toList))) := by
    rw [bytesLeft, hbytes]
    exact Files.write_eq_ok_iff.mpr ⟨loc, hloc, hat, rfl⟩
  have hwhole : ({ w with files } : Workspace).whole p = w.whole p := rfl
  rw [outcome_writeBelow, hmade]
  dsimp only
  rw [outcome_writeText, hwhole]
  dsimp only
  rw [hwrite, hbytes]
  rfl

/-- Writing changes one file at most.  If it fails it has changed none, or emptied the one that it
was to write, as the text has no bytes. -/
theorem contents_writeBelow :
    match (writeBelow p text).outcome w with
    | (.ok (), w') => w.files.Rewrites w'.files (w.whole p) (Text.encodeUtf8 text.toList)
    | (.error failure, w') =>
      (∀ loc, w'.files.content? loc = w.files.content? loc) ∨
        failure = .breakdown .unencodable ∧ Text.hasHalf text.toList = true ∧
          w.files.Rewrites w'.files (w.whole p) [] := by
  rw [outcome_writeBelow]
  have hgrows := w.files.grows_makeDirectories (w.whole p.parent)
  generalize w.files.makeDirectories (w.whole p.parent) = made at hgrows ⊢
  rcases made with ⟨files, _ | ⟨kind, place⟩⟩
  · dsimp only at hgrows ⊢
    rw [outcome_writeText]
    change match (match files.write (w.whole p) (bytesLeft text) with
      | .ok files => _
      | .error kind => _ : Except Failure Unit × Workspace) with
      | (.ok (), w') => _
      | (.error failure, w') => _
    cases hwrite : files.write (w.whole p) (bytesLeft text) with
    | error kind => exact .inl hgrows.content?
    | ok files' =>
        have hrewrites := (Files.rewrites_of_write hwrite).of_grows hgrows
        unfold bytesLeft at hrewrites
        cases hhalf : Text.hasHalf text.toList with
        | false =>
            rw [hhalf] at hrewrites
            exact hrewrites
        | true =>
            rw [hhalf] at hrewrites
            exact .inr ⟨rfl, rfl, hrewrites⟩
  · exact .inl hgrows.content?

end ChangeGate.Procedure

/-! ### One file -/

namespace ChangeGate

/-- A workspace is another one with a file written where no directory stood. -/
structure Workspace.Wrote (w : Workspace) (loc : Location) (bytes : List UInt8) (w' : Workspace) :
    Prop where
  free : w.files.at? loc ≠ some .directory
  files : w'.files = w.files.put loc (.file bytes)
  directory : w'.directory = w.directory
  environment : w'.environment = w.environment
  git : w'.git = w.git

namespace Workspace.Wrote

variable {w w' w'' : Workspace} {loc l : Location} {bytes : List UInt8} {p : Path}

theorem of_sameGround (hground : w.SameGround w') (h : w'.Wrote loc bytes w'') :
    w.Wrote loc bytes w'' :=
  ⟨hground.files ▸ h.free, hground.files ▸ h.files, h.directory.trans hground.directory,
    h.environment.trans hground.environment, h.git.trans hground.git⟩

theorem whole (h : w.Wrote loc bytes w') (p : Path) : w'.whole p = w.whole p := by
  rw [Workspace.whole, Workspace.whole, h.directory]

theorem setting? (h : w.Wrote loc bytes w') (name : String) :
    w'.setting? name = w.setting? name := by
  rw [Workspace.setting?, Workspace.setting?, valueOf?, valueOf?, h.environment]

theorem keeps (h : w.Wrote loc bytes w') : w.files.Keeps w'.files := by
  rw [h.files]
  exact Files.keeps_put _ h.free

theorem locate_iff (h : w.Wrote loc bytes w') :
    w'.files.locate p = .ok l ↔ w.files.locate p = .ok l := by
  have hkept : w'.files.Keeps w.files := by
    rw [h.files]
    exact Files.keeps_of_put _ h.free
  exact ⟨Files.locate_of_keeps hkept, Files.locate_of_keeps h.keeps⟩

theorem at?_self (h : w.Wrote loc bytes w') : w'.files.at? loc = some (.file bytes) := by
  rw [h.files, Files.at?_put_self (Files.ne_nil_of_at?_ne h.free)]

theorem at?_of_ne (h : w.Wrote loc bytes w') (hne : l ≠ loc) : w'.files.at? l = w.files.at? l := by
  rw [h.files, Files.at?_put_of_ne hne]

theorem look_of_ne (h : w.Wrote loc bytes w') (hne : ∀ l, w.files.locate p = .ok l → l ≠ loc) :
    w'.files.look p = w.files.look p := by
  rw [h.files]
  exact Files.look_put_of_ne bytes h.free hne

theorem shows_of_ne (h : w.Wrote loc bytes w') {cs : List Char} (hshows : w.Shows p cs)
    (hne : ∀ l, w.files.locate (w.whole p) = .ok l → l ≠ loc) : w'.Shows p cs := by
  obtain ⟨bytes', raw, hbytes, hraw, hcs⟩ := hshows
  refine ⟨bytes', raw, ?_, hraw, hcs⟩
  rw [h.whole, h.files]
  exact Files.read_put_of_ne bytes h.free hne hbytes

end Workspace.Wrote

namespace Procedure

variable {w w' : Workspace} {p : Path} {loc : Location} {text : String}

/-- A text that is written has bytes, and they stand where its path leads. -/
theorem wrote_of_writeText (h : (writeText p text).outcome w = (.ok (), w')) :
    Text.hasHalf text.toList = false ∧ ∃ loc, w.files.locate (w.whole p) = .ok loc ∧
      w.Wrote loc (Text.encodeUtf8 text.toList) w' := by
  rw [outcome_writeText] at h
  cases hwrite : w.files.write (w.whole p) (bytesLeft text) with
  | error kind =>
      rw [hwrite] at h
      cases h
  | ok files =>
      rw [hwrite] at h
      cases hhalf : Text.hasHalf text.toList with
      | true =>
          rw [hhalf] at h
          cases h
      | false =>
          obtain ⟨loc, hloc, hfree, hfiles⟩ := Files.write_eq_ok_iff.mp hwrite
          rw [bytesLeft, hhalf] at hfiles
          obtain rfl := (Prod.mk.inj h).2
          exact ⟨rfl, loc, hloc, hfree, hfiles, rfl, rfl, rfl⟩

/-- A text that is written below a path stands in a tree with the directories on the way to it. -/
theorem wrote_of_writeBelow (h : (writeBelow p text).outcome w = (.ok (), w')) :
    ∃ files loc, w.files.Grows files ∧ files.locate (w.whole p) = .ok loc ∧
      { w with files }.Wrote loc (Text.encodeUtf8 text.toList) w' := by
  rw [outcome_writeBelow] at h
  have hgrows := w.files.grows_makeDirectories (w.whole p.parent)
  rcases hmade : w.files.makeDirectories (w.whole p.parent) with ⟨files, _ | ⟨kind, place⟩⟩
  · rw [hmade] at h hgrows
    obtain ⟨-, loc, hloc, hwrote⟩ := wrote_of_writeText h
    exact ⟨files, loc, hgrows, hloc, hwrote⟩
  · rw [hmade] at h
    cases h

theorem exists_writeText (hloc : w.files.locate (w.whole p) = .ok loc)
    (hfree : w.files.at? loc ≠ some .directory) (hbytes : Text.hasHalf text.toList = false) :
    ∃ w', (writeText p text).outcome w = (.ok (), w') ∧
      w.Wrote loc (Text.encodeUtf8 text.toList) w' := by
  have hwrite : w.files.write (w.whole p) (Text.encodeUtf8 text.toList) =
      .ok (w.files.put loc (.file (Text.encodeUtf8 text.toList))) :=
    Files.write_eq_ok_iff.mpr ⟨loc, hloc, hfree, rfl⟩
  refine ⟨{ w with files := w.files.put loc (.file (Text.encodeUtf8 text.toList)) }, ?_,
    hfree, rfl, rfl, rfl, rfl⟩
  rw [outcome_writeText, bytesLeft, hbytes, if_neg Bool.false_ne_true, hwrite]
  rfl

theorem outcome_writeBelow_of_leads (h : w.files.Leads (w.whole p.parent) loc) :
    (writeBelow p text).outcome w = (writeText p text).outcome w := by
  rw [outcome_writeBelow, Files.makeDirectories_of_leads h]

end Procedure

end ChangeGate
