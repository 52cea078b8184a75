import ChangeGate.Proofs.Workspace.Breakdown
import ChangeGate.Scope.Description

/-! # What reading the description breaks down for

An event file that is no JSON is passed over with a warning.  What breaks the reading down is an
event file that cannot be read as text, one whose JSON has a numeral that is too long or is nested
too deep, and an event of another shape (`Scope.Cause`).

`breaksFor_description`: nothing else does. -/

namespace ChangeGate.Scope

/-- An event has a body, which may be empty: it is an object, its pull request is void or an object,
and the body of that is void or a text. -/
def HasBody (event : Json) : Prop :=
  ∃ members, event = .object members ∧
    ((memberOrNull "pull_request" members).isVoid = true ∨
      ∃ request, memberOrNull "pull_request" members = .object request ∧
        ((memberOrNull "body" request).isVoid = true ∨
          ∃ s, memberOrNull "body" request = .text s))

/-- The environment names an event file, and it shows a text. -/
def HasEvent (g : Workspace) (cs : List Char) : Prop :=
  ∃ path, g.setting? "GITHUB_EVENT_PATH" = some path ∧ g.Shows (.ofText path) cs

/-- What reading the description breaks down for. -/
inductive Cause (g : Workspace) : Breakdown → Prop
  | unreadable {path : String} {b : Breakdown}
      (hpath : g.setting? "GITHUB_EVENT_PATH" = some path) (h : g.Unreadable (.ofText path) b) :
      Cause g b
  | numeral {cs : List Char} (hcs : HasEvent g cs) (h : Json.read cs = .error .longNumeral) :
      Cause g .longNumeral
  | depth {cs : List Char} (hcs : HasEvent g cs) (h : Json.read cs = .error .tooDeep) :
      Cause g .deepJson
  | shape {cs : List Char} {event : Json} {b : Breakdown} (hcs : HasEvent g cs)
      (h : Json.read cs = .ok event) (hbody : ¬ HasBody event)
      (hb : b = .eventShape ∨ b = .descriptionShape) : Cause g b

/-! ### Events -/

theorem bodyText_error {j : Json} {b : Breakdown} (h : bodyText j = .error b) :
    j.isVoid = false ∧ (∀ s, j ≠ .text s) ∧ b = .descriptionShape := by
  unfold bodyText at h
  split at h
  · cases h
  · rename_i hvoid
    refine ⟨Bool.eq_false_iff.mpr hvoid, ?_⟩
    split at h
    · cases h
    · rename_i hnone
      cases h
      exact ⟨hnone, rfl⟩

theorem eventBody_error {event : Json} {b : Breakdown} (h : eventBody event = .error b) :
    ¬ HasBody event ∧ (b = .eventShape ∨ b = .descriptionShape) := by
  unfold eventBody at h
  split at h
  · rename_i members
    dsimp only at h
    split at h
    · cases h
    · rename_i hvoid
      split at h
      · rename_i request hrequest
        obtain ⟨hvoid', hnone, rfl⟩ := bodyText_error h
        refine ⟨?_, .inr rfl⟩
        rintro ⟨_, ⟨⟩, hv | ⟨request', hr, hv | ⟨s, hs⟩⟩⟩
        · exact hvoid hv
        · cases hrequest.symm.trans hr
          rw [hvoid'] at hv
          cases hv
        · cases hrequest.symm.trans hr
          exact hnone s hs
      · rename_i hnone
        cases h
        refine ⟨?_, .inl rfl⟩
        rintro ⟨_, ⟨⟩, hv | ⟨request, hr, -⟩⟩
        · exact hvoid hv
        · exact hnone _ hr
  · rename_i hnone
    cases h
    refine ⟨?_, .inl rfl⟩
    rintro ⟨members, rfl, -⟩
    exact hnone members rfl

/-! ### The description -/

open Procedure (BreaksFor)

variable {g : Workspace}

theorem breaksFor_fileBody? {path : String}
    (hpath : g.setting? "GITHUB_EVENT_PATH" = some path) :
    BreaksFor g (Cause g) (fun _ => True) (fileBody? (.ofText path)) := by
  refine ((BreaksFor.readText _).widen fun _ h => .unreadable hpath h).bind fun cs hcs => ?_
  have hcs : HasEvent g cs := ⟨path, hpath, hcs⟩
  split
  · exact .pure trivial
  · rename_i hread
    exact .breakDown (.numeral hcs hread)
  · rename_i hread
    exact .breakDown (.depth hcs hread)
  · rename_i event hread
    split
    · exact .pure trivial
    · rename_i b herror
      obtain ⟨hbody, hb⟩ := eventBody_error herror
      exact .breakDown (.shape hcs hread hbody hb)

theorem breaksFor_eventBody? : BreaksFor g (Cause g) (fun _ => True) eventBody? := by
  refine BreaksFor.get.bind fun w hw => ?_
  rw [hw.setting?]
  split
  · exact .pure trivial
  · rename_i path hpath
    have hfile : BreaksFor g (Cause g) (fun _ => True) (Procedure.isFile (.ofText path)) :=
      (BreaksFor.asks _ _).widen fun _ h => .unreadable hpath h
    refine hfile.bind fun isFile _ => ?_
    split
    · exact .pure trivial
    · refine (breaksFor_fileBody? hpath).bind fun body _ => ?_
      split
      · exact .pure trivial
      · exact (BreaksFor.warn _).bind fun _ _ => .pure trivial

/-- **The description breaks down for what is wrong with the event file alone.** -/
theorem breaksFor_description : BreaksFor g (Cause g) (fun _ => True) description := by
  refine breaksFor_eventBody?.bind fun body _ => ?_
  split
  · exact .pure trivial
  · exact BreaksFor.get.bind fun _ _ => .pure trivial

end ChangeGate.Scope
