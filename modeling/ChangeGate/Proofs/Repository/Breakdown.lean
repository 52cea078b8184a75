import ChangeGate.Proofs.Policy.Refusal
import ChangeGate.Proofs.Verdict.Reading
import ChangeGate.Proofs.Workspace.Breakdown
import ChangeGate.Repository.Specs

/-! # What reading a specification breaks down for

Reading complains of files that are missing, unreadable, malformed or refused.  What is left is a
path that the system cannot follow, a directory that cannot be listed, and a numeral of a policy
file that is too long (`Repository.Cause`).

`breaksFor_specs`: reading breaks down for nothing else, and yields policies as they are read. -/

namespace ChangeGate.Repository

open Procedure (BreaksFor)

/-- The paths of a specification: the system file, the directory of the policy files, and what
stands in it. -/
inductive IsPart (root : Path) (s : Settings) : Path → Prop
  | system : IsPart root s (root.under (.ofText s.systemFile))
  | directory : IsPart root s (root.under (.ofText s.policyDirectory))
  | policy (name : String) : IsPart root s ((root.under (.ofText s.policyDirectory)).child name)

/-- What reading the specification of a repository breaks down for. -/
inductive Cause (g : Workspace) (root : Path) (s : Settings) : Breakdown → Prop
  | unreadable {p : Path} {b : Breakdown} (hp : IsPart root s p) (h : g.Unreadable p b) :
      Cause g root s b
  | unlisted {p : Path} {kind : FaultKind} (hp : IsPart root s p)
      (h : g.files.list (g.whole p) = .error kind) : Cause g root s (.ofFault p kind)
  | numeral {p : Path} {cs : List Char} (hp : IsPart root s p) (hcs : g.Shows p cs)
      (h : HasLongNumeral (String.ofList cs)) : Cause g root s .longNumeral

variable {g : Workspace} {root : Path} {s : Settings}

/-! ### Files -/

/-- A source is the text that its path shows. -/
def IsSource (g : Workspace) (root : Path) (s : Settings) (source : Source) : Prop :=
  IsPart root s source.path ∧ ∃ cs, g.Shows source.path cs ∧ source.text = String.ofList cs

theorem breaksFor_source {path : Path} (hpath : IsPart root s path) :
    BreaksFor g (Cause g root s) (IsSource g root s) (source path) := by
  refine BreaksFor.get.bind fun w hw => ?_
  rw [hw.files, hw.whole]
  split
  · rename_i h
    exact .breakDown (.unreadable hpath (.read h))
  · rename_i h
    exact .breakDown (.unreadable hpath (.read h))
  · exact .complain _
  · rename_i bytes hbytes
    split
    · exact .complain _
    · rename_i cs hcs
      exact .pure ⟨hpath, _, ⟨bytes, cs, hbytes, hcs, rfl⟩, rfl⟩

theorem breaksFor_policyPaths :
    BreaksFor g (Cause g root s) (fun ps => ∀ p ∈ ps, IsPart root s p)
      (policyPaths (root.under (.ofText s.policyDirectory))) := by
  have hasked : BreaksFor g (Cause g root s) (fun _ => True)
      (Procedure.isDirectory (root.under (.ofText s.policyDirectory))) :=
    (BreaksFor.asks _ _).widen fun _ h => .unreadable .directory h
  have hlisted : BreaksFor g (Cause g root s) (fun _ => True)
      (Procedure.list (root.under (.ofText s.policyDirectory))) := by
    refine (BreaksFor.list _).mono ?_ fun _ _ => trivial
    rintro _ ⟨kind, h, rfl⟩
    exact .unlisted .directory h
  refine hasked.bind fun isDirectory _ => ?_
  split
  · refine hlisted.bind fun names _ => .pure fun p hp => ?_
    obtain ⟨name, -, rfl⟩ := List.mem_map.mp hp
    exact .policy name
  · exact .pure nofun

theorem breaksFor_sources :
    BreaksFor g (Cause g root s)
      (fun files => IsSource g root s files.system ∧ ∀ p ∈ files.policies, IsSource g root s p)
      (sources root s) := by
  have hasked : BreaksFor g (Cause g root s) (fun _ => True)
      (Procedure.isFile (root.under (.ofText s.systemFile))) :=
    (BreaksFor.asks _ _).widen fun _ h => .unreadable .system h
  have hread : BreaksFor g (Cause g root s)
      (fun files => IsSource g root s files.system ∧ ∀ p ∈ files.policies, IsSource g root s p)
      (do
        let system ← source (root.under (.ofText s.systemFile))
        let policies ← (← policyPaths (root.under (.ofText s.policyDirectory))).mapM source
        return (⟨system, policies⟩ : Sources)) := by
    refine (breaksFor_source .system).bind fun system hsystem =>
      breaksFor_policyPaths.bind fun paths hpaths => ?_
    exact (BreaksFor.mapM fun path hpath => breaksFor_source (hpaths path hpath)).bind
      fun policies hpolicies => .pure ⟨hsystem, hpolicies⟩
  refine hasked.bind fun isFile _ => ?_
  split
  · exact (BreaksFor.complain (Q := fun _ => True) _).bind fun _ _ => hread
  · exact hread

/-! ### Meaning -/

theorem breaksFor_accept {cause : Breakdown → Prop} (path : Path) (problems : List String) :
    BreaksFor g cause (fun _ => True) (accept path problems) := by
  unfold accept
  split
  · exact .pure trivial
  · exact .complain _

/-- A system file has no numeral that is too long. -/
theorem breaksFor_architecture (source : Source) :
    BreaksFor g (Cause g root s) (fun _ => True) (architecture source) := by
  have hunderstood : BreaksFor g (Cause g root s) (fun _ => True)
      (understood (Architecture.read source.text source.path.text)) := by
    unfold understood
    split
    · exact .pure trivial
    · exact .complain _
    · rename_i hlong
      rcases Architecture.read_points source.text source.path.text with ⟨_, h⟩ | ⟨_, h, -⟩
      · cases h.symm.trans hlong
      · cases h.symm.trans hlong
  exact hunderstood.bind fun a _ => (breaksFor_accept _ _).bind fun _ _ => .pure trivial

theorem breaksFor_policySet {source : Source} (hsource : IsSource g root s source) :
    BreaksFor g (Cause g root s) PolicySet.IsRead (policySet source) := by
  have hunderstood : BreaksFor g (Cause g root s) PolicySet.IsRead
      (understood (PolicySet.read source.text source.path.text)) := by
    unfold understood
    split
    · rename_i p hp
      exact .pure ⟨_, _, hp⟩
    · exact .complain _
    · rename_i hlong
      obtain ⟨hpart, cs, hcs, htext⟩ := hsource
      rcases PolicySet.read_points source.text source.path.text with ⟨_, h⟩ | ⟨_, h, -⟩ | ⟨-, h⟩
      · cases h.symm.trans hlong
      · cases h.symm.trans hlong
      · exact .breakDown (.numeral hpart hcs (htext ▸ h))
  exact hunderstood.bind fun p hp => (breaksFor_accept _ _).bind fun _ _ => .pure hp

/-- **Reading a specification breaks down for its paths and for long numerals alone.** -/
theorem breaksFor_specs (g : Workspace) (root : Path) (s : Settings) :
    BreaksFor g (Cause g root s) (fun specs => ∀ p ∈ specs.policies, p.IsRead) (specs root s) := by
  refine breaksFor_sources.bind fun files hfiles => (breaksFor_architecture _).bind fun _ _ => ?_
  exact (BreaksFor.mapM fun source hsource => breaksFor_policySet (hfiles.2 source hsource)).bind
    fun policies hpolicies => .pure hpolicies

end ChangeGate.Repository
