import ChangeGate.Proofs.Workspace.Reading
import ChangeGate.Repository.Specs

/-! # Reading a specification that is there

`outcome_sources`: the files of a specification are read as their texts if the paths lead to them.
`outcome_specs`: a specification is what these texts say, if all of them can be read and have no
problems.  One that is read has a system file with a text (`shows_of_specs`). -/

namespace ChangeGate.Repository

open Procedure

variable {w : Workspace} {root : Path} {s : Settings}

/-! ### Files -/

theorem outcome_source {p : Path} {text : String} (h : w.Shows p text.toList) :
    (source p).outcome w = (.ok ⟨p, text⟩, w) := by
  obtain ⟨bytes, raw, hbytes, hraw, htext⟩ := h
  rw [source, outcome_bind_of_ok (outcome_get w), hbytes]
  dsimp only
  rw [hraw, outcome_pure, ← htext, String.ofList_toList]

theorem policyNames_singleton {name : String} (h : isPolicyName name = true) :
    policyNames [name] = [name] := by
  rw [policyNames, List.filter_cons_of_pos h, List.filter_nil, List.mergeSort_singleton]

/-- Where the files of a specification are, and what their texts are. -/
structure Stands (w : Workspace) (root : Path) (s : Settings) (system : String)
    (policies : List String) (text : String → String) : Prop where
  isFile : ∃ bytes, w.files.look (w.whole (root.under (.ofText s.systemFile))) =
    .ok (some (.file bytes))
  system : w.Shows (root.under (.ofText s.systemFile)) system.toList
  directory : ∃ loc, w.files.Leads (w.whole (root.under (.ofText s.policyDirectory))) loc ∧
    policyNames (w.files.namesIn loc) = policies
  policies : ∀ name ∈ policies,
    w.Shows ((root.under (.ofText s.policyDirectory)).child name) (text name).toList

/-- The sources at the paths of a specification. -/
def sourcesOf (root : Path) (s : Settings) (system : String) (policies : List String)
    (text : String → String) : Sources where
  system := ⟨root.under (.ofText s.systemFile), system⟩
  policies := policies.map fun name =>
    ⟨(root.under (.ofText s.policyDirectory)).child name, text name⟩

variable {system : String} {policies : List String} {text : String → String}

theorem Stands.policyPaths (h : Stands w root s system policies text) :
    (policyPaths (root.under (.ofText s.policyDirectory))).outcome w =
      (.ok (policies.map (root.under (.ofText s.policyDirectory)).child), w) := by
  obtain ⟨loc, hleads, rfl⟩ := h.directory
  have hlook := Files.look_of_locate hleads.locate
  rw [hleads.directory] at hlook
  rw [Repository.policyPaths, outcome_bind_of_ok (outcome_isDirectory hlook)]
  exact outcome_bind_of_ok (outcome_list (Files.list_of_leads hleads)) _

theorem outcome_sources (h : Stands w root s system policies text) :
    (sources root s).outcome w = (.ok (sourcesOf root s system policies text), w) := by
  obtain ⟨bytes, hlook⟩ := h.isFile
  have hpolicies : ((policies.map (root.under (.ofText s.policyDirectory)).child).mapM
      source).outcome w = (.ok (sourcesOf root s system policies text).policies, w) := by
    rw [sourcesOf, List.mapM_map]
    exact outcome_mapM fun name hname => outcome_source (h.policies name hname)
  rw [sources, outcome_bind_of_ok (outcome_isFile hlook)]
  show (do
    let system ← source (root.under (.ofText s.systemFile))
    let policies ← (← Repository.policyPaths (root.under (.ofText s.policyDirectory))).mapM source
    pure (⟨system, policies⟩ : Sources)).outcome w = _
  rw [outcome_bind_of_ok (outcome_source h.system), outcome_bind_of_ok h.policyPaths,
    outcome_bind_of_ok hpolicies]
  rfl

/-! ### Meaning -/

theorem outcome_understood {α : Type} (x : α) :
    (understood (.ok x)).outcome w = (.ok x, w) := rfl

theorem outcome_accept {path : Path} {problems : List String} (h : problems = []) :
    (accept path problems).outcome w = (.ok (), w) := by
  rw [h]
  rfl

theorem outcome_architecture {source : Source} {a : Architecture}
    (hread : Architecture.read source.text source.path.text = .ok a) (hproblems : a.problems = []) :
    (architecture source).outcome w = (.ok a, w) := by
  rw [architecture, hread, outcome_bind_of_ok (outcome_understood a),
    outcome_bind_of_ok (outcome_accept hproblems), outcome_pure]

theorem outcome_policySet {source : Source} {p : PolicySet}
    (hread : PolicySet.read source.text source.path.text = .ok p) (hproblems : p.problems = []) :
    (policySet source).outcome w = (.ok p, w) := by
  rw [policySet, hread, outcome_bind_of_ok (outcome_understood p),
    outcome_bind_of_ok (outcome_accept hproblems), outcome_pure]

/-- **A specification is what its files say**, if they are read and have no problems. -/
theorem outcome_specs {a : Architecture} {p : String → PolicySet}
    (h : Stands w root s system policies text)
    (hsystem : ∀ file, Architecture.read system file = .ok a) (hproblems : a.problems = [])
    (hpolicies : ∀ name ∈ policies, (∀ file, PolicySet.read (text name) file = .ok (p name)) ∧
      (p name).problems = []) :
    (specs root s).outcome w = (.ok ⟨a, policies.map p⟩, w) := by
  rw [specs, outcome_bind_of_ok (outcome_sources h),
    outcome_bind_of_ok (outcome_architecture (hsystem _) hproblems)]
  have hmeant : ((sourcesOf root s system policies text).policies.mapM policySet).outcome w =
      (.ok (policies.map p), w) := by
    rw [sourcesOf, List.mapM_map]
    refine outcome_mapM fun name hname => ?_
    obtain ⟨hread, hproblems⟩ := hpolicies name hname
    exact outcome_policySet (hread _) hproblems
  rw [outcome_bind_of_ok hmeant, outcome_pure]

/-! ### What was read -/

variable {w' : Workspace}

theorem shows_of_source {p : Path} {x : Source} (h : (source p).outcome w = (.ok x, w')) :
    ∃ cs, w.Shows p cs := by
  obtain ⟨_, _, hget, h⟩ := outcome_bind_eq_ok_iff.mp h
  cases hget
  split at h
  · cases h
  · cases h
  · cases h
  · rename_i bytes hbytes
    split at h
    · cases h
    · rename_i raw hraw
      exact ⟨_, bytes, raw, hbytes, hraw, rfl⟩

/-- A specification that is read has a system file. -/
theorem shows_of_specs {x : Specs} (h : (specs root s).outcome w = (.ok x, w')) :
    ∃ cs, w.Shows (root.under (.ofText s.systemFile)) cs := by
  obtain ⟨files, _, hfiles, -⟩ := outcome_bind_eq_ok_iff.mp h
  obtain ⟨isFile, w₁, hasked, hread⟩ := outcome_bind_eq_ok_iff.mp hfiles
  have hground :
      w.SameGround ((Procedure.isFile (root.under (.ofText s.systemFile))).outcome w).2 :=
    (BreaksFor.asks _ (fun e => e.any Entry.isFile) w (.refl w)).1
  rw [hasked] at hground
  cases isFile with
  | false => cases hread
  | true =>
      obtain ⟨_, _, hsource, -⟩ := outcome_bind_eq_ok_iff.mp hread
      obtain ⟨cs, bytes, raw, hbytes, hraw, hcs⟩ := shows_of_source hsource
      rw [hground.files, hground.whole] at hbytes
      exact ⟨cs, bytes, raw, hbytes, hraw, hcs⟩

end ChangeGate.Repository
