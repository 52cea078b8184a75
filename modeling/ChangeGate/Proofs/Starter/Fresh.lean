import ChangeGate.Proofs.Repository.Reading
import ChangeGate.Proofs.Starter.Specification
import ChangeGate.Proofs.Workspace.Writing
import ChangeGate.Starter.Write

/-! # Starter files in a fresh repository

In a repository without a system file and without policies both starter files are written, and the
specification that is read from them is the one of the inferred domains.

`specs_run` asks of the directories that their globs can stand between quotes and that their
domains are not named by reserved words; the names are printed as they are. -/

namespace ChangeGate.Starter

open Files (IsEntryName Leads longestPath nameSize)
open Procedure
open Text (Portable)

/-- A repository without the starter files: the paths in it are no longer than a path can be, and
where there are no policies nothing stands in their directory. -/
structure Fresh (g : Workspace) (root : Path) (loc : Location) : Prop where
  leads : g.files.Leads (g.whole root) loc
  names : ∀ name ∈ g.files.namesIn loc, IsEntryName name ∧
    nameSize (g.whole root).text + nameSize name < longestPath
  noSystem : "system.intent" ∉ g.files.namesIn loc
  noPolicies : "policies" ∉ g.files.namesIn loc
  empty : g.files.namesIn (loc ++ ["policies"]) = []
  room : nameSize (g.whole root).text + nameSize "policies/default.intent" < longestPath

/-- The names of the directories that stand in a directory. -/
def directoriesAt (fs : Files) (loc : Location) : List String :=
  (fs.namesIn loc).filter fun name => (fs.at? (loc ++ [name])).any (·.isDirectory)

variable {g : Workspace} {root : Path} {loc : Location}

/-! ### The domains -/

theorem outcome_directoriesIn {names : List String} (h : g.files.Leads (g.whole root) loc)
    (hnames : ∀ name ∈ names, IsEntryName name ∧
      nameSize (g.whole root).text + nameSize name < longestPath) :
    (directoriesIn root names).outcome g =
      (.ok (names.filter fun name => (g.files.at? (loc ++ [name])).any (·.isDirectory)), g) := by
  induction names with
  | nil => rfl
  | cons name names ih =>
      obtain ⟨⟨hname, hroom⟩, hnames⟩ := List.forall_mem_cons.mp hnames
      have hlocate := h.child hname hroom
      rw [← Workspace.whole_child] at hlocate
      rw [directoriesIn, outcome_bind_of_ok (outcome_isDirectory (Files.look_of_locate hlocate)),
        outcome_bind_of_ok (ih hnames), List.filter_cons, outcome_pure]

theorem outcome_domainsOf (h : g.files.Leads (g.whole root) loc)
    (hnames : ∀ name ∈ g.files.namesIn loc, IsEntryName name ∧
      nameSize (g.whole root).text + nameSize name < longestPath) (policyDirectory : String) :
    (domainsOf root policyDirectory).outcome g =
      (.ok (domains [policyDirectory] (directoriesAt g.files loc)), g) := by
  rw [domainsOf, outcome_bind_of_ok (outcome_list (Files.list_of_leads h)),
    outcome_bind_of_ok (outcome_directoriesIn h hnames), outcome_pure]
  rfl

/-! ### Writing the files -/

/-- The paths of the starter files in a directory. -/
def systemPath (root : Path) : Path := root.child "system.intent"

@[inherit_doc systemPath]
def policyPath (root : Path) : Path := (root.child "policies").child "default.intent"

/-- The text of the starter architecture of a repository. -/
def systemText (fs : Files) (root : Path) (loc : Location) : String :=
  architecture (nameOf root.lastName) (domains ["policies"] (directoriesAt fs loc))
    "policies/default.intent"

/-- The tree with a system file. -/
def withSystem (fs : Files) (loc : Location) (system : String) : Files :=
  fs.put (loc ++ ["system.intent"]) (.file (Text.encodeUtf8 system.toList))

/-- The tree with a directory for policies. -/
def withPolicies (fs : Files) (loc : Location) : Files := fs.put (loc ++ ["policies"]) .directory

/-- The tree with the starter policy. -/
def withPolicy (fs : Files) (loc : Location) : Files :=
  fs.put (loc ++ ["policies", "default.intent"]) (.file (Text.encodeUtf8 policy.toList))

/-- The tree with both starter files. -/
def filled (fs : Files) (loc : Location) (system : String) : Files :=
  withPolicy (withPolicies (withSystem fs loc system) loc) loc

theorem ofText_settings : Path.ofText ({} : Settings).policyDirectory = ⟨false, ["policies"]⟩ ∧
    Path.ofText ({} : Settings).systemFile = ⟨false, ["system.intent"]⟩ := by decide

theorem run_eq (root : Path) :
    run root {} false = (do
      let ds ← domainsOf root "policies"
      let wroteSystem ← isWanted false (systemPath root)
      if wroteSystem then writeSystem root (systemPath root) (policyPath root) ds
      let wrotePolicy ← isWanted false (policyPath root)
      if wrotePolicy then Procedure.writeBelow (policyPath root) policy
      return ⟨systemPath root, policyPath root, ds, wroteSystem, wrotePolicy⟩) := by
  unfold run
  rw [ofText_settings.1, ofText_settings.2]
  rfl

theorem isEntryName_starter : IsEntryName "system.intent" ∧ IsEntryName "policies" ∧
    IsEntryName "default.intent" := by decide

theorem nameSize_starter : nameSize "system.intent" = 13 ∧ nameSize "policies" = 8 ∧
    nameSize "default.intent" = 14 ∧ nameSize "policies/default.intent" = 23 := by decide

theorem Fresh.locate_system (h : Fresh g root loc) :
    g.files.locate (g.whole (systemPath root)) = .ok (loc ++ ["system.intent"]) := by
  have hroom := h.room
  obtain ⟨hsystem, -, -, hwhole⟩ := nameSize_starter
  rw [systemPath, Workspace.whole_child]
  exact h.leads.child isEntryName_starter.1 (by omega)

theorem outcome_isWanted {w : Workspace} {p : Path} (h : w.files.look (w.whole p) = .ok none) :
    (isWanted false p).outcome w = (.ok true, w) := by
  unfold isWanted
  rw [if_neg Bool.false_ne_true, outcome_bind_of_ok (outcome_isThere h), outcome_pure]
  rfl

theorem Fresh.outcome_writeSystem (h : Fresh g root loc) {ds : List Domain} {text : String}
    (htext : architecture (nameOf root.lastName) ds "policies/default.intent" = text)
    (hbytes : Text.hasHalf text.toList = false) :
    (writeSystem root (systemPath root) (policyPath root) ds).outcome g =
      (.ok (), { g with files := withSystem g.files loc text }) := by
  subst htext
  have hbehind : root.behind? (policyPath root) = some ⟨false, ["policies", "default.intent"]⟩ := by
    simp [Path.behind?, policyPath, Path.child]
  have hparent : (systemPath root).parent = root := by
    simp [systemPath, Path.child, Path.parent]
  have hat := Files.at?_eq_none_of_not_mem h.noSystem
  rw [writeSystem, hbehind]
  refine Procedure.outcome_writeBelow_of_ok g _ _ ?_ h.locate_system (by simp [hat]) hbytes
  rw [hparent]
  exact Files.makeDirectories_of_leads h.leads

/-- The policy is written into a new directory. -/
theorem outcome_writePolicy {w : Workspace} (hleads : w.files.Leads (w.whole root) loc)
    (hpolicies : w.files.at? (loc ++ ["policies"]) = none)
    (hpolicy : w.files.at? (loc ++ ["policies", "default.intent"]) = none)
    (hroom : nameSize (w.whole root).text + nameSize "policies/default.intent" < longestPath) :
    w.files.look (w.whole (policyPath root)) = .ok none ∧
      (writeBelow (policyPath root) policy).outcome w =
        (.ok (), { w with files := withPolicy (withPolicies w.files loc) loc }) ∧
      (withPolicies w.files loc).Leads (w.whole (root.child "policies")) (loc ++ ["policies"]) ∧
      (withPolicies w.files loc).locate (w.whole (policyPath root)) =
        .ok (loc ++ ["policies", "default.intent"]) := by
  obtain ⟨-, hpoliciesSize, hdefaultSize, hwholeSize⟩ := nameSize_starter
  obtain ⟨-, hpoliciesName, hdefaultName⟩ := isEntryName_starter
  have hlocate : w.files.locate (w.whole (root.child "policies")) = .ok (loc ++ ["policies"]) := by
    rw [Workspace.whole_child]
    exact hleads.child hpoliciesName (by omega)
  have habsolute : (w.whole (root.child "policies")).isAbsolute = true := by
    rw [Workspace.whole_child]
    exact hleads.isAbsolute
  have hroom' : nameSize (w.whole (root.child "policies")).text + nameSize "default.intent" <
      longestPath := by
    have hsize := (Files.text_child hleads.isAbsolute
      (Files.nameFault?_text_of_locate hleads.locate) hpoliciesName.fault).2
    rw [Workspace.whole_child]
    omega
  have hkeeps : w.files.Keeps (withPolicies w.files loc) :=
    Files.keeps_put _ (by simp [hpolicies])
  have hmade : (withPolicies w.files loc).Leads (w.whole (root.child "policies"))
      (loc ++ ["policies"]) :=
    ⟨habsolute, Files.locate_of_keeps hkeeps hlocate, Files.at?_put_self (by simp)⟩
  have hway : w.files.makeDirectories (w.whole (policyPath root).parent) =
      (withPolicies w.files loc, none) := by
    have hparent : (policyPath root).parent = root.child "policies" := by
      simp [policyPath, Path.child, Path.parent]
    rw [hparent]
    exact Files.makeDirectories_of_none hlocate hpolicies
  have hfile : (withPolicies w.files loc).locate (w.whole (policyPath root)) =
      .ok (loc ++ ["policies", "default.intent"]) := by
    rw [policyPath, Workspace.whole_child, hmade.child hdefaultName hroom', List.append_assoc]
    rfl
  have hfree : (withPolicies w.files loc).at? (loc ++ ["policies", "default.intent"]) = none := by
    rw [withPolicies, Files.at?_put_of_ne (by simp), hpolicy]
  refine ⟨?_, ?_, hmade, hfile⟩
  · rw [policyPath, Workspace.whole_child]
    exact Files.look_child_of_none habsolute hlocate hpolicies hdefaultName.fault hroom'
  · exact outcome_writeBelow_of_ok w _ _ hway hfile (by simp [hfree]) portable_policy.bytes

variable {text : String}

theorem Fresh.free (h : Fresh g root loc) :
    g.files.at? (loc ++ ["policies"]) = none ∧
      g.files.at? (loc ++ ["policies", "default.intent"]) = none := by
  refine ⟨Files.at?_eq_none_of_not_mem h.noPolicies, ?_⟩
  have hnone : "default.intent" ∉ g.files.namesIn (loc ++ ["policies"]) := by
    rw [h.empty]
    exact List.not_mem_nil
  rw [List.append_cons]
  exact Files.at?_eq_none_of_not_mem hnone

/-- The system file changes nothing for the policies. -/
theorem Fresh.withSystem (h : Fresh g root loc) (text : String) :
    g.files.Keeps (withSystem g.files loc text) ∧
      (Starter.withSystem g.files loc text).at? (loc ++ ["policies"]) = none ∧
      (Starter.withSystem g.files loc text).at? (loc ++ ["policies", "default.intent"]) = none := by
  have hnone := Files.at?_eq_none_of_not_mem h.noSystem
  obtain ⟨hpolicies, hpolicy⟩ := h.free
  refine ⟨Files.keeps_put _ (by simp [hnone]), ?_, ?_⟩
  · rw [Starter.withSystem, Files.at?_put_of_ne (by simp), hpolicies]
  · rw [Starter.withSystem, Files.at?_put_of_ne (by simp), hpolicy]

theorem Fresh.outcome_run (h : Fresh g root loc) (htext : systemText g.files root loc = text)
    (hbytes : Text.hasHalf text.toList = false) :
    (run root {} false).outcome g =
      (.ok ⟨systemPath root, policyPath root, domains ["policies"] (directoriesAt g.files loc),
        true, true⟩, { g with files := filled g.files loc text }) := by
  obtain ⟨hkeeps, hpolicies, hpolicy⟩ := h.withSystem text
  have hsystem := Files.look_of_locate h.locate_system
  rw [Files.at?_eq_none_of_not_mem h.noSystem] at hsystem
  obtain ⟨hlook, hwrite, -, -⟩ := outcome_writePolicy
    (w := { g with files := Starter.withSystem g.files loc text }) (h.leads.of_keeps hkeeps)
    hpolicies hpolicy h.room
  rw [run_eq, outcome_bind_of_ok (outcome_domainsOf h.leads h.names _),
    outcome_bind_of_ok (outcome_isWanted hsystem), if_pos rfl,
    outcome_bind_of_ok (h.outcome_writeSystem htext hbytes),
    outcome_bind_of_ok (outcome_isWanted hlook), if_pos rfl, outcome_bind_of_ok hwrite,
    outcome_pure]
  rfl

theorem under_settings (root : Path) :
    root.under (.ofText ({} : Settings).systemFile) = systemPath root ∧
      root.under (.ofText ({} : Settings).policyDirectory) = root.child "policies" := by
  rw [ofText_settings.1, ofText_settings.2]
  exact ⟨rfl, rfl⟩

/-- Both starter files stand where the specification is looked for. -/
theorem Fresh.stands (h : Fresh g root loc) (hportable : Portable text.toList) :
    Repository.Stands { g with files := filled g.files loc text } root {} text ["default.intent"]
      fun _ => policy := by
  obtain ⟨hkeeps, hpolicies, hpolicy⟩ := h.withSystem text
  obtain ⟨-, -, hmade, hfile⟩ := outcome_writePolicy
    (w := { g with files := Starter.withSystem g.files loc text }) (h.leads.of_keeps hkeeps)
    hpolicies hpolicy h.room
  have hfree : (withPolicies (Starter.withSystem g.files loc text) loc).at?
      (loc ++ ["policies", "default.intent"]) = none := by
    rw [withPolicies, Files.at?_put_of_ne (by simp), hpolicy]
  have hkeeps' : (Starter.withSystem g.files loc text).Keeps
      (withPolicies (Starter.withSystem g.files loc text) loc) :=
    Files.keeps_put _ (by simp [hpolicies])
  have hkeeps'' : (withPolicies (Starter.withSystem g.files loc text) loc).Keeps
      (filled g.files loc text) := Files.keeps_put _ (by simp [hfree])
  have hsystem : (filled g.files loc text).locate (g.whole (systemPath root)) =
      .ok (loc ++ ["system.intent"]) :=
    Files.locate_of_keeps hkeeps'' (Files.locate_of_keeps hkeeps'
      (Files.locate_of_keeps hkeeps h.locate_system))
  have hat : (filled g.files loc text).at? (loc ++ ["system.intent"]) =
      some (.file (Text.encodeUtf8 text.toList)) := by
    rw [filled, withPolicy, Files.at?_put_of_ne (by simp), withPolicies,
      Files.at?_put_of_ne (by simp), Starter.withSystem, Files.at?_put_self (by simp)]
  have hat' : (filled g.files loc text).at? (loc ++ ["policies", "default.intent"]) =
      some (.file (Text.encodeUtf8 policy.toList)) := by
    rw [filled, withPolicy, Files.at?_put_self (by simp)]
  have hnames : (withPolicies (Starter.withSystem g.files loc text) loc).namesIn
      (loc ++ ["policies"]) = [] := by
    rw [withPolicies, Files.namesIn_put_of_ne (by simp), Starter.withSystem,
      Files.namesIn_put_of_ne (by simp), h.empty]
  obtain ⟨hsystemPath, hdirectory⟩ := under_settings root
  rw [Workspace.whole_files] at hmade hfile
  refine ⟨⟨Text.encodeUtf8 text.toList, ?_⟩, ?_, ⟨loc ++ ["policies"], ?_, ?_⟩, ?_⟩
  · rw [hsystemPath, Workspace.whole_files, ← hat]
    exact Files.look_of_locate hsystem
  · rw [hsystemPath]
    refine Workspace.shows_of_read ?_ hportable.lineEnds
    rw [Workspace.whole_files]
    exact Files.read_of_locate hsystem hat
  · rw [hdirectory, Workspace.whole_files]
    exact hmade.of_keeps hkeeps''
  · rw [filled, withPolicy, List.append_cons, Files.namesIn_put_of_empty hnames,
      Repository.policyNames_singleton (by decide)]
  · rw [List.forall_mem_singleton, hdirectory]
    refine Workspace.shows_of_read ?_ portable_policy.lineEnds
    rw [Workspace.whole_files]
    exact Files.read_of_locate (Files.locate_of_keeps hkeeps'' hfile) hat'

/-- **What is written for a fresh repository can be read.**  If the directories that give domains
have names that stand between quotes as they are and give no reserved words, both starter files are
written; the specification that is read from them has the inferred domains, with their names and
globs and in their order, imports the policy and has the starter policy. -/
theorem specs_run (h : Fresh g root loc)
    (hfits : ∀ name ∈ directoriesAt g.files loc, isKept ["policies"] name = true → Fits name) :
    ∃ report w, (run root {} false).outcome g = (.ok report, w) ∧
      report.wroteSystem = true ∧ report.wrotePolicy = true ∧
      report.domains = domains ["policies"] (directoriesAt g.files loc) ∧
      (Repository.specs root {}).outcome w =
        (.ok ⟨⟨"2.0", nameOf root.lastName, report.domains, ["policies/default.intent"]⟩,
          [policySet]⟩, w) := by
  obtain ⟨hne, hnames, hdrafts⟩ := isDraft_domains hfits
  have hword := isWord_nameOf root.lastName
  have hplain : Architecture.Plain ["policies/default.intent"] := by
    unfold Architecture.Plain
    decide +kernel
  have hportable : Portable (systemText g.files root loc).toList :=
    portable_architecture hword hdrafts (by decide +kernel)
  have hblocks := fun d hd => (hdrafts d hd).hasPlainBlock
  have hproblems : policySet.problems = [] := by decide +kernel
  refine ⟨_, _, h.outcome_run rfl hportable.bytes, rfl, rfl, rfl, ?_⟩
  refine Repository.outcome_specs (p := fun _ => policySet) (h.stands hportable)
    (read_architecture hword hne hblocks hplain)
    (problems_specified hword hne hblocks hnames) fun name _ => ⟨fun file => ?_, hproblems⟩
  exact Source.read_of_read read_policy file

/-- The root of a repository. -/
def repo : Path := ⟨true, ["repo"]⟩

/-- A repository with directories of which one is passed over and two give one name. -/
def mixed : Workspace where
  files := ⟨[(["repo"], .directory), (["repo", "build"], .directory),
    (["repo", "foo-bar"], .directory), (["repo", "foo_bar"], .directory),
    (["repo", "notes"], .file []), (["repo", "src"], .directory)]⟩

/-- The two directories of one name share a domain. -/
theorem specs_run_mixed :
    Fresh mixed repo ["repo"] ∧
    (∀ name ∈ directoriesAt mixed.files ["repo"], isKept ["policies"] name = true → Fits name) ∧
    ∃ report w, (run repo {} false).outcome mixed = (.ok report, w) ∧
      (Repository.specs repo {}).outcome w =
        (.ok ⟨⟨"2.0", "Repo",
          [⟨"FooBar", ["foo-bar/**", "foo_bar/**"], []⟩, ⟨"Src", ["src/**"], []⟩],
          ["policies/default.intent"]⟩, [policySet]⟩, w) := by
  have hfresh : Fresh mixed repo ["repo"] := by
    refine ⟨⟨rfl, ?_, rfl⟩, ?_, ?_, ?_, ?_, ?_⟩ <;> decide +kernel
  have hfits : ∀ name ∈ directoriesAt mixed.files ["repo"],
      isKept ["policies"] name = true → Fits name := by decide +kernel
  have hdirectories : directoriesAt mixed.files ["repo"] =
      ["build", "foo-bar", "foo_bar", "src"] := by decide +kernel
  have hsorted : ["build", "foo-bar", "foo_bar", "src"].Pairwise
      (fun a b => decide (a ≤ b) = true) := by decide +kernel
  have hdomains : domains ["policies"] (directoriesAt mixed.files ["repo"]) =
      [⟨"FooBar", ["foo-bar/**", "foo_bar/**"], []⟩, ⟨"Src", ["src/**"], []⟩] := by
    rw [hdirectories, domains, List.mergeSort_of_pairwise hsorted]
    decide +kernel
  have hname : nameOf repo.lastName = "Repo" := by decide +kernel
  obtain ⟨report, w, hrun, -, -, hreport, hspecs⟩ := specs_run hfresh hfits
  rw [hreport, hdomains, hname] at hspecs
  exact ⟨hfresh, hfits, report, w, hrun, hspecs⟩

/-! ### Directories that are misread -/

/-- A repository with one directory. -/
def single (directory : String) : Workspace where
  files := ⟨[(["repo"], .directory), (["repo", directory], .directory)]⟩

theorem domains_singleton {skip : List String} {directory : String}
    (h : isKept skip directory = true) :
    domains skip [directory] = [⟨nameOf directory, [globOf directory], []⟩] := by
  rw [domains, List.mergeSort_singleton, List.filter_cons_of_pos h]
  rfl

/-- The starter architecture of a repository with one directory. -/
def singleText (directory : String) : String :=
  architecture "Repo" [⟨nameOf directory, [globOf directory], []⟩] "policies/default.intent"

theorem systemText_single {directory : String} (hkept : isKept ["policies"] directory = true)
    (hdirectories : directoriesAt (single directory).files ["repo"] = [directory]) :
    systemText (single directory).files repo ["repo"] = singleText directory := by
  have hname : nameOf repo.lastName = "Repo" := by decide
  rw [systemText, hdirectories, domains_singleton hkept, hname, singleText]

/-- What is written for a repository with one directory. -/
theorem outcome_single {directory : String} (hfresh : Fresh (single directory) repo ["repo"])
    (hkept : isKept ["policies"] directory = true)
    (hdirectories : directoriesAt (single directory).files ["repo"] = [directory])
    (hportable : Portable (singleText directory).toList) :
    ∃ report w, (run repo {} false).outcome (single directory) = (.ok report, w) ∧
      report.domains = [⟨nameOf directory, [globOf directory], []⟩] ∧
      Repository.Stands w repo {} (singleText directory) ["default.intent"] fun _ => policy := by
  refine ⟨_, _, hfresh.outcome_run (systemText_single hkept hdirectories) hportable.bytes, ?_,
    hfresh.stands hportable⟩
  rw [hdirectories, domains_singleton hkept]

/-- The domain of one directory is named by a reserved word, and the specification is refused; the
glob of the other one is read without its backslash. -/
theorem specs_run_misread :
    (Fresh (single "-domain") repo ["repo"] ∧
      ∃ report w e, (run repo {} false).outcome (single "-domain") = (.ok report, w) ∧
        report.domains = [⟨"domain", ["-domain/**"], []⟩] ∧
        (Repository.specs repo {}).outcome w = (.error (.complaint (.malformed e)), w)) ∧
    (Fresh (single "a\\b") repo ["repo"] ∧
      ∃ report w, (run repo {} false).outcome (single "a\\b") = (.ok report, w) ∧
        report.domains = [⟨"Ab", ["a\\b/**"], []⟩] ∧
        (Repository.specs repo {}).outcome w =
          (.ok ⟨⟨"2.0", "Repo", [⟨"Ab", ["ab/**"], []⟩], ["policies/default.intent"]⟩,
            [policySet]⟩, w)) := by
  constructor
  · have hfresh : Fresh (single "-domain") repo ["repo"] := by
      refine ⟨⟨rfl, ?_, rfl⟩, ?_, ?_, ?_, ?_, ?_⟩ <;> decide +kernel
    obtain ⟨report, w, hrun, hdomains, hstands⟩ := outcome_single hfresh (by decide +kernel)
      (by decide +kernel) (by decide +kernel)
    have hread : ∃ e, Architecture.read (singleText "-domain")
        (repo.under (.ofText ({} : Settings).systemFile)).text = .error (.malformed e) :=
      ⟨⟨"/repo/system.intent", ⟨7, 8⟩, .grammar (.expected .name) ⟨.keyword, "domain", ⟨7, 8⟩⟩⟩,
        by decide +kernel⟩
    obtain ⟨e, hread⟩ := hread
    refine ⟨hfresh, report, w, e, hrun, hdomains.trans (by decide +kernel), ?_⟩
    have hrefused : (Repository.architecture ⟨repo.under (.ofText ({} : Settings).systemFile),
        singleText "-domain"⟩).outcome w = (.error (.complaint (.malformed e)), w) := by
      rw [Repository.architecture, hread]
      rfl
    rw [Repository.specs, outcome_bind_of_ok (Repository.outcome_sources hstands),
      outcome_bind, Repository.sourcesOf, hrefused]
  · have hfresh : Fresh (single "a\\b") repo ["repo"] := by
      refine ⟨⟨rfl, ?_, rfl⟩, ?_, ?_, ?_, ?_, ?_⟩ <;> decide +kernel
    obtain ⟨report, w, hrun, hdomains, hstands⟩ := outcome_single hfresh (by decide +kernel)
      (by decide +kernel) (by decide +kernel)
    have hread : Architecture.read (singleText "a\\b") =
        .ok ⟨"2.0", "Repo", [⟨"Ab", ["ab/**"], []⟩], ["policies/default.intent"]⟩ := by
      decide +kernel
    refine ⟨hfresh, report, w, hrun, hdomains.trans (by decide +kernel), ?_⟩
    refine Repository.outcome_specs (p := fun _ => policySet) hstands (Source.read_of_read hread)
      (by decide +kernel) fun name _ => ⟨Source.read_of_read read_policy, by decide +kernel⟩

end ChangeGate.Starter
