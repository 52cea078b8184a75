import ChangeGate.Proofs.Glob.Match
import ChangeGate.Proofs.Glob.Owner
import ChangeGate.Proofs.Starter.Fresh

/-! # Every directory in one domain

The inferred domains divide up the directories by the names that these give (`Groups`), so no glob
is lost and none stands twice (`Groups.perm_globs`).  A directory without wildcards in its name is
matched by its own glob alone (`owner?_below`), and what is below no directory has no owner
(`owner?_elsewhere`).

`domains_partition` says so of whatever stands at the top of a repository. -/

namespace ChangeGate.Starter

open Domain (owner?)
open Files (IsEntryName Leads longestPath nameSize)
open Glob (IsLiteral accepts)

variable {directories more : List String} {ds : List Domain} {directory file path : String}

/-! ### Domains of directories -/

/-- Domains that hold the globs of some directories, each in the domain of its name. -/
structure Groups (directories : List String) (ds : List Domain) : Prop where
  named : ∀ directory ∈ directories, ∃ d ∈ ds, d.name = nameOf directory
  allow : ∀ d ∈ ds, d.allow = (directories.filter (nameOf · = d.name)).map globOf

theorem groups_nil : Groups [] [] := ⟨nofun, nofun⟩

theorem Groups.addDirectory (h : Groups directories ds) (directory : String) :
    Groups (directories ++ [directory]) (addDirectory ds directory) := by
  have hfilter (name : String) : ((directories ++ [directory]).filter (nameOf · = name)).map globOf =
      (directories.filter (nameOf · = name)).map globOf ++
        if nameOf directory = name then [globOf directory] else [] := by
    rw [List.filter_append, List.map_append]
    by_cases hname : nameOf directory = name <;> simp [hname]
  unfold Starter.addDirectory
  dsimp only
  split
  · rename_i hany
    obtain ⟨d, hd, hname⟩ := List.any_eq_true.mp hany
    constructor
    · rw [List.forall_mem_append, List.forall_mem_singleton]
      constructor
      · intro directory' hdirectory'
        obtain ⟨d', hd', hname'⟩ := h.named directory' hdirectory'
        exact ⟨_, List.mem_map_of_mem hd', by split <;> exact hname'⟩
      · exact ⟨_, List.mem_map_of_mem hd, by split <;> exact beq_iff_eq.mp hname⟩
    · rw [List.forall_mem_map]
      intro d' hd'
      by_cases hname' : d'.name = nameOf directory
      · rw [if_pos hname', hfilter, if_pos hname'.symm, h.allow d' hd']
      · rw [if_neg hname', hfilter, if_neg (Ne.symm hname'), List.append_nil, h.allow d' hd']
  · rename_i hfresh
    have hnew : ∀ d ∈ ds, d.name ≠ nameOf directory := by simpa using hfresh
    constructor
    · rw [List.forall_mem_append, List.forall_mem_singleton]
      refine ⟨fun directory' hdirectory' => ?_, _, List.mem_append_right _ (List.mem_singleton_self _),
        rfl⟩
      obtain ⟨d, hd, hname⟩ := h.named directory' hdirectory'
      exact ⟨d, List.mem_append_left _ hd, hname⟩
    · rw [List.forall_mem_append, List.forall_mem_singleton]
      constructor
      · intro d hd
        rw [hfilter, if_neg (Ne.symm (hnew d hd)), List.append_nil, h.allow d hd]
      · have hnone : directories.filter (nameOf · = nameOf directory) = [] := by
          refine List.filter_eq_nil_iff.mpr fun directory' hdirectory' => ?_
          obtain ⟨d, hd, hname⟩ := h.named directory' hdirectory'
          simpa [← hname] using hnew d hd
        rw [hfilter, if_pos rfl, hnone, List.map_nil, List.nil_append]

theorem Groups.foldl (h : Groups directories ds) (more : List String) :
    Groups (directories ++ more) (more.foldl Starter.addDirectory ds) := by
  induction more generalizing directories ds with
  | nil => rwa [List.append_nil]
  | cons directory more ih =>
      rw [List.append_cons]
      exact ih (h.addDirectory directory)

theorem globOf_injective : Function.Injective globOf := by
  intro directory directory' h
  simpa [globOf, ← String.toList_inj] using h

theorem Groups.mem_allow_iff (h : Groups directories ds) {d : Domain} (hd : d ∈ ds) {g : String} :
    g ∈ d.allow ↔ ∃ directory ∈ directories, nameOf directory = d.name ∧ globOf directory = g := by
  rw [h.allow d hd]
  simp [and_assoc]

/-- The globs of all domains are those of the directories. -/
theorem Groups.perm_globs (h : Groups directories ds) (hnames : (ds.map (·.name)).Nodup)
    (hnodup : directories.Nodup) : (ds.flatMap (·.allow)).Perm (directories.map globOf) := by
  have hallow : (ds.flatMap (·.allow)).Nodup := by
    rw [List.nodup_flatMap]
    constructor
    · intro d hd
      rw [h.allow d hd]
      exact (hnodup.filter _).map globOf_injective
    · refine (List.pairwise_map.mp hnames).imp_of_mem fun {d d'} hd hd' hne g hg hg' => ?_
      obtain ⟨directory, -, hname, rfl⟩ := (h.mem_allow_iff hd).mp hg
      obtain ⟨directory', -, hname', heq⟩ := (h.mem_allow_iff hd').mp hg'
      rw [globOf_injective heq] at hname'
      exact hne (hname.symm.trans hname')
  rw [List.perm_ext_iff_of_nodup hallow (hnodup.map globOf_injective)]
  intro g
  rw [List.mem_flatMap, List.mem_map]
  constructor
  · rintro ⟨d, hd, hg⟩
    obtain ⟨directory, hdirectory, -, rfl⟩ := (h.mem_allow_iff hd).mp hg
    exact ⟨directory, hdirectory, rfl⟩
  · rintro ⟨directory, hdirectory, rfl⟩
    obtain ⟨d, hd, hname⟩ := h.named directory hdirectory
    exact ⟨d, hd, (h.mem_allow_iff hd).mpr ⟨directory, hdirectory, hname.symm, rfl⟩⟩

/-! ### Owners -/

/-- The names of directories that stand in one place: no two are alike, and none has a slash. -/
structure Siblings (directories : List String) : Prop where
  nodup : directories.Nodup
  slashless : ∀ directory ∈ directories, '/' ∉ directory.toList

/-- A path leads to something below a directory. -/
def IsBelow (directory path : String) : Prop := ∃ file, path = directory ++ "/" ++ file

/-- A path starts with one directory. -/
theorem eq_of_isBelow {directory' : String} (h : IsBelow directory path)
    (h' : IsBelow directory' path) (hslash : '/' ∉ directory.toList)
    (hslash' : '/' ∉ directory'.toList) : directory = directory' := by
  obtain ⟨file, rfl⟩ := h
  obtain ⟨file', heq⟩ := h'
  have hfirst (directory file : String) (hslash : '/' ∉ directory.toList) :
      (directory ++ "/" ++ file).toList.takeWhile (· != '/') = directory.toList := by
    rw [String.toList_append, String.toList_append, List.append_assoc]
    exact Text.takeWhile_run (by simpa using fun c hc => ne_of_mem_of_not_mem hc hslash) (by simp)
  rw [← String.toList_inj, ← hfirst directory file hslash, heq, hfirst directory' file' hslash']

/-- The glob of a directory accepts what is below it. -/
theorem accepts_globOf_iff (h : IsLiteral directory.toList) (hline : '\n' ∉ path.toList) :
    accepts (globOf directory) path = true ↔ IsBelow directory path := by
  have hglob : globOf directory = String.ofList (directory.toList ++ "/**".toList) := by
    rw [String.ofList_append, String.ofList_toList, String.ofList_toList, globOf]
  rw [hglob, Glob.accepts_directory_iff h]
  constructor
  · rintro ⟨file, hpath, -⟩
    exact ⟨String.ofList file, String.toList_inj.mp (by simp [hpath])⟩
  · rintro ⟨file, rfl⟩
    refine ⟨file.toList, by simp, fun hmem => hline ?_⟩
    rw [String.toList_append]
    exact List.mem_append_right _ hmem

section

variable (h : Groups directories ds) (hsiblings : Siblings directories)
  (hliteral : ∀ directory ∈ directories, IsLiteral directory.toList)
include h hsiblings hliteral

/-- A file below a directory belongs to the domain that the directory gives its name. -/
theorem owner?_below (hdirectory : directory ∈ directories) (hline : '\n' ∉ path.toList)
    (hpath : IsBelow directory path) : owner? ds path = some (nameOf directory) := by
  -- The glob of the directory is the only one that accepts the path.
  have honly (d : Domain) (hd : d ∈ ds) (g : String) (hg : g ∈ d.allow)
      (haccepts : accepts g path = true) : d.name = nameOf directory ∧ g = globOf directory := by
    obtain ⟨directory', hdirectory', hname, rfl⟩ := (h.mem_allow_iff hd).mp hg
    rw [accepts_globOf_iff (hliteral _ hdirectory') hline] at haccepts
    obtain rfl := eq_of_isBelow hpath haccepts (hsiblings.slashless _ hdirectory)
      (hsiblings.slashless _ hdirectory')
    exact ⟨hname.symm, rfl⟩
  obtain ⟨d, hd, hname⟩ := h.named directory hdirectory
  have hown : d.Accepts path (globOf directory).length :=
    ⟨_, (h.mem_allow_iff hd).mpr ⟨directory, hdirectory, hname.symm, rfl⟩,
      (accepts_globOf_iff (hliteral _ hdirectory) hline).mpr hpath, rfl⟩
  refine Domain.owner?_eq_some_iff_accepts.mpr
    ⟨_, ⟨d, hd, hname, hown⟩, fun d' hd' length hlength => ?_, fun d' hd' hlength => ?_⟩
  · obtain ⟨g, hg, haccepts, rfl⟩ := hlength
    rw [(honly d' hd' g hg haccepts).2]
  · obtain ⟨g, hg, haccepts, -⟩ := hlength
    have hsame := (honly d' hd' g hg haccepts).1
    exact hsame ▸ String.le_refl _

omit hsiblings in
/-- A file below no directory belongs to no domain. -/
theorem owner?_elsewhere (hline : '\n' ∉ path.toList)
    (hpath : ∀ directory ∈ directories, ¬ IsBelow directory path) : owner? ds path = none := by
  refine Domain.owner?_eq_none_iff.mpr fun d hd g hg => ?_
  obtain ⟨directory, hdirectory, -, rfl⟩ := (h.mem_allow_iff hd).mp hg
  rw [← Bool.not_eq_true, accepts_globOf_iff (hliteral _ hdirectory) hline]
  exact hpath directory hdirectory

end

/-- The domain of a repository without directories owns every file. -/
theorem owner?_core (hline : '\n' ∉ path.toList) : owner? [core] path = some "Core" := by
  have haccepts : accepts "**" path = true := Glob.matchParts_stars.mpr hline
  refine Domain.owner?_eq_some_iff_accepts.mpr ⟨_, ⟨core, List.mem_singleton_self _, rfl, "**",
    List.mem_singleton_self _, haccepts, rfl⟩, ?_, ?_⟩ <;> rw [List.forall_mem_singleton]
  · rintro length ⟨g, hg, -, rfl⟩
    rw [List.mem_singleton.mp hg]
  · exact fun _ => String.le_refl _

/-! ### The domains of a repository -/

/-- The domains hold the globs of the directories that are kept, in some order. -/
theorem exists_groups_domains {skip : List String} (h : directories.filter (isKept skip) ≠ []) :
    ∃ kept, kept.Perm (directories.filter (isKept skip)) ∧ Groups kept (domains skip directories) ∧
      ((domains skip directories).map (·.name)).Nodup := by
  have hperm := (List.mergeSort_perm directories (· ≤ ·)).filter (isKept skip)
  refine ⟨_, hperm, ?_⟩
  unfold domains
  dsimp only
  generalize (directories.mergeSort (· ≤ ·)).filter (isKept skip) = kept at hperm ⊢
  have hne : ¬ kept.isEmpty = true := fun hnil =>
    h (hperm.symm.trans (List.isEmpty_iff.mp hnil ▸ .refl _)).eq_nil
  rw [if_neg hne]
  exact ⟨groups_nil.foldl kept, (drafts_nil.foldl fun _ hmem => hmem).names⟩

theorem domains_of_kept_eq_nil {skip : List String} (h : directories.filter (isKept skip) = []) :
    domains skip directories = [core] := by
  have hperm := (List.mergeSort_perm directories (· ≤ ·)).filter (isKept skip)
  rw [h] at hperm
  rw [domains, hperm.eq_nil]
  rfl

/-- **Every directory in one domain.**  What is inferred for a repository are the domains of its
top-level directories.  They have names of their own.  The globs of all of them are those of the
directories that are kept, each once and in the domain that the directory gives its name.  If no
name of a directory has a wildcard, a file below a directory that is kept belongs to the domain of
that name, and any other file to none.  If no directory is kept, all files belong to one domain. -/
theorem domains_partition {directories : List String} (h : Siblings directories)
    (skip : List String) :
    let ds := domains skip directories
    let kept := directories.filter (isKept skip)
    (∀ (g : Workspace) (root : Path) (loc : Location) (policyDirectory : String),
      g.files.Leads (g.whole root) loc →
      (∀ name ∈ g.files.namesIn loc, IsEntryName name ∧
        nameSize (g.whole root).text + nameSize name < longestPath) →
      directoriesAt g.files loc = directories →
      (domainsOf root policyDirectory).outcome g =
        (.ok (domains [policyDirectory] directories), g)) ∧
    (ds.map (·.name)).Nodup ∧
    (kept ≠ [] →
      (ds.flatMap (·.allow)).Perm (kept.map globOf) ∧
      (∀ directory ∈ kept, ∃ d ∈ ds, d.name = nameOf directory ∧ globOf directory ∈ d.allow) ∧
      ((∀ directory ∈ kept, IsLiteral directory.toList) →
        ∀ path : String, '\n' ∉ path.toList →
          (∀ directory ∈ kept, IsBelow directory path →
            owner? ds path = some (nameOf directory)) ∧
          ((∀ directory ∈ kept, ¬ IsBelow directory path) → owner? ds path = none))) ∧
    (kept = [] → ∀ path : String, '\n' ∉ path.toList → owner? ds path = some "Core") := by
  intro ds kept
  refine ⟨fun g root loc policyDirectory hleads hnames hdirectories =>
    hdirectories ▸ outcome_domainsOf hleads hnames policyDirectory, ?_⟩
  by_cases hkept : kept = []
  · have hds : ds = [core] := domains_of_kept_eq_nil hkept
    refine ⟨?_, fun hne => absurd hkept hne, fun _ path hline => ?_⟩
    · rw [hds]
      exact List.nodup_singleton _
    · rw [hds]
      exact owner?_core hline
  · obtain ⟨sorted, hperm, hgroups, hnames⟩ := exists_groups_domains hkept
    have hsiblings : Siblings sorted :=
      ⟨hperm.nodup_iff.mpr (h.nodup.filter _), fun directory hdirectory =>
        h.slashless _ (List.mem_of_mem_filter (hperm.subset hdirectory))⟩
    refine ⟨hnames, fun _ => ⟨?_, fun directory hdirectory => ?_,
      fun hliteral path hline => ⟨fun directory hdirectory => ?_, fun hnone => ?_⟩⟩,
      fun hnil => absurd hnil hkept⟩
    · exact (hgroups.perm_globs hnames hsiblings.nodup).trans (hperm.map _)
    · have hdirectory := hperm.mem_iff.mpr hdirectory
      obtain ⟨d, hd, hname⟩ := hgroups.named directory hdirectory
      exact ⟨d, hd, hname, (hgroups.mem_allow_iff hd).mpr ⟨_, hdirectory, hname.symm, rfl⟩⟩
    · exact owner?_below hgroups hsiblings (fun _ hmem => hliteral _ (hperm.subset hmem))
        (hperm.mem_iff.mpr hdirectory) hline
    · exact owner?_elsewhere hgroups (fun _ hmem => hliteral _ (hperm.subset hmem)) hline
        fun directory hmem => hnone directory (hperm.subset hmem)

/-- The names of the directories in a repository: one is passed over, and two give one name. -/
def mixedNames : List String := ["build", "foo-bar", "foo_bar", "src"]

/-- Two directories of one name share their domain, and what is in a directory that is passed over
has none.  If nothing else is there, there is one domain for all. -/
theorem domains_partition_mixed :
    Siblings mixedNames ∧
    (domainsOf repo "policies").outcome mixed = (.ok (domains ["policies"] mixedNames), mixed) ∧
    owner? (domains ["policies"] mixedNames) "foo-bar/a.py" = some "FooBar" ∧
    owner? (domains ["policies"] mixedNames) "foo_bar/a.py" = some "FooBar" ∧
    owner? (domains ["policies"] mixedNames) "build/a.o" = none ∧
    owner? (domains ["policies"] ["build"]) "a.py" = some "Core" := by
  have hsiblings : Siblings mixedNames := by constructor <;> decide +kernel
  have hkept : mixedNames.filter (isKept ["policies"]) = ["foo-bar", "foo_bar", "src"] := by
    decide +kernel
  have hname : nameOf "foo-bar" = "FooBar" ∧ nameOf "foo_bar" = "FooBar" := by decide +kernel
  obtain ⟨hlisted, -, hsome, -⟩ := domains_partition hsiblings ["policies"]
  rw [hkept] at hsome
  have hliteral : ∀ directory ∈ ["foo-bar", "foo_bar", "src"], IsLiteral directory.toList := by
    unfold IsLiteral
    decide +kernel
  have howner := (hsome (List.cons_ne_nil _ _)).2.2 hliteral
  have hnone : ∀ directory ∈ ["foo-bar", "foo_bar", "src"], ¬ IsBelow directory "build/a.o" := by
    intro directory hmem hbelow
    have hslash : ∀ directory ∈ ["foo-bar", "foo_bar", "src"], '/' ∉ directory.toList := by
      decide +kernel
    have hbuild : IsBelow "build" "build/a.o" := ⟨"a.o", rfl⟩
    rw [eq_of_isBelow hbelow hbuild (hslash directory hmem) (by decide)] at hmem
    exact absurd hmem (by decide)
  refine ⟨hsiblings, hlisted _ _ ["repo"] _ ?_ ?_ ?_, ?_, ?_, (howner _ (by decide)).2 hnone, ?_⟩
  · constructor <;> decide +kernel
  · decide +kernel
  · decide +kernel
  · rw [← hname.1]
    exact (howner _ (by decide)).1 _ (by decide) ⟨"a.py", rfl⟩
  · rw [← hname.2]
    exact (howner _ (by decide)).1 _ (by decide) ⟨"a.py", rfl⟩
  · have hbuild : Siblings ["build"] := by constructor <;> decide +kernel
    exact (domains_partition hbuild ["policies"]).2.2.2 (by decide +kernel) _ (by decide)

end ChangeGate.Starter
