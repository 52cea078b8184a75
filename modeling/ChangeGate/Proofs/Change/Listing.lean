import ChangeGate.Change.Log
import ChangeGate.Proofs.Diff.Sections
import ChangeGate.Proofs.Workspace.Outcome

/-! # Changed files from a diff and from a list

The log of changed files is read from a diff if there is one, and else from a list of paths.
Asking for a diff leaves the ground as it is (`observes_fullDiff?`), so the list of the environment
is the same before and after.

`log_sites` says what the two sources give for the same paths: the list has the paths as they are,
the diff has them with slashes for backslashes. -/

namespace ChangeGate.Change

/-! ### Asking for a diff -/

theorem observes_comparison (base head : String) (options : List String) :
    (comparison base head options).Observes := by
  refine .tryCatch (.git _) fun failure => ?_
  split
  · exact .git _
  · exact .throw _

theorem observes_givenPaths? : givenPaths?.Observes := .bind .get fun _ => .pure _

theorem observes_unifiedOption (lines : Int) : (unifiedOption lines).Observes := by
  unfold unifiedOption
  split
  · exact .breakDown _
  · exact .pure _

theorem observes_fullDiff? (base head : String) (unified : Int) :
    (fullDiff? base head unified).Observes := by
  refine .bind (observes_unifiedOption _) fun option => ?_
  refine .tryCatch (.map (observes_comparison _ _ _)) fun failure => ?_
  split
  · refine .bind observes_givenPaths? fun paths => ?_
    dsimp only
    split
    · exact .bind (.warn _) fun _ => .pure _
    · exact .pure _
  · exact .throw _

/-! ### Paths and lists of them -/

/-- A path that a list and a diff can both hold: it is on one line of its own, with no blank around
it, and a header of a diff shows where it ends. -/
structure IsListable (path : String) : Prop where
  ne_nil : path.toList ≠ []
  oneLine : ∀ c ∈ path.toList, Text.isLineBreak c = false
  trim_eq : Text.trim path.toList = path.toList
  clear : ¬ Diff.headerMiddle <:+: path.toList

instance (path : String) : Decidable (IsListable path) :=
  decidable_of_iff
    (path.toList ≠ [] ∧ path.toList.any Text.isLineBreak = false ∧
      Text.trim path.toList = path.toList ∧ ¬ Diff.headerMiddle <:+: path.toList)
    ⟨fun ⟨hne, hline, htrim, hclear⟩ => ⟨hne, by simpa using hline, htrim, hclear⟩,
      fun h => ⟨h.ne_nil, by simpa using h.oneLine, h.trim_eq, h.clear⟩⟩

/-- A text lists paths if its lines are the paths. -/
def Lists (listed : String) (ps : List String) : Prop :=
  Text.lines listed.toList = ps.map String.toList

instance (listed : String) (ps : List String) : Decidable (Lists listed ps) :=
  inferInstanceAs (Decidable (_ = _))

/-- The header of a file that stayed where it is. -/
def unmoved (path : String) : Diff.Header := ⟨.plain path.toList, .plain path.toList⟩

/-- A path with slashes for backslashes. -/
def slashed (path : String) : String := String.ofList (Diff.forwardSlashes path.toList)

/-- Where a change is: its path and the domain of it. -/
def site (a : Action) : String × Option String := (a.path, a.fileDomain)

variable {ps : List String}

theorem lists_intercalate (hps : ∀ p ∈ ps, IsListable p) : Lists ("\n".intercalate ps) ps := by
  have hlines : ∀ l ∈ ps.map String.toList, l ≠ [] ∧ ∀ c ∈ l, Text.isLineBreak c = false := by
    intro l hl
    obtain ⟨p, hp, rfl⟩ := List.mem_map.mp hl
    exact ⟨(hps p hp).ne_nil, (hps p hp).oneLine⟩
  rw [Lists, String.toList_intercalate]
  exact Text.lines_intercalate hlines

theorem listedPaths_of_lists {listed : String} (hlists : Lists listed ps)
    (hps : ∀ p ∈ ps, IsListable p) : listedPaths listed.toList = ps := by
  rw [listedPaths, hlists, List.map_map]
  have htrim : ps.map (Text.trim ∘ String.toList) = ps.map String.toList :=
    List.map_congr_left fun p hp => (hps p hp).trim_eq
  have hall : (ps.map String.toList).filter (!·.isEmpty) = ps.map String.toList := by
    rw [List.filter_eq_self]
    intro l hl
    obtain ⟨p, hp, rfl⟩ := List.mem_map.mp hl
    simpa using (hps p hp).ne_nil
  rw [htrim, hall, List.map_map]
  simp [Function.comp_def]

/-- A path that is listed is on one line. -/
theorem isLineBreak_of_mem_listedPaths {cs : List Char} {p : String} (hp : p ∈ listedPaths cs) :
    ∀ c ∈ p.toList, Text.isLineBreak c = false := by
  obtain ⟨_, htrimmed, rfl⟩ := List.mem_map.mp hp
  obtain ⟨l, hl, rfl⟩ := List.mem_map.mp (List.mem_of_mem_filter htrimmed)
  rw [String.toList_ofList]
  intro c hc
  refine Text.isLineBreak_of_mem_linesFrom (List.forall_mem_nil _) l hl c ?_
  rw [Text.trim, Text.dropEndWhile, List.mem_reverse] at hc
  have hmem := List.mem_reverse.mp ((List.dropWhile_suffix _).subset hc)
  exact (List.dropWhile_suffix _).subset hmem

theorem slashed_eq_self_iff {path : String} : slashed path = path ↔ '\\' ∉ path.toList := by
  rw [slashed, ← String.toList_inj, String.toList_ofList, Diff.forwardSlashes]
  nth_rewrite 2 [← List.map_id path.toList]
  rw [List.map_inj_left]
  constructor
  · intro h hc
    exact absurd (h _ hc) (by decide)
  · intro h c hc
    rw [if_neg (ne_of_mem_of_not_mem hc h), id]

/-! ### The two sources -/

theorem map_path_of_describes {ss : List Diff.Section} {fs : List Diff.FileDiff}
    (hdescribes : List.Forall₂ Diff.Section.Describes ss fs)
    (hheaders : ss.map (·.header) = ps.map unmoved) (hps : ∀ p ∈ ps, IsListable p) :
    fs.map (·.path) = ps.map slashed := by
  induction hdescribes generalizing ps with
  | nil =>
      rw [List.map_nil, List.nil_eq, List.map_eq_nil_iff] at hheaders
      rw [hheaders]
      rfl
  | cons hs _ ih =>
      obtain ⟨p, ps, rfl, hp, htail⟩ := List.map_eq_cons_iff.mp hheaders.symm
      obtain ⟨hfirst, hps⟩ := List.forall_mem_cons.mp hps
      rw [List.map_cons, List.map_cons, hs.path _ _ hp.symm hfirst.clear, ih htail.symm hps]
      rfl

variable {domains : List Domain} {base head : String} {given : Option String} {unified : Int}
  {w : Workspace}

theorem isPrinted_unmoved {path : String} (h : IsListable path) : (unmoved path).IsPrinted := by
  have hline : '\n' ∉ path.toList := fun hc => absurd (h.oneLine _ hc) (by decide)
  exact ⟨⟨h.ne_nil, hline⟩, h.ne_nil, hline⟩

/-- A diff that is not empty is read as the files of its sections. -/
theorem log_text {ss : List Diff.Section} (hlines : ∀ s ∈ ss, ∀ l ∈ s.lines, l.IsPrinted)
    (hheaders : ss.map (·.header) = ps.map unmoved) (hps : ∀ p ∈ ps, IsListable p) (hne : ps ≠ []) :
    ∃ actions, ((log domains base head (some (Diff.text ss)) unified).outcome w).1 = .ok actions ∧
      actions.map site = ps.map fun p => (slashed p, Domain.owner? domains (slashed p)) := by
  have hheader {s : Diff.Section} (hs : s ∈ ss) : ∃ p ∈ ps, unmoved p = s.header :=
    List.mem_map.mp (hheaders ▸ List.mem_map_of_mem hs)
  have hss : ∀ s ∈ ss, s.IsPrinted := by
    intro s hs
    obtain ⟨p, hp, heq⟩ := hheader hs
    exact ⟨heq ▸ isPrinted_unmoved (hps p hp), hlines s hs⟩
  have hread : ∀ s ∈ ss, s.header.IsRead := by
    intro s hs
    obtain ⟨p, -, heq⟩ := hheader hs
    rw [← heq]
    trivial
  obtain ⟨fs, hparse, hdescribes⟩ := Diff.parse_of_isRead hss hread
  have hpaths := map_path_of_describes hdescribes hheaders hps
  refine ⟨fs.map (ofFile domains), ?_, ?_⟩
  · have htext : (Diff.text ss).toList ≠ [] := by
      intro hnil
      rw [String.toList_eq_nil_iff.mp hnil] at hparse
      obtain rfl : [] = fs := Option.some.inj hparse
      exact hne (List.map_eq_nil_iff.mp hpaths.symm)
    obtain ⟨c, cs, hcs⟩ := List.exists_cons_of_ne_nil htext
    have hofList : String.ofList (c :: cs) = Diff.text ss := by rw [← hcs, String.ofList_toList]
    rw [log, pure_bind, hcs]
    simp only [ofDiff, hofList, hparse]
    rfl
  · have hsites : (fs.map (ofFile domains)).map site =
        (fs.map (·.path)).map fun p => (p, Domain.owner? domains p) := by
      rw [List.map_map, List.map_map]
      rfl
    rw [hsites, hpaths, List.map_map]
    rfl

/-- A log has no diff if an empty one is given, or if none is given and none is had. -/
def HasNoDiff (base head : String) (given : Option String) (unified : Int) (w : Workspace) : Prop :=
  given = some "" ∨
    given = none ∧ (((fullDiff? base head unified).outcome w).1 = .ok none ∨
      ((fullDiff? base head unified).outcome w).1 = .ok (some []))

theorem outcome_givenPaths? {listed : String} (h : w.setting? "CHANGED_FILES" = some listed) :
    givenPaths?.outcome w = (.ok (some (listedPaths listed.toList)), w) := by
  rw [givenPaths?, Procedure.outcome_bind, Procedure.outcome_get]
  dsimp only
  rw [h, Option.map_some, Procedure.outcome_pure]

theorem outcome_changedPaths (base head : String) {listed : String}
    (h : w.setting? "CHANGED_FILES" = some listed) :
    (changedPaths base head).outcome w = (.ok (listedPaths listed.toList), w) := by
  rw [changedPaths, Procedure.outcome_bind, outcome_givenPaths? h]
  rfl

/-- Without a diff the log is read from the list of the environment. -/
theorem log_listed {listed : String} (hlists : Lists listed ps) (hps : ∀ p ∈ ps, IsListable p)
    (hne : ps ≠ []) (hlisted : w.valueOf? "CHANGED_FILES" = some listed)
    (hdiff : HasNoDiff base head given unified w) :
    ((log domains base head given unified).outcome w).1 = .ok (ps.map (ofPath domains)) := by
  have hsetting : w.setting? "CHANGED_FILES" = some listed := by
    have hnotEmpty : listed ≠ "" := by
      rintro rfl
      exact hne (List.map_eq_nil_iff.mp hlists.symm)
    rw [Workspace.setting?, hlisted, Option.filter_some, if_pos (by simpa using hnotEmpty)]
  have hread {w' : Workspace} (hground : w.SameGround w') :
      ((do return (← changedPaths base head).map (ofPath domains)).outcome w').1 =
        .ok (ps.map (ofPath domains)) := by
    have hsetting' := (hground.setting? "CHANGED_FILES").trans hsetting
    rw [Procedure.outcome_bind, outcome_changedPaths base head hsetting',
      listedPaths_of_lists hlists hps]
    rfl
  obtain rfl | ⟨rfl, hdiff⟩ := hdiff
  · exact hread (.refl w)
  · have hground := observes_fullDiff? base head unified w
    rw [log, Procedure.outcome_bind]
    obtain hnone | hempty := hdiff
    · rw [← Prod.eta ((fullDiff? base head unified).outcome w), hnone]
      exact hread hground
    · rw [← Prod.eta ((fullDiff? base head unified).outcome w), hempty]
      exact hread hground

/-- **What the two sources of changed files give.**  For the same paths in the headers of a diff
and on the lines of a list, both logs are had; they have the same paths and domains exactly if no
path holds a backslash, as the diff turns it into a slash and the list does not. -/
theorem log_sites {w' : Workspace} {ss : List Diff.Section} {listed : String} (hne : ps ≠ [])
    (hps : ∀ p ∈ ps, IsListable p) (hlines : ∀ s ∈ ss, ∀ l ∈ s.lines, l.IsPrinted)
    (hheaders : ss.map (·.header) = ps.map unmoved) (hlists : Lists listed ps)
    (hlisted : w'.valueOf? "CHANGED_FILES" = some listed)
    (hdiff : HasNoDiff base head given unified w') :
    ∃ fromDiff fromList,
      ((log domains base head (some (Diff.text ss)) unified).outcome w).1 = .ok fromDiff ∧
      ((log domains base head given unified).outcome w').1 = .ok fromList ∧
      fromDiff.map site = ps.map (fun p => (slashed p, Domain.owner? domains (slashed p))) ∧
      fromList.map site = ps.map (fun p => (p, Domain.owner? domains p)) ∧
      (fromDiff.map site = fromList.map site ↔ ∀ p ∈ ps, '\\' ∉ p.toList) := by
  obtain ⟨fromDiff, hlog, hsites⟩ := log_text hlines hheaders hps hne
  have hsites' : (ps.map (ofPath domains)).map site =
      ps.map fun p => (p, Domain.owner? domains p) := by
    rw [List.map_map]
    rfl
  refine ⟨fromDiff, _, hlog, log_listed hlists hps hne hlisted hdiff, hsites, hsites', ?_⟩
  rw [hsites, hsites', List.map_inj_left]
  refine forall₂_congr fun p _ => ?_
  rw [← slashed_eq_self_iff, Prod.mk.injEq, and_iff_left_iff_imp]
  exact congrArg _

/-- Two sections without a hunk. -/
def twoUnmoved : List Diff.Section :=
  [⟨unmoved "app/x.py", [.other "+ok".toList]⟩, ⟨unmoved "my docs/y.md", []⟩]

/-- The paths of the two sections, listed in the environment. -/
def twoListed : Workspace :=
  { environment := [("CHANGED_FILES", "\n".intercalate ["app/x.py", "my docs/y.md"])] }

/-- Two paths, one with a blank inside, are the same in a diff and in a list. -/
theorem log_sites_twoUnmoved :
    ∃ fromDiff fromList,
      ((log [⟨"app", ["app/**"], []⟩] "base" "head" (some (Diff.text twoUnmoved)) 0).outcome {}).1 =
        .ok fromDiff ∧
      ((log [⟨"app", ["app/**"], []⟩] "base" "head" (some "") 0).outcome twoListed).1 =
        .ok fromList ∧
      fromDiff.map site = fromList.map site := by
  have hps : ∀ p ∈ ["app/x.py", "my docs/y.md"], IsListable p := by decide +kernel
  have hlines : ∀ s ∈ twoUnmoved, ∀ l ∈ s.lines, l.IsPrinted := by decide +kernel
  have hlisted : twoListed.valueOf? "CHANGED_FILES" =
      some ("\n".intercalate ["app/x.py", "my docs/y.md"]) := by
    rw [twoListed, Workspace.valueOf?, List.find?_cons_of_pos (by simp), Option.map_some]
  obtain ⟨fromDiff, fromList, hdiff, hlist, -, -, hsame⟩ :=
    log_sites (by decide) hps hlines rfl (lists_intercalate hps) hlisted (.inl rfl)
  exact ⟨fromDiff, fromList, hdiff, hlist, hsame.mpr (by decide +kernel)⟩

/-- A path with a backslash, listed in the environment. -/
def backslashListed : Workspace := { environment := [("CHANGED_FILES", "app\\x.py")] }

/-- A path with a backslash has a domain in the diff and none in the list. -/
theorem log_backslash :
    let domains : List Domain := [⟨"app", ["app/**"], []⟩]
    (∃ actions, ((log domains "base" "head" (some "diff --git a/app\\x.py b/app\\x.py") 0).outcome
        {}).1 = .ok actions ∧ actions.map site = [("app/x.py", some "app")]) ∧
      ∃ actions, ((log domains "base" "head" (some "") 0).outcome backslashListed).1 = .ok actions ∧
        actions.map site = [("app\\x.py", none)] := by
  intro domains
  have hps : ∀ p ∈ ["app\\x.py"], IsListable p := by decide +kernel
  have hheaders : [(⟨unmoved "app\\x.py", []⟩ : Diff.Section)].map (·.header) =
      ["app\\x.py"].map unmoved := rfl
  have htext : Diff.text [⟨unmoved "app\\x.py", []⟩] = "diff --git a/app\\x.py b/app\\x.py" := by
    decide +kernel
  have hlisted : backslashListed.valueOf? "CHANGED_FILES" = some "app\\x.py" := by
    rw [backslashListed, Workspace.valueOf?, List.find?_cons_of_pos (by simp), Option.map_some]
  obtain ⟨actions, hdiff, hsites⟩ := log_text (by simp) hheaders hps (List.cons_ne_nil _ _)
  rw [htext] at hdiff
  refine ⟨⟨actions, hdiff, hsites.trans ?_⟩,
    _, log_listed (lists_intercalate hps) hps (List.cons_ne_nil _ _) hlisted (.inl rfl), ?_⟩
  · decide +kernel
  · decide +kernel

end ChangeGate.Change
