import ChangeGate.Fix.Apply
import ChangeGate.Proofs.Architecture.Names
import ChangeGate.Proofs.Fix.Cover
import ChangeGate.Proofs.Review.Listed
import ChangeGate.Proofs.Scope.Majority
import ChangeGate.Proofs.Starter.Fresh

/-! # Fixing twice

A fix that is applied reviews a repository, and adds globs for its files without a domain to the
system file (`ready_of_applied`).  The list of changed files and the description stay what they
were, so the reviews that follow differ in the system alone; there every file has a domain, and there
is nothing left to fix.

`converges` asks of the listed paths that they have bytes, and of those without a domain that they
hold no quote and no backslash, which have a meaning between quotes and in globs. -/

namespace ChangeGate

namespace Fix

open Procedure
open Repository (UsualPaths)
open Review (Prepared Ready account planText reviewed)
open Starter (policySet)
open Text (hasHalf)

variable {g w w' : Workspace} {listed system : String} {root : Path} {s : Settings}
  {loc : Location} {a : Architecture} {r : Review.Request} {report : Report}
  {ds : List Domain} {paths globs : List String} {t : Task}

/-! ### Files without a domain -/

/-- The files without a domain are those whose violations are fixed. -/
theorem mem_unmapped_iff {path : String} :
    (∃ v ∈ Violation.sorted (Verdict.gathered [policySet] (paths.map (Change.ofPath ds)) t),
      v.code = "UnknownDomainFile" ∧ v.evidence.path = path) ↔
      path ∈ paths ∧ Domain.owner? ds path = none := by
  constructor
  · rintro ⟨v, hv, hcode, rfl⟩
    obtain ⟨rule, hrule, action, haction, hmatches, hd⟩ :=
      Verdict.mem_gathered.mp (List.mem_mergeSort.mp hv)
    obtain ⟨path, hpath, rfl⟩ := List.mem_map.mp haction
    rcases Starter.mem_rules_policySet.mp hrule with rfl | rfl
    · exact absurd (hd.code.symm.trans hcode) (by decide)
    · rw [hd.evidence]
      exact ⟨hpath, (Starter.unmapped_matches_iff rfl).mp hmatches⟩
  · rintro ⟨hpath, hnone⟩
    obtain ⟨v, hv, hd⟩ := Verdict.exists_mem_gathered (Starter.settles_policySet _ t)
      (Starter.mem_rules_policySet.mpr (.inr rfl)) (List.mem_map_of_mem hpath)
      ((Starter.unmapped_matches_iff (a := Change.ofPath ds path) rfl).mpr hnone)
    exact ⟨v, List.mem_mergeSort.mpr hv, hd.code, by rw [hd.evidence]; rfl⟩

/-- The globs are those for the files without a domain. -/
theorem mem_globsFor_iff {glob : String} :
    glob ∈ globsFor
        (Violation.sorted (Verdict.gathered [policySet] (paths.map (Change.ofPath ds)) t)) ↔
      ∃ path ∈ paths, Domain.owner? ds path = none ∧ suggestGlob path = glob := by
  rw [globsFor, List.mem_eraseDups, List.mem_map]
  constructor
  · rintro ⟨v, hv, rfl⟩
    obtain ⟨hv, hcode⟩ := List.mem_filter.mp hv
    obtain ⟨hpath, hnone⟩ := mem_unmapped_iff.mp
      ⟨v, hv, List.mem_singleton.mp (List.contains_iff_mem.mp hcode), rfl⟩
    exact ⟨_, hpath, hnone, rfl⟩
  · rintro ⟨path, hpath, hnone, rfl⟩
    obtain ⟨v, hv, hcode, rfl⟩ := mem_unmapped_iff.mpr ⟨hpath, hnone⟩
    refine ⟨v, List.mem_filter.mpr ⟨hv, ?_⟩, rfl⟩
    rw [hcode]
    rfl

/-! ### Line ends -/

theorem not_mem_insertChars {content : List Char} (hcontent : '\r' ∉ content)
    (hglobs : ∀ glob ∈ globs, '\r' ∉ glob.toList) : '\r' ∉ insertChars content globs := by
  have hlisted : '\r' ∉ Fix.listed globs := by
    rw [Fix.listed, String.toList_intercalate, List.map_map]
    intro h
    rcases Text.mem_intercalate h with h | ⟨_, hmem, h⟩
    · revert h
      decide
    · obtain ⟨glob, hglob, rfl⟩ := List.mem_map.mp hmem
      have hglob := hglobs glob hglob
      simp [hglob] at h
  unfold insertChars
  split
  · exact hcontent
  · split
    · rename_i rest hfound
      obtain ⟨front, blanks, hsplit, -, -⟩ := behindUnmapped?_eq_some hfound
      have hrest : '\r' ∉ rest := fun h => hcontent (hsplit ▸ by simp [h])
      have htake (n : Nat) : '\r' ∉ content.take n := fun h => hcontent (List.mem_of_mem_take h)
      simp only [List.mem_append, List.mem_cons, not_or]
      exact ⟨⟨⟨htake _, by decide⟩, hlisted⟩, by decide, hrest⟩
    · dsimp only
      split
      · simp only [List.mem_append, not_or]
        exact ⟨hcontent, ⟨by decide, hlisted⟩, by decide⟩
      · rename_i front rest hlast
        obtain ⟨inside, rfl, rfl, -⟩ := splitLastBrace?_eq_some hlast
        simp only [List.mem_append, List.mem_cons, not_or] at hcontent ⊢
        exact ⟨⟨⟨hcontent.1, by decide⟩, by decide, ⟨by decide, hlisted⟩, by decide⟩, hcontent.2.2⟩

/-! ### What a fix comes to -/

/-- A fix is applied if there is a review with something to fix and the globs are added. -/
theorem applied_iff :
    (run root s r false).outcome g = (.ok report, w) ∧ report.isApplied = true ↔
      ∃ v w₁, (Review.run root s r).outcome g = (.ok v, w₁) ∧ globsFor v.violations ≠ [] ∧
        (patch (root.under (.ofText s.systemFile)) (globsFor v.violations)).outcome w₁ =
          (.ok (), w) ∧
        report = ⟨globsFor v.violations, true, root.under (.ofText s.systemFile)⟩ := by
  constructor
  · rintro ⟨hrun, happlied⟩
    obtain ⟨v, w₁, hreview, hrun⟩ := outcome_bind_eq_ok_iff.mp hrun
    dsimp only at hrun
    split at hrun
    · cases hrun
      cases happlied
    · rename_i hglobs
      rw [Bool.or_false, List.isEmpty_iff] at hglobs
      obtain ⟨_, w₂, hpatch, hpure⟩ := outcome_bind_eq_ok_iff.mp hrun
      cases hpure
      exact ⟨v, w₁, hreview, hglobs, hpatch, rfl⟩
  · rintro ⟨v, w₁, hreview, hglobs, hpatch, rfl⟩
    refine ⟨?_, rfl⟩
    rw [run, outcome_bind_of_ok hreview]
    dsimp only
    rw [if_neg (by simpa using hglobs), outcome_bind_of_ok hpatch, outcome_pure]

/-- Without globs there is nothing to add. -/
theorem outcome_run_of_mapped {v : Review} (hreview : (Review.run root s r).outcome w = (.ok v, w'))
    (hglobs : globsFor v.violations = []) (dry : Bool) :
    (run root s r dry).outcome w = (.ok ⟨[], false, root.under (.ofText s.systemFile)⟩, w') := by
  rw [run, outcome_bind_of_ok hreview]
  dsimp only
  rw [hglobs]
  rfl

/-- Globs are added to the text that the system file shows. -/
theorem outcome_patch (h : Prepared listed root s loc system w) (globs : List String) :
    (patch (root.under (.ofText s.systemFile)) globs).outcome w =
      (writeText (root.under (.ofText s.systemFile)) (insert system globs)).outcome w := by
  obtain ⟨_, hstands⟩ := h.stands
  rw [patch, outcome_bind_of_ok (outcome_readText hstands.system), String.ofList_toList]

theorem wrote_of_patch (hs : UsualPaths s) (h : Prepared listed root s loc system w)
    (hpatch : (patch (root.under (.ofText s.systemFile)) globs).outcome w = (.ok (), w')) :
    w.Wrote (loc ++ ["system.intent"]) (Text.encodeUtf8 (insert system globs).toList) w' := by
  obtain ⟨_, hstands⟩ := h.stands
  rw [outcome_patch h] at hpatch
  obtain ⟨-, l, hloc, hwrote⟩ := wrote_of_writeText hpatch
  obtain rfl := Except.ok.inj (hloc.symm.trans (hstands.locate_system hs h.leads))
  exact hwrote

/-! ### A fix that is applied -/

theorem not_mem_of_stands (h : Prepared listed root s loc system w) : '\r' ∉ system.toList := by
  obtain ⟨_, hstands⟩ := h.stands
  obtain ⟨_, raw, -, -, hraw⟩ := hstands.system
  rw [hraw]
  exact Text.not_mem_unifyLineEnds raw

/-- A listed path is on one line, and so is its glob. -/
theorem not_mem_glob_of_listed {path : String} (hpath : path ∈ Change.listedPaths listed.toList) :
    '\r' ∉ (suggestGlob path).toList := by
  intro h
  rcases mem_of_mem_suggestGlob h with hmem | heq | heq
  · exact absurd (Change.isLineBreak_of_mem_listedPaths hpath _ hmem) (by decide)
  · cases heq
  · cases heq

/-- **What an applied fix has done.**  It has had a review and added the globs for its files without a
domain, of which there are some, and the next review can be had. -/
theorem ready_of_applied (hs : UsualPaths s) (hr : r.IsPlain)
    (hg : Prepared listed root s loc system g) (hread : Architecture.read system = .ok a)
    (hproblems : a.problems = []) (hrun : (run root s r false).outcome g = (.ok report, w))
    (happlied : report.isApplied = true) :
    report.globs ≠ [] ∧ report.systemPath = root.under (.ofText s.systemFile) ∧
      Ready g listed root s loc (insert system report.globs) w ∧
      ∃ body, ((account s r).outcome g).1 = .ok body ∧
        report.globs =
          globsFor (reviewed s r a (Change.listedPaths listed.toList) body).violations ∧
        hasHalf (planText
          (reviewed s r a (Change.listedPaths listed.toList) body).plan).toList = false := by
  obtain ⟨v, w₁, hreview, hglobs, hpatch, rfl⟩ := applied_iff.mp ⟨hrun, happlied⟩
  obtain ⟨v₀, hdry, hviolations, hbytes, hready⟩ := hg.ready_of_run hs hr hreview
  rw [Review.outcome_dry hr hg hread hproblems] at hdry
  match hbody : ((account s r).outcome g).1 with
  | .error failure =>
      rw [hbody] at hdry
      cases hdry
  | .ok body =>
      rw [hbody] at hdry
      obtain rfl := Except.ok.inj hdry
      have hlines : '\r' ∉ (insert system (globsFor v.violations)).toList := by
        rw [insert, String.toList_ofList]
        refine not_mem_insertChars (not_mem_of_stands hg) fun glob hglob => ?_
        rw [hviolations] at hglob
        obtain ⟨path, hpath, -, rfl⟩ := mem_globsFor_iff.mp hglob
        exact not_mem_glob_of_listed hpath
      have hready' := hready.write_system hs (wrote_of_patch hs hready.toPrepared hpatch)
        (Text.decodeUtf8_encodeUtf8 _) (Text.unifyLineEnds_eq_self hlines).symm
      exact ⟨hglobs, rfl, hready', body, rfl, congrArg globsFor hviolations, hbytes⟩

/-- A fix is applied if there is a file without a domain and what it writes has bytes. -/
theorem exists_applied (hs : UsualPaths s) (hr : r.IsPlain) (hg : g.Unversioned listed)
    (h : Ready g listed root s loc system w) (hread : Architecture.read system = .ok a)
    (hproblems : a.problems = []) {body : String} (hbody : ((account s r).outcome g).1 = .ok body)
    (hbytes : hasHalf (planText
      (reviewed s r a (Change.listedPaths listed.toList) body).plan).toList = false)
    (hglobs : globsFor (reviewed s r a (Change.listedPaths listed.toList) body).violations = globs)
    (hne : globs ≠ []) (hbytes' : hasHalf (insert system globs).toList = false) :
    ∃ w', (run root s r false).outcome w =
      (.ok ⟨globs, true, root.under (.ofText s.systemFile)⟩, w') := by
  obtain ⟨v, w₁, hreview, hviolations, hready, -⟩ :=
    h.exists_run hs hr hg hread hproblems hbody hbytes
  rw [← hviolations] at hglobs
  subst hglobs
  obtain ⟨_, hstands⟩ := hready.stands
  obtain ⟨bytes, hlook⟩ := hstands.isFile
  have hloc := hstands.locate_system hs hready.leads
  rw [Files.look_of_locate hloc] at hlook
  have hfree : w₁.files.at? (loc ++ ["system.intent"]) ≠ some .directory := by
    rw [Except.ok.inj hlook]
    nofun
  obtain ⟨w', hwrite, -⟩ := exists_writeText hloc hfree hbytes'
  rw [← outcome_patch hready.toPrepared] at hwrite
  exact ⟨w', (applied_iff.mpr ⟨v, w₁, hreview, hne, hwrite, rfl⟩).1⟩

/-! ### The next review -/

/-- The domain of a listed file is called like one of the system. -/
theorem hasHalf_of_mem_fileDomain (hnames : ∀ d ∈ ds, hasHalf d.name.toList = false)
    {action : Action} (haction : action ∈ paths.map (Change.ofPath ds)) :
    ∀ name ∈ action.fileDomain, hasHalf name.toList = false := by
  obtain ⟨path, -, rfl⟩ := List.mem_map.mp haction
  intro name hname
  obtain ⟨d, hd, rfl⟩ := Domain.exists_of_owner? hname
  exact hnames d hd

/-- If the plan of a review has bytes, then so has the plan for the same files under another system of
the same version: the task is the same, but for the domain of most files. -/
theorem hasHalf_reviewed {a' : Architecture} {body : String} (hversion : a'.version = a.version)
    (hnames : ∀ d ∈ a'.domains, hasHalf d.name.toList = false)
    (hpaths : ∀ path ∈ paths, hasHalf path.toList = false)
    (h : hasHalf (planText (reviewed s r a paths body).plan).toList = false) :
    hasHalf (planText (reviewed s r a' paths body).plan).toList = false := by
  rw [Plan.hasHalf_planText, List.any_eq_false, Plan.said] at h
  simp only [List.forall_mem_cons, List.forall_mem_append, Bool.not_eq_true,
    Option.mem_toList] at h
  obtain ⟨hbytes, ⟨hdomain, htags⟩, -⟩ := h
  have hplan (a : Architecture) : (reviewed s r a paths body).plan.version =
      ((some a.version).filter (!·.isEmpty)).getD Plan.defaultVersion := rfl
  obtain ⟨htags', hdomain'⟩ := Scope.domain_task {
    explicit := r.scope, body, labels := r.labels, actions := paths.map (Change.ofPath a.domains),
    defaultTags := s.defaultTags } (paths.map (Change.ofPath a'.domains))
  have hfiles : ∀ action ∈ paths.map (Change.ofPath a'.domains),
      hasHalf action.path.toList = false ∧ ∀ d ∈ action.fileDomain, hasHalf d.toList = false := by
    refine fun action haction => ⟨?_, hasHalf_of_mem_fileDomain hnames haction⟩
    obtain ⟨path, hpath, rfl⟩ := List.mem_map.mp haction
    exact hpaths path hpath
  refine Starter.hasHalf_planText rfl ?_ (fun d hd => ?_) ?_ hfiles
  · rwa [hplan, hversion, ← hplan]
  · rcases hdomain' with hsame | hmajority
    · exact hdomain d (hsame.symm.trans hd)
    · obtain ⟨hvote, -⟩ := Scope.majority?_eq_some_iff.mp (hmajority.symm.trans hd)
      obtain ⟨action, haction, hname⟩ := List.mem_filterMap.mp (List.mem_of_mem_filter hvote)
      exact (hfiles action haction).2 d hname
  · intro tag htag
    exact htags tag (htags' ▸ htag)

/-- The plan of a review holds the paths of the files without a domain. -/
theorem hasHalf_of_unmapped {body path : String}
    (h : hasHalf (planText (reviewed s r a paths body).plan).toList = false)
    (hpath : path ∈ paths) (hnone : Domain.owner? a.domains path = none) :
    hasHalf path.toList = false := by
  obtain ⟨v, hv, -, rfl⟩ := mem_unmapped_iff.mpr ⟨hpath, hnone⟩
  rw [Plan.hasHalf_planText, List.any_eq_false] at h
  refine Bool.not_eq_true _ ▸ h v.evidence.path ?_
  have hsaid : v.evidence.path ∈ (reviewed s r a paths body).plan.violations.flatMap (·.texts) := by
    refine List.mem_flatMap.mpr ⟨Plan.entry v, List.mem_map_of_mem hv, ?_⟩
    simp [PlanEntry.texts, Plan.entry]
  exact List.mem_cons_of_mem _ (List.mem_append_right _ hsaid)

/-! ### Convergence -/

/-- Where every file has a domain there is nothing to fix, and the system file stays as it is. -/
theorem run_of_owned (hs : UsualPaths s) (hr : r.IsPlain) (hg : g.Unversioned listed)
    (h : Ready g listed root s loc system w) (hread : Architecture.read system = .ok a)
    (hproblems : a.problems = []) {body : String} (hbody : ((account s r).outcome g).1 = .ok body)
    (hbytes : hasHalf (planText
      (reviewed s r a (Change.listedPaths listed.toList) body).plan).toList = false)
    (howner : ∀ path ∈ Change.listedPaths listed.toList, Domain.owner? a.domains path ≠ none) :
    ∃ v w', (Review.run root s r).outcome w = (.ok v, w') ∧
      (∀ x ∈ v.violations, x.code ≠ "UnknownDomainFile") ∧
      (run root s r false).outcome w =
        (.ok ⟨[], false, root.under (.ofText s.systemFile)⟩, w') ∧
      w'.files.content? (loc ++ ["system.intent"]) = w.files.content? (loc ++ ["system.intent"]) ∧
      Ready g listed root s loc system w' := by
  obtain ⟨v, w', hreview, hviolations, hready, hothers⟩ :=
    h.exists_run hs hr hg hread hproblems hbody hbytes
  have hnone : globsFor v.violations = [] := by
    rw [List.eq_nil_iff_forall_not_mem, hviolations]
    intro glob hmem
    obtain ⟨path, hpath, hnone, -⟩ := mem_globsFor_iff.mp hmem
    exact howner path hpath hnone
  have hsystem : loc ++ ["system.intent"] ≠ loc ++ ["intent.plan.json"] := by simp
  refine ⟨v, w', hreview, fun x hx hcode => ?_, outcome_run_of_mapped hreview hnone false,
    hothers _ hsystem, hready⟩
  rw [hviolations] at hx
  obtain ⟨hpath, hnone⟩ := mem_unmapped_iff.mp ⟨x, hx, hcode, rfl⟩
  exact howner _ hpath hnone

/-- **A fix converges.**  In a repository under the starter policy, with a valid system file that
shows the place for globs and with listed changes, suppose that a fix is applied.  Then the system
file can be read and has no problems, the next review finds no file without a domain, and another
fix, be it behind that review or not, finds no globs and leaves the system file as it is. -/
theorem converges (hs : UsualPaths s) (hr : r.IsPlain) (hg : Prepared listed root s loc system g)
    (hread : Architecture.read system = .ok a) (hproblems : a.problems = [])
    (hplace : ShowsPlace system.toList a)
    (hmapped : ∀ path ∈ Change.listedPaths listed.toList, Domain.owner? a.domains path ≠ none →
      hasHalf path.toList = false)
    (hunmapped : ∀ path ∈ Change.listedPaths listed.toList, Domain.owner? a.domains path = none →
      IsGlobbable path)
    (hrun : (run root s r false).outcome g = (.ok report, w)) (happlied : report.isApplied = true) :
    (Repository.specs root s).outcome w =
        (.ok ⟨a.withUnmapped report.globs, [policySet]⟩, w) ∧
      ∃ v w', (Review.run root s r).outcome w = (.ok v, w') ∧
        (∀ x ∈ v.violations, x.code ≠ "UnknownDomainFile") ∧
        ∀ w₁ ∈ [w, w'], ∃ w₂,
          (run root s r false).outcome w₁ = (.ok ⟨[], false, report.systemPath⟩, w₂) ∧
          w₂.files.content? (loc ++ ["system.intent"]) =
            w.files.content? (loc ++ ["system.intent"]) := by
  obtain ⟨hne, hpath, hready, body, hbody, hglobs, hbytes⟩ :=
    ready_of_applied hs hr hg hread hproblems hrun happlied
  have hglob {path : String} (hpath : path ∈ Change.listedPaths listed.toList)
      (hnone : Domain.owner? a.domains path = none) : suggestGlob path ∈ report.globs := by
    rw [hglobs]
    exact mem_globsFor_iff.mpr ⟨path, hpath, hnone, rfl⟩
  have hplain : Architecture.Plain report.globs := by
    intro glob hmem
    rw [hglobs] at hmem
    obtain ⟨path, hpath, hnone, rfl⟩ := mem_globsFor_iff.mp hmem
    exact ⟨(hunmapped path hpath hnone).quote, not_mem_suggestGlob path⟩
  have hsound := Architecture.problems_eq_nil_iff.mp hproblems
  have hproblems' := Architecture.problems_eq_nil_iff.mpr (sound_withUnmapped hsound hne)
  have hinserted : Architecture.read (insert system report.globs) =
      .ok (a.withUnmapped report.globs) := by
    rw [← system.ofList_toList] at hread
    exact read_insertChars hread hsound hplace hne hplain _
  -- Every file has a domain now.
  have howner : ∀ path ∈ Change.listedPaths listed.toList,
      Domain.owner? (a.withUnmapped report.globs).domains path ≠ none := by
    refine fun path hpath => owner?_withUnmapped_ne_none fun hnone => ⟨hglob hpath hnone, ?_⟩
    have hline : '\n' ∉ path.toList := fun hmem =>
      absurd (Change.isLineBreak_of_mem_listedPaths hpath _ hmem) (by decide)
    exact accepts_suggestGlob (hunmapped path hpath hnone).backslash hline
  have hbytes' : hasHalf (planText (reviewed s r (a.withUnmapped report.globs)
      (Change.listedPaths listed.toList) body).plan).toList = false := by
    have hversion : (a.withUnmapped report.globs).version = a.version := rfl
    refine hasHalf_reviewed hversion (fun d hd => ?_) (fun path hpath => ?_) hbytes
    · exact (Starter.portable_of_isWord (Architecture.isWord_of_read hinserted d hd)).bytes
    · by_cases hnone : Domain.owner? a.domains path = none
      · exact hasHalf_of_unmapped hbytes hpath hnone
      · exact hmapped path hpath hnone
  obtain ⟨v, w', hreview, hcodes, hfix, hsame, hready'⟩ :=
    run_of_owned hs hr hg.unversioned hready hinserted hproblems' hbody hbytes' howner
  obtain ⟨-, w₂, -, -, hfix', hsame', -⟩ :=
    run_of_owned hs hr hg.unversioned hready' hinserted hproblems' hbody hbytes' howner
  rw [hpath]
  refine ⟨hready.outcome_specs hinserted hproblems', v, w', hreview, hcodes, ?_⟩
  rw [List.forall_mem_cons, List.forall_mem_singleton]
  exact ⟨⟨w', hfix, hsame⟩, w₂, hfix', hsame'.trans hsame⟩

/-! ### One file without a domain -/

/-- A file without a domain has one violation. -/
theorem gathered_singleton {path : String} (hnone : Domain.owner? ds path = none) :
    ∃ v, Verdict.gathered [policySet] ([path].map (Change.ofPath ds)) t = [v] ∧
      v.code = "UnknownDomainFile" ∧ v.evidence.path = path := by
  have hcrossing : Starter.crossing.found? (Change.ofPath ds path) t = none :=
    Rule.found?_of_not_matches fun hm => ((Starter.crossing_matches_iff rfl).mp hm).1 hnone
  obtain ⟨v, hv⟩ := (Starter.settles_policySet _ t _ (Starter.mem_rules_policySet.mpr (.inr rfl))
    (Change.ofPath ds path) (List.mem_singleton_self _)).exists_found
      ((Starter.unmapped_matches_iff (a := Change.ofPath ds path) rfl).mpr hnone)
  have hd := (Rule.found?_eq_some_iff.mp hv).2
  refine ⟨v, ?_, hd.code, by rw [hd.evidence]; rfl⟩
  rw [Starter.gathered_policySet, List.map_singleton,
    List.filterMap_cons_none (f := (Starter.crossing.found? · t)) hcrossing,
    List.filterMap_cons_some (f := (Starter.unmapped.found? · t)) hv]
  rfl

/-- The globs of a change set of one file. -/
theorem globsFor_singleton {path : String} (hnone : Domain.owner? ds path = none) :
    globsFor (Violation.sorted
      (Verdict.gathered [policySet] ([path].map (Change.ofPath ds)) t)) = [suggestGlob path] := by
  obtain ⟨v, hgathered, hcode, hpath⟩ := gathered_singleton (t := t) hnone
  have hfixable : [v].filter (fixableCodes.contains ·.code) = [v] := by
    rw [List.filter_singleton, hcode]
    rfl
  rw [hgathered, Violation.sorted, List.mergeSort_singleton, globsFor, hfixable,
    List.map_singleton, hpath]
  rfl

/-- A system with one domain. -/
def single : Architecture := ⟨"2.0", "S", [⟨"D", ["d/**"], []⟩], []⟩

/-- The file of the system. -/
def singleText : String :=
  "intent 2.0\nsystem S\ndomain D \x7b\n  paths allow \"d/**\"\n\x7d\n"

/-- The files of a repository under the starter policy. -/
def singleFiles : Files := Starter.filled ⟨[(["repo"], .directory)]⟩ ["repo"] singleText

/-- The repository with one changed file. -/
def changed (path : String) : Workspace where
  files := singleFiles
  environment := [("CHANGED_FILES", path)]

theorem read_single : Architecture.read singleText = .ok single ∧ single.problems = [] ∧
    ShowsPlace singleText.toList single := by
  refine ⟨?_, ?_, ?_⟩ <;> decide +kernel

open Starter (repo)

theorem fresh_bare : Starter.Fresh { files := ⟨[(["repo"], .directory)]⟩ } repo ["repo"] := by
  refine ⟨⟨rfl, ?_, rfl⟩, ?_, ?_, ?_, ?_, ?_⟩ <;> decide

theorem ready_changed {path : String} (hpath : path ≠ "") :
    Ready (changed path) path repo {} ["repo"] singleText (changed path) := by
  have hfresh : Starter.Fresh { changed path with files := ⟨[(["repo"], .directory)]⟩ } repo
      ["repo"] := by
    obtain ⟨⟨habsolute, hlocate, hat⟩, hnames, hsystem, hpolicies, hempty, hroom⟩ := fresh_bare
    exact ⟨⟨habsolute, hlocate, hat⟩, hnames, hsystem, hpolicies, hempty, hroom⟩
  have hportable : Text.Portable singleText.toList := by decide
  have hlocate : singleFiles.locate (Path.root.under repo) = .ok ["repo"] := by decide
  have hplan : singleFiles.locate (Path.root.under (repo.child "intent.plan.json")) =
      .ok ["repo", "intent.plan.json"] := by decide
  have hat : singleFiles.at? ["repo"] = some .directory ∧
      singleFiles.at? ["repo", "intent.plan.json"] ≠ some .directory := by decide
  have hsetting : (changed path).setting? "CHANGED_FILES" = some path := by
    simp [changed, Workspace.setting?, Workspace.valueOf?, hpath]
  have hevent : (changed path).setting? "GITHUB_EVENT_PATH" = none := rfl
  refine ⟨⟨⟨rfl, hsetting⟩, ⟨rfl, hlocate, hat.1⟩, ⟨_, hfresh.stands hportable⟩, ?_⟩, ⟨rfl, rfl⟩,
    hplan, hat.2⟩
  rw [hevent]
  intro _ h
  cases h

theorem usualPaths_default : UsualPaths {} := ⟨rfl, rfl, rfl⟩

theorem isPlain_default : Review.Request.IsPlain {} := ⟨rfl, rfl, rfl, rfl⟩

/-- The plan for one file without a domain has bytes if its path has. -/
theorem hasHalf_changed {path : String} (hnone : Domain.owner? single.domains path = none)
    (hbytes : hasHalf path.toList = false) :
    hasHalf (planText (reviewed {} {} single [path] "").plan).toList = false := by
  have hunmapped : Change.ofPath single.domains path = { path } := by
    rw [Change.ofPath, hnone]
  have htask : (reviewed {} {} single [path] "").plan.task = ⟨none, [], .unknown⟩ := by
    unfold reviewed
    rw [List.map_singleton, hunmapped]
    rfl
  refine @Starter.hasHalf_planText ([path].map (Change.ofPath single.domains)) _ rfl ?_ ?_ ?_ ?_
  · have hversion : (reviewed {} {} single [path] "").plan.version = "2.0" := rfl
    rw [hversion]
    decide
  · rw [htask]
    nofun
  · rw [htask]
    nofun
  · rw [List.map_singleton, hunmapped, List.forall_mem_singleton]
    exact ⟨hbytes, nofun⟩

/-- A file without a domain is fixed wherever the system is read. -/
theorem exists_applied_single {path : String} (hg : g.Unversioned path)
    (hready : Ready g path repo {} ["repo"] singleText w)
    (hlisted : Change.listedPaths path.toList = [path])
    (hnone : Domain.owner? single.domains path = none) (hbytes : hasHalf path.toList = false)
    (haccount : ((account {} {}).outcome g).1 = .ok "")
    (hbytes' : hasHalf (insert singleText [suggestGlob path]).toList = false) :
    ∃ w', (run repo {} {} false).outcome w =
      (.ok ⟨[suggestGlob path], true, repo.child "system.intent"⟩, w') := by
  obtain ⟨hread, hproblems, -⟩ := read_single
  have hplan := hasHalf_changed hnone hbytes
  have hglobs : globsFor (reviewed {} {} single (Change.listedPaths path.toList) "").violations =
      [suggestGlob path] := by
    rw [hlisted]
    exact globsFor_singleton hnone
  rw [← hlisted] at hplan
  have h := exists_applied usualPaths_default isPlain_default hg hready hread hproblems haccount
    hplan hglobs (List.cons_ne_nil _ _) hbytes'
  rwa [(usualPaths_default.under repo).1] at h

theorem exists_applied_changed {path : String} (hpath : path ≠ "")
    (hlisted : Change.listedPaths path.toList = [path])
    (hnone : Domain.owner? single.domains path = none) (hbytes : hasHalf path.toList = false)
    (haccount : ((account {} {}).outcome (changed path)).1 = .ok "")
    (hbytes' : hasHalf (insert singleText [suggestGlob path]).toList = false) :
    ∃ w, (run repo {} {} false).outcome (changed path) =
      (.ok ⟨[suggestGlob path], true, repo.child "system.intent"⟩, w) :=
  have hready := ready_changed hpath
  exists_applied_single hready.unversioned hready hlisted hnone hbytes haccount hbytes'

/-- A file of a new directory gets a glob, and nothing is left to fix. -/
theorem converges_below :
    UsualPaths {} ∧ Review.Request.IsPlain {} ∧
    Prepared "a/x.py" repo {} ["repo"] singleText (changed "a/x.py") ∧
    Architecture.read singleText = .ok single ∧ single.problems = [] ∧
    ShowsPlace singleText.toList single ∧
    Change.listedPaths "a/x.py".toList = ["a/x.py"] ∧
    Domain.owner? single.domains "a/x.py" = none ∧ IsGlobbable "a/x.py" ∧
    ∃ w, (run repo {} {} false).outcome (changed "a/x.py") =
        (.ok ⟨["a/**"], true, repo.child "system.intent"⟩, w) ∧
      (Repository.specs repo {}).outcome w = (.ok ⟨⟨"2.0", "S", [⟨"D", ["d/**"], []⟩,
        ⟨"Unmapped", ["a/**"], []⟩], []⟩, [policySet]⟩, w) ∧
      ∃ w₂, (run repo {} {} false).outcome w =
        (.ok ⟨[], false, repo.child "system.intent"⟩, w₂) := by
  have hg := (@ready_changed "a/x.py" (by decide)).toPrepared
  obtain ⟨hread, hproblems, hplace⟩ := read_single
  have hlisted : Change.listedPaths "a/x.py".toList = ["a/x.py"] := by decide +kernel
  have hnone : Domain.owner? single.domains "a/x.py" = none := by decide +kernel
  have hglob : suggestGlob "a/x.py" = "a/**" := by decide +kernel
  have hglobbable : IsGlobbable "a/x.py" := by constructor <;> decide +kernel
  obtain ⟨w, hrun⟩ := exists_applied_changed (by decide) hlisted hnone (by decide +kernel) rfl
    (by decide +kernel)
  rw [hglob] at hrun
  have hmapped : ∀ path ∈ Change.listedPaths "a/x.py".toList,
      Domain.owner? single.domains path ≠ none → hasHalf path.toList = false := by
    rw [hlisted, List.forall_mem_singleton]
    exact fun h => absurd hnone h
  have hunmapped : ∀ path ∈ Change.listedPaths "a/x.py".toList,
      Domain.owner? single.domains path = none → IsGlobbable path := by
    rw [hlisted, List.forall_mem_singleton]
    exact fun _ => hglobbable
  obtain ⟨hspecs, _, _, -, -, hfix⟩ := @converges (changed "a/x.py") w "a/x.py" singleText repo {}
    ["repo"] single {} ⟨["a/**"], true, repo.child "system.intent"⟩ usualPaths_default
    isPlain_default hg hread hproblems hplace hmapped hunmapped hrun rfl
  have hsystem : single.withUnmapped ["a/**"] =
      ⟨"2.0", "S", [⟨"D", ["d/**"], []⟩, ⟨"Unmapped", ["a/**"], []⟩], []⟩ := by decide +kernel
  rw [hsystem] at hspecs
  obtain ⟨w₂, hfix, -⟩ := hfix w List.mem_cons_self
  exact ⟨usualPaths_default, isPlain_default, hg, hread, hproblems, hplace, hlisted, hnone,
    hglobbable, w, hrun, hspecs, w₂, hfix⟩

/-- A backslash is a slash where a glob is made and a character where the owner is looked for, so
the file has no domain behind the fix, and the next one adds the glob again. -/
theorem converges_backslash :
    UsualPaths {} ∧ Review.Request.IsPlain {} ∧
    Prepared "a\\x.py" repo {} ["repo"] singleText (changed "a\\x.py") ∧
    Architecture.read singleText = .ok single ∧ single.problems = [] ∧
    ShowsPlace singleText.toList single ∧
    ∃ w w₂, (run repo {} {} false).outcome (changed "a\\x.py") =
        (.ok ⟨["a/**"], true, repo.child "system.intent"⟩, w) ∧
      (run repo {} {} false).outcome w =
        (.ok ⟨["a/**"], true, repo.child "system.intent"⟩, w₂) := by
  have hready := @ready_changed "a\\x.py" (by decide)
  obtain ⟨hread, hproblems, hplace⟩ := read_single
  have hlisted : Change.listedPaths "a\\x.py".toList = ["a\\x.py"] := by decide +kernel
  have hnone : Domain.owner? single.domains "a\\x.py" = none := by decide +kernel
  have hbytes : hasHalf "a\\x.py".toList = false := by decide +kernel
  have haccount : ((account {} {}).outcome (changed "a\\x.py")).1 = .ok "" := rfl
  obtain ⟨w, hrun⟩ := exists_applied_changed (by decide) hlisted hnone hbytes haccount
    (by decide +kernel)
  have hglob : suggestGlob "a\\x.py" = "a/**" := by decide +kernel
  rw [hglob] at hrun
  obtain ⟨-, -, hready', -⟩ := ready_of_applied usualPaths_default isPlain_default
    hready.toPrepared hread hproblems hrun rfl
  -- The next fix sees the system with the glob.
  have hread' : Architecture.read (insert singleText ["a/**"]) =
      .ok (single.withUnmapped ["a/**"]) := by decide +kernel
  have hproblems' : (single.withUnmapped ["a/**"]).problems = [] := by decide +kernel
  have hnone' : Domain.owner? (single.withUnmapped ["a/**"]).domains "a\\x.py" = none := by
    decide +kernel
  have hversion : (single.withUnmapped ["a/**"]).version = single.version := rfl
  have hplan := hasHalf_reviewed hversion (by decide +kernel)
    (List.forall_mem_singleton.mpr hbytes) (hasHalf_changed hnone hbytes)
  have hglobs : globsFor (reviewed {} {} (single.withUnmapped ["a/**"])
      (Change.listedPaths "a\\x.py".toList) "").violations = ["a/**"] := by
    rw [hlisted, ← hglob]
    exact globsFor_singleton hnone'
  rw [← hlisted] at hplan
  obtain ⟨w₂, hrun'⟩ := exists_applied usualPaths_default isPlain_default hready.unversioned
    hready' hread' hproblems' haccount hplan hglobs (List.cons_ne_nil _ _) (by decide +kernel)
  rw [(usualPaths_default.under repo).1] at hrun'
  exact ⟨usualPaths_default, isPlain_default, hready.toPrepared, hread, hproblems, hplace, w, w₂,
    hrun, hrun'⟩

end Fix

end ChangeGate
