import ChangeGate.Proofs.Fix.Cover

/-! # Files that keep their domain

Globs that are added for files without a domain are claims as well, on every file that they accept,
and a longer one beats a shorter one: a file keeps its domain unless one of the new globs beats all
those that accepted it (`owner?_withUnmapped`).

Among globs for whole directories none does: one that is longer and accepts the same file is for a
directory further down, so the file that it was suggested for had a domain
(`owner?_withUnmapped_suggestGlob`). -/

namespace ChangeGate.Fix

open Domain (Claim claims mem_claims mem_claims_iff owner? owner?_eq_some_iff owner?_eq_none_iff)
open Glob (accepts accepts_directory_iff accepts_literal_iff IsLiteral)

variable {ds : List Domain} {s : Architecture} {globs paths : List String} {path name glob : String}

/-! ### Globs that take files over -/

/-- A glob of `Unmapped` takes a file over from the domains: it accepts the file and is longer than
every glob of theirs that does, or as long and `Unmapped` comes before the name of the domain. -/
def TakesOver (ds : List Domain) (path glob : String) : Prop :=
  accepts glob path = true ∧ ∀ d ∈ ds, ∀ g ∈ d.allow, accepts g path = true →
    g.length < glob.length ∨ g.length = glob.length ∧ "Unmapped" < d.name

instance (ds : List Domain) (path glob : String) : Decidable (TakesOver ds path glob) :=
  inferInstanceAs (Decidable (_ ∧ _))

theorem takesOver_iff : TakesOver ds path glob ↔ accepts glob path = true ∧
    ∀ c ∈ ds.flatMap (claims path), (⟨"Unmapped", glob.length⟩ : Claim).Beats c := by
  rw [TakesOver]
  refine and_congr_right fun _ => ⟨fun h c hc => ?_, fun h d hd g hg haccepts => ?_⟩
  · obtain ⟨d, hd, g, hg, haccepts, rfl⟩ := mem_claims_iff.mp hc
    exact h d hd g hg haccepts
  · exact h _ (mem_claims_iff.mpr ⟨d, hd, g, hg, haccepts, rfl⟩)

/-- A file that has a domain keeps it, unless a new glob takes it over. -/
theorem owner?_withUnmapped (hmissing : "Unmapped" ∉ s.domains.map (·.name))
    (howner : owner? s.domains path = some name) :
    owner? (s.withUnmapped globs).domains path =
      some (if ∃ glob ∈ globs, TakesOver s.domains path glob then "Unmapped" else name) := by
  have hdomains : (s.withUnmapped globs).domains = s.domains ++ [⟨"Unmapped", globs, []⟩] :=
    if_neg hmissing
  have hclaims (c : Claim) : c ∈ (s.withUnmapped globs).domains.flatMap (claims path) ↔
      c ∈ s.domains.flatMap (claims path) ∨ c ∈ claims path ⟨"Unmapped", globs, []⟩ := by
    rw [hdomains, List.flatMap_append, List.flatMap_singleton, List.mem_append]
  split
  · rename_i htaken
    obtain ⟨glob, hglob, htakes⟩ := htaken
    obtain ⟨haccepts, hbeats⟩ := takesOver_iff.mp htakes
    have hne : owner? (s.withUnmapped globs).domains path ≠ none := by
      refine owner?_withUnmapped_ne_none fun hnone => ?_
      rw [hnone] at howner
      cases howner
    obtain ⟨name', howner'⟩ := Option.ne_none_iff_exists'.mp hne
    obtain ⟨c, hc, rfl, hbest⟩ := owner?_eq_some_iff.mp howner'
    rcases (hclaims c).mp hc with hold | hnew
    · have hmem := (hclaims ⟨"Unmapped", glob.length⟩).mpr
        (.inr (mem_claims.mpr ⟨glob, hglob, haccepts, rfl⟩))
      exact absurd (hbeats c hold) (hbest _ hmem)
    · obtain ⟨_, -, -, rfl⟩ := mem_claims.mp hnew
      exact howner'
  · rename_i hkept
    obtain ⟨c, hc, rfl, hbest⟩ := owner?_eq_some_iff.mp howner
    refine owner?_eq_some_iff.mpr ⟨c, (hclaims c).mpr (.inl hc), rfl, fun x hx hbeats => ?_⟩
    rcases (hclaims x).mp hx with hold | hnew
    · exact hbest x hold hbeats
    · obtain ⟨glob, hglob, haccepts, rfl⟩ := mem_claims.mp hnew
      refine hkept ⟨glob, hglob, takesOver_iff.mpr ⟨haccepts, fun y hy => ?_⟩⟩
      by_cases hcy : c.Beats y
      · exact hbeats.trans hcy
      · rwa [← Claim.eq_of_not_beats hcy (hbest y hy)]

/-! ### Globs for whole directories -/

/-- A glob for all files below a directory. -/
def IsDirectoryGlob (glob : String) : Prop :=
  ∃ dir, IsLiteral dir ∧ glob = String.ofList (dir ++ "/**".toList)

/-- A path that holds no wildcard, no backslash and no line feed. -/
structure IsOrdinary (path : String) : Prop where
  literal : IsLiteral path.toList
  backslash : '\\' ∉ path.toList
  lineFeed : '\n' ∉ path.toList

/-- The directory of a glob that is no longer than another one for the same file holds that of the
other one. -/
theorem exists_below {dir dirs file file' : List Char}
    (h : dir ++ '/' :: file = dirs ++ '/' :: file') (hle : dir.length ≤ dirs.length) :
    ∃ between, dirs ++ ['/'] = dir ++ '/' :: between := by
  rw [List.append_cons dir, List.append_cons dirs] at h
  obtain ⟨between, hbetween⟩ := List.prefix_of_prefix_length_le (List.prefix_append _ file)
    (h ▸ List.prefix_append (dirs ++ ['/']) file') (by simpa using hle)
  exact ⟨between, by rw [← hbetween, List.append_assoc, List.singleton_append]⟩

/-- Where the domains have whole directories, no glob for a file without a domain takes over a file
that has one. -/
theorem not_takesOver_suggestGlob {file : String}
    (hdirs : ∀ d ∈ ds, ∀ g ∈ d.allow, IsDirectoryGlob g) (hfile : IsOrdinary file)
    (hnone : owner? ds file = none) (howner : owner? ds path = some name) :
    ¬ TakesOver ds path (suggestGlob file) := by
  rintro ⟨haccepts, hbeats⟩
  rcases suggestGlob_eq file with ⟨heq, -⟩ | ⟨dirs, rest, hsplit, heq, -⟩
  · rw [heq, accepts_literal_iff hfile.literal] at haccepts
    rw [haccepts, hnone] at howner
    cases howner
  · rw [forwardSlashes_eq_self hfile.backslash] at hsplit
    have hliteral : IsLiteral dirs := by
      have hall := hfile.literal
      rw [hsplit] at hall
      exact ⟨fun h => hall.1 (List.mem_append_left _ h), fun h => hall.2 (List.mem_append_left _ h)⟩
    rw [heq, accepts_directory_iff hliteral] at haccepts
    obtain ⟨below, hpath, -⟩ := haccepts
    obtain ⟨c, hc, -, -⟩ := owner?_eq_some_iff.mp howner
    obtain ⟨d, hd, g, hg, hgpath, -⟩ := mem_claims_iff.mp hc
    have hlength : g.length ≤ (suggestGlob file).length := by
      have hlonger := hbeats d hd g hg hgpath
      omega
    obtain ⟨dir, hdir, rfl⟩ := hdirs d hd g hg
    obtain ⟨below', hpath', -⟩ := (accepts_directory_iff hdir).mp hgpath
    rw [heq] at hlength
    obtain ⟨between, hbetween⟩ := exists_below (hpath'.symm.trans hpath) (by simpa using hlength)
    -- The file without a domain is below the directory as well.
    have hbelow : file.toList = dir ++ '/' :: (between ++ rest) := by
      rw [hsplit, List.append_cons, hbetween, List.append_assoc, List.cons_append]
    have hline : '\n' ∉ between ++ rest := fun hmem =>
      hfile.lineFeed (hbelow ▸ List.mem_append_right _ (List.mem_cons_of_mem _ hmem))
    have hrefuse := owner?_eq_none_iff.mp hnone d hd _ hg
    rw [(accepts_directory_iff hdir).mpr ⟨_, hbelow, hline⟩] at hrefuse
    cases hrefuse

/-- **Files keep their domain when globs are added for files without one**, but for those that one
of the new globs takes over: these go to `Unmapped`.  None does where the domains have whole
directories and the paths of the files without a domain are ordinary. -/
theorem owner?_withUnmapped_suggestGlob (hmissing : "Unmapped" ∉ s.domains.map (·.name))
    (hpaths : ∀ file ∈ paths, owner? s.domains file = none)
    (howner : owner? s.domains path = some name) :
    owner? (s.withUnmapped (paths.map suggestGlob)).domains path =
        some (if ∃ file ∈ paths, TakesOver s.domains path (suggestGlob file) then "Unmapped"
          else name) ∧
      ((∀ d ∈ s.domains, ∀ g ∈ d.allow, IsDirectoryGlob g) → (∀ file ∈ paths, IsOrdinary file) →
        owner? (s.withUnmapped (paths.map suggestGlob)).domains path = some name) := by
  have hnew : owner? (s.withUnmapped (paths.map suggestGlob)).domains path =
      some (if ∃ file ∈ paths, TakesOver s.domains path (suggestGlob file) then "Unmapped"
        else name) := by
    rw [owner?_withUnmapped hmissing howner]
    simp only [List.mem_map, exists_exists_and_eq_and]
  refine ⟨hnew, fun hdirs hordinary => ?_⟩
  rw [hnew, if_neg]
  rintro ⟨file, hfile, htakes⟩
  exact not_takesOver_suggestGlob hdirs (hordinary file hfile) (hpaths file hfile) howner htakes

/-- A system whose only domain has the notes of every directory. -/
def notes : Architecture := ⟨"2.0", "S", [⟨"Notes", ["**/*.md"], []⟩], []⟩

/-- The glob for a source file is longer than the one for the notes, and takes over those that stand
beside it. -/
theorem owner?_notes :
    notes.problems = [] ∧ "Unmapped" ∉ notes.domains.map (·.name) ∧
    owner? notes.domains "src/app/main.py" = none ∧
    owner? notes.domains "src/app/notes.md" = some "Notes" ∧
    owner? (notes.withUnmapped (["src/app/main.py"].map suggestGlob)).domains "src/app/notes.md" =
      some "Unmapped" := by
  decide +kernel

/-- A system whose only domain has a whole directory. -/
def apps : Architecture := ⟨"2.0", "S", [⟨"App", ["src/app/**"], []⟩], []⟩

/-- The glob for a file in the directory above accepts the files of the domain, but is shorter. -/
theorem owner?_withUnmapped_apps :
    "Unmapped" ∉ apps.domains.map (·.name) ∧
    (∀ file ∈ ["src/main.py"], owner? apps.domains file = none) ∧
    owner? apps.domains "src/app/x.py" = some "App" ∧
    accepts (suggestGlob "src/main.py") "src/app/x.py" = true ∧
    owner? (apps.withUnmapped (["src/main.py"].map suggestGlob)).domains "src/app/x.py" =
      some "App" := by
  have hmissing : "Unmapped" ∉ apps.domains.map (·.name) := by decide
  have hpaths : ∀ file ∈ ["src/main.py"], owner? apps.domains file = none := by decide +kernel
  have howner : owner? apps.domains "src/app/x.py" = some "App" := by decide +kernel
  have hdir : IsLiteral "src/app".toList := by
    unfold IsLiteral
    decide
  have hdirs : ∀ d ∈ apps.domains, ∀ g ∈ d.allow, IsDirectoryGlob g := by
    simp only [apps, List.forall_mem_singleton]
    exact ⟨_, hdir, by decide⟩
  have hordinary : ∀ file ∈ ["src/main.py"], IsOrdinary file := by
    rw [List.forall_mem_singleton]
    refine ⟨?_, by decide, by decide⟩
    unfold IsLiteral
    decide
  have hkept := (owner?_withUnmapped_suggestGlob hmissing hpaths howner).2 hdirs hordinary
  exact ⟨hmissing, hpaths, howner, by decide +kernel, hkept⟩

end ChangeGate.Fix
