import ChangeGate.Diff
import ChangeGate.Fix.Globs
import ChangeGate.Proofs.Fix.Insertion
import ChangeGate.Proofs.Glob.Owner
import ChangeGate.Proofs.Glob.Segments
import ChangeGate.Proofs.Text.Lines

/-! # What the suggested globs cover

The glob that is suggested for a file accepts it, unless it takes over a backslash and reads it as a
slash (`accepts_suggestGlob`).  Where the path holds no wildcards either, it accepts the file itself
or what is below its first directories, and nothing else (`accepts_suggestGlob_iff`).  Files keep
having a domain when globs are added, and those that the globs are for have one then
(`owner?_withUnmapped_ne_none`). -/

namespace ChangeGate.Fix

open Diff (forwardSlashes)
open Glob (accepts accepts_literal_iff accepts_directory_iff IsLiteral)

/-! ### The glob for a file -/

theorem mem_forwardSlashes {c : Char} {cs : List Char} (h : c ∈ forwardSlashes cs) :
    c ∈ cs ∨ c = '/' := by
  obtain ⟨d, hd, rfl⟩ := List.mem_map.mp h
  split
  · exact .inr rfl
  · exact .inl hd

theorem forwardSlashes_eq_self {cs : List Char} (h : '\\' ∉ cs) : forwardSlashes cs = cs := by
  rw [forwardSlashes]
  conv_rhs => rw [← List.map_id cs]
  refine List.map_congr_left fun c hc => if_neg ?_
  rintro rfl
  exact h hc

/-- The first directories of a path, two of them or the one that there is. -/
def firstDirectories (cs : List Char) : List Char :=
  ['/'].intercalate ((Text.splitAt '/' cs).dropLast.take 2)

/-- The glob for a file is its path, if that has no directory, or one for all files below its first
directories. -/
theorem suggestGlob_eq (path : String) :
    suggestGlob path = path ∧ '/' ∉ forwardSlashes path.toList ∨
      ∃ dirs file, forwardSlashes path.toList = dirs ++ '/' :: file ∧
        suggestGlob path = String.ofList (dirs ++ "/**".toList) ∧
          dirs = firstDirectories (forwardSlashes path.toList) := by
  unfold suggestGlob firstDirectories
  rw [← forwardSlashes]
  have hpath := Text.intercalate_splitAt '/' (forwardSlashes path.toList)
  have hne := Text.splitAt_ne_nil '/' (forwardSlashes path.toList)
  have hsegments : ∀ l ∈ Text.splitAt '/' (forwardSlashes path.toList), '/' ∉ l :=
    fun _ => Text.not_mem_of_mem_splitAt
  dsimp only
  generalize Text.splitAt '/' (forwardSlashes path.toList) = segments at hpath hne hsegments ⊢
  obtain ⟨file, hfile⟩ := (List.take_prefix 2 _).trans (List.dropLast_prefix segments)
  have hlength : (segments.dropLast.take 2).length < segments.length := by
    have htake := List.length_take_le' 2 segments.dropLast
    have hpos := List.length_pos_iff.mpr hne
    rw [List.length_dropLast] at htake
    omega
  cases hdirs : segments.dropLast.take 2 with
  | nil =>
      have hlast : segments = [segments.getLast hne] := by
        have hnil : segments.dropLast = [] := by simpa using hdirs
        simpa [hnil] using (List.dropLast_append_getLast hne).symm
      have hfile := hsegments _ (List.getLast_mem hne)
      rw [hlast, List.intercalate_singleton] at hpath
      exact .inl ⟨rfl, hpath ▸ hfile⟩
  | cons dir dirs =>
      rw [hdirs] at hfile hlength
      have hbelow : file ≠ [] := by
        rintro rfl
        rw [List.append_nil] at hfile
        rw [hfile] at hlength
        omega
      rw [← hfile, Text.intercalate_append (List.cons_ne_nil _ _) hbelow,
        List.singleton_append] at hpath
      exact .inr ⟨_, _, hpath.symm, rfl, rfl⟩

/-- A path whose glob can be written and read: no quote stands in the glob, and no backslash in the
part of the path that the glob takes over. -/
structure IsGlobbable (path : String) : Prop where
  quote : '"' ∉ (suggestGlob path).toList
  backslash : '\\' ∉ path.toList.take ((suggestGlob path).toList.length - 2)

/-- **The glob for a file accepts it**, if its path is on one line and the glob takes over no
backslash. -/
theorem accepts_suggestGlob {path : String}
    (hslash : '\\' ∉ path.toList.take ((suggestGlob path).toList.length - 2))
    (hline : '\n' ∉ path.toList) : accepts (suggestGlob path) path = true := by
  rcases suggestGlob_eq path with ⟨heq, -⟩ | ⟨dirs, file, hpath, heq, -⟩
  · rw [heq]
    exact Glob.accepts_self path
  · have hlength : (suggestGlob path).toList.length - 2 = (dirs ++ ['/']).length := by
      rw [heq, String.toList_ofList]
      simp
    rw [hlength] at hslash
    have hfront : forwardSlashes (path.toList.take (dirs ++ ['/']).length) = dirs ++ ['/'] := by
      rw [forwardSlashes, List.map_take, ← forwardSlashes, hpath, List.append_cons dirs '/' file,
        List.take_left' rfl]
    rw [forwardSlashes_eq_self hslash] at hfront
    obtain ⟨file', hfile⟩ := List.take_prefix (dirs ++ ['/']).length path.toList
    rw [hfront, List.append_assoc, List.singleton_append] at hfile
    have hfileLine : '\n' ∉ file' := fun hmem => hline (hfile ▸ by simp [hmem])
    have haccepts := Glob.accepts_below dirs hfileLine
    rwa [hfile, String.ofList_toList, ← heq] at haccepts

/-- **The glob for a file covers it, and its directories only.**  It accepts the file, if the path
is on one line and holds no backslash.  If the path holds no wildcards either, the glob accepts what
is below the first two directories of the path, or below the one that it has, and nothing else; for
a file without a directory it accepts that file only. -/
theorem accepts_suggestGlob_iff {path : String} (hline : '\n' ∉ path.toList)
    (hslash : '\\' ∉ path.toList) :
    accepts (suggestGlob path) path = true ∧
      (IsLiteral path.toList → ∀ q : String, '\n' ∉ q.toList →
        (accepts (suggestGlob path) q = true ↔
          if '/' ∈ path.toList then
            ['/'].intercalate ((Glob.segments path).dropLast.take 2) ++ ['/'] <+: q.toList
          else q = path)) := by
  refine ⟨accepts_suggestGlob (fun h => hslash (List.mem_of_mem_take h)) hline,
    fun hliteral q hq => ?_⟩
  rcases suggestGlob_eq path with ⟨heq, htop⟩ | ⟨dirs, file, hpath, heq, hdirs⟩
  · rw [forwardSlashes_eq_self hslash] at htop
    rw [heq, if_neg htop, accepts_literal_iff hliteral]
  · rw [forwardSlashes_eq_self hslash] at hpath hdirs
    have hbelow : '/' ∈ path.toList := by simp [hpath]
    have hdirsLiteral : IsLiteral dirs := by
      rw [hpath] at hliteral
      exact ⟨fun h => hliteral.1 (List.mem_append_left _ h),
        fun h => hliteral.2 (List.mem_append_left _ h)⟩
    rw [heq, if_pos hbelow, accepts_directory_iff hdirsLiteral, Glob.segments,
      ← firstDirectories, ← hdirs]
    constructor
    · rintro ⟨rest, hsplit, -⟩
      exact ⟨rest, by rw [hsplit, List.append_assoc, List.singleton_append]⟩
    · rintro ⟨rest, hsplit⟩
      rw [List.append_assoc, List.singleton_append] at hsplit
      exact ⟨rest, hsplit.symm, fun hmem => hq (hsplit ▸ by simp [hmem])⟩

/-- An empty segment counts as a directory, and brackets are no wildcards. -/
theorem accepts_suggestGlob_iff_empty :
    '\n' ∉ "app//[id]/x.py".toList ∧ '\\' ∉ "app//[id]/x.py".toList ∧
      IsLiteral "app//[id]/x.py".toList ∧ suggestGlob "app//[id]/x.py" = "app//**" ∧
      accepts "app//**" "app//[id]/x.py" = true ∧ accepts "app//**" "app//y" = true ∧
      ¬ accepts "app//**" "app/y" = true := by
  have hline : '\n' ∉ "app//[id]/x.py".toList := by decide
  have hslash : '\\' ∉ "app//[id]/x.py".toList := by decide
  have hliteral : IsLiteral "app//[id]/x.py".toList := by unfold IsLiteral; decide
  have hglob : suggestGlob "app//[id]/x.py" = "app//**" := by decide +kernel
  obtain ⟨hself, honly⟩ := accepts_suggestGlob_iff hline hslash
  rw [hglob] at hself honly
  refine ⟨hline, hslash, hliteral, hglob, hself, ?_, ?_⟩
  · exact (honly hliteral "app//y" (by decide)).mpr (by decide +kernel)
  · exact fun h => absurd ((honly hliteral "app/y" (by decide)).mp h) (by decide +kernel)

/-- No glob for a file holds a backslash. -/
theorem not_mem_suggestGlob (path : String) : '\\' ∉ (suggestGlob path).toList := by
  have hslashed : '\\' ∉ forwardSlashes path.toList := by
    intro h
    obtain ⟨c, -, hc⟩ := List.mem_map.mp h
    split at hc
    · cases hc
    · exact absurd hc ‹_›
  rcases suggestGlob_eq path with ⟨heq, hslash⟩ | ⟨dirs, file, hpath, heq, -⟩
  · rw [heq]
    exact fun h => hslash (List.mem_map.mpr ⟨_, h, if_pos rfl⟩)
  · rw [hpath] at hslashed
    rw [heq, String.toList_ofList, List.mem_append, not_or]
    exact ⟨fun h => hslashed (List.mem_append_left _ h), by decide⟩

/-- The glob for a file is made of the characters of its path, slashes and asterisks. -/
theorem mem_of_mem_suggestGlob {path : String} {c : Char} (hc : c ∈ (suggestGlob path).toList) :
    c ∈ path.toList ∨ c = '/' ∨ c = '*' := by
  rcases suggestGlob_eq path with ⟨heq, -⟩ | ⟨dirs, file, hpath, heq, -⟩
  · exact .inl (heq ▸ hc)
  · rw [heq, String.toList_ofList, List.mem_append] at hc
    rcases hc with hc | hc
    · have hmem : c ∈ forwardSlashes path.toList := hpath ▸ List.mem_append_left _ hc
      exact (mem_forwardSlashes hmem).imp_right .inl
    · right
      simpa using hc

/-! ### Files with a domain -/

variable {s : Architecture} {globs : List String} {path : String}

/-- A system with globs keeps those that it had. -/
theorem exists_allow_withUnmapped {glob : String}
    (h : (∃ d ∈ s.domains, glob ∈ d.allow) ∨ glob ∈ globs) :
    ∃ d ∈ (s.withUnmapped globs).domains, glob ∈ d.allow := by
  unfold Architecture.withUnmapped
  dsimp only
  split
  · rename_i hmem
    rcases h with ⟨d, hd, hglob⟩ | hglob
    · refine ⟨_, List.mem_map_of_mem hd, ?_⟩
      split
      · exact List.mem_append_right _ hglob
      · exact hglob
    · obtain ⟨d, hd, hname⟩ := List.mem_map.mp hmem
      refine ⟨_, List.mem_map_of_mem hd, ?_⟩
      rw [if_pos hname]
      exact List.mem_append_left _ hglob
  · rcases h with ⟨d, hd, hglob⟩ | hglob
    · exact ⟨d, List.mem_append_left _ hd, hglob⟩
    · exact ⟨_, List.mem_append_right _ (List.mem_singleton_self _), hglob⟩

/-- With the globs for the files that have no domain, every file has one. -/
theorem owner?_withUnmapped_ne_none
    (h : Domain.owner? s.domains path = none →
      suggestGlob path ∈ globs ∧ Glob.accepts (suggestGlob path) path = true) :
    Domain.owner? (s.withUnmapped globs).domains path ≠ none := by
  intro hnone
  have hrefuse := Domain.owner?_eq_none_iff.mp hnone
  cases howner : Domain.owner? s.domains path with
  | none =>
      obtain ⟨hmem, haccepts⟩ := h howner
      obtain ⟨d, hd, hglob⟩ := exists_allow_withUnmapped (s := s) (.inr hmem)
      rw [hrefuse d hd _ hglob] at haccepts
      cases haccepts
  | some name =>
      refine absurd (Domain.owner?_eq_none_iff.mpr fun d hd g hg => ?_)
        (howner ▸ Option.some_ne_none name)
      obtain ⟨d', hd', hglob⟩ : ∃ d' ∈ (s.withUnmapped globs).domains, g ∈ d'.allow :=
        exists_allow_withUnmapped (.inl ⟨d, hd, hg⟩)
      exact hrefuse d' hd' g hglob

end ChangeGate.Fix
