import ChangeGate.Proofs.Architecture.Layout
import ChangeGate.Proofs.Text.Stored
import ChangeGate.Starter.Basic
import Mathlib.Data.List.Nodup

/-! # The domains of a starter architecture

Every directory gives its domain a word for a name (`isWord_nameOf`).  The domains have names of
their own, each of a directory, and the globs of directories (`drafts_domains`). -/

namespace ChangeGate.Starter

open Token (IsName IsWord startsName continuesName)
open Architecture (Plain)
open Text (Portable)

/-! ### Names -/

theorem continuesName_of_isNameChar {c : Char} (h : isNameChar c = true) :
    continuesName c = true := by
  simp only [isNameChar, Char.isAlphanum, Bool.or_eq_true] at h
  simp only [continuesName, startsName, Bool.or_eq_true]
  tauto

theorem isWord_sanitize (cs : List Char) : IsWord (sanitize cs) := by
  have hchars (cs : List Char) : ∀ c ∈ cs.filter isNameChar, continuesName c = true :=
    fun c hc => continuesName_of_isNameChar (List.of_mem_filter hc)
  have hname := hchars (camelCase (cs.filter fun c => isNameChar c || c == '-'))
  unfold sanitize
  dsimp only
  split
  · exact .mk rfl (List.all_eq_true.mp rfl)
  · rename_i c name hcons
    rw [hcons] at hname ⊢
    split
    · exact .mk ‹_› fun d hd => hname d (.tail _ hd)
    · refine .mk rfl (List.forall_mem_append.mpr ⟨List.all_eq_true.mp rfl, hname⟩)

/-- A directory gives a word. -/
theorem isWord_nameOf (s : String) : IsWord (nameOf s).toList := by
  rw [nameOf, String.toList_ofList]
  exact isWord_sanitize _

/-! ### Domains -/

/-- Domains that stand for some directories: each has the name of one and globs of some, and no two
have one name. -/
structure Drafts (directories : List String) (ds : List Domain) : Prop where
  names : (ds.map (·.name)).Nodup
  name : ∀ d ∈ ds, ∃ directory ∈ directories, d.name = nameOf directory
  globs : ∀ d ∈ ds, ∀ g ∈ d.allow, ∃ directory ∈ directories, g = globOf directory
  allow : ∀ d ∈ ds, d.allow ≠ []
  dependsOn : ∀ d ∈ ds, d.dependsOn = []

variable {directories : List String} {ds : List Domain} {directory : String}

theorem drafts_nil : Drafts directories [] := by constructor <;> simp

theorem Drafts.addDirectory (h : Drafts directories ds) (hmem : directory ∈ directories) :
    Drafts directories (addDirectory ds directory) := by
  unfold Starter.addDirectory
  dsimp only
  split
  · have hnames : (ds.map fun d => if d.name = nameOf directory then
        { d with allow := d.allow ++ [globOf directory] } else d).map (·.name) =
          ds.map (·.name) := by
      rw [List.map_map]
      refine List.map_congr_left fun d _ => ?_
      rw [Function.comp_apply]
      split <;> rfl
    refine ⟨hnames ▸ h.names, ?_, ?_, ?_, ?_⟩ <;> rw [List.forall_mem_map] <;> intro d hd
    · split <;> exact h.name d hd
    · split
      · rw [List.forall_mem_append, List.forall_mem_singleton]
        exact ⟨h.globs d hd, directory, hmem, rfl⟩
      · exact h.globs d hd
    · split
      · simp
      · exact h.allow d hd
    · split <;> exact h.dependsOn d hd
  · rename_i hfresh
    have hnew : nameOf directory ∉ ds.map (·.name) := by simpa using hfresh
    refine ⟨?_, ?_, ?_, ?_, ?_⟩
    · rw [List.map_append, List.map_singleton, ← List.concat_eq_append, List.nodup_concat]
      exact ⟨hnew, h.names⟩
    all_goals rw [List.forall_mem_append, List.forall_mem_singleton]
    · exact ⟨h.name, directory, hmem, rfl⟩
    · exact ⟨h.globs, by simpa using ⟨directory, hmem, rfl⟩⟩
    · exact ⟨h.allow, by simp⟩
    · exact ⟨h.dependsOn, rfl⟩

theorem Drafts.foldl {more : List String} (h : Drafts directories ds)
    (hmore : ∀ directory ∈ more, directory ∈ directories) :
    Drafts directories (more.foldl Starter.addDirectory ds) := by
  induction more generalizing ds with
  | nil => exact h
  | cons directory more ih =>
      obtain ⟨hmem, hmore⟩ := List.forall_mem_cons.mp hmore
      exact ih (h.addDirectory hmem) hmore

theorem addDirectory_ne_nil : addDirectory ds directory ≠ [] := by
  unfold addDirectory
  dsimp only
  split
  · rename_i hany
    obtain ⟨d, hd, -⟩ := List.any_eq_true.mp hany
    simpa using List.ne_nil_of_mem hd
  · simp

theorem foldl_addDirectory_ne_nil (h : directories ≠ []) :
    directories.foldl addDirectory ds ≠ [] := by
  rw [← List.dropLast_append_getLast h, List.foldl_append]
  exact addDirectory_ne_nil

/-! ### Directories that can be written -/

/-- A directory whose glob can be written between quotes and whose domain has a name that is no
reserved word. -/
structure Fits (directory : String) : Prop where
  plain : '"' ∉ directory.toList ∧ '\\' ∉ directory.toList
  portable : Portable directory.toList
  free : nameOf directory ∉ Token.keywords

theorem fits_iff : Fits directory ↔ ('"' ∉ directory.toList ∧ '\\' ∉ directory.toList) ∧
    Portable directory.toList ∧ nameOf directory ∉ Token.keywords :=
  ⟨fun ⟨hplain, hportable, hfree⟩ => ⟨hplain, hportable, hfree⟩,
    fun ⟨hplain, hportable, hfree⟩ => ⟨hplain, hportable, hfree⟩⟩

instance : DecidablePred Fits := fun _ => decidable_of_iff _ fits_iff.symm

/-- A domain whose block can be written. -/
structure IsDraft (d : Domain) : Prop where
  name : IsName d.name
  allow : d.allow ≠ []
  plain : Plain d.allow
  portable : ∀ g ∈ d.allow, Portable g.toList
  dependsOn : d.dependsOn = []

theorem isDraft_core : IsDraft core :=
  ⟨by decide, List.cons_ne_nil _ _, by simp [Plain, core], by decide, rfl⟩

theorem Fits.globOf (h : Fits directory) :
    ('"' ∉ (globOf directory).toList ∧ '\\' ∉ (globOf directory).toList) ∧
      Portable (globOf directory).toList := by
  have hglob : (Starter.globOf directory).toList = directory.toList ++ ['/', '*', '*'] := by
    simp [Starter.globOf]
  rw [hglob, Text.portable_append, List.mem_append, List.mem_append, not_or, not_or]
  exact ⟨⟨⟨h.plain.1, by decide⟩, h.plain.2, by decide⟩, h.portable, by decide⟩

theorem Drafts.isDraft (h : Drafts directories ds)
    (hfits : ∀ directory ∈ directories, Fits directory) : ∀ d ∈ ds, IsDraft d := by
  intro d hd
  obtain ⟨directory, hdirectory, hname⟩ := h.name d hd
  refine ⟨⟨?_, ?_⟩, h.allow d hd, ?_, ?_, h.dependsOn d hd⟩
  · rw [hname]
    exact isWord_nameOf directory
  · rw [hname]
    exact (hfits directory hdirectory).free
  · intro g hg
    obtain ⟨directory, hdirectory, rfl⟩ := h.globs d hd g hg
    exact (hfits directory hdirectory).globOf.1
  · intro g hg
    obtain ⟨directory, hdirectory, rfl⟩ := h.globs d hd g hg
    exact (hfits directory hdirectory).globOf.2

/-- Directories that fit give domains that can be written, and there is one in any case. -/
theorem isDraft_domains {skip : List String}
    (hfits : ∀ directory ∈ directories, isKept skip directory = true → Fits directory) :
    domains skip directories ≠ [] ∧ ((domains skip directories).map (·.name)).Nodup ∧
      ∀ d ∈ domains skip directories, IsDraft d := by
  unfold domains
  dsimp only
  generalize hkept : (directories.mergeSort (· ≤ ·)).filter (isKept skip) = kept
  split
  · refine ⟨List.cons_ne_nil _ _, List.nodup_singleton _, ?_⟩
    rw [List.forall_mem_singleton]
    exact isDraft_core
  · rename_i hne
    have hfits' : ∀ directory ∈ kept, Fits directory := by
      intro directory hmem
      rw [← hkept, List.mem_filter, List.mem_mergeSort] at hmem
      exact hfits directory hmem.1 hmem.2
    have hdrafts : Drafts kept (kept.foldl Starter.addDirectory []) :=
      drafts_nil.foldl fun _ h => h
    refine ⟨?_, hdrafts.names, hdrafts.isDraft hfits'⟩
    exact foldl_addDirectory_ne_nil (by simpa using hne)

end ChangeGate.Starter
