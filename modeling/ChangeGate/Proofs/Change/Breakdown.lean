import ChangeGate.Change.Log
import ChangeGate.Proofs.Text.Ascii
import ChangeGate.Proofs.Text.Numeral
import ChangeGate.Proofs.Workspace.Breakdown

/-! # What the log of changes breaks down for

The log of changes falls back on a list of paths when a diff cannot be had.  What it is not prepared
for is a revision that cannot be passed to the version control program, output that is no text, and
a numeral that is too long (`Change.Cause`).

`breaksFor_log`: the log breaks down for nothing else, and what it comes to are actions whose lines
have numbers that can be printed. -/

namespace ChangeGate

/-! ### Numerals of a diff -/

namespace Diff

/-- A hunk header of a diff has a numeral that is too long. -/
def HasLongNumeral (cs : List Char) : Prop :=
  ∃ line ∈ Text.splitAt '\n' cs, ∃ old new, hunkRanges? line = some (old, new) ∧
    ∃ r ∈ [old, new], ∃ digits ∈ r.start :: r.count?.toList, Text.longestNumeral < digits.length

theorem number?_eq_none_iff {digits : List Char} :
    number? digits = none ↔ Text.longestNumeral < digits.length := by
  unfold number?
  split <;> simp [*]

theorem Range.exists_of_numbers? {r : Range} (h : r.numbers? = none) :
    ∃ digits ∈ r.start :: r.count?.toList, Text.longestNumeral < digits.length := by
  cases hstart : number? r.start with
  | none => exact ⟨_, List.mem_cons_self, number?_eq_none_iff.mp hstart⟩
  | some start =>
      cases hcount : number? (r.count?.getD ['1']) with
      | some count => simp [Range.numbers?, hstart, hcount] at h
      | none =>
          -- A count that is not written counts as one digit, which is not too long.
          have hlong := number?_eq_none_iff.mp hcount
          cases hwritten : r.count? with
          | none =>
              rw [hwritten] at hlong
              exact absurd hlong (by decide)
          | some count =>
              rw [hwritten] at hlong
              exact ⟨count, List.mem_cons_of_mem _ (List.mem_singleton_self _), hlong⟩

theorem exists_of_hunk? {old new : Range} (h : hunk? old new = none) :
    ∃ r ∈ [old, new], r.numbers? = none := by
  by_contra hnone
  obtain ⟨⟨a, ha⟩, ⟨b, hb⟩⟩ : (∃ a, old.numbers? = some a) ∧ ∃ b, new.numbers? = some b := by
    simpa [Option.ne_none_iff_exists'] using hnone
  simp [hunk?, ha, hb] at h

/-- Lines are refused for one of them. -/
theorem exists_of_foldlM {lines : List (List Char)} {files : List FileDiff}
    (h : lines.foldlM step files = none) : ∃ line ∈ lines, ∃ fs, step fs line = none := by
  induction lines generalizing files with
  | nil => cases h
  | cons line lines ih =>
      rw [List.foldlM_cons] at h
      cases hstep : step files line with
      | none => exact ⟨line, List.mem_cons_self, files, hstep⟩
      | some files' =>
          rw [hstep] at h
          obtain ⟨l, hl, hnone⟩ := ih h
          exact ⟨l, List.mem_cons_of_mem _ hl, hnone⟩

theorem exists_of_step {files : List FileDiff} {line : List Char} (h : step files line = none) :
    ∃ old new, hunkRanges? line = some (old, new) ∧ hunk? old new = none := by
  unfold step at h
  split at h
  · cases h
  · split at h
    · cases h
    · split at h
      · cases h
      · rename_i old new hranges
        exact ⟨old, new, hranges, Option.map_eq_none_iff.mp h⟩

/-- A diff is refused for a numeral of a hunk header alone. -/
theorem hasLongNumeral_of_parse {text : String} (h : parse text = none) :
    HasLongNumeral text.toList := by
  obtain ⟨line, hline, fs, hstep⟩ := exists_of_foldlM (Option.map_eq_none_iff.mp h)
  obtain ⟨old, new, hranges, hhunk⟩ := exists_of_step hstep
  obtain ⟨r, hr, hnumbers⟩ := exists_of_hunk? hhunk
  exact ⟨line, hline, old, new, hranges, r, hr, r.exists_of_numbers? hnumbers⟩

/-! ### Numbers that are read -/

/-- Hunks start at lines whose numbers can be printed. -/
def Printable (hunks : List Hunk) : Prop := ∀ h ∈ hunks, Text.isLong h.newStart = false

theorem isLong_of_number? {digits : List Char} {n : Int} (h : number? digits = some n) :
    Text.isLong n = false := by
  unfold number? at h
  split at h
  · cases h
  · rename_i hshort
    cases h
    exact Text.isLong_decimalValue (Nat.not_lt.mp hshort)

theorem isLong_of_hunk? {old new : Range} {h : Hunk} (hh : hunk? old new = some h) :
    Text.isLong h.newStart = false := by
  obtain ⟨_, -, hnew⟩ := Option.bind_eq_some_iff.mp hh
  obtain ⟨⟨newStart, newLines⟩, hnumbers, hsome⟩ := Option.bind_eq_some_iff.mp hnew
  obtain ⟨start, hstart, hcount⟩ := Option.bind_eq_some_iff.mp hnumbers
  obtain ⟨count, -, hpair⟩ := Option.bind_eq_some_iff.mp hcount
  cases hpair
  cases hsome
  exact isLong_of_number? hstart

/-- A line adds hunks that are read from it. -/
theorem printable_of_step {files files' : List FileDiff} {line : List Char}
    (hfiles : ∀ f ∈ files, Printable f.hunks) (h : step files line = some files') :
    ∀ f ∈ files', Printable f.hunks := by
  unfold step at h
  split at h
  · cases h
    exact List.forall_mem_cons.mpr ⟨nofun, hfiles⟩
  · split at h
    · cases h
      exact nofun
    · rename_i f fs
      split at h
      · cases h
        exact hfiles
      · obtain ⟨hunk, hhunk, rfl⟩ := Option.map_eq_some_iff.mp h
        obtain ⟨hf, hfs⟩ := List.forall_mem_cons.mp hfiles
        refine List.forall_mem_cons.mpr ⟨?_, hfs⟩
        exact List.forall_mem_append.mpr
          ⟨hf, List.forall_mem_singleton.mpr (isLong_of_hunk? hhunk)⟩

theorem printable_of_foldlM {lines : List (List Char)} {files files' : List FileDiff}
    (hfiles : ∀ f ∈ files, Printable f.hunks) (h : lines.foldlM step files = some files') :
    ∀ f ∈ files', Printable f.hunks := by
  induction lines generalizing files with
  | nil =>
      cases h
      exact hfiles
  | cons line lines ih =>
      rw [List.foldlM_cons] at h
      obtain ⟨files₁, hstep, h⟩ := Option.bind_eq_some_iff.mp h
      exact ih (printable_of_step hfiles hstep) h

theorem printable_of_parse {text : String} {files : List FileDiff} (h : parse text = some files) :
    ∀ f ∈ files, Printable f.hunks := by
  obtain ⟨files, hfold, rfl⟩ := Option.map_eq_some_iff.mp h
  intro f hf
  exact printable_of_foldlM (List.forall_mem_nil _) hfold f (List.mem_reverse.mp hf)

end Diff

/-! ### The log -/

namespace Change

open Procedure (BreaksFor)

/-- What is given to the version control program when two revisions are compared. -/
def compared (base head : String) : List String := [base ++ "..." ++ head, base, head]

/-- What the log of changes breaks down for. -/
inductive Cause (g : Workspace) (base head : String) (given : Option String) (unified : Int) :
    Breakdown → Prop
  | call {b : Breakdown} (h : g.Uncallable (compared base head) b) :
      Cause g base head given unified b
  | context (hnone : given = none)
      (h : Text.isLong unified = true) :
      Cause g base head given unified .longNumeral
  | numeral {cs : List Char} (hcs : given = some (String.ofList cs) ∨ given = none ∧ g.Prints cs)
      (h : Diff.HasLongNumeral cs) : Cause g base head given unified .longNumeral

variable {g : Workspace} {base head : String} {given : Option String} {unified : Int}

/-- A call with options that can be passed breaks down for the revisions or the output. -/
theorem Cause.of_uncallable {options revisions : List String}
    (hoptions : ∀ o ∈ options, Files.nameFault? o = none)
    (hrevisions : ∀ a ∈ revisions, a ∈ compared base head) {b : Breakdown}
    (h : g.Uncallable ("diff" :: options ++ revisions) b) : Cause g base head given unified b := by
  cases h with
  | output h hbytes hflaw => exact .call (.output h hbytes hflaw)
  | @argument a kind ha h =>
      rcases List.mem_append.mp ha with ha | ha
      · have hnone : Files.nameFault? a = none := by
          rcases List.mem_cons.mp ha with rfl | ha
          · exact Files.nameFault?_eq_none (by decide)
          · exact hoptions _ ha
        rw [hnone] at h
        cases h
      · exact .call (.argument (hrevisions _ ha) h)

/-- The options for a diff can be passed. -/
theorem nameFault?_diffOptions (unified : Int) :
    ∀ o ∈ ["--unified=" ++ toString unified, "--no-color"], Files.nameFault? o = none := by
  have hname : "--unified=".toList.all Text.isAscii = true := by decide
  have hascii : ("--unified=" ++ toString unified).toList.all Text.isAscii = true := by
    rw [String.toList_append, List.all_append, hname, Text.all_isAscii_toString]
    rfl
  have hplain : "--no-color".toList.all Text.isAscii = true := by decide
  rw [List.forall_mem_cons, List.forall_mem_singleton]
  exact ⟨Files.nameFault?_eq_none hascii, Files.nameFault?_eq_none hplain⟩

/-- The option for a list of paths can be passed. -/
theorem nameFault?_listOption : ∀ o ∈ ["--name-only"], Files.nameFault? o = none := by
  rw [List.forall_mem_singleton]
  exact Files.nameFault?_eq_none (by decide)

theorem breaksFor_comparison {options : List String}
    (hoptions : ∀ o ∈ options, Files.nameFault? o = none) :
    BreaksFor g (Cause g base head given unified) g.Prints (comparison base head options) := by
  have hcall {revisions : List String} (h : ∀ a ∈ revisions, a ∈ compared base head) :
      BreaksFor g (Cause g base head given unified) g.Prints
        (Procedure.git ("diff" :: options ++ revisions)) :=
    (BreaksFor.git _).widen fun _ => .of_uncallable hoptions h
  refine (hcall (by simp [compared])).tryCatch (fun c => ?_) fun b hb => .breakDown hb
  cases c with
  | git arguments trouble => exact hcall (by simp [compared])
  | _ => exact .complain _

theorem breaksFor_givenPaths? :
    BreaksFor g (Cause g base head given unified) (fun _ => True) givenPaths? :=
  BreaksFor.get.bind fun _ _ => .pure trivial

theorem breaksFor_changedPaths :
    BreaksFor g (Cause g base head given unified) (fun _ => True) (changedPaths base head) := by
  refine breaksFor_givenPaths?.bind fun paths _ => ?_
  cases paths with
  | some paths => exact .pure trivial
  | none =>
      exact (breaksFor_comparison nameFault?_listOption).bind fun _ _ => .pure trivial

theorem breaksFor_unifiedOption :
    BreaksFor g (Cause g base head none unified) (· = "--unified=" ++ toString unified)
      (unifiedOption unified) := by
  unfold unifiedOption
  split
  · rename_i hlong
    exact .breakDown (.context rfl hlong)
  · exact .pure rfl

theorem breaksFor_fullDiff? :
    BreaksFor g (Cause g base head none unified) (fun diff => ∀ cs, diff = some cs → g.Prints cs)
      (fullDiff? base head unified) := by
  refine breaksFor_unifiedOption.bind fun option hoption => ?_
  have hoptions : ∀ o ∈ [option, "--no-color"], Files.nameFault? o = none :=
    hoption ▸ nameFault?_diffOptions unified
  refine ((breaksFor_comparison hoptions).map fun cs hcs => ?_).tryCatch (fun c => ?_)
    fun b hb => .breakDown hb
  · rintro _ ⟨⟩
    exact hcs
  · cases c with
    | git arguments trouble =>
        refine breaksFor_givenPaths?.bind fun paths _ => ?_
        split
        · exact (BreaksFor.warn _).bind fun _ _ => .pure nofun
        · exact .pure nofun
    | _ => exact .complain _

/-- The changes that a diff describes, and without one those of the list of paths. -/
def fromDiff (domains : List Domain) (base head : String) :
    Option (List Char) → Procedure (List Action)
  | some (c :: cs) => ofDiff domains (c :: cs)
  | _ => do return (← changedPaths base head).map (ofPath domains)

theorem log_some (domains : List Domain) (text : String) :
    log domains base head (some text) unified =
      fromDiff domains base head (some text.toList) := rfl

theorem log_none (domains : List Domain) :
    log domains base head none unified =
      fullDiff? base head unified >>= fromDiff domains base head := rfl

theorem breaksFor_fromDiff (domains : List Domain) {diff : Option (List Char)}
    (hdiff : ∀ cs, diff = some cs → given = some (String.ofList cs) ∨ given = none ∧ g.Prints cs) :
    BreaksFor g (Cause g base head given unified) (fun as => ∀ a ∈ as, Diff.Printable a.hunks)
      (fromDiff domains base head diff) := by
  unfold fromDiff
  split
  · rename_i c cs
    unfold ofDiff
    split
    · rename_i files hparse
      exact .pure (List.forall_mem_map.mpr (Diff.printable_of_parse hparse))
    · rename_i hparse
      have hlong := Diff.hasLongNumeral_of_parse hparse
      rw [String.toList_ofList] at hlong
      exact .breakDown (.numeral (hdiff _ rfl) hlong)
  · exact breaksFor_changedPaths.bind fun paths _ =>
      .pure (List.forall_mem_map.mpr fun _ _ => nofun)

/-- **The log breaks down for its revisions, output that is no text, and long numerals alone.** -/
theorem breaksFor_log (domains : List Domain) :
    BreaksFor g (Cause g base head given unified) (fun as => ∀ a ∈ as, Diff.Printable a.hunks)
      (log domains base head given unified) := by
  cases given with
  | some text =>
      rw [log_some]
      refine breaksFor_fromDiff domains ?_
      rintro _ ⟨⟩
      exact .inl (by rw [String.ofList_toList])
  | none =>
      rw [log_none]
      refine breaksFor_fullDiff?.bind fun diff hdiff => breaksFor_fromDiff domains ?_
      exact fun cs hcs => .inr ⟨rfl, hdiff cs hcs⟩

end Change
end ChangeGate
