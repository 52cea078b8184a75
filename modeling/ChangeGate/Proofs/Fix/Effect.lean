import ChangeGate.Proofs.Fix.Convergence
import ChangeGate.Proofs.Review.Effect

/-! # What a fix does to the files

A fix that is applied has had a review, which wrote the plan, and has written the system file
since.  Its text gets one block and loses nothing (`inserted_insertChars`), and bytes that are read
as a text are the bytes of the text, so the file gets one block too.  Line ends do not come through:
what is read has line feeds for all of them (`not_inserted_of_applied`).

`contents_of_applied`: but for the plan and the system file nothing is changed, and the system file
has one block more than it had with line feeds for its line ends. -/

namespace ChangeGate.Fix

open Architecture (globsLine)
open Review (HoldsPlan)
open Text (decodeUtf8 encodeUtf8 unifyLineEnds)

/-! ### One block -/

section inserted

variable {α β : Type} {block old new : List α}

/-- A list is another one with a block put in at one place. -/
def Inserted (block old new : List α) : Prop :=
  ∃ front back, old = front ++ back ∧ new = front ++ (block ++ back)

theorem Inserted.flatMap (h : Inserted block old new) (f : α → List β) :
    Inserted (block.flatMap f) (old.flatMap f) (new.flatMap f) := by
  obtain ⟨front, back, rfl, rfl⟩ := h
  exact ⟨front.flatMap f, back.flatMap f, List.flatMap_append, by simp only [List.flatMap_append]⟩

/-- Nothing is lost. -/
theorem Inserted.sublist (h : Inserted block old new) : old.Sublist new := by
  obtain ⟨front, back, rfl, rfl⟩ := h
  exact (List.sublist_append_right block back).append_left front

end inserted

/-! ### The block for globs -/

variable {content : List Char} {globs : List String}

/-- What is put into a system file for globs: a line behind the brace of a block `Unmapped`, or a
block, which is put behind the last brace with an empty line or at the end of a text without
braces. -/
def added (content : List Char) (globs : List String) : List Char :=
  match behindUnmapped? content, splitLastBrace? content with
  | some _, _ => '\n' :: globsLine globs
  | none, some _ => '\n' :: block globs
  | none, none => block globs

theorem inserted_insertChars (hne : globs ≠ []) (content : List Char) :
    Inserted (added content globs) content (insertChars content globs) := by
  unfold added
  cases hfound : behindUnmapped? content with
  | some rest =>
      rw [insertChars_of_found hne hfound]
      obtain ⟨front, blanks, rfl, -, -⟩ := behindUnmapped?_eq_some hfound
      rw [← List.append_assoc, take_behind]
      exact ⟨front ++ opening blanks ++ ['\x7b'], rest, List.append_cons _ _ _, rfl⟩
  | none =>
      cases hlast : splitLastBrace? content with
      | some split =>
          obtain ⟨front, rest⟩ := split
          rw [insertChars_of_missing hne hfound hlast]
          obtain ⟨inside, rfl, rfl, -⟩ := splitLastBrace?_eq_some hlast
          exact ⟨inside ++ ['\x7d'], rest, List.append_cons _ _ _, rfl⟩
      | none =>
          rw [insertChars_of_braceless hne hfound hlast]
          exact ⟨content, [], (List.append_nil _).symm, by rw [List.append_nil]⟩

/-! ### Files -/

variable {g w : Workspace} {root : Path} {s : Settings} {r : Review.Request} {report : Report}

/-- A patch reads the text of a file and writes it with the globs. -/
theorem wrote_of_patch_ok {p : Path} {w₁ : Workspace}
    (h : (patch p globs).outcome w₁ = (.ok (), w)) :
    ∃ cs loc, w₁.Shows p cs ∧ w₁.files.locate (w₁.whole p) = .ok loc ∧
      w₁.Wrote loc (encodeUtf8 (insertChars cs globs)) w := by
  obtain ⟨cs, _, hread, hwrite⟩ := Procedure.outcome_bind_eq_ok_iff.mp h
  obtain ⟨hshows, rfl⟩ := Procedure.outcome_readText_iff.mp hread
  obtain ⟨-, loc, hloc, hwrote⟩ := Procedure.wrote_of_writeText hwrite
  rw [insert, String.toList_ofList, String.toList_ofList] at hwrote
  exact ⟨cs, loc, hshows, hloc, hwrote⟩

section applied

variable (hrun : (run root s r false).outcome g = (.ok report, w))
  (happlied : report.isApplied = true)

include hrun happlied

/-- A fix that is applied has found the system file where it was before the review, and has written
what the file showed behind the review, with the globs. -/
theorem exists_wrote_of_applied :
    ∃ v w₁ loc bytes text cs, (Review.run root s r).outcome g = (.ok v, w₁) ∧
      g.files.locate (g.whole report.systemPath) = .ok loc ∧
      g.files.content? loc = some bytes ∧ decodeUtf8 bytes = .ok text ∧ report.globs ≠ [] ∧
      w₁.Shows report.systemPath cs ∧ w₁.files.locate (w₁.whole report.systemPath) = .ok loc ∧
      w₁.Wrote loc (encodeUtf8 (insertChars cs report.globs)) w := by
  obtain ⟨v, w₁, hreview, hne, hpatch, rfl⟩ := applied_iff.mp ⟨hrun, happlied⟩
  obtain ⟨_, bytes, text, hread, htext, -⟩ := Review.shows_of_run hreview
  obtain ⟨loc, hloc, hat⟩ := Files.read_eq_ok_iff.mp hread
  obtain ⟨hkeeps, hwhole⟩ := Review.keeps_run hreview
  obtain ⟨cs, loc', hshows, hloc', hwrote⟩ := wrote_of_patch_ok hpatch
  have hloc₁ := Files.locate_of_keeps hkeeps hloc
  rw [← hwhole] at hloc₁
  obtain rfl := Except.ok.inj (hloc₁.symm.trans hloc')
  have hcontent : g.files.content? loc = some bytes := by
    rw [Files.content?, hat]
    rfl
  exact ⟨v, w₁, loc, bytes, text, cs, hreview, hloc, hcontent, htext, hne, hshows, hloc₁, hwrote⟩

/-- **What an applied fix leaves of the files.**  All files but the plan and the system file are as
they were.  Unless the plan was written over the system file, this one has a block more than it had
with line feeds for its line ends, so if it holds no carriage return its bytes are the old ones with
one block put in. -/
theorem contents_of_applied :
    ∃ loc bytes text, g.files.locate (g.whole report.systemPath) = .ok loc ∧
      g.files.content? loc = some bytes ∧ decodeUtf8 bytes = .ok text ∧
      (∀ l, l ≠ loc → ¬HoldsPlan root s r w l → w.files.content? l = g.files.content? l) ∧
      (¬HoldsPlan root s r w loc → ∃ bytes', w.files.content? loc = some bytes' ∧
        Inserted (encodeUtf8 (added (unifyLineEnds text) report.globs))
          (encodeUtf8 (unifyLineEnds text)) bytes' ∧
        ('\r' ∉ text → Inserted (encodeUtf8 (added text report.globs)) bytes bytes')) := by
  obtain ⟨v, w₁, loc, bytes, text, cs, hreview, hloc, hcontent, htext, hne,
    ⟨bytes₁, text₁, hread₁, htext₁, rfl⟩, hloc₁, hwrote⟩ := exists_wrote_of_applied hrun happlied
  have hplan (l : Location) : HoldsPlan root s r w l ↔ HoldsPlan root s r w₁ l := by
    rw [HoldsPlan, HoldsPlan, hwrote.whole, hwrote.locate_iff]
  refine ⟨loc, bytes, text, hloc, hcontent, htext, fun l hl hother => ?_, fun hother => ?_⟩
  · rw [Files.content?, hwrote.at?_of_ne hl, ← Files.content?]
    exact Review.content?_of_run hreview (mt (hplan l).mpr hother)
  · -- The review has left the bytes of the system file, so they are what the patch has read.
    obtain ⟨l, hl, hat₁⟩ := Files.read_eq_ok_iff.mp hread₁
    obtain rfl := Except.ok.inj (hloc₁.symm.trans hl)
    have hsame := Review.content?_of_run hreview (mt (hplan loc).mpr hother)
    rw [hcontent, Files.content?, hat₁] at hsame
    obtain rfl : bytes₁ = bytes := Option.some.inj hsame
    obtain rfl := Except.ok.inj (htext.symm.trans htext₁)
    have hinserted := (inserted_insertChars hne (unifyLineEnds text)).flatMap Text.utf8Bytes
    refine ⟨_, by rw [Files.content?, hwrote.at?_self]; rfl, hinserted, fun hlines => ?_⟩
    rw [Text.unifyLineEnds_eq_self hlines] at hinserted ⊢
    rwa [← encodeUtf8, ← encodeUtf8, Text.encodeUtf8_of_decodeUtf8 htext] at hinserted

/-- Carriage returns do not come through a fix, whatever the block is. -/
theorem not_inserted_of_applied {loc : Location} {bytes bytes' : List UInt8}
    (hloc : g.files.locate (g.whole report.systemPath) = .ok loc)
    (hbytes' : w.files.content? loc = some bytes') (hreturn : 0x0D ∈ bytes)
    (hglobs : ∀ glob ∈ report.globs, '\r' ∉ glob.toList) (block : List UInt8) :
    ¬Inserted block bytes bytes' := by
  obtain ⟨_, _, l, _, _, _, -, hl, -, -, -, ⟨_, raw, -, -, rfl⟩, -, hwrote⟩ :=
    exists_wrote_of_applied hrun happlied
  obtain rfl := Except.ok.inj (hloc.symm.trans hl)
  have hlines := not_mem_insertChars (Text.not_mem_unifyLineEnds raw) hglobs
  rw [Files.content?, hwrote.at?_self] at hbytes'
  obtain rfl := Option.some.inj hbytes'
  exact fun h => hlines (Text.carriageReturn_mem_encodeUtf8.mp (h.sublist.subset hreturn))

end applied

/-! ### With and without carriage returns -/

open Review (Ready)
open Starter (repo)

theorem exists_applied_below
    (hready : Ready (changed "a/x.py") "a/x.py" repo {} ["repo"] singleText g) :
    ∃ w, (run repo {} {} false).outcome g =
      (.ok ⟨["a/**"], true, repo.child "system.intent"⟩, w) := by
  have hg := (@ready_changed "a/x.py" (by decide)).unversioned
  have hlisted : Change.listedPaths "a/x.py".toList = ["a/x.py"] := by decide +kernel
  have hnone : Domain.owner? single.domains "a/x.py" = none := by decide +kernel
  have hglob : suggestGlob "a/x.py" = "a/**" := by decide +kernel
  rw [← hglob]
  exact exists_applied_single hg hready hlisted hnone (by decide +kernel) rfl (by decide +kernel)

/-- The system file gets a block, and nothing else is changed but the plan. -/
theorem contents_of_applied_below :
    ∃ w, (run repo {} {} false).outcome (changed "a/x.py") =
        (.ok ⟨["a/**"], true, repo.child "system.intent"⟩, w) ∧
      (∃ bytes', w.files.content? ["repo", "system.intent"] = some bytes' ∧
        Inserted (encodeUtf8 "\n\ndomain Unmapped \x7b\n  paths allow \"a/**\"\n\x7d\n".toList)
          (encodeUtf8 singleText.toList) bytes') ∧
      ∀ l, l ≠ ["repo", "system.intent"] → l ≠ ["repo", "intent.plan.json"] →
        w.files.content? l = (changed "a/x.py").files.content? l := by
  have hready := @ready_changed "a/x.py" (by decide)
  obtain ⟨hread, hproblems, -⟩ := read_single
  obtain ⟨w, hrun⟩ := exists_applied_below hready
  obtain ⟨-, -, hready', -⟩ := ready_of_applied usualPaths_default isPlain_default
    hready.toPrepared hread hproblems hrun rfl
  obtain ⟨loc, bytes, text, hloc, hbytes, htext, hothers, hsystem⟩ := contents_of_applied hrun rfl
  have hplan {l : Location} (h : HoldsPlan repo {} {} w l) : l = ["repo", "intent.plan.json"] := by
    have hl := h.2
    rw [Review.planTarget_eq usualPaths_default isPlain_default, hready'.plan] at hl
    exact (Except.ok.inj hl).symm
  have hwhere : singleFiles.locate (Path.root.under (repo.child "system.intent")) =
      .ok ["repo", "system.intent"] := by decide
  obtain rfl : ["repo", "system.intent"] = loc := Except.ok.inj (hwhere.symm.trans hloc)
  have hstored : singleFiles.content? ["repo", "system.intent"] =
      some (encodeUtf8 singleText.toList) := by decide +kernel
  obtain rfl := Option.some.inj (hstored.symm.trans hbytes)
  rw [Text.decodeUtf8_encodeUtf8] at htext
  obtain rfl := Except.ok.inj htext
  obtain ⟨bytes', hbytes', -, hinserted⟩ := hsystem fun h => absurd (hplan h) (by decide)
  refine ⟨w, hrun, ⟨bytes', hbytes', ?_⟩, fun l hl hother => hothers l hl (mt hplan hother)⟩
  have hadded : added singleText.toList ["a/**"] =
      "\n\ndomain Unmapped \x7b\n  paths allow \"a/**\"\n\x7d\n".toList := by decide +kernel
  rw [← hadded]
  exact hinserted (by decide +kernel)

/-- The system with carriage returns at its line ends. -/
def returnedText : String :=
  "intent 2.0\r\nsystem S\r\ndomain D \x7b\r\n  paths allow \"d/**\"\r\n\x7d\r\n"

def returned : Workspace where
  files := singleFiles.put ["repo", "system.intent"] (.file (encodeUtf8 returnedText.toList))
  environment := [("CHANGED_FILES", "a/x.py")]

theorem ready_returned :
    Ready (changed "a/x.py") "a/x.py" repo {} ["repo"] singleText returned := by
  have hwrote : (changed "a/x.py").Wrote (["repo"] ++ ["system.intent"])
      (encodeUtf8 returnedText.toList) returned := by
    refine ⟨?_, rfl, rfl, rfl, rfl⟩
    decide
  have hunified : singleText.toList = unifyLineEnds returnedText.toList := by decide +kernel
  exact (ready_changed (by decide)).write_system usualPaths_default hwrote
    (Text.decodeUtf8_encodeUtf8 _) hunified

/-- The carriage returns of the system file are gone, so its bytes are not the old ones with a
block put in. -/
theorem contents_of_applied_returned :
    ∃ w bytes', (run repo {} {} false).outcome returned =
        (.ok ⟨["a/**"], true, repo.child "system.intent"⟩, w) ∧
      returned.files.content? ["repo", "system.intent"] =
        some (encodeUtf8 returnedText.toList) ∧
      w.files.content? ["repo", "system.intent"] = some bytes' ∧
      ∀ block, ¬Inserted block (encodeUtf8 returnedText.toList) bytes' := by
  obtain ⟨w, hrun⟩ := exists_applied_below ready_returned
  obtain ⟨_, _, loc, _, _, _, -, hloc, -, -, -, -, -, hwrote⟩ := exists_wrote_of_applied hrun rfl
  have hwhere : returned.files.locate (Path.root.under (repo.child "system.intent")) =
      .ok ["repo", "system.intent"] := by decide
  obtain rfl : ["repo", "system.intent"] = loc := Except.ok.inj (hwhere.symm.trans hloc)
  have hstored : returned.files.content? ["repo", "system.intent"] =
      some (encodeUtf8 returnedText.toList) := Files.content?_put_self (by decide)
  obtain ⟨bytes', hbytes'⟩ : ∃ bytes', w.files.content? ["repo", "system.intent"] = some bytes' :=
    ⟨_, by rw [Files.content?, hwrote.at?_self]; rfl⟩
  have hreturn : 0x0D ∈ encodeUtf8 returnedText.toList :=
    Text.carriageReturn_mem_encodeUtf8.mpr (by decide +kernel)
  refine ⟨w, bytes', hrun, hstored, hbytes', ?_⟩
  exact not_inserted_of_applied hrun rfl hloc hbytes' hreturn (by decide +kernel)

end ChangeGate.Fix
