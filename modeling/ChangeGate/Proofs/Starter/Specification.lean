import ChangeGate.Proofs.Architecture.Check
import ChangeGate.Proofs.Starter.Domains
import ChangeGate.Proofs.Starter.Policy

/-! # What the starter files say

`read_architecture`: the starter architecture of domains whose blocks can be written is read as
these domains, in their order and with their globs, beside the import of the policy.  Both starter
files are read from their files as they were written. -/

namespace ChangeGate

open Token Architecture
open Text (Portable)

namespace Starter

variable {name policy : String} {ds : List Domain}

/-! ### The architecture -/

/-- A domain that its block says as it is: a name, and globs that have no escapes. -/
structure HasPlainBlock (d : Domain) : Prop where
  name : IsName d.name
  allow : d.allow ≠ []
  plain : Plain d.allow
  dependsOn : d.dependsOn = []

theorem IsDraft.hasPlainBlock {d : Domain} (h : IsDraft d) : HasPlainBlock d :=
  ⟨h.name, h.allow, h.plain, h.dependsOn⟩

/-- The blocks of domains, each behind an empty line. -/
def blocksText (ds : List Domain) : List Char := ds.flatMap fun d => '\n' :: blockText d.name d.allow

theorem toList_block (d : Domain) : (block d).toList ++ ['\n'] = blockText d.name d.allow := by
  unfold block blockText globsLine globsText
  simp only [String.toList_append]
  -- A literal gives its characters away by unification.
  repeat rw [String.toList_ofList]
  simp only [List.append_assoc, List.cons_append, List.nil_append]

theorem blocksText_eq (hne : ds ≠ []) :
    blocksText ds = '\n' :: (("\n\n".intercalate (ds.map block)).toList ++ ['\n']) := by
  induction ds with
  | nil => exact absurd rfl hne
  | cons d ds ih =>
      cases ds with
      | nil => simp [blocksText, ← toList_block]
      | cons d' ds =>
          have htext : '\n' :: (("\n\n".intercalate ((d :: d' :: ds).map block)).toList ++ ['\n']) =
              ('\n' :: ((block d).toList ++ ['\n'])) ++
                ('\n' :: (("\n\n".intercalate ((d' :: ds).map block)).toList ++ ['\n'])) := by
            simp
          rw [htext, ← ih (List.cons_ne_nil _ _), toList_block]
          rfl

theorem HasPlainBlock.laidOut {d : Domain} (h : HasPlainBlock d) :
    LaidOut d.lines (blockText d.name d.allow) := by
  obtain ⟨name, allow, dependsOn⟩ := d
  obtain rfl : dependsOn = [] := h.dependsOn
  exact laidOut_block h.name h.allow h.plain

/-- An empty line stands in front of each block. -/
theorem laidOut_blocks (h : ∀ d ∈ ds, HasPlainBlock d) :
    LaidOut (ds.flatMap Domain.lines) (blocksText ds) := by
  induction ds with
  | nil => exact .nil
  | cons d ds ih =>
      obtain ⟨hd, hds⟩ := List.forall_mem_cons.mp h
      have hfirst : LaidOut d.lines ('\n' :: blockText d.name d.allow) := hd.laidOut.behind_lineFeed
      exact hfirst.append (ih hds)

/-- What a starter architecture says. -/
def specified (name policy : String) (ds : List Domain) : Architecture :=
  ⟨"2.0", name, ds, [policy]⟩

theorem lineText_system (name : String) :
    lineText [.reserved "system", .word name] = "system ".toList ++ name.toList := by
  have hwritten : (Sign.word name).written = name.toList := by
    rw [Sign.written, if_neg, Sign.text_word]
    rw [Sign.word]
    split <;> simp
  have htouches : (Sign.reserved "system").touches (.word name) = false := by
    rw [Sign.word]
    split <;> rfl
  rw [lineText, lineText, htouches, hwritten, String.toList_ofList]
  rfl

theorem lineText_import (h : Plain [policy]) :
    lineText [.reserved "import", .quoted policy] =
      "import \"".toList ++ (policy.toList ++ ['"']) := by
  have htouches : (Sign.reserved "import").touches (.quoted policy) = false := rfl
  rw [lineText, lineText, htouches, written_of_plain (h policy List.mem_cons_self),
    String.toList_append, String.toList_append]
  repeat rw [String.toList_ofList]
  rfl

/-- The lines in front of the blocks. -/
def headerText (name policy : String) : List Char :=
  "intent 2.0\n\nsystem ".toList ++ (name.toList ++
    ("\n\nimport \"".toList ++ (policy.toList ++ "\"\n".toList)))

theorem toList_architecture (name policy : String) (hne : ds ≠ []) :
    (architecture name ds policy).toList = headerText name policy ++ blocksText ds := by
  rw [blocksText_eq hne]
  unfold architecture headerText
  simp only [String.toList_append]
  repeat rw [String.toList_ofList]
  simp only [List.append_assoc, List.cons_append, List.nil_append]

theorem laidOut_header (hname : IsWord name.toList) (hpolicy : Plain [policy]) :
    LaidOut [[.reserved "intent", .numeral "2.0"], [.reserved "system", .word name],
      [.reserved "import", .quoted policy]] (headerText name policy) := by
  have hnil : ∀ c ∈ ([] : List Char), isSpace c = true ∨ c = '\n' := nofun
  have hlineFeed : ∀ c ∈ ['\n'], isSpace c = true ∨ c = '\n' := by simp
  have hversion : IsLine [.reserved "intent", .numeral "2.0"] :=
    isLine_pair (.reserved (by decide))
      (.numeral (.fraction (by decide) (by decide) : IsNumeral (['2'] ++ '.' :: ['0'])))
  have hsystem : IsLine [.reserved "system", .word name] :=
    isLine_pair (.reserved (by decide)) (.word hname)
  have himport : IsLine [.reserved "import", .quoted policy] :=
    isLine_pair (.reserved (by decide)) .quoted
  have hlines := LaidOut.cons hnil hversion
    (.cons hlineFeed hsystem (.cons hlineFeed himport .nil))
  have htext : headerText name policy = [] ++
      (lineText [.reserved "intent", .numeral "2.0"] ++ '\n' :: (['\n'] ++
        (lineText [.reserved "system", .word name] ++ '\n' :: (['\n'] ++
          (lineText [.reserved "import", .quoted policy] ++ '\n' :: []))))) := by
    have hintent : lineText [.reserved "intent", .numeral "2.0"] = "intent 2.0".toList := by
      decide
    rw [hintent, lineText_system, lineText_import hpolicy]
    unfold headerText
    repeat rw [String.toList_ofList]
    simp only [List.append_assoc, List.cons_append, List.nil_append]
  rw [htext]
  exact hlines

theorem laidOut_architecture (hname : IsWord name.toList) (hpolicy : Plain [policy])
    (h : ∀ d ∈ ds, HasPlainBlock d) :
    LaidOut (specified name policy ds).lines (headerText name policy ++ blocksText ds) :=
  (laidOut_header hname hpolicy).append (laidOut_blocks h)

section

variable (hname : IsWord name.toList) (hne : ds ≠ []) (h : ∀ d ∈ ds, HasPlainBlock d)

include hname hne h

theorem read_architecture (hpolicy : Plain [policy]) (file : String) :
    Architecture.read (architecture name ds policy) file = .ok (specified name policy ds) := by
  rw [← String.ofList_toList (s := architecture name ds policy), toList_architecture name policy hne]
  exact read_of_laidOut (laidOut_architecture hname hpolicy h) hne file

theorem problems_specified (hnames : (ds.map (·.name)).Nodup) :
    (specified name policy ds).problems = [] := by
  refine problems_eq_nil_iff.mpr ⟨by simp [specified], ?_, hne, hnames, fun d hd => (h d hd).allow,
    fun d hd => ?_⟩
  · rintro rfl
    cases hname
  · rw [(h d hd).dependsOn]
    exact nofun

end

/-! ### Portable texts -/

theorem lt_of_continuesName {c : Char} (h : continuesName c = true) : c.toNat < 0x80 := by
  delta continuesName startsName Char.isAlpha Char.isUpper Char.isLower Char.isDigit at h
  simp only [Bool.or_eq_true, Bool.and_eq_true, decide_eq_true_eq, beq_iff_eq, ge_iff_le,
    UInt32.le_iff_toNat_le] at h
  obtain ((h | h) | rfl) | h := h
  · exact h.2.trans_lt (by decide)
  · exact h.2.trans_lt (by decide)
  · decide
  · exact h.2.trans_lt (by decide)

theorem portable_of_isWord {cs : List Char} (h : IsWord cs) : Portable cs := by
  refine Text.portable_of_forall fun c hc => ?_
  have hname : continuesName c = true := by
    cases h with
    | mk hfirst hothers =>
        rcases List.mem_cons.mp hc with rfl | hc
        · exact continuesName_of_startsName hfirst
        · exact hothers c hc
  refine ⟨Text.half?_of_lt ((lt_of_continuesName hname).trans (by decide)), ?_⟩
  rintro rfl
  cases hname

theorem portable_block {d : Domain} (h : IsDraft d) : Portable (block d).toList := by
  have hglobs : Portable (", ".intercalate (d.allow.map fun g => "\"" ++ g ++ "\"")).toList := by
    rw [String.toList_intercalate]
    refine .intercalate (by decide) fun cs hcs => ?_
    rw [List.map_map, List.mem_map] at hcs
    obtain ⟨g, hg, rfl⟩ := hcs
    simp only [Function.comp_apply, String.toList_append, Text.portable_append]
    exact ⟨⟨by decide, h.portable g hg⟩, by decide⟩
  unfold block
  simp only [String.toList_append, Text.portable_append]
  exact ⟨⟨⟨⟨by decide, portable_of_isWord h.name.word⟩, by decide⟩, hglobs⟩, by decide⟩

theorem portable_architecture (hname : IsWord name.toList) (h : ∀ d ∈ ds, IsDraft d)
    (hpolicy : Portable policy.toList) :
    Portable (architecture name ds policy).toList := by
  have hblocks : Portable ("\n\n".intercalate (ds.map block)).toList := by
    rw [String.toList_intercalate]
    refine .intercalate (by decide) fun cs hcs => ?_
    rw [List.map_map, List.mem_map] at hcs
    obtain ⟨d, hd, rfl⟩ := hcs
    exact portable_block (h d hd)
  unfold architecture
  simp only [String.toList_append, Text.portable_append]
  exact ⟨⟨⟨⟨⟨⟨by decide, portable_of_isWord hname⟩, by decide⟩, hpolicy⟩, by decide⟩, hblocks⟩,
    by decide⟩

theorem portable_policy : Portable Starter.policy.toList := by
  rw [toList_policy]
  simp only [policyLines, List.map_cons, List.map_nil, String.toList_append]
  repeat rw [String.toList_ofList]
  decide +kernel

end Starter
end ChangeGate
