import ChangeGate.Proofs.Report.Shown
import ChangeGate.Proofs.Verdict.Order
import ChangeGate.Proofs.Verdict.Status

/-! # What a report tells

`items` says of every block of a report what it is there for.  The violations of a verdict stand by
severity, so to list them by severity is to list them in their order (`filterMap_items`).

A verdict holds no error but those that block (`Describes.severity_eq_error_iff`): an excused
violation warns, and one that its rule is not sure of is no error either.  That is why the status,
the heading, the summary and the next steps, which ask four different questions, say the same
(`report_evaluate`).

What is shown of a report are its blocks up to the first one that cannot be (`textOf_snd_iff`).
That is all of them if no two texts of a user that are escaped one by one make a tag together and no
line has a number that is too long (`Shows`); else it can be less (`report_slashed`). -/

namespace ChangeGate

/-! ### Errors that block -/

namespace Rule

variable {r : Rule} {a : Action} {t : Task} {v : Violation}

/-- Only a sure rule without an excuse counts as an error. -/
theorem effectiveSeverity_eq_error_iff {severity : String} {c : Confidence} {bypassed : Bool} :
    effectiveSeverity severity c.label bypassed = "error" ↔
      severity = "error" ∧ c.label = "high" ∧ bypassed = false := by
  cases bypassed with
  | true => simp [effectiveSeverity]
  | false =>
      cases c with
      | high => simp [effectiveSeverity, Confidence.label]
      | medium => by_cases hseverity : severity = "error" <;>
          simp [effectiveSeverity, Confidence.label, hseverity]
      | low => simp [effectiveSeverity, Confidence.label]

/-- The violation of a rule is an error exactly if the rule blocks. -/
theorem Describes.severity_eq_error_iff (h : r.Describes a t v) :
    v.severity = .error ↔ r.Blocks t := by
  have herror : v.severity = .error ↔ v.severity.label = "error" :=
    ⟨fun heq => heq ▸ rfl, fun heq => Severity.label_injective _ _ heq⟩
  rw [herror, h.severity, ← h.confidence, effectiveSeverity_eq_error_iff, h.confidence, Blocks]

theorem Describes.bypassed_eq_none_of_error (h : r.Describes a t v) (herror : v.severity = .error) :
    v.bypassed = none :=
  (v.status_eq_blocked_iff.mp
    (h.status_eq_blocked_iff.mpr (h.severity_eq_error_iff.mp herror))).1

end Rule

namespace Verdict

variable {ps : List PolicySet} {as : List Action} {t : Task} {v : Verdict}

/-- How many matches block: a rule that is sure of an error matches an action, and no tag excuses
that. -/
def blockingMatches (ps : List PolicySet) (as : List Action) (t : Task) : Nat :=
  (pairs ps as).countP fun p => p.1.Matches p.2 t ∧ p.1.Blocks t

/-- The errors of a verdict are the matches that block. -/
theorem count_gathered (hs : ∀ r ∈ rules ps, ∀ a ∈ as, r.Settles a t) :
    Report.count .error (gathered ps as t) = blockingMatches ps as t := by
  rw [Report.count, gathered, List.countP_filterMap, blockingMatches]
  refine List.countP_congr fun p hp => ?_
  obtain ⟨hr, ha⟩ := mem_pairs.mp hp
  cases hfound : p.1.found? p.2 t with
  | none =>
      have hnot : ¬ p.1.Matches p.2 t := by
        intro hm
        obtain ⟨w, hw⟩ := (hs _ hr _ ha).exists_found hm
        rw [hfound] at hw
        cases hw
      simp [hnot]
  | some w =>
      obtain ⟨hm, hd⟩ := Rule.found?_eq_some_iff.mp hfound
      simp [hm, hd.severity_eq_error_iff]

theorem mem_violations (hv : evaluate ps as t = .ok v) {w : Violation} (hw : w ∈ v.violations) :
    ∃ r ∈ rules ps, ∃ a ∈ as, r.Describes a t w := by
  obtain ⟨-, rfl⟩ := evaluate_eq_ok_iff.mp hv
  obtain ⟨r, hr, a, ha, -, hd⟩ := mem_gathered.mp (List.mem_mergeSort.mp hw)
  exact ⟨r, hr, a, ha, hd⟩

theorem count_violations (hv : evaluate ps as t = .ok v) :
    Report.count .error v.violations = blockingMatches ps as t := by
  obtain ⟨hs, rfl⟩ := evaluate_eq_ok_iff.mp hv
  rw [← count_gathered hs]
  exact (List.mergeSort_perm _ _).countP_eq _

/-- A verdict blocks exactly if something blocks. -/
theorem status_eq_blocked_iff (hv : evaluate ps as t = .ok v) :
    v.status = .blocked ↔ 0 < blockingMatches ps as t := by
  obtain ⟨hs, rfl⟩ := evaluate_eq_ok_iff.mp hv
  rw [statusOf_gathered_eq_blocked_iff hs, blockingMatches, List.countP_pos_iff]
  simp only [Prod.exists, mem_pairs, decide_eq_true_eq]
  constructor
  · rintro ⟨r, hr, a, ha, h⟩
    exact ⟨r, a, ⟨hr, ha⟩, h⟩
  · rintro ⟨r, a, ⟨hr, ha⟩, h⟩
    exact ⟨r, hr, a, ha, h⟩

theorem pairwise_rank (hv : evaluate ps as t = .ok v) :
    v.violations.Pairwise fun x y => x.severity.rank ≤ y.severity.rank := by
  obtain ⟨-, rfl⟩ := evaluate_eq_ok_iff.mp hv
  have hsorted := List.pairwise_mergeSort Violation.before_trans Violation.before_total
    (gathered ps as t)
  refine hsorted.imp fun {x y} hxy => ?_
  rw [Violation.before_iff, Violation.key, Violation.key, Prod.Lex.toLex_le_toLex] at hxy
  exact hxy.elim Nat.le_of_lt fun h => h.1.le

end Verdict

/-! ### Items of a report -/

namespace Report

open Markup (isPlain)

variable {vs : List Violation} {p : Plan} {system : Option String}

/-- What a block of a report is there for. -/
inductive Item
  | heading (severity : Severity) (n : Nat)
  | violation (v : Violation)
  | other (b : Block)
  deriving DecidableEq

namespace Item

/-- The block of an item. -/
def block : Item → Block
  | heading severity n => .markup ((Report.heading n severity).getD "")
  | violation v => violationBlock v
  | other b => b

/-- The violation of an item. -/
def violation? : Item → Option Violation
  | violation v => some v
  | _ => none

end Item

/-- The items of the violations of one severity. -/
def groupItems (vs : List Violation) (severity : Severity) : List Item :=
  let own := vs.filter (·.severity = severity)
  if own.isEmpty then []
  else
    ((heading own.length severity).toList.flatMap fun _ =>
      [.heading severity own.length, .other .blank]) ++ own.map .violation ++ [.other .blank]

/-- The items of the violations. -/
def listed (vs : List Violation) : List Item :=
  if vs.isEmpty then [.other (.markup "  [green]✔[/] No violations.")]
  else Severity.every.flatMap (groupItems vs)

/-- The blocks in front of the violations. -/
def top (p : Plan) (system : Option String) : List Block :=
  [.blank, .markup (header p system), .blank]

/-- The blocks behind the violations. -/
def bottom (p : Plan) (vs : List Violation) : List Block :=
  [.panel (summary p vs)] ++
  (if (nextSteps p vs).isEmpty then []
    else
      .markup "  [bold]Next steps:[/]" ::
      (nextSteps p vs).map fun s => .markup ("  [cyan]→[/] " ++ s)) ++
  [.blank]

/-- The items of a report. -/
def items (p : Plan) (vs : List Violation) (system : Option String) : List Item :=
  (top p system).map .other ++ listed vs ++ (bottom p vs).map .other

theorem group_eq (vs : List Violation) (severity : Severity) :
    group vs severity = (groupItems vs severity).map Item.block := by
  unfold group groupItems
  dsimp only
  split
  · rfl
  · cases severity <;> simp [heading, Item.block]

theorem blocks_eq (p : Plan) (vs : List Violation) (system : Option String) :
    blocks p vs system = (items p vs system).map Item.block := by
  have hother (bs : List Block) : (bs.map .other).map Item.block = bs := by
    rw [List.map_map]
    exact List.map_id bs
  have hgroups : Severity.every.flatMap (group vs) =
      (Severity.every.flatMap (groupItems vs)).map Item.block := by
    rw [List.map_flatMap]
    exact List.flatMap_congr fun severity _ => group_eq vs severity
  have hlisted : (if vs.isEmpty then [.markup "  [green]✔[/] No violations."]
      else Severity.every.flatMap (group vs)) = (listed vs).map Item.block := by
    unfold listed
    split
    · rfl
    · exact hgroups
  rw [blocks, items, List.map_append, List.map_append, hother, hother, hlisted, top, bottom]
  simp only [List.append_assoc]

/-- To list violations by severity is to list them in their order, if they stand by severity. -/
theorem flatMap_filter_severity (h : vs.Pairwise fun v w => v.severity.rank ≤ w.severity.rank) :
    (Severity.every.flatMap fun severity => vs.filter (·.severity = severity)) = vs := by
  induction vs with
  | nil => rfl
  | cons v vs ih =>
      obtain ⟨hv, hvs⟩ := List.pairwise_cons.mp h
      have hrest := ih hvs
      have hnone (severity : Severity) (hlt : severity.rank < v.severity.rank) :
          vs.filter (·.severity = severity) = [] := by
        refine List.filter_eq_nil_iff.mpr fun w hw => ?_
        have hle := hv w hw
        rw [decide_eq_true_eq]
        rintro rfl
        omega
      simp only [Severity.every, List.flatMap_cons, List.flatMap_nil, List.append_nil] at hrest ⊢
      cases hseverity : v.severity with
      | error => simp [hseverity, hrest]
      | warn =>
          have herror := hnone .error (by rw [hseverity]; decide)
          rw [herror] at hrest
          simpa [hseverity, herror] using hrest
      | info =>
          have herror := hnone .error (by rw [hseverity]; decide)
          have hwarn := hnone .warn (by rw [hseverity]; decide)
          rw [herror, hwarn] at hrest
          simpa [hseverity, herror, hwarn] using hrest

theorem filterMap_groupItems (vs : List Violation) (severity : Severity) :
    (groupItems vs severity).filterMap Item.violation? = vs.filter (·.severity = severity) := by
  unfold groupItems
  dsimp only
  split
  · rename_i hnil
    rw [List.isEmpty_iff.mp hnil]
    rfl
  · generalize vs.filter (·.severity = severity) = own
    have hown : own.filterMap (Item.violation? ∘ Item.violation) = own := List.filterMap_some
    rw [List.filterMap_append, List.filterMap_append, List.filterMap_map, hown]
    cases severity <;> simp [heading, List.filterMap_cons, Item.violation?]

/-- The violations of a report are those that it is given, in their order. -/
theorem filterMap_items (h : vs.Pairwise fun v w => v.severity.rank ≤ w.severity.rank) :
    (items p vs system).filterMap Item.violation? = vs := by
  have hother (bs : List Block) : (bs.map .other).filterMap Item.violation? = [] := by
    rw [List.filterMap_map]
    exact List.filterMap_eq_nil_iff.mpr fun _ _ => rfl
  have hlisted : (listed vs).filterMap Item.violation? = vs := by
    unfold listed
    split
    · rename_i hnil
      rw [List.isEmpty_iff.mp hnil]
      rfl
    · rw [List.filterMap_flatMap]
      exact (List.flatMap_congr fun severity _ => filterMap_groupItems vs severity).trans
        (flatMap_filter_severity h)
  rw [items, List.filterMap_append, List.filterMap_append, hother, hother, hlisted,
    List.nil_append, List.append_nil]

theorem heading_mem_groupItems {severity severity' : Severity} {n : Nat} :
    .heading severity n ∈ groupItems vs severity' ↔
      severity = severity' ∧ severity ≠ .info ∧ 0 < n ∧ n = count severity vs := by
  have hcount : count severity' vs = (vs.filter (·.severity = severity')).length :=
    List.countP_eq_length_filter
  unfold groupItems
  dsimp only
  split
  · rename_i hnil
    rw [List.isEmpty_iff.mp hnil, List.length_nil] at hcount
    constructor
    · exact fun h => absurd h List.not_mem_nil
    · rintro ⟨rfl, -, hpos, rfl⟩
      omega
  · rename_i hne
    have hpos : 0 < count severity' vs := by
      rw [hcount]
      exact List.length_pos_iff.mpr (by simpa using hne)
    rw [← hcount]
    constructor
    · intro h
      cases severity' <;> simp [heading] at h <;> obtain ⟨rfl, rfl⟩ := h <;> simp [hpos]
    · rintro ⟨rfl, hinfo, -, rfl⟩
      cases severity <;> simp [heading] at hinfo ⊢

/-- Each severity but the last one has a heading with the number of its violations. -/
theorem heading_mem_items {severity : Severity} {n : Nat} :
    .heading severity n ∈ items p vs system ↔
      severity ≠ .info ∧ 0 < n ∧ n = count severity vs := by
  have hother (bs : List Block) : .heading severity n ∉ bs.map Item.other := by simp
  have hlisted : .heading severity n ∈ listed vs ↔
      severity ≠ .info ∧ 0 < n ∧ n = count severity vs := by
    unfold listed
    split
    · rename_i hnil
      rw [List.isEmpty_iff.mp hnil]
      simp [count]
      omega
    · rw [List.mem_flatMap]
      simp only [heading_mem_groupItems]
      exact ⟨fun ⟨_, _, _, h⟩ => h, fun h => ⟨severity, severity.mem_every, rfl, h⟩⟩
  rw [items, List.mem_append, List.mem_append, hlisted]
  simp [hother]

/-! ### The summary and the next steps -/

/-- The summary of a blocked change set starts with the number of errors. -/
theorem exists_summary_eq (hstatus : p.status = .blocked) (hpos : 0 < count .error vs) :
    ∃ others, summary p vs = "[bold red]BLOCKED[/]  " ++
      ", ".intercalate (("[red]" ++ plural (count .error vs) "error" ++ "[/]") :: others) := by
  unfold summary
  rw [hstatus, if_neg (by omega : ¬ count .error vs = 0)]
  exact ⟨_, rfl⟩

theorem blocking_eq (h : ∀ v ∈ vs, v.severity = .error → v.bypassed = none) :
    (blocking vs).length = count .error vs := by
  rw [blocking, count, List.countP_eq_length_filter]
  refine congrArg List.length (List.filter_congr fun v hv => ?_)
  have hnone := h v hv
  by_cases herror : v.severity = .error
  · simp [herror, hnone herror]
  · simp [herror]

theorem mem_nextSteps (hstatus : p.status = .blocked) {n : Nat} (hn : (blocking vs).length = n)
    (hpos : 0 < n) : "Fix " ++ plural n "blocking violation" ++ " to unblock merge" ∈
      nextSteps p vs := by
  have hne : (blocking vs).isEmpty = false := by
    rw [List.isEmpty_eq_false_iff, ← List.length_pos_iff]
    omega
  rw [nextSteps, hstatus, if_neg (by decide), hne, hn]
  simp

/-! ### What is shown -/

/-- A report is shown in full exactly if each of its blocks can be shown. -/
theorem textOf_snd_iff {bs : List Block} :
    (textOf bs).2 = true ↔ ∀ b ∈ bs, b.text.isSome = true := by
  induction bs with
  | nil => simp [textOf]
  | cons b bs ih =>
      rw [List.forall_mem_cons, ← ih, textOf]
      cases b.text <;> simp

theorem textOf_fst {bs : List Block} (h : (textOf bs).2 = true) :
    (textOf bs).1 = bs.flatMap fun b => b.text.getD [] := by
  induction bs with
  | nil => rfl
  | cons b bs ih =>
      rw [textOf] at h ⊢
      cases hb : b.text with
      | none =>
          rw [hb] at h
          cases h
      | some cs =>
          rw [hb] at h
          simp [ih h, hb]

open Verdict (evaluate blockingMatches rules)

/-- What it takes for a report to be shown in full: the name of the system and the domain of the
task make no tag of the markup together, the code of a rule is a name, its tag and its approver make
no tag together, and an action starts at a line whose number can be printed. -/
structure Shows (ps : List PolicySet) (as : List Action) (t : Task) (system : Option String) :
    Prop where
  names : ∀ name ∈ system, ∀ domain ∈ t.domain, ¬ Joins name domain
  codes : ∀ r ∈ rules ps, Token.IsWord r.code.toList
  excuses : ∀ r ∈ rules ps, ∀ tag ∈ r.exceptTag, ∀ approver ∈ r.approver, ¬ Joins tag approver
  lines : ∀ a ∈ as, ∀ h ∈ a.hunks.head?, Text.isLong h.newStart = false

theorem Shows.isShowable {ps : List PolicySet} {as : List Action} {t : Task}
    (h : Shows ps as t system) {v : Verdict} (hv : evaluate ps as t = .ok v) {w : Violation}
    (hw : w ∈ v.violations) : IsShowable w := by
  obtain ⟨r, hr, a, ha, hd⟩ := Verdict.mem_violations hv hw
  refine ⟨hd.code ▸ h.codes r hr, ?_, fun b hb approver happrover => ?_⟩
  · rw [hd.evidence, Evidence.hasLongLine, Rule.evidence]
    cases hhead : a.hunks.head? with
    | none => rfl
    | some hunk => exact h.lines a ha hunk hhead
  · rw [hd.bypassed] at hb
    split at hb
    · obtain ⟨tag, htag, rfl⟩ := Option.map_eq_some_iff.mp hb
      exact h.excuses r hr tag htag approver happrover
    · cases hb

/-! ### The report of a verdict -/

/-- **The report tells what the plan does.**  A report of a verdict lists each of its violations
once and in the order of the plan.  It has a heading over blocking violations exactly if the plan is
blocked, and that heading, the summary and the next steps all give the number of matches that block.
If every block can be shown, what is shown are the blocks in their order; and every block can be,
if no texts make a tag together and no number is too long.  Then what is shown of a violation is
what it says, unless that holds something that is changed on the way. -/
theorem report_evaluate {ps : List PolicySet} {as : List Action} {t : Task} {v : Verdict}
    (hv : evaluate ps as t = .ok v) (version system : Option String) :
    let p := Plan.of version v.status t as v.violations
    let listed := items p v.violations system
    blocks p v.violations system = listed.map Item.block ∧
    listed.filterMap Item.violation? = v.violations ∧
    (listed.filterMap Item.violation?).map Plan.entry = p.violations ∧
    ((∃ n, .heading .error n ∈ listed) ↔ p.status = .blocked) ∧
    (∀ n, .heading .error n ∈ listed →
      n = blockingMatches ps as t ∧
      (Item.heading .error n).block.text = some ("  🚨 " ++ toString n ++ " BLOCKING VIOLATION" ++
        (if n = 1 then "" else "S") ++ "\n").toList ∧
      (∃ others, summary p v.violations = "[bold red]BLOCKED[/]  " ++
        ", ".intercalate (("[red]" ++ plural n "error" ++ "[/]") :: others)) ∧
      "Fix " ++ plural n "blocking violation" ++ " to unblock merge" ∈ nextSteps p v.violations) ∧
    ((∀ b ∈ blocks p v.violations system, b.text.isSome = true) →
      textOf (blocks p v.violations system) =
        (listed.flatMap fun item => item.block.text.getD [], true)) ∧
    (Shows ps as t system →
      (∀ b ∈ blocks p v.violations system, b.text.isSome = true) ∧
      ∀ w ∈ v.violations, isPlain (violationSaid w).toList = true →
        (Item.violation w).block.text = some ((violationSaid w).toList ++ ['\n'])) := by
  intro p listed
  have hlisted : listed.filterMap Item.violation? = v.violations :=
    filterMap_items (Verdict.pairwise_rank hv)
  have hcount := Verdict.count_violations hv
  have hblocked : p.status = .blocked ↔ 0 < blockingMatches ps as t :=
    Verdict.status_eq_blocked_iff hv
  have hheading (n : Nat) : .heading .error n ∈ listed ↔ 0 < n ∧ n = blockingMatches ps as t := by
    rw [heading_mem_items, hcount]
    simp
  have hbypassed : ∀ w ∈ v.violations, w.severity = .error → w.bypassed = none := by
    intro w hw herror
    obtain ⟨r, -, a, -, hd⟩ := Verdict.mem_violations hv hw
    exact hd.bypassed_eq_none_of_error herror
  refine ⟨blocks_eq _ _ _, hlisted, by rw [hlisted]; rfl, ?_, fun n hn => ?_, fun hshown => ?_,
    fun hshows => ⟨fun b hb => ?_, fun w hw hplain => (hshows.isShowable hv hw).text_eq hplain⟩⟩
  · rw [hblocked]
    exact ⟨fun ⟨n, hn⟩ => by obtain ⟨hpos, rfl⟩ := (hheading n).mp hn; exact hpos,
      fun hpos => ⟨_, (hheading _).mpr ⟨hpos, rfl⟩⟩⟩
  · obtain ⟨hpos, hn⟩ := (hheading n).mp hn
    have hstatus : p.status = .blocked := hblocked.mpr (hn ▸ hpos)
    have herrors : count .error v.violations = n := hcount.trans hn.symm
    refine ⟨hn, text_heading_error rfl, ?_,
      mem_nextSteps hstatus ((blocking_eq hbypassed).trans herrors) hpos⟩
    rw [← herrors]
    exact exists_summary_eq hstatus (herrors ▸ hpos)
  · have hfull := textOf_snd_iff.mpr hshown
    rw [Prod.ext_iff]
    refine ⟨?_, hfull⟩
    rw [textOf_fst hfull, blocks_eq, List.flatMap_map]
  · exact isSome_text_of_mem_blocks hshows.names (fun w hw => hshows.isShowable hv hw) hb

/-- A file without a domain beside one in the domain of a task. -/
def strayFiles : List Action := [{ path := "a.sh" }, { path := "b.py", fileDomain := "B" }]

/-- A task on the domain. -/
def domainTask : Task := { domain := "B", source := .scopeHeader }

/-- The violation of the file without a domain. -/
def stray : Violation :=
  { code := "UnknownDomainFile", severity := .error, confidence := .high
    message := "File a.sh is not mapped to any domain."
    suggest := some "Map this file to a domain in system.intent via paths allow."
    evidence := { path := "a.sh", taskDomain := "B" }
    remediation := { actions := ["Map this file to a domain in system.intent via paths allow."] } }

/-- One of the two files blocks, and the whole report of it is shown. -/
theorem report_evaluate_strayFiles :
    let p := Plan.of none .blocked domainTask strayFiles [stray]
    evaluate [Starter.policySet] strayFiles domainTask = .ok ⟨[stray], .blocked, []⟩ ∧
      .heading .error 1 ∈ items p [stray] none ∧
      textOf (blocks p [stray] none) =
        ((items p [stray] none).flatMap fun item => item.block.text.getD [], true) ∧
      (Item.violation stray).block.text = some ("  ✖ [UnknownDomainFile] a.sh\n" ++
        "    File a.sh is not mapped to any domain.\n" ++
        "    → Map this file to a domain in system.intent via paths allow.\n").toList := by
  intro p
  have hv : evaluate [Starter.policySet] strayFiles domainTask = .ok ⟨[stray], .blocked, []⟩ := by
    decide +kernel
  have happrovers : ∀ r ∈ rules [Starter.policySet], ∀ approver ∈ r.approver,
      Markup.bracket? approver.toList ≠ some ']' := by decide
  have hshows : Shows [Starter.policySet] strayFiles domainTask none :=
    { names := nofun
      codes := by decide
      excuses := fun r hr _ _ approver happrover h => happrovers r hr approver happrover h.1
      lines := by decide }
  obtain ⟨-, -, -, hheading, hnumber, hfull, hshown⟩ := report_evaluate hv none none
  obtain ⟨hblocks, hviolations⟩ := hshown hshows
  obtain ⟨n, hn⟩ := hheading.mpr rfl
  obtain rfl : n = 1 := (hnumber n hn).1.trans (by decide)
  refine ⟨hv, hn, hfull hblocks, ?_⟩
  rw [hviolations stray List.mem_cons_self (by decide +kernel)]
  decide +kernel

/-- A policy whose violations are excused by a tag that looks like the start of a closing tag, with
an approver that looks like the end of it. -/
def slashed : PolicySet :=
  ⟨"2.0", [⟨"P", [{
    code := "Touch", confidence := "high", severity := "error", when := .field "file.path"
    message := "m", exceptTag := some "[/b", approver := some "]" }]⟩]⟩

/-- A task with the tag. -/
def slashedTask : Task := { domain := "D", tags := ["[/b"], source := .scopeHeader }

/-- The violation that the tag excuses. -/
def excused : Violation :=
  { code := "Touch", severity := .warn, confidence := .high, message := "m"
    evidence := { path := "a.py", taskDomain := "D" }
    bypassed := some { tag := "[/b", approver := some "]" } }

/-- The violation is not shown, and neither is what stands behind it in the report. -/
theorem report_slashed :
    evaluate [slashed] [{ path := "a.py" }] slashedTask = .ok ⟨[excused], .warn, []⟩ ∧
      (Item.violation excused).block.text = none ∧
      (textOf (blocks (Plan.of none .warn slashedTask [{ path := "a.py" }] [excused]) [excused]
        none)).2 = false := by
  have hblock : (Item.violation excused).block.text = none := by decide +kernel
  refine ⟨by decide +kernel, hblock, ?_⟩
  rw [← Bool.not_eq_true, textOf_snd_iff, blocks_eq]
  intro hshown
  have hmem : Item.violation excused ∈
      items (Plan.of none .warn slashedTask [{ path := "a.py" }] [excused]) [excused] none := by
    decide
  have hsome := hshown _ (List.mem_map_of_mem hmem)
  rw [hblock] at hsome
  cases hsome

end Report

end ChangeGate
