import ChangeGate.Proofs.Text.Lines
import ChangeGate.Proofs.Verdict.Reading
import ChangeGate.Proofs.Workspace.Outcome
import ChangeGate.Review
import Mathlib.Data.List.Sort
import Mathlib.Data.String.Basic

/-! # Unknown fields, checked and looked up

A field that no change has is found in two ways: the check of a policy file lists the unknown fields
that its rules mention (`PolicySet.unknownFields`), and an evaluation lists those that it looks up.
What is looked up is mentioned, and what is mentioned is looked up exactly if some action makes all
conjuncts before it true.

`evaluate_unknown`: both lists for policy files that are read, and the warning that is logged. -/

namespace ChangeGate
namespace Verdict

/-! ### Texts in order -/

/-- Texts in order without repetitions are strictly in order. -/
theorem pairwise_eraseDups : ∀ {texts : List String}, texts.Pairwise (· ≤ ·) →
    texts.eraseDups.Pairwise (· < ·)
  | [], _ => .nil
  | s :: texts, h => by
      obtain ⟨hs, htexts⟩ := List.pairwise_cons.mp h
      rw [List.eraseDups_cons, List.pairwise_cons]
      refine ⟨fun u hu => ?_, pairwise_eraseDups (htexts.filter _)⟩
      obtain ⟨hmem, hother⟩ := List.mem_filter.mp (List.mem_eraseDups.mp hu)
      have hne : u ≠ s := by simpa using hother
      exact lt_of_le_of_ne (hs u hmem) hne.symm
termination_by texts => texts.length
decreasing_by exact Nat.lt_succ_of_le (List.length_filter_le _ _)

theorem pairwise_distinct (texts : List String) : (distinct texts).Pairwise (· < ·) :=
  pairwise_eraseDups (List.pairwise_mergeSort' _ _)

theorem mem_distinct {texts : List String} {s : String} : s ∈ distinct texts ↔ s ∈ texts := by
  rw [distinct, List.mem_eraseDups, List.mem_mergeSort]

end Verdict

/-! ### What the check lists -/

namespace PolicySet

variable {s : PolicySet}

/-- A warning names its field. -/
theorem UnknownField.infix_message (u : UnknownField) :
    ("field '" ++ u.path ++ "'").toList <:+: u.message.toList := by
  refine ⟨("Policy '" ++ u.policy ++ "', violation '" ++ u.code ++ "': ").toList,
    " is not a known context field and is always null.".toList, ?_⟩
  simp [message]

/-- The check lists the unknown fields that the rules mention. -/
theorem exists_mem_unknownFields_iff {path : String} :
    (∃ u ∈ s.unknownFields, u.path = path) ↔
      (∃ r ∈ s.rules, path ∈ r.when.fields) ∧ ∀ f : Field, f.path ≠ path := by
  simp only [unknownFields, rules, List.mem_flatMap, List.mem_map]
  constructor
  · rintro ⟨_, ⟨p, hp, r, hr, _, hpath, rfl⟩, rfl⟩
    obtain ⟨hmentioned, hunknown⟩ := Predicate.mem_unknownAmong.mp hpath
    exact ⟨⟨r, ⟨p, hp, hr⟩, hmentioned⟩, hunknown⟩
  · rintro ⟨⟨r, ⟨p, hp, hr⟩, hmentioned⟩, hunknown⟩
    have hpath := Predicate.mem_unknownAmong.mpr ⟨hmentioned, hunknown⟩
    exact ⟨⟨p.name, r.code, path⟩, ⟨p, hp, r, hr, path, hpath, rfl⟩, rfl⟩

end PolicySet

/-! ### What an evaluation looks up -/

namespace Predicate

variable {a : Action} {t : Task} {p : Predicate} {path : String}

theorem Consults.mem_fields (h : p.Consults a t path) : path ∈ p.fields := by
  obtain ⟨before, c, after, hsplit, hpath, -⟩ := h
  rw [fields_eq_flatMap, hsplit]
  exact List.mem_flatMap.mpr ⟨c, by simp, hpath⟩

/-- What the first conjunct mentions is consulted on every action. -/
theorem consults_of_head? {c : Predicate} (hc : p.conjuncts.head? = some c) (hpath : path ∈ c.fields)
    (a : Action) (t : Task) : p.Consults a t path := by
  obtain ⟨after, hsplit⟩ := List.head?_eq_some_iff.mp hc
  exact ⟨[], c, after, hsplit, hpath, nofun⟩

end Predicate

namespace Verdict

variable {ps : List PolicySet} {as : List Action} {t : Task} {path : String}

/-- The unknown fields that rules look up are those that they consult. -/
theorem mem_consulted_iff (hps : ∀ p ∈ ps, p.IsRead) : path ∈ consulted ps as t ↔
    (∀ f : Field, f.path ≠ path) ∧ ∃ r ∈ rules ps, ∃ a ∈ as, r.when.Consults a t path := by
  simp only [consulted, List.mem_flatMap, Prod.exists, mem_pairs]
  constructor
  · rintro ⟨r, a, ⟨hr, ha⟩, hpath⟩
    obtain ⟨hunknown, hconsults⟩ :=
      (Predicate.mem_unknown_of_isChain (isKnown_of_mem_rules hps hr).sound).mp hpath
    exact ⟨hunknown, r, hr, a, ha, hconsults⟩
  · rintro ⟨hunknown, r, hr, a, ha, hconsults⟩
    refine ⟨r, a, ⟨hr, ha⟩, ?_⟩
    exact (Predicate.mem_unknown_of_isChain (isKnown_of_mem_rules hps hr).sound).mpr
      ⟨hunknown, hconsults⟩

theorem warnings_eq_nil_iff {v : Verdict} : v.warnings = [] ↔ v.unknown = [] := by
  rw [warnings, ← List.isEmpty_iff]
  split <;> simp_all

/-- The warning names all unknown fields. -/
theorem exists_warnings_eq {v : Verdict} (h : path ∈ v.unknown) :
    ∃ line, v.warnings = [line] ∧ Text.quoted path.toList <:+: line.toList := by
  have hne : v.unknown.isEmpty = false := List.isEmpty_eq_false_iff.mpr (List.ne_nil_of_mem h)
  refine ⟨_, by rw [warnings, hne]; rfl, ?_⟩
  have hlist : Text.quoted path.toList <:+: (Text.quotedList v.unknown).toList := by
    have hmem : Text.quoted path.toList ∈
        (v.unknown.map fun s => String.ofList (Text.quoted s.toList)).map String.toList := by
      rw [List.map_map]
      exact List.mem_map.mpr ⟨path, h, String.toList_ofList⟩
    rw [Text.quotedList, String.toList_append, String.toList_append, String.toList_intercalate]
    exact (Text.infix_intercalate hmem).trans (List.infix_append ..)
  rw [String.toList_append]
  exact hlist.trans (List.suffix_append ..).isInfix

/-- A review that has a verdict logs the warning about the unknown fields, and does nothing else. -/
theorem outcome_verdict {v : Verdict} (h : evaluate ps as t = .ok v) (w : Workspace) :
    (Review.verdict ps as t).outcome w =
      (.ok v, { w with warnings := w.warnings ++ v.warnings }) := by
  rw [Review.verdict, h]
  dsimp only
  unfold warnings
  split
  · simp only [List.append_nil]
    rfl
  · rfl

/-- **The check and the warning agree.**  What an evaluation of policy files that are read warns
about is in order, unknown, and named in a warning of the check of one of the files; so nothing is
logged where no file has a warning.  An unknown field is warned about exactly if a rule consults it
on an action, and hence always if it stands in the first conjunct of a rule and there is an action;
and the one line that is logged then names all of them. -/
theorem evaluate_unknown (hps : ∀ p ∈ ps, p.IsRead) (as : List Action) (t : Task) :
    ∃ v, evaluate ps as t = .ok v ∧
      (∀ w, (Review.verdict ps as t).outcome w =
        (.ok v, { w with warnings := w.warnings ++ v.warnings })) ∧
      (v.warnings = [] ↔ v.unknown = []) ∧ v.unknown.Pairwise (· < ·) ∧
      (∀ path ∈ v.unknown, (∀ f : Field, f.path ≠ path) ∧
        ∃ p ∈ ps, ∃ u ∈ p.unknownFields, u.path = path ∧ u.message ∈ p.warnings ∧
          ("field '" ++ path ++ "'").toList <:+: u.message.toList) ∧
      ((∀ p ∈ ps, p.warnings = []) → v.warnings = []) ∧
      (∀ path, (∀ f : Field, f.path ≠ path) →
        (path ∈ v.unknown ↔ ∃ r ∈ rules ps, ∃ a ∈ as, r.when.Consults a t path)) ∧
      (as ≠ [] → ∀ r ∈ rules ps, ∀ c, r.when.conjuncts.head? = some c → ∀ path ∈ c.fields,
        (∀ f : Field, f.path ≠ path) → path ∈ v.unknown) ∧
      ∀ path ∈ v.unknown, ∃ line, v.warnings = [line] ∧
        Text.quoted path.toList <:+: line.toList := by
  have hs : ∀ r ∈ rules ps, ∀ a ∈ as, r.Settles a t :=
    fun r hr a _ => settles_of_mem_rules hps hr a t
  have hv := evaluate_eq_ok_iff.mpr ⟨hs, rfl⟩
  have hmem (path : String) : path ∈ distinct (consulted ps as t) ↔
      (∀ f : Field, f.path ≠ path) ∧ ∃ r ∈ rules ps, ∃ a ∈ as, r.when.Consults a t path := by
    rw [mem_distinct, mem_consulted_iff hps]
  have hlisted : ∀ path ∈ distinct (consulted ps as t),
      ∃ p ∈ ps, ∃ u ∈ p.unknownFields, u.path = path ∧ u.message ∈ p.warnings ∧
        ("field '" ++ path ++ "'").toList <:+: u.message.toList := by
    intro path hpath
    obtain ⟨hunknown, r, hr, a, ha, hconsults⟩ := (hmem path).mp hpath
    obtain ⟨p, hp, hr⟩ := List.mem_flatMap.mp hr
    obtain ⟨u, hu, rfl⟩ :=
      PolicySet.exists_mem_unknownFields_iff.mpr ⟨⟨r, hr, hconsults.mem_fields⟩, hunknown⟩
    exact ⟨p, hp, u, hu, rfl, List.mem_map_of_mem hu, u.infix_message⟩
  refine ⟨_, hv, outcome_verdict hv, warnings_eq_nil_iff, pairwise_distinct _,
    fun path hpath => ⟨((hmem path).mp hpath).1, hlisted path hpath⟩, ?_, ?_, ?_,
    fun path hpath => exists_warnings_eq hpath⟩
  · intro hsilent
    refine warnings_eq_nil_iff.mpr (List.eq_nil_iff_forall_not_mem.mpr fun path hpath => ?_)
    obtain ⟨p, hp, u, -, -, hu, -⟩ := hlisted path hpath
    rw [hsilent p hp] at hu
    cases hu
  · intro path hunknown
    exact (hmem path).trans (and_iff_right hunknown)
  · intro has r hr c hc path hpath hunknown
    obtain ⟨a, ha⟩ := List.exists_mem_of_ne_nil as has
    exact (hmem path).mpr ⟨hunknown, r, hr, a, ha, Predicate.consults_of_head? hc hpath a t⟩

/-- A rule that mentions two fields that no change has, the second of them behind the first. -/
def mistyped : PolicySet where
  version := "2.0"
  policies := [⟨"Teams", [{
    code := "Mistyped", confidence := "high", severity := "error",
    when := .both (.field "task.team") (.compare .equal (.field "file.owner") .null),
    message := "\x7bfile.path\x7d" }]⟩]

/-- The check lists both fields, and an evaluation warns about the first: it is null, which is not
true. -/
theorem evaluate_unknown_mistyped :
    (∀ p ∈ [mistyped], p.IsRead) ∧ mistyped.unknownFields.map (·.path) = ["task.team", "file.owner"] ∧
    ∃ v, evaluate [mistyped] Starter.sampleFiles (Starter.sampleTask []) = .ok v ∧
      "task.team" ∈ v.unknown ∧ "file.owner" ∉ v.unknown := by
  have hteam : Predicate.IsPath "task.team" := ⟨"task", ["team"], by decide, by decide, by decide⟩
  have howner : Predicate.IsPath "file.owner" := ⟨"file", ["owner"], by decide, by decide, by decide⟩
  have hwritable : mistyped.Writable := by
    refine ⟨by decide, by decide,
      List.forall_mem_singleton.mpr ⟨by decide, by decide, by decide, ?_⟩⟩
    exact .both (.comparison (.operand (.field hteam))) (.equal (.field howner) .null)
  have hversion : Token.IsNumeral (['2'] ++ '.' :: ['0']) := .fraction (by decide) (by decide)
  have hread : ∀ p ∈ [mistyped], p.IsRead := List.forall_mem_singleton.mpr
    ⟨_, _, PolicySet.read_of_isNumeral hwritable hversion (fun _ => false) "teams.intent"⟩
  obtain ⟨v, hv, -, -, -, -, -, hconsulted, hfirst, -⟩ :=
    evaluate_unknown hread Starter.sampleFiles (Starter.sampleTask [])
  refine ⟨hread, by decide, v, hv, ?_, ?_⟩
  · exact hfirst (by decide) _ List.mem_cons_self (.field "task.team") rfl _ List.mem_cons_self
      fun f => by cases f <;> decide
  · rw [hconsulted _ fun f => by cases f <;> decide]
    rintro ⟨r, hr, a, -, before, c, after, hsplit, hpath, htrue⟩
    obtain rfl := List.mem_singleton.mp hr
    cases before with
    | nil =>
        obtain ⟨rfl, -⟩ := List.cons.inj hsplit
        exact absurd hpath (by decide)
    | cons b before =>
        obtain ⟨rfl, -⟩ := List.cons.inj hsplit
        exact absurd (htrue _ List.mem_cons_self) nofun

end Verdict
end ChangeGate
