import ChangeGate.Policy.Reader
import ChangeGate.Proofs.Verdict.Match
import ChangeGate.Starter.Basic

/-! # What the starter policy says

`read_policy`: the text of the starter policy is read as `policySet`, which holds the rule
`crossing` on files of another domain than the task's and the rule `unmapped` on files without a
domain.  Both rules can be judged on every action (`judged_policySet`), and which changes they
match is said by `crossing_matches_iff` and `unmapped_matches_iff`. -/

namespace ChangeGate

/-- A source is read as what a reader makes of its tokens. -/
theorem Source.read_eq_ok {α : Type} {reader : Reader α} {source file : String} {x : α}
    (h : ((Token.scanFrom Place.start false source.toList).toOption.bind fun scanned =>
      (reader scanned.1).toOption).map (·.1) = some x) : read reader source file = .ok x := by
  unfold read readFront Token.scan
  cases hs : Token.scanFrom Place.start false source.toList with
  | error e =>
      rw [hs] at h
      cases h
  | ok scanned =>
      obtain ⟨ts, last⟩ := scanned
      cases hr : reader ts with
      | error e =>
          simp only [hs, hr, Except.toOption, Option.bind_some, Option.map_none] at h
          cases h
      | ok y =>
          simp only [hs, hr, Except.toOption, Option.bind_some, Option.map_some] at h
          simp only [hr, ← Option.some.inj h, Except.map]

namespace Starter

/-! ### The rules -/

/-- The tag that excuses a change across domains. -/
def crossingTag : String := "intentional-cross-domain"

/-- The rule on files of another domain than the task's. -/
def crossing : Rule where
  code := "CrossDomainTouch"
  confidence := "high"
  severity := "error"
  when := .both
    (.both (.compare .equal (.field "action.kind") (.text "ModifyFile"))
      (.compare .unequal (.field "file.domain") .null))
    (.compare .unequal (.field "file.domain") (.field "task.domain"))
  message := "PR touches \x7bfile.domain\x7d but task is scoped to \x7btask.domain\x7d: " ++
    "\x7bfile.path\x7d"
  suggest := some "Split into separate PR, or tag intentional-cross-domain with approval."
  exceptTag := some crossingTag
  approver := some "tech-lead"

/-- The rule on files without a domain. -/
def unmapped : Rule where
  code := "UnknownDomainFile"
  confidence := "high"
  severity := "error"
  when := .both (.compare .equal (.field "action.kind") (.text "ModifyFile"))
    (.compare .equal (.field "file.domain") .null)
  message := "File \x7bfile.path\x7d is not mapped to any domain."
  suggest := some "Map this file to a domain in system.intent via paths allow."

/-- What the starter policy says. -/
def policySet : PolicySet := ⟨"2.0", [⟨"Default", [crossing, unmapped]⟩]⟩

theorem toList_policy :
    policy.toList = List.intercalate "\n".toList (policyLines.map String.toList) := by
  rw [policy, String.toList_intercalate]

theorem read_policy : PolicySet.read policy = .ok policySet := by
  apply Source.read_eq_ok
  rw [toList_policy]
  -- A literal gives its characters away by unification; decoding its bytes would take far longer.
  simp only [policyLines, List.map_cons, List.map_nil, String.toList_append]
  repeat rw [String.toList_ofList]
  decide +kernel

/-! ### What the rules match -/

variable {a : Action} {t : Task}

theorem crossing_judge (a : Action) (t : Task) : (crossing.when.judge a t).truth =
    .ok (decide (a.kind = .modifyFile ∧ a.fileDomain ≠ none ∧ a.fileDomain ≠ t.domain)) := by
  obtain ⟨kind, path, domain⟩ := a
  obtain ⟨scope, tags, source⟩ := t
  cases kind with
  | importCrossDomain => rfl
  | modifyFile =>
      cases domain with
      | none => rfl
      | some d =>
          cases scope with
          | none => rfl
          | some e =>
              show Except.ok (!(d == e)) = _
              by_cases h : d = e <;> simp [h]

theorem unmapped_judge (a : Action) (t : Task) : (unmapped.when.judge a t).truth =
    .ok (decide (a.kind = .modifyFile ∧ a.fileDomain = none)) := by
  obtain ⟨kind, path, domain⟩ := a
  cases kind with
  | importCrossDomain => rfl
  | modifyFile => cases domain <;> rfl

theorem crossing_matches_iff (hk : a.kind = .modifyFile) :
    crossing.Matches a t ↔ a.fileDomain ≠ none ∧ a.fileDomain ≠ t.domain := by
  rw [Rule.Matches, crossing_judge]
  simp [hk]

theorem unmapped_matches_iff (hk : a.kind = .modifyFile) :
    unmapped.Matches a t ↔ a.fileDomain = none := by
  rw [Rule.Matches, unmapped_judge]
  simp [hk]

theorem crossing_isBypassed_iff : crossing.isBypassed t = true ↔ crossingTag ∈ t.tags :=
  List.contains_iff_mem

theorem mem_rules_policySet {r : Rule} :
    r ∈ Verdict.rules [policySet] ↔ r = crossing ∨ r = unmapped := by
  rw [show Verdict.rules [policySet] = [crossing, unmapped] from rfl, List.mem_cons,
    List.mem_singleton]

theorem judged_policySet (as : List Action) (t : Task) : Verdict.Judged [policySet] as t := by
  intro r hr a _
  rcases mem_rules_policySet.mp hr with rfl | rfl
  · exact ⟨_, crossing_judge a t⟩
  · exact ⟨_, unmapped_judge a t⟩

theorem isNamed_policySet : ∀ r ∈ Verdict.rules [policySet], r.IsNamed := by decide

/-! ### A small change set -/

/-- A file of another domain than `sampleTask`'s, and one without a domain. -/
def sampleFiles : List Action :=
  [{ path := "b.ts", fileDomain := some "Billing" }, { path := "a.sh" }]

/-- A task that a description scopes to a domain, with the given tags. -/
def sampleTask (tags : List String) : Task :=
  { domain := some "Identity", tags, source := .scopeHeader }

end Starter
end ChangeGate
