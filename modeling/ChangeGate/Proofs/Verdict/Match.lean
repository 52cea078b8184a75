import ChangeGate.Verdict.Evaluate

/-! # What an evaluation gathers

A rule matches an action when its predicate is judged true.  `Rule.violation_eq_good_iff` says
which violation a match comes to, and `evaluate_eq_ok_iff` when a change set has a verdict and
which one: every rule has to be settled on every action, and the verdict is made of what the
matches gather.  Statements about verdicts follow from these two and never open `matchAll`. -/

namespace ChangeGate
namespace Rule

variable (r : Rule) (a : Action) (t : Task)

/-- A rule matches an action under a task. -/
def Matches : Prop := (r.when.judge a t).truth = .ok true

instance : Decidable (r.Matches a t) :=
  match h : (r.when.judge a t).truth with
  | .ok true => isTrue h
  | .ok false => isFalse fun h' => nomatch h.symm.trans h'
  | .error _ => isFalse fun h' => nomatch h.symm.trans h'

/-- A rule names a severity and a confidence level that there are. -/
def IsNamed : Prop := r.severity ∈ severityNames ∧ r.confidence ∈ confidenceNames

instance : Decidable r.IsNamed := inferInstanceAs (Decidable (_ ∧ _))

/-- A rule blocks what it matches: it is sure of an error, and no tag excuses that. -/
def Blocks : Prop := r.severity = "error" ∧ r.confidence = "high" ∧ r.isBypassed t = false

instance : Decidable (r.Blocks t) := inferInstanceAs (Decidable (_ ∧ _ ∧ _))

/-- What the violation of a rule on an action says. -/
structure Describes (v : Violation) : Prop where
  code : v.code = r.code
  severity : v.severity.label = effectiveSeverity r.severity r.confidence (r.isBypassed t)
  confidence : v.confidence.label = r.confidence
  message : v.message = Template.render r.message a t
  suggest : v.suggest = r.suggest.map (Template.render · a t)
  evidence : v.evidence = Rule.evidence a t
  remediation : v.remediation = { actions := v.suggest.toList }
  bypassed : v.bypassed = if r.isBypassed t then r.exceptTag.map (⟨·, r.approver, false⟩) else none

/-- The violation of a rule on an action, if it matches. -/
def found? : Option Violation :=
  match (r.when.judge a t).truth, r.violation a t with
  | .ok true, .good v => some v
  | _, _ => none

/-- Nothing stands in the way of judging a rule on an action: its predicate is judged, and a match
comes to a violation. -/
def Settles : Prop :=
  (r.when.judge a t).truth = .ok false ∨ r.Matches a t ∧ ∃ v, r.violation a t = .good v

variable {r a t}

/-! ### The violation of a match -/

/-- A match comes to the violation that describes it. -/
theorem violation_eq_good_iff {v : Violation} :
    r.violation a t = .good v ↔ r.Describes a t v := by
  unfold violation
  rw [Schema.Checked.map_seq_eq_good_iff]
  simp only [Schema.Checked.under_eq_good_iff,
    Schema.oneOf_text_eq_good_iff Severity.label_injective (Severity.mem_every _),
    Schema.oneOf_text_eq_good_iff Confidence.label_injective (Confidence.mem_every _)]
  constructor
  · rintro ⟨s, c, hs, hc, rfl⟩
    exact ⟨rfl, hs, hc, rfl, rfl, rfl, rfl, rfl⟩
  · intro h
    refine ⟨v.severity, v.confidence, h.severity, h.confidence, ?_⟩
    rw [← h.code, ← h.message, ← h.suggest, ← h.evidence, ← h.remediation, ← h.bypassed]

theorem effectiveSeverity_mem {severity : String} (h : severity ∈ severityNames)
    (confidence : String) (bypassed : Bool) :
    effectiveSeverity severity confidence bypassed ∈ severityNames := by
  unfold effectiveSeverity
  split
  · simp [severityNames]
  split
  · simp [severityNames]
  split
  · simp [severityNames]
  · exact h

/-- A rule with known names comes to a violation wherever it matches. -/
theorem IsNamed.exists_violation (h : r.IsNamed) (a : Action) (t : Task) :
    ∃ v, r.violation a t = .good v := by
  obtain ⟨s, -, hs⟩ : ∃ s ∈ Severity.every, s.label = _ :=
    List.mem_map.mp (effectiveSeverity_mem h.1 r.confidence (r.isBypassed t))
  obtain ⟨c, -, hc⟩ : ∃ c ∈ Confidence.every, c.label = _ := List.mem_map.mp h.2
  let suggest := r.suggest.map (Template.render · a t)
  refine ⟨⟨r.code, s, c, Template.render r.message a t, suggest, evidence a t,
    { actions := suggest.toList },
    if r.isBypassed t then r.exceptTag.map (⟨·, r.approver, false⟩) else none⟩, ?_⟩
  exact violation_eq_good_iff.mpr ⟨rfl, hs, hc, rfl, rfl, rfl, rfl, rfl⟩

/-! ### One rule and one action -/

theorem found?_eq_some_iff {v : Violation} :
    r.found? a t = some v ↔ r.Matches a t ∧ r.Describes a t v := by
  rw [← violation_eq_good_iff]
  unfold found? Matches
  constructor
  · intro h
    split at h
    · rename_i w hm hw
      rw [Option.some.inj h] at hw
      exact ⟨hm, hw⟩
    · cases h
  · rintro ⟨hm, hv⟩
    rw [hm, hv]

theorem found?_of_not_matches (h : ¬ r.Matches a t) : r.found? a t = none := by
  cases hf : r.found? a t with
  | none => rfl
  | some v => exact absurd (found?_eq_some_iff.mp hf).1 h

theorem Settles.of_isNamed (hn : r.IsNamed) (hj : ∃ b, (r.when.judge a t).truth = .ok b) :
    r.Settles a t := by
  obtain ⟨b, hb⟩ := hj
  cases b with
  | false => exact .inl hb
  | true => exact .inr ⟨hb, hn.exists_violation a t⟩

/-- What matches has a violation, once it is settled. -/
theorem Settles.exists_found (h : r.Settles a t) (hm : r.Matches a t) :
    ∃ v, r.found? a t = some v := by
  rcases h with h | ⟨-, v, hv⟩
  · rw [Matches, h] at hm
    cases hm
  · exact ⟨v, found?_eq_some_iff.mpr ⟨hm, violation_eq_good_iff.mp hv⟩⟩

end Rule

namespace Verdict

variable {ps : List PolicySet} {as : List Action} {t : Task}

theorem match?_eq_ok_iff {r : Rule} {a : Action} {found : Option Violation} {us : List String} :
    match? r a t = .ok (found, us) ↔
      r.Settles a t ∧ found = r.found? a t ∧ us = (r.when.judge a t).unknown := by
  simp only [match?, Rule.Settles, Rule.found?, Rule.Matches]
  cases hj : (r.when.judge a t).truth with
  | error f => simp
  | ok b =>
      cases b with
      | false => simp [eq_comm]
      | true =>
          cases hv : r.violation a t with
          | bad issues => simp
          | good v => simp [eq_comm]

/-! ### All rules and all actions -/

/-- The rules of a list of policy files in order. -/
def rules (ps : List PolicySet) : List Rule := ps.flatMap (·.rules)

/-- The violations of a list of policy files on a change set, as they are found. -/
def gathered (ps : List PolicySet) (as : List Action) (t : Task) : List Violation :=
  (pairs ps as).filterMap fun p => p.1.found? p.2 t

/-- The unknown fields that an evaluation looks up, as it comes across them. -/
def consulted (ps : List PolicySet) (as : List Action) (t : Task) : List String :=
  (pairs ps as).flatMap fun p => (p.1.when.judge p.2 t).unknown

/-- Every predicate can be judged on every action. -/
def Judged (ps : List PolicySet) (as : List Action) (t : Task) : Prop :=
  ∀ r ∈ rules ps, ∀ a ∈ as, ∃ b, (r.when.judge a t).truth = .ok b

theorem mem_pairs {r : Rule} {a : Action} : (r, a) ∈ pairs ps as ↔ r ∈ rules ps ∧ a ∈ as := by
  simp only [pairs, rules, List.mem_flatMap, List.mem_map, Prod.mk.injEq]
  constructor
  · rintro ⟨_, hr, _, ha, rfl, rfl⟩
    exact ⟨hr, ha⟩
  · rintro ⟨hr, ha⟩
    exact ⟨r, hr, a, ha, rfl, rfl⟩

theorem matchAll_eq_ok_iff {prs : List (Rule × Action)} {vs : List Violation}
    {us : List String} :
    matchAll t prs = .ok (vs, us) ↔
      (∀ p ∈ prs, p.1.Settles p.2 t) ∧ vs = prs.filterMap (fun p => p.1.found? p.2 t) ∧
        us = prs.flatMap fun p => (p.1.when.judge p.2 t).unknown := by
  induction prs generalizing vs us with
  | nil => simp [matchAll, eq_comm]
  | cons p prs ih =>
      obtain ⟨r, a⟩ := p
      have hcons : ((r, a) :: prs).filterMap (fun p => p.1.found? p.2 t) =
          (r.found? a t).toList ++ prs.filterMap fun p => p.1.found? p.2 t := by
        rw [List.filterMap_cons]
        cases r.found? a t <;> rfl
      rw [hcons, List.forall_mem_cons, List.flatMap_cons, matchAll]
      constructor
      · intro h
        cases hm : match? r a t with
        | error e =>
            rw [hm] at h
            cases h
        | ok first =>
            obtain ⟨found, us₁⟩ := first
            cases hrest : matchAll t prs with
            | error e =>
                rw [hm, hrest] at h
                cases h
            | ok rest =>
                obtain ⟨ws, us₂⟩ := rest
                rw [hm, hrest] at h
                cases h
                obtain ⟨hs, rfl, rfl⟩ := match?_eq_ok_iff.mp hm
                obtain ⟨hss, rfl, rfl⟩ := ih.mp hrest
                exact ⟨⟨hs, hss⟩, rfl, rfl⟩
      · rintro ⟨⟨hs, hss⟩, rfl, rfl⟩
        rw [match?_eq_ok_iff.mpr ⟨hs, rfl, rfl⟩, ih.mpr ⟨hss, rfl, rfl⟩]

/-- A change set has a verdict exactly if every rule is settled on every action, and then it is
made of what the matches gather. -/
theorem evaluate_eq_ok_iff {v : Verdict} :
    evaluate ps as t = .ok v ↔
      (∀ r ∈ rules ps, ∀ a ∈ as, r.Settles a t) ∧
        v = ⟨Violation.sorted (gathered ps as t), statusOf (gathered ps as t) t,
          distinct (consulted ps as t)⟩ := by
  have hall : (∀ p ∈ pairs ps as, p.1.Settles p.2 t) ↔
      ∀ r ∈ rules ps, ∀ a ∈ as, r.Settles a t := by
    simp only [Prod.forall, mem_pairs, and_imp]
    exact ⟨fun h r hr a => h r a hr, fun h r a hr => h r hr a⟩
  rw [← hall, evaluate]
  constructor
  · intro h
    cases hm : matchAll t (pairs ps as) with
    | error e =>
        rw [hm] at h
        cases h
    | ok res =>
        obtain ⟨vs, us⟩ := res
        rw [hm] at h
        cases h
        obtain ⟨hs, rfl, rfl⟩ := matchAll_eq_ok_iff.mp hm
        exact ⟨hs, rfl⟩
  · rintro ⟨hs, rfl⟩
    rw [matchAll_eq_ok_iff.mpr ⟨hs, rfl, rfl⟩]
    rfl

/-- Where every predicate can be judged, rules with known names have a verdict. -/
theorem exists_evaluate (hj : Judged ps as t) (hn : ∀ r ∈ rules ps, r.IsNamed) :
    ∃ v, evaluate ps as t = .ok v :=
  ⟨_, evaluate_eq_ok_iff.mpr
    ⟨fun r hr a ha => .of_isNamed (hn r hr) (hj r hr a ha), rfl⟩⟩

/-! ### What the matches gather -/

theorem mem_gathered {w : Violation} :
    w ∈ gathered ps as t ↔ ∃ r ∈ rules ps, ∃ a ∈ as, r.Matches a t ∧ r.Describes a t w := by
  simp only [gathered, List.mem_filterMap, Prod.exists, mem_pairs, Rule.found?_eq_some_iff]
  constructor
  · rintro ⟨r, a, ⟨hr, ha⟩, h⟩
    exact ⟨r, hr, a, ha, h⟩
  · rintro ⟨r, hr, a, ha, h⟩
    exact ⟨r, a, ⟨hr, ha⟩, h⟩

/-- Every match of settled rules is among what is gathered. -/
theorem exists_mem_gathered (hs : ∀ r ∈ rules ps, ∀ a ∈ as, r.Settles a t) {r : Rule}
    (hr : r ∈ rules ps) {a : Action} (ha : a ∈ as) (hm : r.Matches a t) :
    ∃ w ∈ gathered ps as t, r.Describes a t w := by
  obtain ⟨w, hw⟩ := (hs r hr a ha).exists_found hm
  have hd := (Rule.found?_eq_some_iff.mp hw).2
  exact ⟨w, mem_gathered.mpr ⟨r, hr, a, ha, hm, hd⟩, hd⟩

end Verdict

end ChangeGate
