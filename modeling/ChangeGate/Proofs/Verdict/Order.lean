import ChangeGate.Proofs.Starter.Policy
import Mathlib.Data.Prod.Lex
import Mathlib.Data.String.Basic

/-! # The order of violations

A verdict lists its violations by severity, path and code (`Violation.key`), and those that agree
in all three in the order in which they are found.  An `Occurrence` says where a match was found:
the policy file, the rule and the action by their positions, so that a rule or an action that is
given twice has two occurrences.

`evaluate_violations`: the violations of a verdict are one for each occurrence of a match, bypassed
or not, in the order of their keys and then of the occurrences. -/

namespace ChangeGate

/-! ### Stable sorting -/

/-- Sorting keeps a relation between entries that the order does not tell apart. -/
theorem pairwise_mergeSort_of_pairwise {α : Type} (le : α → α → Bool) {R : α → α → Prop}
    (trans : ∀ x y z, le x y → le y z → le x z) (total : ∀ x y, le x y || le y x) :
    ∀ {l : List α}, l.Pairwise R →
      (l.mergeSort le).Pairwise fun x y => le x y ∧ (le y x → R x y)
  | [], _ => by simp
  | x :: l, h => by
      obtain ⟨hx, hl⟩ := List.pairwise_cons.mp h
      obtain ⟨before, behind, e, e', hbefore⟩ := List.mergeSort_cons trans total x l
      have ih := pairwise_mergeSort_of_pairwise le trans total hl
      have hsorted := List.pairwise_mergeSort trans total (x :: l)
      have hmem : ∀ y ∈ behind, y ∈ l := fun y hy =>
        List.mem_mergeSort.mp (e' ▸ List.mem_append_right before hy)
      rw [e'] at ih
      rw [e] at hsorted ⊢
      obtain ⟨ihBefore, ihBehind, ihCross⟩ := List.pairwise_append.mp ih
      have hle := (List.pairwise_cons.mp (List.pairwise_append.mp hsorted).2.1).1
      refine List.pairwise_append.mpr ⟨ihBefore, List.pairwise_cons.mpr ⟨?_, ihBehind⟩, ?_⟩
      · exact fun y hy => ⟨hle y hy, fun _ => hx y (hmem y hy)⟩
      · intro y hy z hz
        rcases List.mem_cons.mp hz with rfl | hz
        · have hnot : le z y = false := by simpa using hbefore y hy
          refine ⟨by simpa [hnot] using total y z, fun h => ?_⟩
          rw [hnot] at h
          cases h
        · exact ihCross y hy z hz

namespace Violation

/-- What violations are ordered by: severity, path and code. -/
def key (v : Violation) : Nat ×ₗ String ×ₗ String :=
  toLex (v.severity.rank, toLex (v.evidence.path, v.code))

theorem before_iff (v w : Violation) : v.before w = true ↔ v.key ≤ w.key := by
  unfold before key
  rw [Prod.Lex.toLex_le_toLex, Prod.Lex.toLex_le_toLex]
  split
  · simp_all
  · split <;> simp_all

theorem before_trans (u v w : Violation) (h : u.before v) (h' : v.before w) : u.before w := by
  rw [before_iff] at *
  exact h.trans h'

theorem before_total (v w : Violation) : v.before w || w.before v := by
  rw [Bool.or_eq_true, before_iff, before_iff]
  exact le_total _ _

end Violation

/-! ### Where matches are found -/

/-- Where a match was found: a policy file, a rule of it and an action, each by its position. -/
structure Occurrence where
  file : Nat
  rule : Nat
  action : Nat
  deriving DecidableEq, Repr

namespace Occurrence

/-- What occurrences are ordered by. -/
def place (o : Occurrence) : Nat ×ₗ Nat ×ₗ Nat := toLex (o.file, toLex (o.rule, o.action))

/-- The rule and the action at an occurrence. -/
def at? (ps : List PolicySet) (as : List Action) (o : Occurrence) : Option (Rule × Action) := do
  let p ← ps[o.file]?
  let r ← p.rules[o.rule]?
  let a ← as[o.action]?
  return (r, a)

/-- All occurrences of rules and actions, in the order in which they are judged. -/
def all (ps : List PolicySet) (as : List Action) : List (Occurrence × Rule × Action) :=
  ps.zipIdx.flatMap fun p => p.1.rules.zipIdx.flatMap fun r => as.zipIdx.map fun a =>
    (⟨p.2, r.2, a.2⟩, r.1, a.1)

variable {ps : List PolicySet} {as : List Action}

theorem mem_all {o : Occurrence} {r : Rule} {a : Action} :
    (o, r, a) ∈ all ps as ↔ o.at? ps as = some (r, a) := by
  simp only [all, at?, List.mem_flatMap, List.mem_map, List.mem_zipIdx_iff_getElem?]
  constructor
  · rintro ⟨⟨p, i⟩, hp, ⟨r', j⟩, hr, ⟨a', k⟩, ha, h⟩
    cases h
    simp_all
  · intro h
    obtain ⟨i, j, k⟩ := o
    simp only [Option.bind_eq_bind, Option.bind_eq_some_iff, Option.pure_def,
      Option.some.injEq, Prod.mk.injEq] at h
    obtain ⟨p, hp, r', hr, a', ha, rfl, rfl⟩ := h
    exact ⟨(p, i), hp, (r', j), hr, (a', k), ha, rfl⟩

theorem map_zipIdx {α β : Type} (l : List α) (f : α → β) :
    (l.zipIdx.map fun x => f x.1) = l.map f := by
  conv_rhs => rw [← List.zipIdx_map_fst 0 l, List.map_map]
  rfl

theorem flatMap_zipIdx {α β : Type} (l : List α) (f : α → List β) :
    (l.zipIdx.flatMap fun x => f x.1) = l.flatMap f := by
  rw [List.flatMap, map_zipIdx]
  rfl

/-- The occurrences number what is judged. -/
theorem map_snd_all : (all ps as).map (·.2) = Verdict.pairs ps as := by
  have haction (r : Rule) : as.zipIdx.map (fun a => (r, a.1)) = as.map (r, ·) :=
    map_zipIdx as (r, ·)
  have hrule (p : PolicySet) : p.rules.zipIdx.flatMap (fun r => as.map (r.1, ·)) =
      p.rules.flatMap fun r => as.map (r, ·) :=
    flatMap_zipIdx p.rules fun r => as.map (r, ·)
  simp only [all, List.map_flatMap, List.map_map, Function.comp_def, haction, hrule]
  rw [Verdict.pairs, List.flatMap_assoc]
  exact flatMap_zipIdx ps fun p => p.rules.flatMap fun r => as.map (r, ·)

theorem pairwise_zipIdx {α : Type} (l : List α) : l.zipIdx.Pairwise fun x y => x.2 < y.2 := by
  have h : (l.zipIdx.map (·.2)).Pairwise (· < ·) := by
    rw [List.zipIdx_map_snd]
    exact List.pairwise_lt_range'
  exact List.pairwise_map.mp h

theorem pairwise_all : (all ps as).Pairwise fun x y => x.1.place < y.1.place := by
  simp only [all, place, List.pairwise_flatMap, List.pairwise_map, List.mem_flatMap, List.mem_map,
    Prod.Lex.toLex_lt_toLex]
  refine ⟨fun p _ => ⟨fun r _ => ?_, ?_⟩, ?_⟩
  · exact (pairwise_zipIdx as).imp fun h => .inr ⟨trivial, .inr ⟨trivial, h⟩⟩
  · refine (pairwise_zipIdx p.1.rules).imp fun h => ?_
    rintro x ⟨a, _, rfl⟩ y ⟨b, _, rfl⟩
    exact .inr ⟨rfl, .inl h⟩
  · refine (pairwise_zipIdx ps).imp fun h => ?_
    rintro x ⟨r, _, a, _, rfl⟩ y ⟨r', _, b, _, rfl⟩
    exact .inl h

end Occurrence

namespace Verdict

/-! ### The violations of a verdict, located -/

section located
variable (ps : List PolicySet) (as : List Action) (t : Task)

/-- The violations of a change set as they are found, each with its occurrence. -/
def located : List (Occurrence × Violation) :=
  (Occurrence.all ps as).filterMap fun x => (x.2.1.found? x.2.2 t).map (x.1, ·)

/-- The located violations in the order of a verdict. -/
def arranged : List (Occurrence × Violation) :=
  (located ps as t).mergeSort fun x y => x.2.before y.2

theorem map_snd_located : (located ps as t).map (·.2) = gathered ps as t := by
  rw [located, gathered, ← Occurrence.map_snd_all, List.map_filterMap, List.filterMap_map]
  refine List.filterMap_congr fun x _ => ?_
  cases h : x.2.1.found? x.2.2 t <;> simp [h]

theorem map_snd_arranged :
    (arranged ps as t).map (·.2) = Violation.sorted (gathered ps as t) := by
  rw [Violation.sorted, ← map_snd_located]
  exact List.map_mergeSort fun _ _ _ _ => rfl

theorem pairwise_located : (located ps as t).Pairwise fun x y => x.1.place < y.1.place := by
  refine List.pairwise_filterMap.mpr (Occurrence.pairwise_all.imp fun h x hx y hy => ?_)
  obtain ⟨v, -, rfl⟩ := Option.map_eq_some_iff.mp hx
  obtain ⟨w, -, rfl⟩ := Option.map_eq_some_iff.mp hy
  exact h

/-- In a verdict, violations stand by their keys and then by their occurrences. -/
theorem pairwise_arranged : (arranged ps as t).Pairwise fun x y =>
    x.2.key < y.2.key ∨ x.2.key = y.2.key ∧ x.1.place < y.1.place := by
  have h := pairwise_mergeSort_of_pairwise (fun x y => x.2.before y.2)
    (fun x y z => Violation.before_trans x.2 y.2 z.2)
    (fun x y => Violation.before_total x.2 y.2) (pairwise_located ps as t)
  refine h.imp fun {x y} hxy => ?_
  rw [Violation.before_iff, Violation.before_iff] at hxy
  rcases hxy.1.lt_or_eq with hlt | heq
  · exact .inl hlt
  · exact .inr ⟨heq, hxy.2 heq.ge⟩

variable {ps as t}

theorem mem_located {o : Occurrence} {w : Violation} :
    (o, w) ∈ located ps as t ↔
      ∃ r a, o.at? ps as = some (r, a) ∧ r.Matches a t ∧ r.Describes a t w := by
  simp only [located, List.mem_filterMap, Option.map_eq_some_iff, Prod.exists,
    Rule.found?_eq_some_iff, Prod.mk.injEq]
  constructor
  · rintro ⟨_, r, a, hmem, _, hw, rfl, rfl⟩
    exact ⟨r, a, Occurrence.mem_all.mp hmem, hw⟩
  · rintro ⟨r, a, hat, hw⟩
    exact ⟨o, r, a, Occurrence.mem_all.mpr hat, w, hw, rfl, rfl⟩

end located

/-- **Every match has its violation in its place.**  The violations of a verdict are one for each
occurrence of a match, excused or not, and none besides; they stand by severity, path and code, and
those that agree in all three by policy file, rule and action. -/
theorem evaluate_violations {ps : List PolicySet} {as : List Action} {t : Task}
    (hj : Judged ps as t) :
    ((∀ r ∈ rules ps, r.IsNamed) → ∃ v, evaluate ps as t = .ok v) ∧
    ∀ v, evaluate ps as t = .ok v → ∃ found : List (Occurrence × Violation),
      v.violations = found.map (·.2) ∧
      (found.map (·.1)).Nodup ∧
      (∀ o, o ∈ found.map (·.1) ↔ ∃ r a, o.at? ps as = some (r, a) ∧ r.Matches a t) ∧
      (∀ x ∈ found, ∃ r a, x.1.at? ps as = some (r, a) ∧ r.Describes a t x.2) ∧
      found.Pairwise fun x y =>
        x.2.key < y.2.key ∨ x.2.key = y.2.key ∧ x.1.place < y.1.place := by
  refine ⟨exists_evaluate hj, fun v hv => ⟨arranged ps as t, ?_⟩⟩
  obtain ⟨hs, rfl⟩ := evaluate_eq_ok_iff.mp hv
  have hmem {o w} : (o, w) ∈ arranged ps as t ↔
      ∃ r a, o.at? ps as = some (r, a) ∧ r.Matches a t ∧ r.Describes a t w :=
    List.mem_mergeSort.trans mem_located
  refine ⟨(map_snd_arranged ps as t).symm, ?_, fun o => ?_, ?_, pairwise_arranged ps as t⟩
  · have hperm := (List.mergeSort_perm (located ps as t) fun x y => x.2.before y.2).map (·.1)
    refine hperm.nodup_iff.mpr (List.pairwise_map.mpr ?_)
    exact (pairwise_located ps as t).imp fun h e => (e ▸ h).false
  · constructor
    · intro ho
      obtain ⟨⟨o, w⟩, hx, rfl⟩ := List.mem_map.mp ho
      obtain ⟨r, a, hat, hm, -⟩ := hmem.mp hx
      exact ⟨r, a, hat, hm⟩
    · rintro ⟨r, a, hat, hm⟩
      have hpair : (r, a) ∈ pairs ps as := by
        rw [← Occurrence.map_snd_all]
        exact List.mem_map.mpr ⟨_, Occurrence.mem_all.mpr hat, rfl⟩
      obtain ⟨hr, ha⟩ := mem_pairs.mp hpair
      obtain ⟨w, hw⟩ := (hs r hr a ha).exists_found hm
      have hd := (Rule.found?_eq_some_iff.mp hw).2
      exact List.mem_map.mpr ⟨(o, w), hmem.mpr ⟨r, a, hat, hm, hd⟩, rfl⟩
  · rintro ⟨o, w⟩ hx
    obtain ⟨r, a, hat, -, hd⟩ := hmem.mp hx
    exact ⟨r, a, hat, hd⟩

/-- An action that is given twice has two violations, and the rule that misses it has none. -/
theorem evaluate_violations_repeated :
    Judged [Starter.policySet] [{ path := "a.sh" }, { path := "a.sh" }] {} ∧
    ∃ v, evaluate [Starter.policySet] [{ path := "a.sh" }, { path := "a.sh" }] {} = .ok v ∧
      ∃ found : List (Occurrence × Violation), v.violations = found.map (·.2) ∧
        ⟨0, 1, 0⟩ ∈ found.map (·.1) ∧ ⟨0, 1, 1⟩ ∈ found.map (·.1) ∧
        ⟨0, 0, 0⟩ ∉ found.map (·.1) := by
  have hj := Starter.judged_policySet [{ path := "a.sh" }, { path := "a.sh" }] {}
  obtain ⟨hreturns, hfound⟩ := evaluate_violations hj
  obtain ⟨v, hv⟩ := hreturns Starter.isNamed_policySet
  obtain ⟨found, hviolations, -, hmem, -⟩ := hfound v hv
  refine ⟨hj, v, hv, found, hviolations, ?_, ?_, ?_⟩
  · exact (hmem _).mpr ⟨Starter.unmapped, { path := "a.sh" }, rfl, by decide⟩
  · exact (hmem _).mpr ⟨Starter.unmapped, { path := "a.sh" }, rfl, by decide⟩
  · intro h
    obtain ⟨r, a, hat, hm⟩ := (hmem _).mp h
    cases hat
    exact absurd hm (by decide)

end Verdict

end ChangeGate
