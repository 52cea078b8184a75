import ChangeGate.Predicate.Judge
import ChangeGate.Proofs.Predicate.Shape

/-! # Judging a conjunction part by part

A predicate is judged as its conjuncts are, one after the other, up to the first one that is false
or cannot be judged (`Predicate.judge_eq_all`), however the conjunctions are nested.  So a chain of
comparisons can always be judged (`exists_truth_of_isChain`), and an unknown field is looked up
exactly if a conjunct mentions it and all conjuncts before that one are true
(`mem_unknown_of_isChain`). -/

namespace ChangeGate

/-! ### Behind entries of a kind -/

section

variable {α β : Type} {P Q : β → Prop}

/-- An entry behind others of a kind is the first one, or the first one is of that kind. -/
theorem exists_split_cons_iff {y : β} {ys : List β} :
    (∃ before x after, y :: ys = before ++ x :: after ∧ P x ∧ ∀ z ∈ before, Q z) ↔
      P y ∨ Q y ∧ ∃ before x after, ys = before ++ x :: after ∧ P x ∧ ∀ z ∈ before, Q z := by
  constructor
  · rintro ⟨before, x, after, hsplit, hx, hbefore⟩
    cases before with
    | nil =>
        obtain ⟨rfl, -⟩ := List.cons.inj hsplit
        exact .inl hx
    | cons z before =>
        obtain ⟨rfl, htail⟩ := List.cons.inj hsplit
        obtain ⟨hy, hbefore⟩ := List.forall_mem_cons.mp hbefore
        exact .inr ⟨hy, before, x, after, htail, hx, hbefore⟩
  · rintro (hy | ⟨hy, before, x, after, rfl, hx, hbefore⟩)
    · exact ⟨[], y, ys, rfl, hy, nofun⟩
    · exact ⟨y :: before, x, after, rfl, hx, List.forall_mem_cons.mpr ⟨hy, hbefore⟩⟩

theorem exists_split_map_iff {f : α → β} {xs : List α} :
    (∃ before y after, xs.map f = before ++ y :: after ∧ P y ∧ ∀ z ∈ before, Q z) ↔
      ∃ before x after, xs = before ++ x :: after ∧ P (f x) ∧ ∀ z ∈ before, Q (f z) := by
  induction xs with
  | nil => simp
  | cons x xs ih =>
      rw [List.map_cons, exists_split_cons_iff, ih,
        exists_split_cons_iff (P := fun x => P (f x)) (Q := fun x => Q (f x))]

end

/-! ### Judgements in a row -/

namespace Judgement

/-- What judgements in a row come to: they are taken up to the first one that is not true. -/
def all : List Judgement → Judgement
  | [] => ⟨.ok true, []⟩
  | j :: js =>
    match j.truth with
    | .ok true => ⟨(all js).truth, j.unknown ++ (all js).unknown⟩
    | _ => j

variable {j : Judgement} {js ks : List Judgement} {u : String}

theorem all_cons_of_true (h : j.truth = .ok true) (js : List Judgement) :
    all (j :: js) = ⟨(all js).truth, j.unknown ++ (all js).unknown⟩ := by
  rw [all, h]

theorem all_cons_of_ne_true (h : j.truth ≠ .ok true) (js : List Judgement) : all (j :: js) = j := by
  rw [all]
  split
  · rename_i htrue
    exact absurd htrue h
  · rfl

theorem all_singleton (j : Judgement) : all [j] = j := by
  by_cases h : j.truth = .ok true
  · rw [all_cons_of_true h, all, List.append_nil, ← h]
  · exact all_cons_of_ne_true h []

theorem all_append (js ks : List Judgement) : all (js ++ ks) = all [all js, all ks] := by
  induction js with
  | nil => rw [List.nil_append, all_cons_of_true rfl, all_singleton, all, List.nil_append]
  | cons j js ih =>
      by_cases h : j.truth = .ok true
      · let row : Judgement := ⟨(all js).truth, j.unknown ++ (all js).unknown⟩
        rw [List.cons_append, all_cons_of_true h, all_cons_of_true h, ih]
        by_cases hjs : (all js).truth = .ok true
        · have hrow : row.truth = .ok true := hjs
          rw [all_cons_of_true hjs, all_cons_of_true hrow, all_singleton, List.append_assoc]
        · have hrow : row.truth ≠ .ok true := hjs
          rw [all_cons_of_ne_true hjs, all_cons_of_ne_true hrow]
      · rw [List.cons_append, all_cons_of_ne_true h, all_cons_of_ne_true h,
          all_cons_of_ne_true h]

theorem exists_truth_all (h : ∀ j ∈ js, ∃ b, j.truth = .ok b) : ∃ b, (all js).truth = .ok b := by
  induction js with
  | nil => exact ⟨true, rfl⟩
  | cons j js ih =>
      obtain ⟨hj, hjs⟩ := List.forall_mem_cons.mp h
      by_cases htrue : j.truth = .ok true
      · rw [all_cons_of_true htrue]
        exact ih hjs
      · rw [all_cons_of_ne_true htrue]
        exact hj

/-- What is looked up in a row is looked up behind true judgements only. -/
theorem mem_unknown_all_iff : u ∈ (all js).unknown ↔
    ∃ before j after, js = before ++ j :: after ∧ u ∈ j.unknown ∧
      ∀ i ∈ before, i.truth = .ok true := by
  induction js with
  | nil => simp [all]
  | cons j js ih =>
      rw [exists_split_cons_iff, ← ih]
      by_cases h : j.truth = .ok true
      · simp [all_cons_of_true h, h]
      · simp [all_cons_of_ne_true h, h]

end Judgement

namespace Predicate

variable (a : Action) (t : Task)

/-- A predicate is judged as its conjuncts are in a row. -/
theorem judge_eq_all (p : Predicate) : p.judge a t = .all (p.conjuncts.map (·.judge a t)) := by
  induction p with
  | both left right ihl ihr =>
      rw [conjuncts, List.map_append, Judgement.all_append, ← ihl, ← ihr, judge]
      by_cases h : (left.judge a t).truth = .ok true
      · rw [Judgement.all_cons_of_true h, Judgement.all_singleton]
        simp only [h]
      · rw [Judgement.all_cons_of_ne_true h]
        split
        · rename_i htrue
          exact absurd htrue h
        · rfl
  | _ => exact (Judgement.all_singleton _).symm

/-! ### Comparisons -/

/-- The fields among some paths that no change has. -/
def unknownAmong (paths : List String) : List String :=
  paths.filter fun path => (Field.ofPath? path).isNone

theorem mem_unknownAmong {paths : List String} {path : String} :
    path ∈ unknownAmong paths ↔ path ∈ paths ∧ ∀ f : Field, f.path ≠ path := by
  rw [unknownAmong, List.mem_filter, Option.isNone_iff_eq_none, Field.ofPath?_eq_none_iff]

theorem lookup_snd (path : String) : (lookup a t path).2 = unknownAmong [path] := by
  rw [lookup, unknownAmong]
  cases h : Field.ofPath? path <;> simp [h]

variable {literal : Number → Prop} {p q : Predicate}

/-- An operand stands for something, and its unknown fields are looked up. -/
theorem operand_of_isOperand (h : IsOperand literal p) :
    ∃ x, operand a t p = (.ok x, unknownAmong p.fields) := by
  cases h with
  | null => exact ⟨_, rfl⟩
  | text s => exact ⟨_, rfl⟩
  | number hn => exact ⟨_, rfl⟩
  | @field path hpath =>
      rw [fields, ← lookup_snd a t]
      exact ⟨_, rfl⟩

/-- An operand that stands alone can be judged, and its unknown fields are looked up. -/
theorem judge_of_isOperand (h : IsOperand literal p) :
    (∃ b, (p.judge a t).truth = .ok b) ∧ (p.judge a t).unknown = unknownAmong p.fields := by
  cases h with
  | null => exact ⟨⟨_, rfl⟩, rfl⟩
  | text s => exact ⟨⟨_, rfl⟩, rfl⟩
  | number hn => exact ⟨⟨_, rfl⟩, rfl⟩
  | @field path hpath => exact ⟨⟨_, rfl⟩, lookup_snd a t path⟩

/-- Two operands can be compared for being equal and unequal, and the unknown fields of both are
looked up. -/
theorem judge_of_compare (hp : IsOperand literal p) (hq : IsOperand literal q)
    {relation : Relation} (hr : relation = .equal ∨ relation = .unequal) :
    (∃ b, ((compare relation p q).judge a t).truth = .ok b) ∧
      ((compare relation p q).judge a t).unknown = unknownAmong (compare relation p q).fields := by
  obtain ⟨x, hx⟩ := operand_of_isOperand a t hp
  obtain ⟨y, hy⟩ := operand_of_isOperand a t hq
  have hholds : ∃ b, relation.holds x y = .ok b := by
    rcases hr with rfl | rfl
    · exact ⟨_, rfl⟩
    · exact ⟨_, rfl⟩
  have hfields : unknownAmong p.fields ++ unknownAmong q.fields =
      unknownAmong (compare relation p q).fields := (List.filter_append ..).symm
  rw [judge, hx, hy]
  exact ⟨hholds, hfields⟩

theorem judge_of_isComparison (h : IsComparison literal p) :
    (∃ b, (p.judge a t).truth = .ok b) ∧ (p.judge a t).unknown = unknownAmong p.fields := by
  cases h with
  | operand hp => exact judge_of_isOperand a t hp
  | equal hp hq => exact judge_of_compare a t hp hq (.inl rfl)
  | unequal hp hq => exact judge_of_compare a t hp hq (.inr rfl)

/-! ### Chains -/

theorem conjuncts_of_isComparison (h : IsComparison literal p) : p.conjuncts = [p] := by
  cases h with
  | operand hp => cases hp <;> rfl
  | equal hp hq => rfl
  | unequal hp hq => rfl

theorem isComparison_of_mem_conjuncts (h : IsChain literal p) :
    ∀ c ∈ p.conjuncts, IsComparison literal c := by
  induction h with
  | comparison hp =>
      rw [conjuncts_of_isComparison hp]
      exact List.forall_mem_singleton.mpr hp
  | both _ hq ih =>
      rw [conjuncts, conjuncts_of_isComparison hq]
      intro c hc
      rcases List.mem_append.mp hc with hc | hc
      · exact ih c hc
      · rwa [List.mem_singleton.mp hc]

/-- A predicate mentions the fields of its conjuncts. -/
theorem fields_eq_flatMap (p : Predicate) : p.fields = p.conjuncts.flatMap fields := by
  induction p with
  | both left right ihl ihr => rw [conjuncts, List.flatMap_append, ← ihl, ← ihr, fields]
  | _ => exact (List.flatMap_singleton _ _).symm

/-- A chain can be judged on every action. -/
theorem exists_truth_of_isChain (h : IsChain literal p) : ∃ b, (p.judge a t).truth = .ok b := by
  rw [judge_eq_all]
  refine Judgement.exists_truth_all fun j hj => ?_
  obtain ⟨c, hc, rfl⟩ := List.mem_map.mp hj
  exact (judge_of_isComparison a t (isComparison_of_mem_conjuncts h c hc)).1

/-- A predicate consults a path that one of its conjuncts mentions, behind conjuncts that are
true. -/
def Consults (p : Predicate) (path : String) : Prop :=
  ∃ before c after, p.conjuncts = before ++ c :: after ∧ path ∈ c.fields ∧
    ∀ b ∈ before, (b.judge a t).truth = .ok true

variable {a t}

/-- The unknown fields that judging a chain looks up are those that it consults. -/
theorem mem_unknown_of_isChain (h : IsChain literal p) {path : String} :
    path ∈ (p.judge a t).unknown ↔ (∀ f : Field, f.path ≠ path) ∧ p.Consults a t path := by
  have hunknown {before after : List Predicate} {c : Predicate}
      (hsplit : p.conjuncts = before ++ c :: after) :
      path ∈ (c.judge a t).unknown ↔ path ∈ c.fields ∧ ∀ f : Field, f.path ≠ path := by
    have hc : c ∈ p.conjuncts := by simp [hsplit]
    rw [(judge_of_isComparison a t (isComparison_of_mem_conjuncts h c hc)).2, mem_unknownAmong]
  rw [judge_eq_all, Judgement.mem_unknown_all_iff, exists_split_map_iff]
  constructor
  · rintro ⟨before, c, after, hsplit, hpath, htrue⟩
    obtain ⟨hmentioned, hnone⟩ := (hunknown hsplit).mp hpath
    exact ⟨hnone, before, c, after, hsplit, hmentioned, htrue⟩
  · rintro ⟨hnone, before, c, after, hsplit, hmentioned, htrue⟩
    exact ⟨before, c, after, hsplit, (hunknown hsplit).mpr ⟨hmentioned, hnone⟩, htrue⟩

end Predicate
end ChangeGate
