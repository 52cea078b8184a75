import ChangeGate.Proofs.Predicate.Conjuncts

/-! # Conjunctions from left to right

Judging a predicate reaches its conjuncts from left to right and goes on behind true ones only
(`Reaches`).  So it is true if all conjuncts are (`truth_judge_eq_true_iff`), and everything else
it can come to, a fault or not being true, comes from a conjunct that is reached
(`truth_judge_eq_iff`), as do the unknown fields (`mem_unknown_judge_iff`).

`judge_conjuncts` puts this together for all trees, those with a tree in the place of an operand
or a node of no known class included: a conjunct fails as `fault?` says, under every task alike, and
it looks up the paths of `lookups`, which ends at an operand that is none. -/

namespace ChangeGate

/-! ### Judgements in a row -/

namespace Judgement

variable {js : List Judgement}

theorem truth_all_eq_true_iff : (all js).truth = .ok true ↔ ∀ j ∈ js, j.truth = .ok true := by
  induction js with
  | nil => simp [all]
  | cons j js ih =>
      rw [List.forall_mem_cons, ← ih]
      by_cases h : j.truth = .ok true
      · simp [all_cons_of_true h, h]
      · simp [all_cons_of_ne_true h, h]

/-- A row is not true because of one judgement behind true ones. -/
theorem truth_all_eq_iff {truth : Except Fault Bool} (htruth : truth ≠ .ok true) :
    (all js).truth = truth ↔ ∃ before j after, js = before ++ j :: after ∧ j.truth = truth ∧
      ∀ i ∈ before, i.truth = .ok true := by
  induction js with
  | nil => simp [all, htruth.symm]
  | cons j js ih =>
      rw [exists_split_cons_iff, ← ih]
      by_cases h : j.truth = .ok true
      · simp [all_cons_of_true h, h, htruth.symm]
      · simp [all_cons_of_ne_true h, h]

end Judgement

namespace Relation

/-- Why nothing stands in a relation. -/
def fault? : Relation → Option Fault
  | .equal | .unequal => none
  | .other symbol => some (.unknownRelation symbol)

theorem holds_eq_error_iff (relation : Relation) (x y : Operand) (fault : Fault) :
    relation.holds x y = .error fault ↔ relation.fault? = some fault := by
  cases relation <;> simp [holds, fault?]

end Relation

namespace Predicate

variable (a : Action) (t : Task)

/-! ### What a conjunct looks up -/

/-- Whether a tree can stand in a comparison. -/
def isAtom : Predicate → Bool
  | both _ _ | compare _ _ _ | other _ => false
  | field _ | text _ | number _ | null => true

/-- The path that an operand looks up. -/
def path? : Predicate → Option String
  | field path => some path
  | _ => none

/-- The paths that a conjunct looks up: those of its operands, up to one that is none. -/
def lookups : Predicate → List String
  | compare _ left right =>
    left.path?.toList ++ if left.isAtom then right.path?.toList else []
  | p => p.path?.toList

theorem exists_operand_iff (p : Predicate) :
    (∃ x, (operand a t p).1 = .ok x) ↔ p.isAtom = true := by
  cases p <;> simp [operand, isAtom]

theorem operand_of_not_isAtom {p : Predicate} (h : p.isAtom = false) :
    operand a t p = (.error (.noOperand p.kind), []) := by
  cases p with
  | both _ _ | compare _ _ _ | other _ => rfl
  | field _ | text _ | number _ | null => exact absurd h.symm nofun

theorem operand_snd (p : Predicate) : (operand a t p).2 = unknownAmong p.path?.toList := by
  cases p with
  | field path => exact lookup_snd a t path
  | _ => rfl

/-- A comparison looks up what its operands do, the second one behind a first that is one. -/
theorem unknown_judge_compare (relation : Relation) (left right : Predicate) :
    ((compare relation left right).judge a t).unknown =
      unknownAmong (compare relation left right).lookups := by
  have happend (paths paths' : List String) :
      unknownAmong (paths ++ paths') = unknownAmong paths ++ unknownAmong paths' :=
    List.filter_append ..
  have hatom := exists_operand_iff a t left
  rw [judge, lookups, happend, ← operand_snd a t left]
  generalize operand a t left = x at hatom ⊢
  obtain ⟨x, xs⟩ := x
  cases x with
  | error e =>
      have hnone : left.isAtom = false := by simpa using hatom
      rw [hnone]
      exact (List.append_nil xs).symm
  | ok x =>
      rw [if_pos (hatom.mp ⟨x, rfl⟩), ← operand_snd a t right]
      obtain ⟨y, ys⟩ := operand a t right
      cases y <;> rfl

theorem not_both_of_mem_conjuncts {p c : Predicate} (h : c ∈ p.conjuncts) (left right : Predicate) :
    c ≠ both left right := by
  induction p with
  | both l r ihl ihr => exact (List.mem_append.mp h).elim ihl ihr
  | _ =>
      rw [List.mem_singleton.mp h]
      nofun

theorem unknown_judge_of_mem_conjuncts {p c : Predicate} (h : c ∈ p.conjuncts) :
    (c.judge a t).unknown = unknownAmong c.lookups := by
  cases c with
  | both left right => exact absurd rfl (not_both_of_mem_conjuncts h left right)
  | compare relation left right => exact unknown_judge_compare a t relation left right
  | field path => exact lookup_snd a t path
  | _ => rfl

/-! ### How a conjunct fails -/

/-- Why a conjunct cannot be judged: of a comparison its first operand is looked at first, then the
second one and then the relation. -/
def fault? : Predicate → Option Fault
  | compare relation left right =>
    if left.isAtom then
      if right.isAtom then relation.fault? else some (.noOperand right.kind)
    else some (.noOperand left.kind)
  | other kind => some (.unknownNode kind)
  | _ => none

theorem truth_judge_compare_eq_error_iff (relation : Relation) (left right : Predicate)
    (fault : Fault) : ((compare relation left right).judge a t).truth = .error fault ↔
      (compare relation left right).fault? = some fault := by
  rw [judge, fault?]
  cases hleft : left.isAtom with
  | false => simp [operand_of_not_isAtom a t hleft]
  | true =>
      obtain ⟨x, hx⟩ := (exists_operand_iff a t left).mpr hleft
      cases hright : right.isAtom with
      | false => simp [hx, operand_of_not_isAtom a t hright]
      | true =>
          obtain ⟨y, hy⟩ := (exists_operand_iff a t right).mpr hright
          simp [hx, hy, relation.holds_eq_error_iff]

/-- A conjunct fails under every task alike. -/
theorem truth_judge_eq_error_iff {p c : Predicate} (h : c ∈ p.conjuncts) (fault : Fault) :
    (c.judge a t).truth = .error fault ↔ c.fault? = some fault := by
  cases c with
  | both left right => exact absurd rfl (not_both_of_mem_conjuncts h left right)
  | compare relation left right =>
      exact truth_judge_compare_eq_error_iff a t relation left right fault
  | _ => simp [judge, fault?]

/-! ### From left to right -/

/-- Judging a predicate gets as far as a conjunct: all that stand in front of it are true. -/
def Reaches (p c : Predicate) : Prop :=
  ∃ before after, p.conjuncts = before ++ c :: after ∧
    ∀ b ∈ before, (b.judge a t).truth = .ok true

variable {a t} {p c : Predicate}

theorem Reaches.mem_conjuncts (h : p.Reaches a t c) : c ∈ p.conjuncts := by
  obtain ⟨before, after, hsplit, -⟩ := h
  exact hsplit ▸ List.mem_append_right _ (List.mem_cons_self ..)

theorem exists_reaches_iff {P : Predicate → Prop} : (∃ c, p.Reaches a t c ∧ P c) ↔
    ∃ before c after, p.conjuncts = before ++ c :: after ∧ P c ∧
      ∀ b ∈ before, (b.judge a t).truth = .ok true := by
  constructor
  · rintro ⟨c, ⟨before, after, hsplit, htrue⟩, hc⟩
    exact ⟨before, c, after, hsplit, hc, htrue⟩
  · rintro ⟨before, c, after, hsplit, hc, htrue⟩
    exact ⟨c, ⟨before, after, hsplit, htrue⟩, hc⟩

theorem truth_judge_eq_true_iff : (p.judge a t).truth = .ok true ↔
    ∀ c ∈ p.conjuncts, (c.judge a t).truth = .ok true := by
  rw [judge_eq_all, Judgement.truth_all_eq_true_iff, List.forall_mem_map]

/-- What a predicate comes to without being true one of the conjuncts comes to that it reaches. -/
theorem truth_judge_eq_iff {truth : Except Fault Bool} (htruth : truth ≠ .ok true) :
    (p.judge a t).truth = truth ↔ ∃ c, p.Reaches a t c ∧ (c.judge a t).truth = truth := by
  rw [judge_eq_all, Judgement.truth_all_eq_iff htruth, exists_split_map_iff, exists_reaches_iff]

theorem mem_unknown_judge_iff {path : String} : path ∈ (p.judge a t).unknown ↔
    ∃ c, p.Reaches a t c ∧ path ∈ (c.judge a t).unknown := by
  rw [judge_eq_all, Judgement.mem_unknown_all_iff, exists_split_map_iff, exists_reaches_iff]

/-- To be unequal is not to be equal, for whatever can be compared. -/
theorem judge_unequal {left right : Predicate} (hleft : left.isAtom = true)
    (hright : right.isAtom = true) : ∃ b,
      ((compare .equal left right).judge a t).truth = .ok b ∧
        ((compare .unequal left right).judge a t).truth = .ok !b := by
  obtain ⟨x, hx⟩ := (exists_operand_iff a t left).mpr hleft
  obtain ⟨y, hy⟩ := (exists_operand_iff a t right).mpr hright
  refine ⟨x.same y, ?_, ?_⟩ <;> simp only [judge, hx, hy] <;> rfl

/-- **Conjunctions short-circuit from left to right.**  However its conjunctions are nested, a
predicate is true exactly if all its conjuncts are, and it fails exactly if a conjunct fails behind
true ones, and as that one does: at an operand that is none, at a relation that is none or at a node
of no known class.  The unknown fields that it comes across are those that the conjuncts look up as
far as it gets.  So predicates with the same conjuncts are judged alike.  To be unequal is not to be
equal. -/
theorem judge_conjuncts (p : Predicate) (a : Action) (t : Task) :
    ((p.judge a t).truth = .ok true ↔ ∀ c ∈ p.conjuncts, (c.judge a t).truth = .ok true) ∧
    (∀ fault, (p.judge a t).truth = .error fault ↔
      ∃ c, p.Reaches a t c ∧ (c.judge a t).truth = .error fault) ∧
    (∀ c ∈ p.conjuncts, ∀ fault,
      (c.judge a t).truth = .error fault ↔ c.fault? = some fault) ∧
    (∀ path, path ∈ (p.judge a t).unknown ↔
      (∀ f : Field, f.path ≠ path) ∧ ∃ c, p.Reaches a t c ∧ path ∈ c.lookups) ∧
    (∀ q : Predicate, q.conjuncts = p.conjuncts → q.judge a t = p.judge a t) ∧
    ∀ left right : Predicate, left.isAtom = true → right.isAtom = true → ∃ b,
      ((compare .equal left right).judge a t).truth = .ok b ∧
        ((compare .unequal left right).judge a t).truth = .ok !b := by
  refine ⟨truth_judge_eq_true_iff, fun fault => truth_judge_eq_iff nofun,
    fun _ hc => truth_judge_eq_error_iff a t hc, fun path => ?_, fun q hq => ?_,
    fun _ _ => judge_unequal⟩
  · have hlookups (c : Predicate) (hc : p.Reaches a t c) : path ∈ (c.judge a t).unknown ↔
        (∀ f : Field, f.path ≠ path) ∧ path ∈ c.lookups := by
      rw [unknown_judge_of_mem_conjuncts a t hc.mem_conjuncts, mem_unknownAmong, and_comm]
    rw [mem_unknown_judge_iff]
    constructor
    · rintro ⟨c, hc, hpath⟩
      obtain ⟨hnone, hpath⟩ := (hlookups c hc).mp hpath
      exact ⟨hnone, c, hc, hpath⟩
    · rintro ⟨hnone, c, hc, hpath⟩
      exact ⟨c, hc, (hlookups c hc).mpr ⟨hnone, hpath⟩⟩
  · rw [judge_eq_all, hq, ← judge_eq_all]

/-- A value that is no number. -/
def noNumber : Predicate := number (.fraction .notANumber)

/-- A comparison of no number with itself, one of an unknown field with a conjunction, and a node of
no known class behind them, grouped to the right. -/
def broken : Predicate :=
  both (compare .unequal noNumber noNumber)
    (both (compare .equal (field "file.owner") (both null null)) (other "Or"))

/-- The comparison that has no second operand ends the judging behind its first one, and it does so
however the conjunctions are grouped; in its place the node of no known class does. -/
theorem judge_conjuncts_broken :
    (broken.judge { path := "a.py" } {}).truth = .error (.noOperand "And") ∧
    "file.owner" ∈ (broken.judge { path := "a.py" } {}).unknown ∧
    (both (both (compare .unequal noNumber noNumber)
      (compare .equal (field "file.owner") (both null null))) (other "Or")).judge
        { path := "a.py" } {} = broken.judge { path := "a.py" } {} ∧
    ((both (compare .unequal noNumber noNumber) (other "Or")).judge
      { path := "a.py" } {}).truth = .error (.unknownNode "Or") ∧
    ∃ b, ((compare .equal noNumber noNumber).judge { path := "a.py" } {}).truth = .ok b ∧
      ((compare .unequal noNumber noNumber).judge { path := "a.py" } {}).truth = .ok !b := by
  obtain ⟨-, hfault, hfaults, hunknown, halike, hunequal⟩ :=
    judge_conjuncts broken { path := "a.py" } {}
  obtain ⟨-, hfault', hfaults', -⟩ :=
    judge_conjuncts (both (compare .unequal noNumber noNumber) (other "Or")) { path := "a.py" } {}
  have hunequal' : ∀ b ∈ [compare .unequal noNumber noNumber],
      (b.judge { path := "a.py" } {}).truth = .ok true :=
    List.forall_mem_singleton.mpr (by decide)
  have hreaches : broken.Reaches { path := "a.py" } {}
      (compare .equal (field "file.owner") (both null null)) := ⟨[_], [_], rfl, hunequal'⟩
  have hreaches' : (both (compare .unequal noNumber noNumber) (other "Or")).Reaches
      { path := "a.py" } {} (other "Or") := ⟨[_], [], rfl, hunequal'⟩
  have hnone : ∀ f : Field, f.path ≠ "file.owner" := Field.ofPath?_eq_none_iff.mp (by decide)
  exact ⟨(hfault _).mpr ⟨_, hreaches, (hfaults _ hreaches.mem_conjuncts _).mpr rfl⟩,
    (hunknown _).mpr ⟨hnone, _, hreaches, List.mem_singleton_self _⟩, halike _ rfl,
    (hfault' _).mpr ⟨_, hreaches', (hfaults' _ hreaches'.mem_conjuncts _).mpr rfl⟩,
    hunequal _ _ rfl rfl⟩

end Predicate
end ChangeGate
