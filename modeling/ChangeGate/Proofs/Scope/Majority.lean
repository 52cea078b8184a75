import ChangeGate.Scope
import Mathlib.Data.Prod.Lex
import Mathlib.Data.String.Basic

/-! # The domain of most files

Domains are ordered by their `ballot`: the one with more votes comes first, and of two with equally
many the one of the smaller name.  `majority?_eq_some_iff`: the domain of most files is the one
whose ballot no other vote goes below, so the order of the files does not matter
(`majority?_perm`).  `majority?_most` says the same by counting files. -/

namespace ChangeGate.Scope

/-! ### Ballots -/

/-- What domains are ordered by: the votes, most of them first, and then the name. -/
def ballot (vs : List String) (d : String) : ℕᵒᵈ ×ₗ String :=
  toLex (OrderDual.toDual (vs.count d), d)

theorem ballot_lt_iff {vs : List String} {d e : String} :
    ballot vs d < ballot vs e ↔
      vs.count e < vs.count d ∨ vs.count d = vs.count e ∧ d < e := by
  rw [ballot, ballot, Prod.Lex.toLex_lt_toLex]
  simp

theorem ballot_injective (vs : List String) : Function.Injective (ballot vs) := by
  intro d e h
  exact congrArg (fun b => (ofLex b).2) h

theorem ballot_perm {vs ws : List String} (h : ws.Perm vs) : ballot ws = ballot vs := by
  funext d
  rw [ballot, ballot, h.count_eq]

theorem preferred_eq (vs : List String) (d e : String) :
    preferred vs d e = if ballot vs e < ballot vs d then e else d := by
  unfold preferred
  refine if_congr ?_ rfl rfl
  rw [ballot_lt_iff, eq_comm (a := vs.count e)]
  simp only [Bool.or_eq_true, Bool.and_eq_true, decide_eq_true_eq, beq_iff_eq]

/-- The preferred one of several domains is one of them, and no ballot goes below its. -/
theorem foldl_preferred (vs : List String) (ds : List String) (d : String) :
    ds.foldl (preferred vs) d ∈ d :: ds ∧
      ∀ e ∈ d :: ds, ballot vs (ds.foldl (preferred vs) d) ≤ ballot vs e := by
  induction ds generalizing d with
  | nil => simp
  | cons e ds ih =>
      obtain ⟨hmem, hle⟩ := ih (preferred vs d e)
      obtain ⟨hfirst, hothers⟩ := List.forall_mem_cons.mp hle
      rw [List.foldl_cons]
      have hpreferred : preferred vs d e = d ∨ preferred vs d e = e := by
        rw [preferred_eq]
        split
        · exact .inr rfl
        · exact .inl rfl
      have hboth : ballot vs (preferred vs d e) ≤ ballot vs d ∧
          ballot vs (preferred vs d e) ≤ ballot vs e := by
        rw [preferred_eq]
        split
        · rename_i hlt
          exact ⟨hlt.le, le_refl _⟩
        · rename_i hge
          exact ⟨le_refl _, not_lt.mp hge⟩
      constructor
      · rcases List.mem_cons.mp hmem with h | h
        · rw [h]
          rcases hpreferred with h' | h' <;> rw [h'] <;> simp
        · exact List.mem_cons_of_mem _ (List.mem_cons_of_mem _ h)
      · refine List.forall_mem_cons.mpr ⟨hfirst.trans hboth.1, ?_⟩
        exact List.forall_mem_cons.mpr ⟨hfirst.trans hboth.2, hothers⟩

/-! ### The majority -/

variable {as as' : List Action}

/-- The domain of most files has a vote, and no vote's ballot goes below its. -/
theorem majority?_eq_some_iff {d : String} :
    majority? as = some d ↔
      d ∈ votes as ∧ ∀ e ∈ votes as, ballot (votes as) d ≤ ballot (votes as) e := by
  unfold majority?
  split
  · rename_i hvotes
    simp [hvotes]
  · rename_i first others hvotes
    rw [hvotes, Option.some.injEq]
    obtain ⟨hmem, hle⟩ := foldl_preferred (first :: others) others first
    constructor
    · rintro rfl
      exact ⟨hmem, hle⟩
    · rintro ⟨hd, hdle⟩
      exact ballot_injective _ (le_antisymm (hle d hd) (hdle _ hmem))

theorem votes_perm (h : as'.Perm as) : (votes as').Perm (votes as) :=
  (h.filterMap _).filter _

/-- The order of the files does not matter to the domain of most of them. -/
theorem majority?_perm (h : as'.Perm as) : majority? as' = majority? as := by
  have hvotes := votes_perm h
  ext d
  rw [majority?_eq_some_iff, majority?_eq_some_iff, ballot_perm hvotes]
  simp only [hvotes.mem_iff]

/-- The order of the files does not matter to the task. -/
theorem Sources.task_perm (s : Sources) (h : as'.Perm as) :
    { s with actions := as' }.task = { s with actions := as }.task := by
  simp only [Sources.task, Sources.candidates, Sources.allTags, majority?_perm h]

/-! ### Counting files -/

variable {d e : String}

/-- How many files have a domain. -/
def filesIn (as : List Action) (d : String) : Nat := as.countP (·.fileDomain = some d)

theorem mem_votes_iff : d ∈ votes as ↔ d ≠ "" ∧ ∃ a ∈ as, a.fileDomain = some d := by
  rw [votes, List.mem_filter, List.mem_filterMap, and_comm]
  simp

theorem count_votes (hd : d ≠ "") : (votes as).count d = filesIn as d := by
  have hnamed : (!d.isEmpty) = true := by simpa using hd
  rw [votes, List.count_filter (p := fun s : String => !s.isEmpty) hnamed, filesIn, List.count,
    List.countP_filterMap]
  refine List.countP_congr fun a _ => ?_
  cases a.fileDomain <;> simp

theorem majority?_eq_none_iff : majority? as = none ↔ votes as = [] := by
  rw [majority?]
  cases votes as with
  | nil => exact ⟨fun _ => rfl, fun _ => rfl⟩
  | cons d ds => simp only [reduceCtorEq]

theorem ballot_le_iff (hd : d ≠ "") (he : e ≠ "") :
    ballot (votes as) d ≤ ballot (votes as) e ↔
      filesIn as e ≤ filesIn as d ∧ (e < d → filesIn as e < filesIn as d) := by
  rw [← not_lt, ballot_lt_iff, count_votes hd, count_votes he, not_or, not_and, not_lt]
  refine and_congr_right fun hle => ⟨fun h hname => ?_, fun h heq hname => ?_⟩
  · exact lt_of_le_of_ne hle fun heq => h heq hname
  · exact (h hname).ne heq

/-- **The domain of most files.**  There is none exactly if no file has a domain with a name.
Otherwise it is the domain of a file that every other domain has at most as many files as, and fewer
if its name comes first.  The order of the files does not matter. -/
theorem majority?_most (as : List Action) :
    (majority? as = none ↔ ∀ a ∈ as, ∀ d, a.fileDomain = some d → d = "") ∧
    (∀ d, majority? as = some d ↔
      d ≠ "" ∧ (∃ a ∈ as, a.fileDomain = some d) ∧
        ∀ e, e ≠ "" → e ≠ d →
          filesIn as e ≤ filesIn as d ∧ (e < d → filesIn as e < filesIn as d)) ∧
    ∀ as', as'.Perm as → majority? as' = majority? as := by
  refine ⟨?_, fun d => ?_, fun as' => majority?_perm⟩
  · rw [majority?_eq_none_iff, List.eq_nil_iff_forall_not_mem]
    constructor
    · intro h a ha d hd
      by_contra hne
      exact h d (mem_votes_iff.mpr ⟨hne, a, ha, hd⟩)
    · intro h d hd
      obtain ⟨hne, a, ha, hdomain⟩ := mem_votes_iff.mp hd
      exact hne (h a ha d hdomain)
  · rw [majority?_eq_some_iff, mem_votes_iff, and_assoc]
    refine and_congr_right fun hd => and_congr_right fun hfile => ?_
    constructor
    · intro h e he hne
      by_cases hvote : e ∈ votes as
      · exact (ballot_le_iff hd he).mp (h e hvote)
      · -- A domain without files has fewer than one that has some.
        have hnone : filesIn as e = 0 := by
          rw [← count_votes he]
          exact List.count_eq_zero.mpr hvote
        have hsome : 0 < filesIn as d := by
          rw [← count_votes hd]
          exact List.count_pos_iff.mpr (mem_votes_iff.mpr ⟨hd, hfile⟩)
        rw [hnone]
        exact ⟨hsome.le, fun _ => hsome⟩
    · intro h e he
      by_cases hne : e = d
      · rw [hne]
      · exact (ballot_le_iff hd (mem_votes_iff.mp he).1).mpr (h e (mem_votes_iff.mp he).1 hne)

/-- Five files, of which two have one domain and two another. -/
def tied : List Action :=
  [{ path := "f0", fileDomain := some "Billing" }, { path := "f1", fileDomain := some "Alpha" },
    { path := "f2", fileDomain := some "Billing" }, { path := "f3", fileDomain := some "" },
    { path := "f4", fileDomain := some "Alpha" }]

/-- Of two domains with equally many files the one comes first whose name does, from the first file
and from the last. -/
theorem majority?_most_tied :
    filesIn tied "Alpha" = 2 ∧ filesIn tied "Billing" = 2 ∧ tied.reverse.Perm tied ∧
    majority? tied = some "Alpha" ∧ majority? tied.reverse = some "Alpha" := by
  have hmajority : majority? tied = some "Alpha" := by decide
  refine ⟨by decide, by decide, tied.reverse_perm, hmajority, ?_⟩
  rw [(majority?_most tied).2.2 _ tied.reverse_perm, hmajority]

end ChangeGate.Scope
