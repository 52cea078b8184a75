import ChangeGate.Proofs.Scope.Header

/-! # Which source names the domain

Each source of a scope names a domain by itself or none (`Names`), and the sources have a rank.
`task_eq_iff`: a task has the domain and the source of the first source that names one.  What the
sources behind it say does not matter (`task_alike`).

The tags are the default ones and then those of the description, each where it first occurs
(`tags_task`).  `task_of_first` puts this together. -/

namespace ChangeGate

/-- The place of a source among all sources; the first ones come before the others. -/
def TaskSource.rank : TaskSource → Nat
  | .scopeOverride => 0
  | .scopeHeader => 1
  | .domainLabel => 2
  | .slashCommand => 3
  | .inferred => 4
  | .unknown => 5

namespace Scope

variable {s s' : Sources} {source source' : TaskSource} {d d' label : String}

/-! ### Labels -/

/-- A label names a domain: it is the word `domain:` with the domain behind it, which has no blanks,
and a line feed at most behind that. -/
def LabelNames (label d : String) : Prop :=
  d ≠ "" ∧ (∀ c ∈ d.toList, Text.isBlank c = false) ∧
    (label = "domain:" ++ d ∨ label = "domain:" ++ d ++ "\n")

theorem labelDomain?_eq_some_iff : labelDomain? label = some d ↔ LabelNames label d := by
  simp only [labelDomain?, Option.bind_eq_bind, Option.bind_eq_some_iff, Text.behind?_eq_some_iff,
    wordAt?_eq_some_iff]
  constructor
  · rintro ⟨cs, hlabel, word, ⟨hne, hsolid, rest, rfl, -⟩, hrest⟩
    rw [List.drop_left] at hrest
    split at hrest
    · rename_i hend
      cases hrest
      refine ⟨by simpa using hne, by simpa using hsolid, ?_⟩
      rw [Bool.or_eq_true, List.isEmpty_iff, beq_iff_eq] at hend
      rcases hend with rfl | rfl
      · exact .inl (String.toList_inj.mp (by simp [hlabel]))
      · exact .inr (String.toList_inj.mp (by simp [hlabel]))
    · cases hrest
  · rintro ⟨hne, hsolid, hlabel⟩
    have hword (rest : List Char) (hends : ∀ c ∈ rest.head?, Text.isBlank c = true) :
        StartsWithWord (d.toList ++ rest) d.toList := ⟨by simpa using hne, hsolid, rest, rfl, hends⟩
    rcases hlabel with rfl | rfl
    · refine ⟨d.toList ++ [], by simp, d.toList, hword [] nofun, ?_⟩
      rw [List.drop_left]
      simp
    · have hends : ∀ c ∈ ['\n'].head?, Text.isBlank c = true := by
        rintro c ⟨⟩
        exact isBlank_lineFeed
      refine ⟨d.toList ++ ['\n'], by simp, d.toList, hword _ hends, ?_⟩
      rw [List.drop_left]
      simp

/-! ### Sources -/

/-- A source names a domain. -/
inductive Names (s : Sources) : TaskSource → String → Prop
  | explicit {d : String} (h : s.explicit = some d) (hd : d ≠ "") : Names s .scopeOverride d
  | header {d : String} (h : headerDomain? s.body.toList = some d.toList) :
      Names s .scopeHeader d
  | label {before after : List String} {label d : String}
      (h : s.labels = before ++ label :: after) (hd : LabelNames label d)
      (hbefore : ∀ l ∈ before, ∀ e, ¬ LabelNames l e) : Names s .domainLabel d
  | command {d : String} (h : commandDomain? s.body.toList = some d.toList) :
      Names s .slashCommand d
  | majority {d : String} (h : majority? s.actions = some d) : Names s .inferred d

theorem findSome?_labels {labels : List String} :
    labels.findSome? labelDomain? = some d ↔
      ∃ before label after, labels = before ++ label :: after ∧ LabelNames label d ∧
        ∀ l ∈ before, ∀ e, ¬ LabelNames l e := by
  have hnone (l : String) : labelDomain? l = none ↔ ∀ e, ¬ LabelNames l e := by
    simp only [Option.eq_none_iff_forall_ne_some, ne_eq, labelDomain?_eq_some_iff]
  simp only [List.findSome?_eq_some_iff, labelDomain?_eq_some_iff, hnone]

theorem names_iff_mem : Names s source d ↔ (some d, source) ∈ s.candidates := by
  have hword (cs : Option (List Char)) : cs.map String.ofList = some d ↔ cs = some d.toList := by
    rw [Option.map_eq_some_iff]
    exact ⟨fun ⟨cs', h, hd⟩ => by rw [h, ← hd, String.toList_ofList],
      fun h => ⟨_, h, String.ofList_toList⟩⟩
  have hexplicit : s.explicit.filter (!·.isEmpty) = some d ↔ s.explicit = some d ∧ d ≠ "" := by
    rw [Option.filter_eq_some_iff]
    simp
  simp only [Sources.candidates, List.mem_cons, Prod.mk.injEq, List.not_mem_nil, or_false,
    eq_comm (a := some d), hexplicit, hword, findSome?_labels]
  constructor
  · rintro (⟨h, hd⟩ | h | ⟨h, hd, hbefore⟩ | h | h)
    · exact .inl ⟨⟨h, hd⟩, rfl⟩
    · exact .inr (.inl ⟨h, rfl⟩)
    · exact .inr (.inr (.inl ⟨⟨_, _, _, h, hd, hbefore⟩, rfl⟩))
    · exact .inr (.inr (.inr (.inl ⟨h, rfl⟩)))
    · exact .inr (.inr (.inr (.inr ⟨h, rfl⟩)))
  · rintro (⟨⟨h, hd⟩, rfl⟩ | ⟨h, rfl⟩ | ⟨⟨_, _, _, h, hd, hbefore⟩, rfl⟩ | ⟨h, rfl⟩ | ⟨h, rfl⟩)
    · exact .explicit h hd
    · exact .header h
    · exact .label h hd hbefore
    · exact .command h
    · exact .majority h

/-- The candidates stand in the order of their ranks. -/
theorem pairwise_candidates (s : Sources) :
    s.candidates.Pairwise fun c c' => c.2.rank < c'.2.rank := by
  simp [Sources.candidates, TaskSource.rank]

/-! ### The first source -/

/-- Of a list in the order of ranks the first element that is looked for is the one of the smallest
rank. -/
theorem find?_eq_some_iff_of_pairwise {α : Type} (rank : α → Nat) {p : α → Bool} {xs : List α}
    {x : α} (h : xs.Pairwise fun x y => rank x < rank y) :
    xs.find? p = some x ↔ (x ∈ xs ∧ p x = true) ∧ ∀ y ∈ xs, p y = true → rank x ≤ rank y := by
  constructor
  · intro hfind
    refine ⟨⟨List.mem_of_find?_eq_some hfind, List.find?_some hfind⟩, fun y hy hpy => ?_⟩
    obtain ⟨-, before, after, rfl, hbefore⟩ := List.find?_eq_some_iff_append.mp hfind
    rcases List.mem_append.mp hy with hy | hy
    · exact absurd hpy (by simpa using hbefore y hy)
    · rcases List.mem_cons.mp hy with rfl | hy
      · exact le_refl _
      · exact (List.rel_of_pairwise_cons (List.pairwise_append.mp h).2.1 hy).le
  · rintro ⟨⟨hx, hpx⟩, hleast⟩
    obtain ⟨before, after, rfl⟩ := List.append_of_mem hx
    refine List.find?_eq_some_iff_append.mpr ⟨hpx, before, after, rfl, fun y hy => ?_⟩
    have hlt := (List.pairwise_append.mp h).2.2 y hy x List.mem_cons_self
    have hpy : ¬ p y = true := fun hpy =>
      absurd (hleast y (List.mem_append_left _ hy) hpy) (Nat.not_le.mpr hlt)
    simpa using hpy

/-- A task is that of a candidate or of none. -/
theorem task_cases (s : Sources) :
    (∃ d source, s.candidates.find? (·.1.isSome) = some (some d, source) ∧
      s.task = ⟨some d, s.allTags, source⟩) ∨
    s.candidates.find? (·.1.isSome) = none ∧ s.task = ⟨none, s.allTags, .unknown⟩ := by
  unfold Sources.task
  cases hfind : s.candidates.find? (·.1.isSome) with
  | none => exact .inr ⟨rfl, rfl⟩
  | some candidate =>
      obtain ⟨domain, source⟩ := candidate
      have hsome : domain.isSome = true :=
        List.find?_some (p := fun c : Option String × TaskSource => c.1.isSome) hfind
      obtain ⟨d, rfl⟩ := Option.isSome_iff_exists.mp hsome
      exact .inl ⟨d, source, rfl, rfl⟩

theorem find?_eq_some_iff : s.candidates.find? (·.1.isSome) = some (some d, source) ↔
    Names s source d ∧ ∀ source' d', Names s source' d' → source.rank ≤ source'.rank := by
  rw [find?_eq_some_iff_of_pairwise (fun c => c.2.rank) (pairwise_candidates s),
    ← names_iff_mem, Option.isSome_some, eq_self, and_true]
  refine and_congr_right fun _ => ⟨fun h source' d' hd' => ?_, fun h c hc hsome => ?_⟩
  · exact h _ (names_iff_mem.mp hd') rfl
  · obtain ⟨d', hd'⟩ := Option.isSome_iff_exists.mp hsome
    exact h c.2 d' (names_iff_mem.mpr (hd' ▸ hc))

theorem find?_eq_none_iff :
    s.candidates.find? (·.1.isSome) = none ↔ ∀ source d, ¬ Names s source d := by
  rw [List.find?_eq_none]
  constructor
  · intro h source d hd
    exact h _ (names_iff_mem.mp hd) rfl
  · intro h c hc hsome
    obtain ⟨d, hd⟩ := Option.isSome_iff_exists.mp hsome
    exact h c.2 d (names_iff_mem.mpr (hd ▸ hc))

/-- **A task has the domain and the source of the first source that names a domain.** -/
theorem task_eq_iff : s.task.source = source ∧ s.task.domain = some d ↔
    Names s source d ∧ ∀ source' d', Names s source' d' → source.rank ≤ source'.rank := by
  rw [← find?_eq_some_iff]
  rcases task_cases s with ⟨d', source', hfind, htask⟩ | ⟨hfind, htask⟩ <;> rw [hfind, htask]
  · simp [and_comm]
  · exact ⟨nofun, nofun⟩

theorem domain_eq_none_iff : s.task.domain = none ↔ ∀ source d, ¬ Names s source d := by
  rw [← find?_eq_none_iff]
  rcases task_cases s with ⟨d', source', hfind, htask⟩ | ⟨hfind, htask⟩ <;> rw [hfind, htask]
  · exact ⟨nofun, nofun⟩
  · exact ⟨fun _ => rfl, fun _ => rfl⟩

theorem source_eq_unknown_iff : s.task.source = .unknown ↔ s.task.domain = none := by
  rcases task_cases s with ⟨d, source, hfind, htask⟩ | ⟨-, htask⟩ <;> rw [htask]
  · obtain ⟨hnames, -⟩ := find?_eq_some_iff.mp hfind
    cases hnames <;> exact ⟨nofun, nofun⟩
  · exact ⟨fun _ => rfl, fun _ => rfl⟩

theorem tags_task (s : Sources) : s.task.tags = s.allTags := by
  rcases task_cases s with ⟨d, source, -, htask⟩ | ⟨-, htask⟩ <;> rw [htask]

/-- **What the sources behind the first one say does not matter.** -/
theorem task_alike (h : ∀ source d, source.rank ≤ s.task.source.rank →
    (Names s' source d ↔ Names s source d)) :
    s'.task.domain = s.task.domain ∧ s'.task.source = s.task.source := by
  cases hdomain : s.task.domain with
  | some d =>
      obtain ⟨hnames, hfirst⟩ := task_eq_iff.mp ⟨rfl, hdomain⟩
      refine (task_eq_iff.mpr ⟨(h _ d (le_refl _)).mpr hnames, fun source' d' hd' => ?_⟩).symm
      by_contra hlt
      have hd := (h source' d' (Nat.le_of_not_le hlt)).mp hd'
      exact hlt (hfirst source' d' hd)
  | none =>
      have hsource := source_eq_unknown_iff.mpr hdomain
      have hrank (source : TaskSource) : source.rank ≤ s.task.source.rank := by
        rw [hsource]
        cases source <;> decide
      have hdomain' : s'.task.domain = none := domain_eq_none_iff.mpr fun source d hd =>
        domain_eq_none_iff.mp hdomain source d ((h source d (hrank source)).mp hd)
      exact ⟨hdomain', (source_eq_unknown_iff.mpr hdomain').trans hsource.symm⟩

/-! ### Tags -/

/-- A list holds what another one does, each where it first occurs in it. -/
structure FirstOccurrences (xs ys : List String) : Prop where
  mem_iff : ∀ x, x ∈ ys ↔ x ∈ xs
  pairwise : ys.Pairwise fun x y => xs.idxOf x < xs.idxOf y

theorem FirstOccurrences.nodup {xs ys : List String} (h : FirstOccurrences xs ys) : ys.Nodup :=
  h.pairwise.imp fun hlt heq => absurd hlt (by rw [heq]; exact Nat.lt_irrefl _)

/-- What is left of a list keeps its order. -/
theorem idxOf_lt_of_filter {xs : List String} {p : String → Bool} {x y : String} (hx : p x = true)
    (hy : p y = true) (h : (xs.filter p).idxOf x < (xs.filter p).idxOf y) :
    xs.idxOf x < xs.idxOf y := by
  induction xs with
  | nil => exact absurd h (Nat.lt_irrefl _)
  | cons z xs ih =>
      by_cases hzx : z = x
      · subst hzx
        have hne : z ≠ y := by
          rintro rfl
          exact absurd h (Nat.lt_irrefl _)
        rw [List.idxOf_cons_self, List.idxOf_cons_ne _ hne]
        exact Nat.succ_pos _
      by_cases hz : p z = true
      · rw [List.filter_cons_of_pos hz, List.idxOf_cons_ne _ hzx] at h
        by_cases hzy : z = y
        · rw [hzy, List.idxOf_cons_self] at h
          exact absurd h (Nat.not_lt_zero _)
        · rw [List.idxOf_cons_ne _ hzy, Nat.succ_lt_succ_iff] at h
          rw [List.idxOf_cons_ne _ hzx, List.idxOf_cons_ne _ hzy]
          exact Nat.succ_lt_succ (ih h)
      · have hzy : z ≠ y := by
          rintro rfl
          exact hz hy
        rw [List.filter_cons_of_neg hz] at h
        rw [List.idxOf_cons_ne _ hzx, List.idxOf_cons_ne _ hzy]
        exact Nat.succ_lt_succ (ih h)

theorem firstOccurrences_eraseDups (xs : List String) : FirstOccurrences xs xs.eraseDups := by
  refine ⟨fun x => List.mem_eraseDups, ?_⟩
  induction hlength : xs.length using Nat.strongRecOn generalizing xs with
  | ind n ih =>
    cases xs with
    | nil => exact .nil
    | cons x xs =>
        have hne {y : String} (hy : y ∈ (xs.filter fun b => !b == x).eraseDups) :
            (!y == x) = true ∧ x ≠ y := by
          have hp := (List.mem_filter.mp (List.mem_eraseDups.mp hy)).2
          refine ⟨hp, ?_⟩
          rintro rfl
          simp at hp
        have hshort : (xs.filter fun b => !b == x).length < n := by
          rw [← hlength, List.length_cons]
          exact Nat.lt_succ_of_le (List.length_filter_le _ xs)
        rw [List.eraseDups_cons, List.pairwise_cons]
        refine ⟨fun y hy => ?_, (ih _ hshort _ rfl).imp_of_mem fun hy hz hlt => ?_⟩
        · rw [List.idxOf_cons_self, List.idxOf_cons_ne _ (hne hy).2]
          exact Nat.succ_pos _
        · rw [List.idxOf_cons_ne _ (hne hy).2, List.idxOf_cons_ne _ (hne hz).2]
          exact Nat.succ_lt_succ (idxOf_lt_of_filter (hne hy).1 (hne hz).1 hlt)

/-- The tags are the default ones and then the other ones of the description. -/
theorem allTags_eq (s : Sources) : s.allTags =
    s.defaultTags.eraseDups ++ ((tags s.body).filter (· ∉ s.defaultTags)).eraseDups := by
  rw [Sources.allTags, List.eraseDups_append, List.removeAll]
  refine congrArg (s.defaultTags.eraseDups ++ List.eraseDups ·) (List.filter_congr fun t _ => ?_)
  simp

/-- **Where the scope of a change set comes from.**  A task has the domain and the source of the
first source that names a domain, and what the sources behind that one say does not matter.  The
source is unknown exactly if there is no domain.  The tags depend on the default tags and those of
the description alone: they are the default tags and then the other ones of the description, each
once and where it first occurs. -/
theorem task_of_first (s : Sources) :
    (∀ source d, s.task.source = source ∧ s.task.domain = some d ↔
      Names s source d ∧ ∀ source' d', Names s source' d' → source.rank ≤ source'.rank) ∧
    (∀ s' : Sources, (∀ source d, source.rank ≤ s.task.source.rank →
        (Names s' source d ↔ Names s source d)) →
      s'.task.domain = s.task.domain ∧ s'.task.source = s.task.source) ∧
    (s.task.source = .unknown ↔ s.task.domain = none) ∧
    (∀ s' : Sources, s'.defaultTags = s.defaultTags → tags s'.body = tags s.body →
      s'.task.tags = s.task.tags) ∧
    s.task.tags.Nodup ∧
    ∃ own added, s.task.tags = own ++ added ∧ FirstOccurrences s.defaultTags own ∧
      FirstOccurrences ((tags s.body).filter (· ∉ s.defaultTags)) added := by
  refine ⟨fun _ _ => task_eq_iff, fun _ => task_alike, source_eq_unknown_iff,
    fun s' hdefault htags => ?_, ?_, _, _, (tags_task s).trans (allTags_eq s),
    firstOccurrences_eraseDups _, firstOccurrences_eraseDups _⟩
  · rw [tags_task, tags_task, Sources.allTags, Sources.allTags, hdefault, htags]
  · rw [tags_task]
    exact (firstOccurrences_eraseDups _).nodup

/-- A description with a scope and a label with another one. -/
def labelled : Sources where
  body := "INTENT-SCOPE: Identity\n\nINTENT-TAGS: b, a, , b\n"
  labels := ["bug", "domain:Billing"]
  actions := [{ path := "src/a.py", fileDomain := some "Messaging" }]
  defaultTags := ["a", "a"]

/-- The label and the files have no say where the description names a scope. -/
theorem task_of_first_labelled :
    labelled.task = ⟨some "Identity", ["a", "b"], .scopeHeader⟩ ∧
    (∀ source d, source.rank ≤ labelled.task.source.rank →
      (Names { labelled with labels := [], actions := [] } source d ↔ Names labelled source d)) ∧
    { labelled with labels := [], actions := [] }.task.domain = labelled.task.domain ∧
    { labelled with labels := [], actions := [] }.task.source = labelled.task.source := by
  have htask : labelled.task = ⟨some "Identity", ["a", "b"], .scopeHeader⟩ := by decide +kernel
  have halike : ∀ source d, source.rank ≤ labelled.task.source.rank →
      (Names { labelled with labels := [], actions := [] } source d ↔
        Names labelled source d) := by
    rw [htask]
    rintro (_ | _ | _ | _ | _ | _) d hrank
    · constructor <;> rintro ⟨h, hd⟩ <;> exact .explicit h hd
    · constructor <;> rintro (_ | h) <;> exact .header h
    all_goals exact absurd hrank (by decide)
  exact ⟨htask, halike, (task_of_first labelled).2.1 _ halike⟩

end Scope
end ChangeGate
