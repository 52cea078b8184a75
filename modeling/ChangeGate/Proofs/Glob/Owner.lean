import ChangeGate.Glob
import Mathlib.Data.List.Forall2

/-! # The owner of a file

Every glob that accepts a file is a claim of its domain on it (`mem_claims_iff`).  One claim beats
all the others, and the file belongs to its domain (`owner?_eq_some_iff`), so the owner depends on
nothing but which claims there are (`owner?_congr`).

`owner?_longest`: this is the domain with the longest of the globs that accept the file, and of
several such domains the one whose name comes first; the order of domains and globs does not matter,
nor do globs that do not accept the file. -/

namespace ChangeGate.Domain

open Glob (accepts)

variable {ds ds' : List Domain} {d : Domain} {path name : String} {x y z : Claim}

/-! ### Claims -/

theorem mem_claims : x ∈ claims path d ↔
    ∃ g ∈ d.allow, accepts g path = true ∧ x = ⟨d.name, g.length⟩ := by
  simp only [claims, List.mem_map, List.mem_filter, and_assoc, eq_comm]

theorem mem_claims_iff : x ∈ ds.flatMap (claims path) ↔
    ∃ d ∈ ds, ∃ g ∈ d.allow, accepts g path = true ∧ x = ⟨d.name, g.length⟩ := by
  simp only [List.mem_flatMap, mem_claims]

theorem owner?_eq_none_iff :
    owner? ds path = none ↔ ∀ d ∈ ds, ∀ g ∈ d.allow, accepts g path = false := by
  have hclaims : ds.flatMap (claims path) = [] ↔
      ∀ d ∈ ds, ∀ g ∈ d.allow, accepts g path = false := by
    simp [claims]
  rw [← hclaims, owner?]
  cases ds.flatMap (claims path) <;> simp

theorem foldl_better_mem (c : Claim) (cs : List Claim) : cs.foldl Claim.better c ∈ c :: cs := by
  induction cs generalizing c with
  | nil => exact List.mem_singleton_self c
  | cons c' cs ih =>
      rw [List.foldl_cons]
      have hbetter : c.better c' = c ∨ c.better c' = c' := by
        unfold Claim.better
        split
        · exact .inr rfl
        · exact .inl rfl
      rcases List.mem_cons.mp (ih (c.better c')) with heq | hmem
      · rw [heq]
        rcases hbetter with heq | heq <;> simp [heq]
      · exact List.mem_cons_of_mem _ (List.mem_cons_of_mem _ hmem)

/-! ### The best claim -/

/-- A claim is better than another one: its glob is longer, or as long and its name comes first. -/
def Claim.Beats (x y : Claim) : Prop := y.length < x.length ∨ y.length = x.length ∧ x.name < y.name

theorem better_eq (x y : Claim) [Decidable (y.Beats x)] :
    x.better y = if y.Beats x then y else x := by
  have hbeats : (x.length < y.length || x.length == y.length && y.name < x.name) = true ↔
      y.Beats x := by
    simp [Claim.Beats]
  unfold Claim.better
  by_cases h : y.Beats x
  · rw [if_pos h, if_pos (hbeats.mpr h)]
  · rw [if_neg h, if_neg (hbeats.not.mpr h)]

theorem Claim.Beats.irrefl (x : Claim) : ¬ x.Beats x := by
  rintro (h | ⟨-, h⟩)
  · exact Nat.lt_irrefl _ h
  · exact String.lt_irrefl _ h

theorem Claim.Beats.trans (h : x.Beats y) (h' : y.Beats z) : x.Beats z := by
  rcases h with h | ⟨heq, h⟩ <;> rcases h' with h' | ⟨heq', h'⟩
  · exact .inl (Nat.lt_trans h' h)
  · exact .inl (heq' ▸ h)
  · exact .inl (heq ▸ h')
  · exact .inr ⟨heq'.trans heq, String.lt_trans h h'⟩

/-- Of two claims of which neither beats the other each is the other. -/
theorem Claim.eq_of_not_beats (h : ¬ x.Beats y) (h' : ¬ y.Beats x) : x = y := by
  obtain ⟨name, length⟩ := x
  obtain ⟨name', length'⟩ := y
  simp only [Beats, not_or, not_and, Nat.not_lt] at h h'
  obtain rfl : length = length' := by omega
  obtain rfl : name = name' :=
    String.le_antisymm (String.not_lt.mp (h'.2 rfl)) (String.not_lt.mp (h.2 rfl))
  rfl

/-- What the better of two claims does not beat neither of them beats. -/
theorem not_beats_of_better (h : ¬ (x.better y).Beats z) : ¬ x.Beats z ∧ ¬ y.Beats z := by
  classical
  rw [better_eq] at h
  split at h
  · rename_i hbeats
    exact ⟨fun hx => h (hbeats.trans hx), h⟩
  · rename_i hbeats
    refine ⟨h, fun hy => h ?_⟩
    by_cases hx : x.Beats y
    · exact hx.trans hy
    · exact Claim.eq_of_not_beats hx hbeats ▸ hy

theorem not_beats_foldl_better (c : Claim) (cs : List Claim) :
    ∀ x ∈ c :: cs, ¬ x.Beats (cs.foldl Claim.better c) := by
  induction cs generalizing c with
  | nil => simpa using Claim.Beats.irrefl c
  | cons c' cs ih =>
      obtain ⟨hbetter, hcs⟩ := List.forall_mem_cons.mp (ih (c.better c'))
      obtain ⟨hc, hc'⟩ := not_beats_of_better hbetter
      exact List.forall_mem_cons.mpr ⟨hc, List.forall_mem_cons.mpr ⟨hc', hcs⟩⟩

/-! ### The owner -/

/-- The owner of a file has the claim on it that no claim beats. -/
theorem owner?_eq_some_iff : owner? ds path = some name ↔
    ∃ c ∈ ds.flatMap (claims path), c.name = name ∧
      ∀ x ∈ ds.flatMap (claims path), ¬ x.Beats c := by
  rw [owner?]
  cases ds.flatMap (claims path) with
  | nil => simp
  | cons first others =>
      have hmem := foldl_better_mem first others
      have hunbeaten := not_beats_foldl_better first others
      constructor
      · intro h
        exact ⟨_, hmem, Option.some.inj h, hunbeaten⟩
      · rintro ⟨c, hc, rfl, hbest⟩
        rw [Claim.eq_of_not_beats (hunbeaten c hc) (hbest _ hmem)]

/-- The owner of a file is called like a domain. -/
theorem exists_of_owner? (h : owner? ds path = some name) : ∃ d ∈ ds, d.name = name := by
  obtain ⟨c, hc, rfl, -⟩ := owner?_eq_some_iff.mp h
  obtain ⟨d, hd, g, -, -, rfl⟩ := mem_claims_iff.mp hc
  exact ⟨d, hd, rfl⟩

/-- The owner is the same where the claims are. -/
theorem owner?_congr (h : ∀ c, c ∈ ds.flatMap (claims path) ↔ c ∈ ds'.flatMap (claims path)) :
    owner? ds path = owner? ds' path := by
  refine Option.ext fun name => ?_
  rw [owner?_eq_some_iff, owner?_eq_some_iff]
  simp only [h]

theorem mem_flatMap_claims_of_forall₂
    (h : List.Forall₂ (fun d d' => ∀ c, c ∈ claims path d ↔ c ∈ claims path d') ds ds') (c : Claim) :
    c ∈ ds.flatMap (claims path) ↔ c ∈ ds'.flatMap (claims path) := by
  induction h with
  | nil => rfl
  | cons hd _ ih => rw [List.flatMap_cons, List.flatMap_cons, List.mem_append, List.mem_append, hd, ih]

/-- The order of a domain's globs does not matter for its claims. -/
theorem mem_claims_of_perm (path : String) {d d' : Domain} (hname : d.name = d'.name)
    (hallow : d.allow.Perm d'.allow) (c : Claim) : c ∈ claims path d ↔ c ∈ claims path d' := by
  simp only [mem_claims, hallow.mem_iff, hname]

/-- A glob that does not accept the file is no claim. -/
theorem claims_insert {globs globs' : List String} {g : String} (hg : accepts g path = false) :
    claims path { d with allow := globs ++ g :: globs' } =
      claims path { d with allow := globs ++ globs' } := by
  rw [claims, claims, List.filter_append, List.filter_append,
    List.filter_cons_of_neg (by simp [hg])]

/-- A domain has a glob of some length that accepts a path. -/
def Accepts (d : Domain) (path : String) (length : Nat) : Prop :=
  ∃ g ∈ d.allow, accepts g path = true ∧ g.length = length

/-- A domain's name and the length of its glob are one of the claims. -/
theorem mem_claims_of_accepts {length : Nat} (hd : d ∈ ds) (h : d.Accepts path length) :
    ⟨d.name, length⟩ ∈ ds.flatMap (claims path) := by
  obtain ⟨g, hg, haccepts, rfl⟩ := h
  exact mem_claims_iff.mpr ⟨d, hd, g, hg, haccepts, rfl⟩

theorem owner?_eq_some_iff_accepts : owner? ds path = some name ↔
    ∃ longest, (∃ d ∈ ds, d.name = name ∧ d.Accepts path longest) ∧
      (∀ d ∈ ds, ∀ length, d.Accepts path length → length ≤ longest) ∧
      ∀ d ∈ ds, d.Accepts path longest → name ≤ d.name := by
  rw [owner?_eq_some_iff]
  constructor
  · rintro ⟨c, hc, rfl, hbest⟩
    obtain ⟨d, hd, g, hg, haccepts, rfl⟩ := mem_claims_iff.mp hc
    refine ⟨g.length, ⟨d, hd, rfl, g, hg, haccepts, rfl⟩, fun d' hd' length h => ?_,
      fun d' hd' h => ?_⟩
    · exact Nat.not_lt.mp fun hlt => hbest _ (mem_claims_of_accepts hd' h) (.inl hlt)
    · exact String.not_lt.mp fun hlt => hbest _ (mem_claims_of_accepts hd' h) (.inr ⟨rfl, hlt⟩)
  · rintro ⟨longest, ⟨d, hd, rfl, h⟩, hlongest, hfirst⟩
    refine ⟨_, mem_claims_of_accepts hd h, rfl, fun x hx hbeats => ?_⟩
    obtain ⟨d', hd', g, hg, haccepts, rfl⟩ := mem_claims_iff.mp hx
    have h' : d'.Accepts path g.length := ⟨g, hg, haccepts, rfl⟩
    rcases hbeats with hlt | ⟨rfl, hlt⟩
    · exact absurd (hlongest d' hd' _ h') (Nat.not_le.mpr hlt)
    · exact String.not_lt.mpr (hfirst d' hd' h') hlt

/-- **The longest glob wins, and of equals the first name.**  A file has no owner exactly if no glob
accepts it.  Else its owner is the first name among the domains that have the longest of all globs
that accept it.  Domains and globs may be rearranged, and globs that do not accept the file may be
added or left out. -/
theorem owner?_longest (ds : List Domain) (path : String) :
    (owner? ds path = none ↔ ∀ d ∈ ds, ∀ g ∈ d.allow, accepts g path = false) ∧
    (∀ name, owner? ds path = some name ↔
      ∃ longest, (∃ d ∈ ds, d.name = name ∧ d.Accepts path longest) ∧
        (∀ d ∈ ds, ∀ length, d.Accepts path length → length ≤ longest) ∧
        ∀ d ∈ ds, d.Accepts path longest → name ≤ d.name) ∧
    (∀ ds', ds.Perm ds' → owner? ds' path = owner? ds path) ∧
    (∀ ds', List.Forall₂ (fun d d' => d.name = d'.name ∧ d.allow.Perm d'.allow) ds ds' →
      owner? ds' path = owner? ds path) ∧
    ∀ before d after globs g globs', ds = before ++ d :: after → d.allow = globs ++ globs' →
      accepts g path = false →
      owner? (before ++ { d with allow := globs ++ g :: globs' } :: after) path =
        owner? ds path := by
  refine ⟨owner?_eq_none_iff, fun name => owner?_eq_some_iff_accepts, fun ds' hperm => ?_,
    fun ds' hglobs => ?_, ?_⟩
  · exact owner?_congr fun c => (hperm.symm.flatMap_right _).mem_iff
  · have hclaims := hglobs.imp fun d d' h => mem_claims_of_perm path h.1 h.2
    exact (owner?_congr (mem_flatMap_claims_of_forall₂ hclaims)).symm
  · rintro before d after globs g globs' rfl hallow hg
    have hd : d = { d with allow := globs ++ globs' } := by rw [← hallow]
    refine owner?_congr fun c => ?_
    rw [List.flatMap_append, List.flatMap_append, List.flatMap_cons, List.flatMap_cons,
      claims_insert hg, ← hd]

/-- Two domains with globs of one length stand before one with a longer glob, and another has two
globs for the file. -/
def crossed : List Domain :=
  [⟨"Zeta", ["src/a*/**"], []⟩, ⟨"Alpha", ["src/*b/**", "docs/**"], []⟩,
    ⟨"Wide", ["**", "src/ab/x/**"], []⟩]

/-- The first name of the two owns a file of both, and the longer glob wins behind them. -/
theorem owner?_longest_crossed :
    owner? crossed "src/ab/y.py" = some "Alpha" ∧ owner? crossed "src/ab/x/y.py" = some "Wide" ∧
    owner? crossed.reverse "src/ab/y.py" = some "Alpha" ∧
    owner? (crossed.map fun d => { d with allow := d.allow.reverse }) "src/ab/x/y.py" =
      some "Wide" ∧
    owner? [⟨"Zeta", ["src/a*/**"], []⟩, ⟨"Alpha", ["src/*b/**", "lib/app/**", "docs/**"], []⟩,
      ⟨"Wide", ["**", "src/ab/x/**"], []⟩] "src/ab/y.py" = some "Alpha" := by
  have hshort : owner? crossed "src/ab/y.py" = some "Alpha" := by decide +kernel
  have hlong : owner? crossed "src/ab/x/y.py" = some "Wide" := by decide +kernel
  obtain ⟨-, -, hperm, -, hinsert⟩ := owner?_longest crossed "src/ab/y.py"
  obtain ⟨-, -, -, hglobs, -⟩ := owner?_longest crossed "src/ab/x/y.py"
  refine ⟨hshort, hlong, ?_, ?_, ?_⟩
  · rw [hperm _ (List.reverse_perm _).symm, hshort]
  · refine (hglobs _ (List.forall₂_map_right_iff.mpr (List.forall₂_same.mpr fun d _ => ?_))).trans
      hlong
    exact ⟨rfl, (List.reverse_perm _).symm⟩
  · have hrefused : accepts "lib/app/**" "src/ab/y.py" = false := by decide +kernel
    exact (hinsert [_] ⟨"Alpha", _, []⟩ [_] ["src/*b/**"] _ ["docs/**"] rfl rfl hrefused).trans
      hshort

end ChangeGate.Domain
