import ChangeGate.Policy.Check
import ChangeGate.Proofs.Architecture.Check
import ChangeGate.Proofs.Architecture.Grammar
import ChangeGate.Proofs.Policy.RoundTrip

/-! # Every issue of a file is told

The places of a file where something can be wrong have addresses: first the parts of the header,
then the domains or policies with what belongs to them.  `HasIssue` says what is wrong at an
address, of each address on its own, and the problems of a system or a policy file tell this: they
are the wordings of the issues, one for each address that has one, in the order of the addresses
(`problems_tell_issues`).  So no problem hides another one.

The checks go over the domains and rules with the names that they have met.  `domainsIssues_eq` and
`ruleIssues_eq` say what these are at each index, and from there on only lists are put together. -/

namespace ChangeGate

/-! ### Lists that tell what there is -/

section

variable {α β : Type} {F G : List ℕ → α → Prop} {l l' : List α}

/-- A list tells what there is at which address, each thing once, in the order of the addresses. -/
def Tells (F : List ℕ → α → Prop) (l : List α) : Prop :=
  ∃ found : List (List ℕ × α), found.Pairwise (fun x y => x.1 < y.1) ∧
    (∀ address x, (address, x) ∈ found ↔ F address x) ∧ found.map Prod.snd = l

namespace Tells

theorem congr (h : Tells F l) (hiff : ∀ address x, F address x ↔ G address x) : Tells G l := by
  obtain ⟨found, hsorted, hfound, rfl⟩ := h
  exact ⟨found, hsorted, fun address x => (hfound address x).trans (hiff address x), rfl⟩

theorem mem_iff (h : Tells F l) {x : α} : x ∈ l ↔ ∃ address, F address x := by
  obtain ⟨found, -, hfound, rfl⟩ := h
  simp [← hfound]

theorem map (h : Tells F l) (f : α → β) :
    Tells (fun address y => ∃ x, F address x ∧ f x = y) (l.map f) := by
  obtain ⟨found, hsorted, hfound, rfl⟩ := h
  refine ⟨found.map fun x => (x.1, f x.2), List.pairwise_map.mpr hsorted, fun address y => ?_, ?_⟩
  · simp [← hfound]
  · rw [List.map_map, List.map_map]
    rfl

theorem nil : Tells (fun _ _ => False) ([] : List α) := ⟨[], .nil, by simp, rfl⟩

theorem guard {c : Prop} [Decidable c] {x : α} (h : c → F [] x)
    (hF : ∀ address y, F address y → address = [] ∧ c ∧ y = x) :
    Tells F (if c then [x] else []) := by
  split
  · rename_i hc
    refine ⟨[([], x)], List.pairwise_singleton _ _, fun address y => ⟨fun hy => ?_, fun hy => ?_⟩,
      rfl⟩
    · cases List.mem_singleton.mp hy
      exact h hc
    · obtain ⟨rfl, -, rfl⟩ := hF address y hy
      exact List.mem_singleton_self _
  · rename_i hc
    exact nil.congr fun address y => ⟨False.elim, fun hy => hc (hF address y hy).2.1⟩

theorem append (h : Tells F l) (h' : Tells G l')
    (hlt : ∀ address x address' x', F address x → G address' x' → address < address') :
    Tells (fun address x => F address x ∨ G address x) (l ++ l') := by
  obtain ⟨found, hsorted, hfound, rfl⟩ := h
  obtain ⟨found', hsorted', hfound', rfl⟩ := h'
  refine ⟨found ++ found', List.pairwise_append.mpr ⟨hsorted, hsorted', ?_⟩, ?_, List.map_append⟩
  · rintro ⟨address, x⟩ hx ⟨address', x'⟩ hx'
    exact hlt address x address' x' ((hfound _ _).mp hx) ((hfound' _ _).mp hx')
  · intro address x
    rw [List.mem_append, hfound, hfound']

/-- Things below an index are told by a list that tells them without it. -/
theorem below (n : ℕ) (h : Tells (fun rest x => F (n :: rest) x) l) :
    Tells (fun address x => F address x ∧ ∃ rest, address = n :: rest) l := by
  obtain ⟨found, hsorted, hfound, rfl⟩ := h
  refine ⟨found.map fun x => (n :: x.1, x.2), List.pairwise_map.mpr ?_, ?_, ?_⟩
  · exact hsorted.imp fun hlt => List.cons_lt_cons_iff.mpr (.inr ⟨rfl, hlt⟩)
  · intro address x
    simp only [List.mem_map, Prod.mk.injEq, Prod.exists, hfound]
    constructor
    · rintro ⟨rest, x, hx, rfl, rfl⟩
      exact ⟨hx, rest, rfl⟩
    · rintro ⟨hx, rest, rfl⟩
      exact ⟨rest, x, hx, rfl, rfl⟩
  · rw [List.map_map]
    rfl

theorem flatten_from {ls : List (List α)} (n : ℕ)
    (h : ∀ i l, ls[i]? = some l → Tells (fun rest x => F ((n + i) :: rest) x) l)
    (hF : ∀ address x, F address x → ∃ i rest, i < ls.length ∧ address = (n + i) :: rest) :
    Tells F ls.flatten := by
  induction ls generalizing F n with
  | nil =>
      refine nil.congr fun address x => ⟨False.elim, fun hx => ?_⟩
      obtain ⟨i, -, hi, -⟩ := hF address x hx
      exact Nat.not_lt_zero i hi
  | cons l ls ih =>
      have hshift (i : ℕ) : n + (i + 1) = n + 1 + i := by omega
      have hothers : Tells (fun address x =>
          F address x ∧ ∃ i rest, i < ls.length ∧ address = (n + 1 + i) :: rest) ls.flatten := by
        refine ih (n + 1) (fun i l' hl' => ?_) fun _ _ => And.right
        have hi := (List.getElem?_eq_some_iff.mp hl').1
        have htells := h (i + 1) l' hl'
        rw [hshift] at htells
        exact htells.congr fun rest x => ⟨fun hx => ⟨hx, i, rest, hi, rfl⟩, And.left⟩
      refine (((h 0 l rfl).below n).append hothers ?_).congr fun address x => ⟨?_, fun hx => ?_⟩
      · rintro _ _ _ _ ⟨-, _, rfl⟩ ⟨-, i, _, -, rfl⟩
        exact List.cons_lt_cons_iff.mpr (.inl (by omega))
      · rintro (hx | hx)
        · exact hx.1
        · exact hx.1
      · obtain ⟨_ | i, rest, hi, rfl⟩ := hF address x hx
        · exact .inl ⟨hx, rest, rfl⟩
        · exact .inr ⟨hx, i, rest, Nat.lt_of_succ_lt_succ hi, by rw [hshift]⟩

/-- Parts one behind the other tell what each of them tells below its index. -/
theorem flatten {ls : List (List α)}
    (h : ∀ i l, ls[i]? = some l → Tells (fun rest x => F (i :: rest) x) l)
    (hF : ∀ address x, F address x → ∃ i rest, i < ls.length ∧ address = i :: rest) :
    Tells F ls.flatten :=
  flatten_from 0 (by simpa using h) (by simpa using hF)

theorem map_filter (xs : List β) (p : β → Bool) (f : β → α) :
    (xs.filter p).map f = (xs.map fun x => if p x = true then [f x] else []).flatten := by
  induction xs with
  | nil => rfl
  | cons x xs ih =>
      rw [List.map_cons, List.flatten_cons, ← ih, List.filter_cons]
      split <;> rfl

/-- The things of a list that are chosen, each at its index. -/
theorem chosen {xs : List β} {p : β → Bool} {f : β → α}
    (h : ∀ j x, xs[j]? = some x → p x = true → F [j] (f x))
    (hF : ∀ address y, F address y →
      ∃ j x, xs[j]? = some x ∧ address = [j] ∧ p x = true ∧ y = f x) :
    Tells F ((xs.filter p).map f) := by
  rw [map_filter]
  refine flatten (fun i l hl => ?_) fun address y hy => ?_
  · obtain ⟨x, hx, rfl⟩ := by simpa using hl
    refine guard (h i x hx) fun rest y hy => ?_
    obtain ⟨j, x', hx', hrest, hp, rfl⟩ := hF _ y hy
    cases hrest
    cases hx.symm.trans hx'
    exact ⟨rfl, hp, rfl⟩
  · obtain ⟨j, x, hx, rfl, -⟩ := hF address y hy
    exact ⟨j, [], by simpa using (List.getElem?_eq_some_iff.mp hx).1, rfl⟩

end Tells

end

/-! ### Texts that are not empty -/

theorem head?_append {front behind : String} {c : Char} (h : front.toList.head? = some c) :
    (front ++ behind).toList.head? = some c := by
  rw [String.toList_append, List.head?_append, h]
  rfl

theorem Token.IsWord.ne_empty {text : String} (h : IsWord text.toList) : text ≠ "" := by
  rintro rfl
  cases h

theorem Token.IsNumeral.ne_empty {text : String} (h : IsNumeral text.toList) : text ≠ "" := by
  rintro rfl
  generalize hempty : "".toList = cs at h
  cases h with
  | whole h => exact h.ne_nil hempty.symm
  | fraction h hplaces => exact absurd hempty (by simp)

/-! ### Systems -/

/-- What is wrong with a domain, given the domains before it and all domains: its name is `[0]`, its
globs are `[1]`, and the domains it depends on are below `[2]`. -/
inductive Domain.HasIssue (before all : List Domain) (d : Domain) :
    List ℕ → Architecture.Issue → Prop
  | repeated (h : ∃ e ∈ before, e.name = d.name) :
      HasIssue before all d [0] (.repeatedDomain d.name)
  | globs (h : d.allow = []) : HasIssue before all d [1] (.noGlobs d.name)
  | target {j : ℕ} {target : String} (htarget : d.dependsOn[j]? = some target)
      (h : ∀ e ∈ all, e.name ≠ target) : HasIssue before all d [2, j] (.unknownTarget d.name target)

namespace Architecture

/-- What is wrong with a system: the parts of the header are `[0]`, `[1]` and `[2]`, and the domains
are below `[3]`. -/
inductive HasIssue (s : Architecture) : List ℕ → Issue → Prop
  | version (h : s.version = "") : HasIssue s [0] .noVersion
  | name (h : s.name = "") : HasIssue s [1] .noName
  | domains (h : s.domains = []) : HasIssue s [2] .noDomain
  | domain {i : ℕ} {d : Domain} {address : List ℕ} {x : Issue} (hd : s.domains[i]? = some d)
      (h : d.HasIssue (s.domains.take i) s.domains address x) : HasIssue s (3 :: i :: address) x

/-- At each index, the names that have been met are those of the domains before it. -/
theorem domainsIssues_eq (known seen : List String) (ds : List Domain) :
    domainsIssues known seen ds = (ds.mapIdx fun i d =>
      domainIssues (((ds.take i).map (·.name)).reverse ++ seen) known d).flatten := by
  induction ds generalizing seen with
  | nil => rfl
  | cons d ds ih =>
      rw [domainsIssues, ih, List.mapIdx_cons, List.flatten_cons]
      simp

theorem tells_domainIssues (before all : List Domain) (d : Domain) :
    Tells (d.HasIssue before all)
      (domainIssues (before.map (·.name)).reverse (all.map (·.name)) d) := by
  have hflatten : domainIssues (before.map (·.name)).reverse (all.map (·.name)) d =
      [if ∃ e ∈ before, e.name = d.name then [.repeatedDomain d.name] else [],
        if d.allow = [] then [.noGlobs d.name] else [],
        (d.dependsOn.filter fun target => !(all.map (·.name)).contains target).map
          (.unknownTarget d.name)].flatten := by
    simp [domainIssues]
  rw [hflatten]
  refine .flatten ?_ ?_
  · rintro (_ | _ | _ | i) l ⟨⟩
    · refine .guard .repeated fun rest x hx => ?_
      cases hx with
      | repeated h => exact ⟨rfl, h, rfl⟩
    · refine .guard .globs fun rest x hx => ?_
      cases hx with
      | globs h => exact ⟨rfl, h, rfl⟩
    · refine .chosen (fun j target htarget h => .target htarget (by simpa using h))
        fun rest x hx => ?_
      cases hx with
      | target htarget h => exact ⟨_, _, htarget, rfl, by simpa using h, rfl⟩
  · intro address x hx
    cases hx with
    | repeated h => exact ⟨0, _, by simp, rfl⟩
    | globs h => exact ⟨1, _, by simp, rfl⟩
    | target htarget h => exact ⟨2, _, by simp, rfl⟩

theorem tells_issues (s : Architecture) : Tells s.HasIssue s.issues := by
  have hflatten : s.issues = [if s.version = "" then [.noVersion] else [],
      if s.name = "" then [.noName] else [], if s.domains = [] then [.noDomain] else [],
      (s.domains.mapIdx fun i d => domainIssues ((s.domains.take i).map (·.name)).reverse
        (s.domains.map (·.name)) d).flatten].flatten := by
    simp [issues, headerIssues, domainsIssues_eq]
  rw [hflatten]
  refine .flatten ?_ ?_
  · rintro (_ | _ | _ | _ | i) l ⟨⟩
    · refine .guard .version fun rest x hx => ?_
      cases hx with
      | version h => exact ⟨rfl, h, rfl⟩
    · refine .guard .name fun rest x hx => ?_
      cases hx with
      | name h => exact ⟨rfl, h, rfl⟩
    · refine .guard .domains fun rest x hx => ?_
      cases hx with
      | domains h => exact ⟨rfl, h, rfl⟩
    · refine .flatten (fun i l hl => ?_) ?_
      · obtain ⟨d, hd, rfl⟩ := by simpa only [List.getElem?_mapIdx, Option.map_eq_some_iff] using hl
        refine (tells_domainIssues _ _ d).congr fun rest x => ⟨fun h => .domain hd h, fun hx => ?_⟩
        cases hx with
        | domain hd' h =>
            cases hd.symm.trans hd'
            exact h
      · intro address x hx
        cases hx with
        | domain hd h => exact ⟨_, _, by simpa using (List.getElem?_eq_some_iff.mp hd).1, rfl⟩
  · intro address x hx
    cases hx with
    | version h => exact ⟨0, _, by simp, rfl⟩
    | name h => exact ⟨1, _, by simp, rfl⟩
    | domains h => exact ⟨2, _, by simp, rfl⟩
    | domain hd h => exact ⟨3, _, by simp, rfl⟩

theorem tells_problems (s : Architecture) :
    Tells (fun address m => ∃ x, s.HasIssue address x ∧ x.message = m) s.problems :=
  s.tells_issues.map Issue.message

/-- The header of a system that is read is complete. -/
theorem header_of_read {s : Architecture} {source file : String} (h : read source file = .ok s) :
    s.version ≠ "" ∧ s.name ≠ "" ∧ s.domains ≠ [] := by
  obtain ⟨ts, last, -, hscan, -⟩ := Source.scan_of_read h
  have hspelled := Token.spelled_of_scan hscan
  obtain ⟨⟨-, hversion, hend⟩, ⟨-, hname, -⟩, -, -, -⟩ := (read_eq_ok_iff_derives hscan file).mp h
  refine ⟨?_, ?_, List.cons_ne_nil _ _⟩
  · exact ((hspelled _ (.tail _ List.mem_cons_self)).numeral (beq_iff_eq.mp hversion)).ne_empty
  · have hmem := hend.subset (.tail _ List.mem_cons_self)
    exact ((hspelled _ (.tail _ (.tail _ hmem))).word hname).ne_empty

theorem not_mem_problems_of_read {s : Architecture} {source file : String}
    (h : read source file = .ok s) {x : Issue} (hx : x ∈ [.noVersion, .noName, .noDomain]) :
    x.message ∉ s.problems := by
  intro hmem
  obtain ⟨hversion, hname, hdomains⟩ := header_of_read h
  obtain ⟨address, y, hy, hmessage⟩ := s.tells_problems.mem_iff.mp hmem
  have hhead : x.message.toList.head? ≠ some 'D' := by
    simp only [List.mem_cons, List.not_mem_nil, or_false] at hx
    rcases hx with rfl | rfl | rfl <;> decide
  rw [← hmessage] at hhead
  cases hy with
  | version h => exact hversion h
  | name h => exact hname h
  | domains h => exact hdomains h
  | domain hd h =>
      apply hhead
      cases h with
      | repeated h => exact head?_append (head?_append rfl)
      | globs h => exact head?_append (head?_append rfl)
      | target htarget h =>
          exact head?_append (head?_append (head?_append (head?_append rfl)))

end Architecture

/-! ### Policy files -/

namespace PolicySet

/-- What is wrong with a policy file: the version is `[0]`, and the rules of the policies are below
`[1]`. -/
inductive HasIssue (s : PolicySet) : List ℕ → Issue → Prop
  | version (h : s.version = "") : HasIssue s [0] .noVersion
  | repeated {i j : ℕ} {p : Policy} {r : Rule} (hp : s.policies[i]? = some p)
      (hr : p.rules[j]? = some r) (h : ∃ e ∈ p.rules.take j, e.code = r.code) :
      HasIssue s [1, i, j] (.repeatedCode p.name r.code)

/-- At each index, the codes that have been met are those of the rules before it. -/
theorem ruleIssues_eq (policy : String) (seen : List String) (rs : List Rule) :
    ruleIssues policy seen rs = (rs.mapIdx fun j r =>
      if r.code ∈ ((rs.take j).map (·.code)).reverse ++ seen then [.repeatedCode policy r.code]
      else []).flatten := by
  induction rs generalizing seen with
  | nil => rfl
  | cons r rs ih =>
      rw [ruleIssues, ih, List.mapIdx_cons, List.flatten_cons]
      simp

theorem tells_issues (s : PolicySet) : Tells s.HasIssue s.issues := by
  have hflatten : s.issues = [if s.version = "" then [.noVersion] else [],
      (s.policies.map fun p => (p.rules.mapIdx fun j r =>
        if ∃ e ∈ p.rules.take j, e.code = r.code then [.repeatedCode p.name r.code]
        else []).flatten).flatten].flatten := by
    simp [issues, ruleIssues_eq, List.flatMap, -List.map_take]
  rw [hflatten]
  refine .flatten ?_ ?_
  · rintro (_ | _ | i) l ⟨⟩
    · refine .guard .version fun rest x hx => ?_
      cases hx with
      | version h => exact ⟨rfl, h, rfl⟩
    · refine .flatten (fun i l hl => ?_) ?_
      · obtain ⟨p, hp, rfl⟩ := by simpa only [List.getElem?_map, Option.map_eq_some_iff] using hl
        refine .flatten (fun j l hl => ?_) ?_
        · obtain ⟨r, hr, rfl⟩ := by
            simpa only [List.getElem?_mapIdx, Option.map_eq_some_iff] using hl
          refine .guard (.repeated hp hr) fun rest x hx => ?_
          cases hx with
          | repeated hp' hr' h =>
              cases hp.symm.trans hp'
              cases hr.symm.trans hr'
              exact ⟨rfl, h, rfl⟩
        · intro address x hx
          cases hx with
          | repeated hp' hr' h =>
              cases hp.symm.trans hp'
              exact ⟨_, _, by simpa using (List.getElem?_eq_some_iff.mp hr').1, rfl⟩
      · intro address x hx
        cases hx with
        | repeated hp hr h => exact ⟨_, _, by simpa using (List.getElem?_eq_some_iff.mp hp).1, rfl⟩
  · intro address x hx
    cases hx with
    | version h => exact ⟨0, _, by simp, rfl⟩
    | repeated hp hr h => exact ⟨1, _, by simp, rfl⟩

theorem tells_problems (s : PolicySet) :
    Tells (fun address m => ∃ x, s.HasIssue address x ∧ x.message = m) s.problems :=
  s.tells_issues.map Issue.message

theorem not_mem_problems_of_read {s : PolicySet} {source file : String}
    (hread : read source file = .ok s) : Issue.noVersion.message ∉ s.problems := by
  intro hmem
  obtain ⟨address, y, hy, hmessage⟩ := s.tells_problems.mem_iff.mp hmem
  have hhead : Issue.noVersion.message.toList.head? ≠ some 'P' := by decide
  rw [← hmessage] at hhead
  cases hy with
  | version h => exact (known_of_read hread).1.ne_empty h
  | repeated hp hr h =>
      exact hhead (head?_append (head?_append (head?_append (head?_append rfl))))

end PolicySet

/-! ### No problem hides another one -/

/-- **Every issue is told, once and in order.**  The problems of a system are the wordings of its
issues, one for each address that has one, in the order of the addresses: for each part of the
header that is missing, and domain by domain for a name that a domain before it has, for missing
globs and for each dependency on a domain that there is not, before it or behind it.  So there are
none exactly if the system is sound.  The problems of a policy file are told in the same way.  What
is read has no problem with its header. -/
theorem problems_tell_issues (s : Architecture) (p : PolicySet) :
    ((s.problems = [] ↔ s.Sound) ∧
      Tells (fun address m => ∃ x, s.HasIssue address x ∧ x.message = m) s.problems ∧
      ∀ source file, Architecture.read source file = .ok s →
        ∀ x ∈ [.noVersion, .noName, .noDomain], Architecture.Issue.message x ∉ s.problems) ∧
    Tells (fun address m => ∃ x, p.HasIssue address x ∧ x.message = m) p.problems ∧
      ∀ source file, PolicySet.read source file = .ok p →
        PolicySet.Issue.noVersion.message ∉ p.problems :=
  ⟨⟨Architecture.problems_eq_nil_iff, s.tells_problems,
      fun _ _ h _ hx => Architecture.not_mem_problems_of_read h hx⟩,
    p.tells_problems, fun _ _ h => PolicySet.not_mem_problems_of_read h⟩

/-- A system with a domain that is declared twice, and that depends on itself, on a domain behind it
and on one that there is not. -/
def cyclic : Architecture :=
  ⟨"2.0", "S", [⟨"A", ["a"], ["A", "B", "C"]⟩, ⟨"B", [], []⟩, ⟨"A", ["a"], []⟩], []⟩

/-- A system file of this system. -/
def cyclicText : String :=
  "intent 2.0\nsystem S\ndomain A \x7b\n paths allow \"a\"\n depends_on A\n depends_on B\n" ++
  " depends_on C\n\x7d\ndomain B \x7b\x7d\ndomain A \x7b\n paths allow \"a\"\n\x7d"

/-- A policy with two rules of the same code. -/
def doubled : PolicySet :=
  let rule : Rule := ⟨"X", "high", "error", .field "a", "1", none, none, none, none⟩
  ⟨"2.0", [⟨"P", [rule, rule]⟩]⟩

/-- A policy file of this policy. -/
def doubledText : String :=
  let rule := "violation X confidence high \x7b\n when a\n severity error\n message \"1\"\n\x7d\n"
  "intent 2.0\npolicy P \x7b\n" ++ rule ++ rule ++ "\x7d"

theorem problems_tell_issues_cyclic :
    Architecture.read cyclicText = .ok cyclic ∧ PolicySet.read doubledText = .ok doubled ∧
      cyclic.problems = ["Domain 'A' depends on unknown domain 'C'.",
        "Domain 'B' has no 'paths allow' globs.", "Duplicate domain name: 'A'."] ∧
      ¬ cyclic.Sound ∧ Architecture.Issue.noDomain.message ∉ cyclic.problems ∧
      doubled.problems = ["Policy 'P': duplicate violation code 'X'."] ∧
      (∃ address x, doubled.HasIssue address x ∧
        x.message = "Policy 'P': duplicate violation code 'X'.") ∧
      PolicySet.Issue.noVersion.message ∉ doubled.problems := by
  have hread : Architecture.read cyclicText = .ok cyclic := by decide +kernel
  have hread' : PolicySet.read doubledText = .ok doubled := by decide +kernel
  have hproblems : cyclic.problems = ["Domain 'A' depends on unknown domain 'C'.",
      "Domain 'B' has no 'paths allow' globs.", "Duplicate domain name: 'A'."] := by decide +kernel
  have hproblems' : doubled.problems = ["Policy 'P': duplicate violation code 'X'."] := by
    decide +kernel
  obtain ⟨⟨hsound, -, hheader⟩, htells, hversion⟩ := problems_tell_issues cyclic doubled
  refine ⟨hread, hread', hproblems, ?_, hheader _ _ hread _ (by simp), hproblems', ?_,
    hversion _ _ hread'⟩
  · rw [← hsound, hproblems]
    exact List.cons_ne_nil _ _
  · exact htells.mem_iff.mp (hproblems' ▸ List.mem_singleton_self _)

end ChangeGate
