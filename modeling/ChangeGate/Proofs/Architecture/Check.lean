import ChangeGate.Architecture.Check
import Mathlib.Data.List.Nodup

/-! # Systems without problems

`problems_eq_nil_iff`: a system has no problems exactly if its header is complete, its domains have
globs and names of their own, and they depend on domains that there are. -/

namespace ChangeGate.Architecture

/-- What a system without problems is. -/
structure Sound (s : Architecture) : Prop where
  version : s.version ≠ ""
  name : s.name ≠ ""
  domains : s.domains ≠ []
  names : (s.domains.map (·.name)).Nodup
  globs : ∀ d ∈ s.domains, d.allow ≠ []
  targets : ∀ d ∈ s.domains, ∀ target ∈ d.dependsOn, target ∈ s.domains.map (·.name)

theorem headerIssues_eq_nil_iff {s : Architecture} :
    s.headerIssues = [] ↔ s.version ≠ "" ∧ s.name ≠ "" ∧ s.domains ≠ [] := by
  simp [headerIssues]

theorem domainIssues_eq_nil_iff {seen known : List String} {d : Domain} :
    domainIssues seen known d = [] ↔
      d.name ∉ seen ∧ d.allow ≠ [] ∧ ∀ target ∈ d.dependsOn, target ∈ known := by
  simp [domainIssues]

/-- The names of the domains differ from one another and from those before. -/
theorem domainsIssues_eq_nil_iff {known seen : List String} {ds : List Domain} :
    domainsIssues known seen ds = [] ↔
      ((ds.map (·.name)).Nodup ∧ ∀ d ∈ ds, d.name ∉ seen) ∧
        ∀ d ∈ ds, d.allow ≠ [] ∧ ∀ target ∈ d.dependsOn, target ∈ known := by
  induction ds generalizing seen with
  | nil => simp [domainsIssues]
  | cons d ds ih =>
      rw [domainsIssues, List.append_eq_nil_iff, domainIssues_eq_nil_iff, ih, List.map_cons,
        List.nodup_cons, List.forall_mem_cons, List.forall_mem_cons]
      constructor
      · rintro ⟨⟨hseen, hd⟩, ⟨hnodup, hfresh⟩, hds⟩
        have hname : d.name ∉ ds.map (·.name) := by
          rintro hmem
          obtain ⟨d', hd', heq⟩ := List.mem_map.mp hmem
          exact hfresh d' hd' (heq ▸ List.mem_cons_self)
        exact ⟨⟨⟨hname, hnodup⟩, hseen, fun d' hd' hmem => hfresh d' hd' (.tail _ hmem)⟩, hd, hds⟩
      · rintro ⟨⟨⟨hname, hnodup⟩, hseen, hfresh⟩, hd, hds⟩
        refine ⟨⟨hseen, hd⟩, ⟨hnodup, fun d' hd' hmem => ?_⟩, hds⟩
        rcases List.mem_cons.mp hmem with heq | hmem
        · exact hname (heq ▸ List.mem_map_of_mem hd')
        · exact hfresh d' hd' hmem

theorem problems_eq_nil_iff {s : Architecture} : s.problems = [] ↔ s.Sound := by
  rw [problems, List.map_eq_nil_iff, issues, List.append_eq_nil_iff, headerIssues_eq_nil_iff,
    domainsIssues_eq_nil_iff]
  constructor
  · rintro ⟨⟨hversion, hname, hdomains⟩, ⟨hnames, -⟩, hds⟩
    exact ⟨hversion, hname, hdomains, hnames, fun d hd => (hds d hd).1, fun d hd => (hds d hd).2⟩
  · rintro ⟨hversion, hname, hdomains, hnames, hglobs, htargets⟩
    exact ⟨⟨hversion, hname, hdomains⟩, ⟨hnames, fun _ _ => by simp⟩,
      fun d hd => ⟨hglobs d hd, htargets d hd⟩⟩

end ChangeGate.Architecture
