import ChangeGate.Proofs.Repository.Reading
import ChangeGate.Proofs.Workspace.Writing

/-! # A repository in which a file is written

Under the usual names the system file stands in the root of a repository, and the policies stand in
a directory below it.  A file that is written in the root hence replaces the text of the system file
(`Stands.write_system`) or leaves the specification as it is (`Stands.write_other`). -/

namespace ChangeGate.Repository

/-- The settings leave the names of the files as they usually are. -/
structure UsualPaths (s : Settings) : Prop where
  system : s.systemFile = "system.intent"
  policies : s.policyDirectory = "policies"
  plan : s.planFile = "intent.plan.json"

variable {w w' : Workspace} {root : Path} {s : Settings} {loc : Location} {bytes : List UInt8}
  {system file : String} {policies : List String} {text : String → String}

/-! ### Where the files are -/

theorem UsualPaths.under (h : UsualPaths s) (root : Path) :
    root.under (.ofText s.systemFile) = root.child "system.intent" ∧
      root.under (.ofText s.policyDirectory) = root.child "policies" ∧
      root.under (.ofText s.planFile) = root.child "intent.plan.json" := by
  have hsystem : Path.ofText "system.intent" = ⟨false, ["system.intent"]⟩ := by decide
  have hpolicies : Path.ofText "policies" = ⟨false, ["policies"]⟩ := by decide
  have hplan : Path.ofText "intent.plan.json" = ⟨false, ["intent.plan.json"]⟩ := by decide
  rw [h.system, h.policies, h.plan, hsystem, hpolicies, hplan]
  exact ⟨rfl, rfl, rfl⟩

theorem isPolicyName_of_mem {name : String} {names : List String} (h : name ∈ policyNames names) :
    isPolicyName name = true :=
  (List.mem_filter.mp (List.mem_mergeSort.mp h)).2

section places

variable (hs : UsualPaths s) (hleads : w.files.Leads (w.whole root) loc)
  (h : Stands w root s system policies text)

include hs hleads h

theorem Stands.locate_system : w.files.locate (w.whole (root.under (.ofText s.systemFile))) =
    .ok (loc ++ ["system.intent"]) := by
  obtain ⟨bytes, hlook⟩ := h.isFile
  obtain ⟨l, hloc, -⟩ := Files.read_eq_ok_iff.mp (Files.read_of_look hlook)
  have hchild := hloc
  rw [(hs.under root).1, Workspace.whole_child] at hchild
  rw [hloc, hleads.eq_of_locate_child (by decide) hchild]

theorem Stands.leads_policies :
    w.files.Leads (w.whole (root.under (.ofText s.policyDirectory))) (loc ++ ["policies"]) ∧
      policyNames (w.files.namesIn (loc ++ ["policies"])) = policies := by
  obtain ⟨l, hdirectory, hnames⟩ := h.directory
  have hchild := hdirectory.locate
  rw [(hs.under root).2.1, Workspace.whole_child] at hchild
  obtain rfl := hleads.eq_of_locate_child (by decide) hchild
  exact ⟨hdirectory, hnames⟩

/-- A policy does not stand in the root. -/
theorem Stands.policy_ne {name : String} (hname : name ∈ policies) {l : Location}
    (hloc : w.files.locate (w.whole ((root.under (.ofText s.policyDirectory)).child name)) = .ok l) :
    l ≠ loc ++ [file] := by
  obtain ⟨hdirectory, hnames⟩ := h.leads_policies hs hleads
  have hdots : name ≠ ".." := by
    rintro rfl
    exact absurd (isPolicyName_of_mem (hnames ▸ hname)) (by decide)
  rw [Workspace.whole_child] at hloc
  rw [hdirectory.eq_of_locate_child hdots hloc, List.append_assoc]
  intro heq
  cases List.append_cancel_left heq

end places

/-! ### Writing a file -/

section writing

variable (hs : UsualPaths s) (hleads : w.files.Leads (w.whole root) loc)
  (h : Stands w root s system policies text) (hw : w.Wrote (loc ++ [file]) bytes w')

include hs hleads h hw

/-- The policies are the same. -/
theorem Stands.write_policies :
    (∃ l, w'.files.Leads (w'.whole (root.under (.ofText s.policyDirectory))) l ∧
      policyNames (w'.files.namesIn l) = policies) ∧
    ∀ name ∈ policies, w'.Shows ((root.under (.ofText s.policyDirectory)).child name)
      (text name).toList := by
  obtain ⟨hdirectory, hnames⟩ := h.leads_policies hs hleads
  refine ⟨⟨loc ++ ["policies"], ?_, ?_⟩, fun name hname => ?_⟩
  · rw [hw.whole]
    exact hdirectory.of_keeps hw.keeps
  · rw [hw.files, Files.namesIn_put_of_ne (by simp), hnames]
  · exact hw.shows_of_ne (h.policies name hname) fun l hloc => h.policy_ne hs hleads hname hloc

/-- A file beside the system file changes nothing of a specification. -/
theorem Stands.write_other (hfile : file ≠ "system.intent") :
    Stands w' root s system policies text := by
  obtain ⟨hdirectory, hpolicies⟩ := h.write_policies hs hleads hw
  have hother (l : Location)
      (hloc : w.files.locate (w.whole (root.under (.ofText s.systemFile))) = .ok l) :
      l ≠ loc ++ [file] := by
    obtain rfl := Except.ok.inj ((h.locate_system hs hleads).symm.trans hloc)
    intro heq
    cases List.append_cancel_left heq
    exact hfile rfl
  refine ⟨?_, hw.shows_of_ne h.system hother, hdirectory, hpolicies⟩
  rw [hw.whole, hw.look_of_ne hother]
  exact h.isFile

end writing

/-- A system file that is written is read as the text that its bytes show. -/
theorem Stands.write_system (hs : UsualPaths s) (hleads : w.files.Leads (w.whole root) loc)
    (h : Stands w root s system policies text) {system' : String} {raw : List Char}
    (hw : w.Wrote (loc ++ ["system.intent"]) bytes w') (hraw : Text.decodeUtf8 bytes = .ok raw)
    (htext : system'.toList = Text.unifyLineEnds raw) :
    Stands w' root s system' policies text := by
  obtain ⟨hdirectory, hpolicies⟩ := h.write_policies hs hleads hw
  have hloc := hw.locate_iff.mpr (h.locate_system hs hleads)
  rw [← hw.whole] at hloc
  refine ⟨⟨bytes, ?_⟩, ⟨bytes, raw, ?_, hraw, htext⟩, hdirectory, hpolicies⟩
  · rw [Files.look_of_locate hloc, hw.at?_self]
  · exact Files.read_of_locate hloc hw.at?_self

end ChangeGate.Repository
