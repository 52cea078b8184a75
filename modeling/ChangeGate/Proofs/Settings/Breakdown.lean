import ChangeGate.Proofs.Workspace.Breakdown
import ChangeGate.Settings.Load

/-! # What loading settings breaks down for

Loading refuses a settings file that is no YAML, no map, or of another shape with a complaint.  Four
things come before its shape is looked at, and break it down (`Settings.Cause`): the file cannot be
read as text, a scalar of it has no value, the part that names revisions is no map, and a key at the
top is no text.

`breaksFor_load`: loading breaks down for nothing else. -/

namespace ChangeGate.Settings

/-- What is set under `diff`. -/
def diffPart (es : List (Data × Data)) : Data := (Data.find? "diff" es).getD .null

/-- The settings file of a repository is read as data. -/
def IsReadAs (g : Workspace) (root : Path) (d : Data) : Prop :=
  ∃ cs, g.Shows (file root) cs ∧ Yaml.read levels cs = .ok d

/-- What loading the settings of a repository breaks down for. -/
inductive Cause (g : Workspace) (root : Path) : Breakdown → Prop
  | unreadable {b : Breakdown} (h : g.Unreadable (file root) b) : Cause g root b
  | scalar {cs : List Char} {flaw : Yaml.Flaw} (hcs : g.Shows (file root) cs)
      (h : Yaml.read levels cs = .error flaw) (hflaw : flaw ≠ .malformed) :
      Cause g root (.settingsText flaw)
  | revisions {es : List (Data × Data)} {b : Breakdown} (hes : IsReadAs g root (.map es))
      (hpresent : (diffPart es).isVoid = false) (hmap : ∀ entries, diffPart es ≠ .map entries)
      (hb : b = .diffEntry ∨ b = .diffEntryLength) : Cause g root b
  | key {es : List (Data × Data)} {k v : Data} (hes : IsReadAs g root (.map es))
      (hmem : (k, v) ∈ es) (hk : k.text? = none) : Cause g root .settingsKey

/-! ### The revisions of the environment -/

theorem entryHalves_error {d : Data} {b : Breakdown} (h : entryHalves d = .error b) :
    b = .diffEntry := by
  cases d <;> cases h <;> rfl

theorem pairEntries_error {es : List (Data × Data)} {ds : List Data} {b : Breakdown}
    (h : pairEntries es ds = .error b) : b = .diffEntry ∨ b = .diffEntryLength := by
  induction ds generalizing es with
  | nil => cases h
  | cons d ds ih =>
      rw [pairEntries] at h
      cases hd : entryHalves d with
      | error b' =>
          rw [hd] at h
          cases h
          exact .inl (entryHalves_error hd)
      | ok halves =>
          rw [hd] at h
          dsimp only [bind, Except.bind] at h
          split at h
          · split at h
            · exact ih h
            · cases h
              exact .inl rfl
          · cases h
            exact .inr rfl

/-- Only what is there and is no map is refused as revisions. -/
theorem revisionEntries_error {d : Data} {b : Breakdown} (h : revisionEntries d = .error b) :
    d.isVoid = false ∧ (∀ entries, d ≠ .map entries) ∧ (b = .diffEntry ∨ b = .diffEntryLength) := by
  unfold revisionEntries at h
  split at h
  · cases h
  · rename_i hvoid
    refine ⟨Bool.eq_false_iff.mpr hvoid, ?_⟩
    cases d with
    | map entries => cases h
    | list items => exact ⟨nofun, pairEntries_error h⟩
    | set items => exact ⟨nofun, pairEntries_error h⟩
    | text s => exact ⟨nofun, pairEntries_error h⟩
    | _ =>
        cases h
        exact ⟨nofun, .inl rfl⟩

theorem withRevisions_error {base head : Option String} {es : List (Data × Data)} {b : Breakdown}
    (h : withRevisions base head es = .error b) : revisionEntries (diffPart es) = .error b := by
  rw [withRevisions] at h
  cases hdiff : revisionEntries (diffPart es) with
  | error b' =>
      rw [diffPart] at hdiff
      rw [hdiff] at h
      exact h
  | ok diff =>
      rw [diffPart] at hdiff
      rw [hdiff] at h
      cases h

theorem exists_key_of_mem_put {key : String} {value k v : Data} {es : List (Data × Data)}
    (h : (k, v) ∈ Data.put key value es) (hk : k.text? = none) : ∃ v', (k, v') ∈ es := by
  rw [Data.put, Data.insert] at h
  split at h
  · obtain ⟨⟨k', v'⟩, hmem, heq⟩ := List.mem_map.mp h
    obtain rfl : k' = k := by
      dsimp only at heq
      split at heq <;> cases heq <;> rfl
    exact ⟨v', hmem⟩
  · rcases List.mem_append.mp h with h | h
    · exact ⟨v, h⟩
    · cases List.mem_singleton.mp h
      cases hk

/-- Revisions of the environment bring in no key that is no text. -/
theorem exists_key_of_withRevisions {base head : Option String} {es es' : List (Data × Data)}
    (h : withRevisions base head es = .ok es') {k v : Data} (hmem : (k, v) ∈ es')
    (hk : k.text? = none) : ∃ v', (k, v') ∈ es := by
  rw [withRevisions] at h
  cases hdiff : revisionEntries ((Data.find? "diff" es).getD .null) with
  | error b =>
      rw [hdiff] at h
      cases h
  | ok diff =>
      rw [hdiff] at h
      have hes : (if (overridden "head" head (overridden "base" base diff)).isEmpty then es
          else Data.put "diff" _ es) = es' := Except.ok.inj h
      split at hes
      · exact ⟨v, hes ▸ hmem⟩
      · exact exists_key_of_mem_put (hes ▸ hmem) hk

/-! ### Loading -/

open Procedure (BreaksFor)

variable {g : Workspace} {root : Path}

theorem breaksFor_entries : BreaksFor g (Cause g root)
    (fun es => es = [] ∨ IsReadAs g root (.map es)) (entries (file root)) := by
  refine ((BreaksFor.readText (file root)).widen fun _ h => .unreadable h).bind fun cs hcs => ?_
  split
  · exact .complain _
  · rename_i flaw hflaw hread
    exact .breakDown (.scalar hcs hread hflaw)
  · rename_i d hread
    split
    · exact .pure (.inl rfl)
    · split
      · exact .pure (.inr ⟨cs, hcs, hread⟩)
      · exact .complain _

/-- The settings that the entries of a settings file and the environment make. -/
def ofEntries (root : Path) (es : List (Data × Data)) : Procedure Settings := do
  let w ← get
  match withRevisions (w.setting? "DIFF_BASE") (w.setting? "DIFF_HEAD") es with
  | .error b => Procedure.breakDown b
  | .ok es =>
    if es.any (·.1.text?.isNone) then Procedure.breakDown .settingsKey
    else
      match shape (.map es) with
      | .good s => return s
      | .bad issues => Procedure.complain (.invalidSettings (file root).text issues)

theorem breaksFor_ofEntries {es : List (Data × Data)} (hes : es = [] ∨ IsReadAs g root (.map es)) :
    BreaksFor g (Cause g root) (fun _ => True) (ofEntries root es) := by
  refine BreaksFor.get.bind fun w _ => ?_
  split
  · rename_i b herror
    obtain ⟨hpresent, hmap, hb⟩ := revisionEntries_error (withRevisions_error herror)
    rcases hes with rfl | hes
    · cases hpresent
    · exact .breakDown (.revisions hes hpresent hmap hb)
  · rename_i es' hrevised
    split
    · rename_i hkeys
      obtain ⟨⟨k, v⟩, hmem, hk⟩ := List.any_eq_true.mp hkeys
      have hk : k.text? = none := Option.isNone_iff_eq_none.mp hk
      -- The environment puts in the key `diff` alone, so the key stands in the file.
      obtain ⟨v', hmem⟩ := exists_key_of_withRevisions hrevised hmem hk
      rcases hes with rfl | hes
      · cases hmem
      · exact .breakDown (.key hes hmem hk)
    · split
      · exact .pure trivial
      · exact .complain _

/-- Loading settings breaks down for what is wrong with the settings file alone. -/
theorem breaksFor_load (g : Workspace) (root : Path) :
    BreaksFor g (Cause g root) (fun _ => True) (load root) := by
  have hthere : BreaksFor g (Cause g root) (fun _ => True)
      (Procedure.isThere (file root)) :=
    (BreaksFor.asks (file root) _).widen fun _ h => .unreadable h
  refine hthere.bind fun there _ => ?_
  change BreaksFor g (Cause g root) (fun _ => True)
    (if there then entries (file root) >>= ofEntries root else pure [] >>= ofEntries root)
  split
  · exact breaksFor_entries.bind fun _ hes => breaksFor_ofEntries hes
  · exact breaksFor_ofEntries (.inl rfl)

end ChangeGate.Settings
