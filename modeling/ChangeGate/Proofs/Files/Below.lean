import ChangeGate.Proofs.Files.Frame
import Mathlib.Data.List.Basic

/-! # What stands below a directory

A path that leads to a directory leads with one more name to what has that name in the directory,
if the system takes the name and the path does not get too long (`Leads.child`).  Below that stands
what looking, listing, reading and making directories come to where a path leads. -/

namespace ChangeGate.Files

variable {fs : Files} {p : Path} {loc loc' : Location} {name : String} {e : Entry}

/-! ### Names -/

theorem nameBytes?_append (cs ds : List Char) :
    Text.nameBytes? (cs ++ ds) =
      (Text.nameBytes? cs).bind fun bytes => (Text.nameBytes? ds).map (bytes ++ ·) := by
  simp only [Text.nameBytes?, List.mapM_append]
  cases cs.mapM Text.nameBytesOf? with
  | none => rfl
  | some _ =>
      cases ds.mapM Text.nameBytesOf? with
      | none => rfl
      | some _ => simp

theorem nameFault?_eq_none_iff : nameFault? name = none ↔
    ∃ bytes, Text.nameBytes? name.toList = some bytes ∧ 0 ∉ bytes := by
  unfold nameFault?
  split <;> simp_all

/-- Names that the system takes may be put together. -/
theorem nameFault?_append {s t : String} (hs : nameFault? s = none) (ht : nameFault? t = none) :
    nameFault? (s ++ t) = none ∧ nameSize (s ++ t) = nameSize s + nameSize t := by
  obtain ⟨bytes, hbytes, hzero⟩ := nameFault?_eq_none_iff.mp hs
  obtain ⟨bytes', hbytes', hzero'⟩ := nameFault?_eq_none_iff.mp ht
  have happend : Text.nameBytes? (s ++ t).toList = some (bytes ++ bytes') := by
    rw [String.toList_append, nameBytes?_append, hbytes, hbytes']
    rfl
  refine ⟨nameFault?_eq_none_iff.mpr ⟨_, happend, ?_⟩, ?_⟩
  · rw [List.mem_append, not_or]
    exact ⟨hzero, hzero'⟩
  · rw [nameSize, nameSize, nameSize, happend, hbytes, hbytes']
    exact List.length_append

/-- A name that something in a directory can have. -/
structure IsEntryName (name : String) : Prop where
  fault : nameFault? name = none
  size : nameSize name ≤ longestName
  ne_dots : name ≠ ".."

theorem isEntryName_iff : IsEntryName name ↔
    nameFault? name = none ∧ nameSize name ≤ longestName ∧ name ≠ ".." :=
  ⟨fun ⟨hfault, hsize, hne⟩ => ⟨hfault, hsize, hne⟩, fun ⟨hfault, hsize, hne⟩ =>
    ⟨hfault, hsize, hne⟩⟩

instance : DecidablePred IsEntryName := fun _ => decidable_of_iff _ isEntryName_iff.symm

/-! ### Paths -/

theorem text_child_eq (h : p.isAbsolute = true) (name : String) :
    (p.child name).text = p.text ++ name ∨ (p.child name).text = p.text ++ "/" ++ name := by
  rcases p with ⟨isAbsolute, names⟩
  obtain rfl : isAbsolute = true := h
  cases names with
  | nil =>
      left
      simp [Path.child, Path.text]
  | cons n names =>
      right
      have hnames : "/".intercalate (n :: names ++ [name]) =
          "/".intercalate (n :: names) ++ "/" ++ name := by
        rw [String.intercalate_append_of_ne_nil (List.cons_ne_nil _ _) (List.cons_ne_nil _ _),
          String.intercalate_singleton]
      simp only [Path.child, Path.text, if_true, hnames, String.append_assoc]

/-- A path with one more name is taken, and is longer by the name and a slash at most. -/
theorem text_child (h : p.isAbsolute = true) (hp : nameFault? p.text = none)
    (hname : nameFault? name = none) : nameFault? (p.child name).text = none ∧
      nameSize (p.child name).text ≤ nameSize p.text + 1 + nameSize name := by
  rcases text_child_eq h name with htext | htext
  · obtain ⟨hnone, hsize⟩ := nameFault?_append hp hname
    rw [htext]
    exact ⟨hnone, by omega⟩
  · have hslash : nameFault? "/" = none ∧ nameSize "/" = 1 := by decide
    obtain ⟨hnone, hsize⟩ := nameFault?_append hp hslash.1
    obtain ⟨hnone, hsize'⟩ := nameFault?_append hnone hname
    rw [htext]
    exact ⟨hnone, by omega⟩

/-- A path leads to a directory. -/
structure Leads (fs : Files) (p : Path) (loc : Location) : Prop where
  isAbsolute : p.isAbsolute = true
  locate : fs.locate p = .ok loc
  directory : fs.at? loc = some .directory

theorem nameFault?_text_of_locate (h : fs.locate p = .ok loc) : nameFault? p.text = none := by
  unfold locate at h
  split at h
  · cases h
  · assumption

theorem foldlM_of_locate (h : fs.locate p = .ok loc) : p.names.foldlM fs.enter [] = .ok loc := by
  unfold locate at h
  split at h
  · cases h
  · split at h
    · cases h
    · exact h

/-- A path with one more name is walked by one more step. -/
theorem locate_child (h : p.isAbsolute = true) (hloc : fs.locate p = .ok loc)
    (hname : nameFault? name = none) (hroom : nameSize p.text + nameSize name < longestPath) :
    fs.locate (p.child name) = fs.enter loc name := by
  obtain ⟨hfault, hsize⟩ := text_child h (nameFault?_text_of_locate hloc) hname
  have hwalk : (p.child name).names.foldlM fs.enter [] = fs.enter loc name := by
    rw [Path.child, List.foldlM_append, foldlM_of_locate hloc]
    exact bind_pure (fs.enter loc name)
  unfold locate
  rw [hfault]
  dsimp only
  rw [if_neg (by omega), hwalk]

/-- A path with one more name leads to what has the name. -/
theorem Leads.child (h : fs.Leads p loc) (hname : IsEntryName name)
    (hroom : nameSize p.text + nameSize name < longestPath) :
    fs.locate (p.child name) = .ok (loc ++ [name]) := by
  rw [locate_child h.isAbsolute h.locate hname.fault hroom, enter, h.directory]
  dsimp only
  rw [if_neg hname.ne_dots, if_neg (Nat.not_lt.mpr hname.size)]

/-- Where a path with one more name leads, if it leads anywhere. -/
theorem Leads.eq_of_locate_child (h : fs.Leads p loc) (hname : name ≠ "..")
    (hloc : fs.locate (p.child name) = .ok loc') : loc' = loc ++ [name] := by
  have hwalk := foldlM_of_locate hloc
  rw [Path.child, List.foldlM_append, foldlM_of_locate h.locate] at hwalk
  have henter : fs.enter loc name = .ok loc' := (bind_pure (fs.enter loc name)).symm.trans hwalk
  rw [enter, h.directory] at henter
  dsimp only at henter
  rw [if_neg hname] at henter
  split at henter
  · cases henter
  · exact (Except.ok.inj henter).symm

/-- A path with one more name leads to nothing where nothing stands. -/
theorem look_child_of_none (h : p.isAbsolute = true) (hloc : fs.locate p = .ok loc)
    (hnone : fs.at? loc = none) (hname : nameFault? name = none)
    (hroom : nameSize p.text + nameSize name < longestPath) :
    fs.look (p.child name) = .ok none := by
  rw [look, locate_child h hloc hname hroom, enter, hnone]

theorem Leads.of_keeps (h : fs.Leads p loc) {fs' : Files} (hkeeps : Keeps fs fs') :
    fs'.Leads p loc :=
  ⟨h.isAbsolute, locate_of_keeps hkeeps h.locate, hkeeps loc h.directory⟩

theorem look_of_locate (h : fs.locate p = .ok loc) : fs.look p = .ok (fs.at? loc) := by
  rw [look, h]

theorem read_of_locate {bytes : List UInt8} (h : fs.locate p = .ok loc)
    (hat : fs.at? loc = some (.file bytes)) : fs.read p = .ok bytes := by
  unfold read
  rw [h]
  dsimp only [bind, Except.bind]
  rw [hat]
  rfl

theorem read_of_look {bytes : List UInt8} (h : fs.look p = .ok (some (.file bytes))) :
    fs.read p = .ok bytes := by
  cases hloc : fs.locate p with
  | error fault => cases fault <;> simp [look, hloc] at h
  | ok loc =>
      rw [look_of_locate hloc] at h
      exact read_of_locate hloc (Except.ok.inj h)

theorem list_of_leads (h : fs.Leads p loc) : fs.list p = .ok (fs.namesIn loc) := by
  unfold list
  rw [h.locate]
  dsimp only [bind, Except.bind]
  rw [h.directory]
  rfl

/-! ### Making directories -/

theorem makeDirectories_of_leads (h : fs.Leads p loc) : fs.makeDirectories p = (fs, none) := by
  have hmake : fs.makeDirectory p = .error .exists := by
    unfold makeDirectory
    rw [h.locate]
    dsimp only [bind, Except.bind]
    rw [h.directory]
    rfl
  have hlook : fs.isDirectory p = true := by
    rw [isDirectory, look_of_locate h.locate, h.directory]
    rfl
  have hlast : fs.ensureLast p = .ok fs := by
    rw [ensureLast, hmake]
    exact if_pos hlook
  rw [makeDirectories, hlast]

theorem makeDirectories_of_none (h : fs.locate p = .ok loc) (hnone : fs.at? loc = none) :
    fs.makeDirectories p = (fs.put loc .directory, none) := by
  have hmake : fs.makeDirectory p = .ok (fs.put loc .directory) := by
    unfold makeDirectory
    rw [h]
    dsimp only [bind, Except.bind]
    rw [hnone]
    rfl
  have hlast : fs.ensureLast p = .ok (fs.put loc .directory) := by
    rw [ensureLast, hmake]
  rw [makeDirectories, hlast]

/-! ### What stands elsewhere -/

theorem read_eq_ok_iff {bytes : List UInt8} : fs.read p = .ok bytes ↔
    ∃ loc, fs.locate p = .ok loc ∧ fs.at? loc = some (.file bytes) := by
  refine ⟨fun h => ?_, fun ⟨_, hloc, hat⟩ => read_of_locate hloc hat⟩
  unfold read at h
  cases hloc : fs.locate p with
  | error fault =>
      rw [hloc] at h
      cases h
  | ok loc =>
      rw [hloc] at h
      dsimp only [bind, Except.bind] at h
      split at h
      · cases h
      · cases h
      · rename_i hat
        cases h
        exact ⟨loc, rfl, hat⟩

/-- A path is followed alike in two trees with the same directories. -/
theorem foldlM_enter_alike {fs' : Files} (h : Keeps fs fs') (h' : Keeps fs' fs)
    (names : List String) (loc : Location) :
    names.foldlM fs'.enter loc = names.foldlM fs.enter loc ∨
      ∃ fault fault', names.foldlM fs.enter loc = .error fault ∧ fault ≠ .nameTooLong ∧
        names.foldlM fs'.enter loc = .error fault' ∧ fault' ≠ .nameTooLong := by
  induction names generalizing loc with
  | nil => exact .inl rfl
  | cons name names ih =>
      rw [List.foldlM_cons, List.foldlM_cons]
      by_cases hat : fs.at? loc = some .directory
      · have henter : fs'.enter loc name = fs.enter loc name := by
          rw [enter, enter, hat, h loc hat]
        rw [henter]
        cases fs.enter loc name with
        | error fault => exact .inl rfl
        | ok next => exact ih next
      · have hat' : fs'.at? loc ≠ some .directory := fun hdirectory => hat (h' loc hdirectory)
        obtain ⟨fault, hfault, hne⟩ := enter_of_at?_ne hat name
        obtain ⟨fault', hfault', hne'⟩ := enter_of_at?_ne hat' name
        rw [hfault, hfault']
        exact .inr ⟨fault, fault', rfl, hne, rfl, hne'⟩

theorem look_of_error {fault : FaultKind} (h : fs.locate p = .error fault)
    (hne : fault ≠ .nameTooLong) : fs.look p = .ok none := by
  rw [look, h]
  cases fault with
  | nameTooLong => exact absurd rfl hne
  | _ => rfl

/-- A path leads to the same in two trees with the same directories, if what stands where it leads is
the same. -/
theorem look_alike {fs' : Files} (h : Keeps fs fs') (h' : Keeps fs' fs)
    (hat : ∀ loc, fs.locate p = .ok loc → fs'.at? loc = fs.at? loc) : fs'.look p = fs.look p := by
  have hlocate : fs'.locate p = fs.locate p ∨ ∃ fault fault', fs.locate p = .error fault ∧
      fault ≠ .nameTooLong ∧ fs'.locate p = .error fault' ∧ fault' ≠ .nameTooLong := by
    unfold locate
    split
    · exact .inl rfl
    · split
      · exact .inl rfl
      · exact foldlM_enter_alike h h' p.names []
  rcases hlocate with heq | ⟨fault, fault', hfault, hne, hfault', hne'⟩
  · rw [look, look, heq]
    cases hloc : fs.locate p with
    | error fault => cases fault <;> rfl
    | ok loc => exact congrArg Except.ok (hat loc hloc)
  · rw [look_of_error hfault hne, look_of_error hfault' hne']

/-- A file leaves alone what stands elsewhere. -/
theorem look_put_of_ne (bytes : List UInt8) (hloc : fs.at? loc ≠ some .directory)
    (hne : ∀ l, fs.locate p = .ok l → l ≠ loc) : (fs.put loc (.file bytes)).look p = fs.look p :=
  look_alike (keeps_put _ hloc) (keeps_of_put _ hloc) fun l hl => at?_put_of_ne (hne l hl)

theorem read_put_of_ne {bytes' : List UInt8} (bytes : List UInt8)
    (hloc : fs.at? loc ≠ some .directory) (hne : ∀ l, fs.locate p = .ok l → l ≠ loc)
    (h : fs.read p = .ok bytes') : (fs.put loc (.file bytes)).read p = .ok bytes' := by
  obtain ⟨l, hl, hat⟩ := read_eq_ok_iff.mp h
  refine read_of_locate (locate_of_keeps (keeps_put _ hloc) hl) ?_
  rw [at?_put_of_ne (hne l hl), hat]

/-! ### Names in a directory -/

theorem at?_eq_none_of_not_mem (h : name ∉ fs.namesIn loc) : fs.at? (loc ++ [name]) = none := by
  rw [at?, if_neg (by simp), Option.map_eq_none_iff, List.find?_eq_none]
  intro x hx hloc
  refine h (List.mem_filterMap.mpr ⟨x, hx, ?_⟩)
  obtain ⟨l, e⟩ := x
  obtain rfl : l = loc ++ [name] := of_decide_eq_true hloc
  simp

theorem namesIn_put_of_ne (h : loc'.dropLast ≠ loc) (e : Entry) :
    (fs.put loc' e).namesIn loc = fs.namesIn loc := by
  simp only [namesIn, put, List.filterMap_cons, h, and_false, if_false]
  rw [List.filterMap_filter]
  refine List.filterMap_congr fun x _ => ?_
  obtain ⟨l, e'⟩ := x
  by_cases hl : l = loc'
  · subst hl
    simp [h]
  · simp [hl]

theorem namesIn_put_of_empty (h : fs.namesIn loc = []) (name : String) (e : Entry) :
    (fs.put (loc ++ [name]) e).namesIn loc = [name] := by
  rw [namesIn, put, List.filterMap_cons_some (b := name) (by simp), List.cons_inj_right]
  rw [namesIn, List.filterMap_eq_nil_iff] at h
  rw [List.filterMap_eq_nil_iff]
  exact fun x hx => h x (List.mem_of_mem_filter hx)

end ChangeGate.Files
