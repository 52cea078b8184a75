import ChangeGate.Files.Basic

/-! # What stays where it stood

A tree keeps the directories of another one if each of them is still there; then every path that
led somewhere leads there still (`locate_of_keeps`).  Making directories puts directories where
nothing stood and leaves all else alone (`grows_makeDirectories`), and writing changes what stands
where its path leads (`write_eq_ok_iff`). -/

namespace ChangeGate.Files

variable {fs fs' fs'' : Files} {p : Path} {loc loc' : Location} {name : String}
  {bytes : List UInt8}

/-! ### Directories that stay -/

/-- Every directory of one tree is a directory of another. -/
def Keeps (fs fs' : Files) : Prop :=
  ∀ loc, fs.at? loc = some .directory → fs'.at? loc = some .directory

theorem enter_of_keeps (h : Keeps fs fs') (henter : fs.enter loc name = .ok loc') :
    fs'.enter loc name = .ok loc' := by
  unfold enter at henter ⊢
  match hat : fs.at? loc with
  | none => simp [hat] at henter
  | some (.file _) => simp [hat] at henter
  | some .directory =>
      rw [hat] at henter
      rw [h loc hat]
      exact henter

/-- Nothing is entered but a directory. -/
theorem enter_of_at?_ne (h : fs.at? loc ≠ some .directory) (name : String) :
    ∃ fault, fs.enter loc name = .error fault ∧ fault ≠ .nameTooLong := by
  unfold enter
  split
  · exact ⟨_, rfl, by decide⟩
  · exact ⟨_, rfl, by decide⟩
  · contradiction

theorem foldlM_enter_of_keeps (h : Keeps fs fs') {names : List String}
    (hwalk : names.foldlM fs.enter loc = .ok loc') : names.foldlM fs'.enter loc = .ok loc' := by
  induction names generalizing loc with
  | nil => exact hwalk
  | cons name names ih =>
      rw [List.foldlM_cons] at hwalk ⊢
      cases henter : fs.enter loc name with
      | error fault =>
          rw [henter] at hwalk
          cases hwalk
      | ok next =>
          rw [henter] at hwalk
          rw [enter_of_keeps h henter]
          exact ih hwalk

/-- A path that leads somewhere leads there as long as the directories stay. -/
theorem locate_of_keeps (h : Keeps fs fs') (hp : fs.locate p = .ok loc) :
    fs'.locate p = .ok loc := by
  unfold locate at hp ⊢
  split at hp
  · cases hp
  · split at hp
    · cases hp
    · rename_i hlength
      rw [if_neg hlength]
      exact foldlM_enter_of_keeps h hp

/-- An entry may be put where no directory stands. -/
theorem keeps_put (e : Entry) (hloc : fs.at? loc ≠ some .directory) :
    Keeps fs (fs.put loc e) := by
  intro l hl
  have hne : l ≠ loc := fun heq => hloc (heq ▸ hl)
  rw [at?_put_of_ne hne, hl]

/-- A file in place of what is no directory adds none. -/
theorem keeps_of_put (bytes : List UInt8) (hloc : fs.at? loc ≠ some .directory) :
    Keeps (fs.put loc (.file bytes)) fs := by
  intro l hl
  have hne : l ≠ loc := by
    rintro rfl
    have hnil : l ≠ [] := fun hnil => hloc (by rw [hnil, at?, if_pos rfl])
    rw [at?_put_self hnil] at hl
    cases hl
  rwa [at?_put_of_ne hne] at hl

/-! ### Making directories -/

/-- A tree with directories where nothing stood, and all else as it was. -/
def Grows (fs fs' : Files) : Prop :=
  ∀ loc, fs'.at? loc = fs.at? loc ∨ fs.at? loc = none ∧ fs'.at? loc = some .directory

theorem Grows.refl (fs : Files) : Grows fs fs := fun _ => .inl rfl

theorem Grows.trans (h : Grows fs fs') (h' : Grows fs' fs'') : Grows fs fs'' := by
  intro loc
  rcases h' loc with h' | ⟨hnone, hdirectory⟩
  · rw [h']
    exact h loc
  · rcases h loc with h | ⟨-, h⟩
    · exact .inr ⟨h.symm.trans hnone, hdirectory⟩
    · rw [h] at hnone
      cases hnone

theorem Grows.keeps (h : Grows fs fs') : Keeps fs fs' := by
  intro loc hloc
  rcases h loc with h | ⟨hnone, -⟩
  · rw [h, hloc]
  · rw [hnone] at hloc
    cases hloc

/-- Directories have no content. -/
theorem Grows.content? (h : Grows fs fs') (loc : Location) :
    fs'.content? loc = fs.content? loc := by
  rw [Files.content?, Files.content?]
  rcases h loc with h | ⟨hnone, hdirectory⟩
  · rw [h]
  · rw [hnone, hdirectory]
    rfl

theorem at?_root (fs : Files) : fs.at? [] = some .directory := if_pos rfl

theorem grows_makeDirectory (h : fs.makeDirectory p = .ok fs') : Grows fs fs' := by
  unfold makeDirectory at h
  cases hloc : fs.locate p with
  | error fault =>
      rw [hloc] at h
      cases h
  | ok loc =>
      rw [hloc] at h
      dsimp only [bind, Except.bind] at h
      split at h
      · cases h
      · rename_i hnone
        cases h
        intro l
        by_cases hl : l = loc
        · subst hl
          have hne : l ≠ [] := by
            rintro rfl
            rw [at?_root] at hnone
            cases hnone
          exact .inr ⟨hnone, at?_put_self hne⟩
        · exact .inl (at?_put_of_ne hl)

theorem grows_ensureLast (h : fs.ensureLast p = .ok fs') : Grows fs fs' := by
  unfold ensureLast at h
  split at h
  · rename_i hmade
    cases h
    exact grows_makeDirectory hmade
  · split at h
    · cases h
      exact .refl fs
    · cases h

/-- Directories that are made, and those made before a fault, stand where nothing stood. -/
theorem grows_makeDirectories (fs : Files) (p : Path) : Grows fs (fs.makeDirectories p).1 := by
  fun_induction makeDirectories fs p with
  | case1 p fs' hlast => exact grows_ensureLast hlast
  | case2 => exact .refl fs
  | case3 p _ _ _ fs' fault hparent ih =>
      rw [hparent] at ih
      exact ih
  | case4 p _ _ _ fs' hparent fs'' hlast ih =>
      rw [hparent] at ih
      exact ih.trans (grows_ensureLast hlast)
  | case5 p _ _ _ fs' hparent fault _ ih =>
      rw [hparent] at ih
      exact ih
  | case6 => exact .refl fs

/-! ### Writing -/

/-- A file is written where its path leads, unless a directory stands there. -/
theorem write_eq_ok_iff : fs.write p bytes = .ok fs' ↔
    ∃ loc, fs.locate p = .ok loc ∧ fs.at? loc ≠ some .directory ∧
      fs' = fs.put loc (.file bytes) := by
  unfold write
  cases hloc : fs.locate p with
  | error fault => exact ⟨nofun, fun ⟨_, h, _⟩ => by cases h⟩
  | ok loc =>
      dsimp only [bind, Except.bind]
      split
      · rename_i hat
        refine ⟨nofun, fun ⟨l, hl, hne, _⟩ => ?_⟩
        cases hl
        exact absurd hat hne
      · rename_i hat
        simp [pure, Except.pure, hat, eq_comm]
      · rename_i hat
        simp [pure, Except.pure, hat, eq_comm]

/-- No file is written at the root. -/
theorem ne_nil_of_at?_ne (h : fs.at? loc ≠ some .directory) : loc ≠ [] :=
  fun hnil => h (hnil ▸ at?_root fs)

theorem content?_put_self (h : loc ≠ []) :
    (fs.put loc (.file bytes)).content? loc = some bytes := by
  rw [content?, at?_put_self h]
  rfl

theorem content?_put_of_ne {e : Entry} (h : loc' ≠ loc) :
    (fs.put loc e).content? loc' = fs.content? loc' := by
  rw [content?, content?, at?_put_of_ne h]

/-- Two trees hold the same, but for the file to which a path leads in the second one, where it has
some content. -/
def Rewrites (fs fs' : Files) (p : Path) (bytes : List UInt8) : Prop :=
  ∃ loc, fs'.locate p = .ok loc ∧ fs'.content? loc = some bytes ∧
    ∀ l, l ≠ loc → fs'.content? l = fs.content? l

theorem rewrites_of_write (h : fs.write p bytes = .ok fs') : fs.Rewrites fs' p bytes := by
  obtain ⟨loc, hloc, hne, rfl⟩ := write_eq_ok_iff.mp h
  exact ⟨loc, locate_of_keeps (keeps_put _ hne) hloc, content?_put_self (ne_nil_of_at?_ne hne),
    fun l hl => content?_put_of_ne hl⟩

theorem Rewrites.of_grows (hgrows : Grows fs fs') (h : fs'.Rewrites fs'' p bytes) :
    fs.Rewrites fs'' p bytes := by
  obtain ⟨loc, hloc, hcontent, hothers⟩ := h
  exact ⟨loc, hloc, hcontent, fun l hl => (hothers l hl).trans (hgrows.content? l)⟩

end ChangeGate.Files
