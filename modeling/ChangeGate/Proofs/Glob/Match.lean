import ChangeGate.Glob
import Mathlib.Data.List.Basic

/-! # What a pattern matches

`parts` is read character by character, and a wildcard that stands for a run takes some front of the
text (`someRun_iff`, `someSlash_iff`).

A pattern that ends in a slash may be followed by another one: no wildcard reaches over the slash,
so a path is matched if its parts are (`matchParts_append`), and a pattern without wildcards matches
itself alone (`matchParts_literal`).  A glob for a whole directory hence accepts exactly what is
below it (`accepts_directory_iff`). -/

namespace ChangeGate.Glob

variable {cs ds t u r : List Char} {c : Char} {ok : Char → Bool} {rest : List Char → Bool}

/-! ### Reading a pattern -/

theorem parts_star (h : ∀ r, cs ≠ '*' :: r) : parts ('*' :: cs) = .segment :: parts cs := by
  rw [parts]
  · exact fun r => h _
  · exact h

theorem parts_stars (h : ∀ r, cs ≠ '/' :: r) :
    parts ('*' :: '*' :: cs) = .anything :: parts cs := by
  rw [parts]
  exact h

theorem parts_char (hstar : c ≠ '*') (hone : c ≠ '?') : parts (c :: cs) = .char c :: parts cs := by
  rw [parts]
  · exact fun _ hc => absurd hc hstar
  · exact fun _ hc => absurd hc hstar
  · exact hstar
  · exact hone

/-! ### Runs -/

/-- A run is some front of the text. -/
theorem someRun_iff : someRun ok rest cs = true ↔
    ∃ run r, cs = run ++ r ∧ (∀ c ∈ run, ok c = true) ∧ rest r = true := by
  induction cs with
  | nil =>
      rw [someRun]
      constructor
      · exact fun h => ⟨[], [], rfl, nofun, h⟩
      · rintro ⟨run, r, hcs, -, h⟩
        rwa [(List.append_eq_nil_iff.mp hcs.symm).2] at h
  | cons c cs ih =>
      rw [someRun, Bool.or_eq_true, Bool.and_eq_true, ih]
      constructor
      · rintro (h | ⟨hc, run, r, rfl, hrun, h⟩)
        · exact ⟨[], c :: cs, rfl, nofun, h⟩
        · exact ⟨c :: run, r, rfl, List.forall_mem_cons.mpr ⟨hc, hrun⟩, h⟩
      · rintro ⟨run, r, hcs, hrun, h⟩
        cases run with
        | nil => exact .inl (hcs ▸ h)
        | cons d run =>
            obtain ⟨rfl, rfl⟩ := List.cons.inj hcs
            obtain ⟨hc, hrun⟩ := List.forall_mem_cons.mp hrun
            exact .inr ⟨hc, run, r, rfl, hrun, h⟩

/-- What is skipped is some front of the text, on one line and up to a slash. -/
theorem someSlash_iff : someSlash rest cs = true ↔
    ∃ skipped r, cs = skipped ++ '/' :: r ∧ '\n' ∉ skipped ∧ rest r = true := by
  induction cs with
  | nil => simp [someSlash]
  | cons c cs ih =>
      rw [someSlash, Bool.or_eq_true, Bool.and_eq_true, Bool.and_eq_true, beq_iff_eq, bne_iff_ne, ih]
      constructor
      · rintro (⟨rfl, h⟩ | ⟨hc, skipped, r, rfl, hline, h⟩)
        · exact ⟨[], cs, rfl, List.not_mem_nil, h⟩
        · refine ⟨c :: skipped, r, rfl, ?_, h⟩
          rw [List.mem_cons, not_or]
          exact ⟨Ne.symm hc, hline⟩
      · rintro ⟨skipped, r, hcs, hline, h⟩
        cases skipped with
        | nil =>
            obtain ⟨rfl, rfl⟩ := List.cons.inj hcs
            exact .inl ⟨rfl, h⟩
        | cons d skipped =>
            obtain ⟨rfl, rfl⟩ := List.cons.inj hcs
            rw [List.mem_cons, not_or] at hline
            exact .inr ⟨Ne.symm hline.1, skipped, r, rfl, hline.2, h⟩

/-- A run to the end. -/
theorem someRun_isEmpty : someRun ok List.isEmpty u = true ↔ ∀ c ∈ u, ok c = true := by
  rw [someRun_iff]
  constructor
  · rintro ⟨run, r, rfl, hrun, hr⟩
    rwa [List.isEmpty_iff.mp hr, List.append_nil]
  · exact fun h => ⟨u, [], (List.append_nil u).symm, h, rfl⟩

theorem matchParts_stars : matchParts (parts ['*', '*']) u = true ↔ '\n' ∉ u := by
  have hparts : parts ['*', '*'] = [.anything] := rfl
  rw [hparts]
  show someRun (· != '\n') List.isEmpty u = true ↔ _
  rw [someRun_isEmpty]
  simp only [bne_iff_ne]
  exact ⟨fun hline hmem => hline _ hmem rfl, fun hline c hc => ne_of_mem_of_not_mem hc hline⟩

/-! ### Patterns one behind the other -/

/-- Nothing follows a pattern, or it ends in a slash. -/
def Joins (cs t : List Char) : Prop := (∀ c ∈ cs.getLast?, c = '/') ∨ t = []

theorem Joins.tail (h : Joins (c :: cs) t) : Joins cs t := by
  refine h.imp_left fun hlast d hd => hlast d ?_
  cases cs with
  | nil => cases hd
  | cons e cs => rwa [List.getLast?_cons_cons]

/-- What is no slash is not followed by another pattern. -/
theorem Joins.eq_nil (h : Joins [c] t) (hc : c ≠ '/') : t = [] :=
  h.resolve_left fun hlast => hc (hlast c rfl)

theorem Joins.ne_cons {d : Char} (h : Joins (c :: cs) t) (hc : c ≠ '/')
    (hcs : ∀ r, cs = d :: r → False) : ∀ r, cs ++ t ≠ d :: r := by
  intro r hr
  cases cs with
  | nil =>
      rw [h.eq_nil hc] at hr
      cases hr
  | cons e cs =>
      obtain ⟨rfl, -⟩ := List.cons.inj hr
      exact hcs cs rfl

/-- A pattern matches itself in front of what the next one matches. -/
theorem matchParts_append (hjoins : Joins cs t) (h : matchParts (parts t) u = true) :
    matchParts (parts (cs ++ t)) (cs ++ u) = true := by
  fun_induction parts cs with
  | case1 r ih =>
      have hrest := ih hjoins.tail.tail.tail
      simp [parts, matchParts, Part.takes, someSlash, hrest]
  | case2 r hslash ih =>
      have hrest := ih hjoins.tail.tail
      rw [List.cons_append, List.cons_append,
        parts_stars (hjoins.tail.ne_cons (by decide) hslash)]
      show someRun (· != '\n') (matchParts (parts (r ++ t))) ('*' :: '*' :: (r ++ u)) = true
      exact someRun_iff.mpr ⟨['*', '*'], r ++ u, rfl, by simp, hrest⟩
  | case3 r hslash hstar ih =>
      have hrest := ih hjoins.tail
      rw [List.cons_append, parts_star (hjoins.ne_cons (by decide) hstar)]
      show someRun (· != '/') (matchParts (parts (r ++ t))) ('*' :: (r ++ u)) = true
      exact someRun_iff.mpr ⟨['*'], r ++ u, rfl, by simp, hrest⟩
  | case4 r ih =>
      have hrest := ih hjoins.tail
      simp [parts, matchParts, Part.takes, hrest]
  | case5 c r _ _ hstar hone ih =>
      have hrest := ih hjoins.tail
      rw [List.cons_append, parts_char hstar hone]
      simp [matchParts, Part.takes, hrest]
  | case6 => exact h

theorem accepts_self (path : String) : accepts path path = true := by
  have h : matchParts (parts (path.toList ++ [])) (path.toList ++ []) = true :=
    matchParts_append (.inr rfl) rfl
  rwa [List.append_nil] at h

/-- A glob for all files below some directories accepts a file there. -/
theorem accepts_below (dirs : List Char) {file : List Char} (hfile : '\n' ∉ file) :
    accepts (String.ofList (dirs ++ "/**".toList)) (String.ofList (dirs ++ '/' :: file)) = true := by
  have hjoins : Joins (dirs ++ ['/']) ['*', '*'] := by
    left
    intro c hc
    rw [List.getLast?_concat] at hc
    exact (Option.some.inj hc).symm
  have h := matchParts_append hjoins (matchParts_stars.mpr hfile)
  rw [accepts, String.toList_ofList, String.toList_ofList, String.toList_ofList]
  simpa using h

/-! ### Patterns without wildcards -/

/-- A text without wildcards. -/
def IsLiteral (cs : List Char) : Prop := '*' ∉ cs ∧ '?' ∉ cs

theorem matchParts_literal (h : IsLiteral cs) :
    matchParts (parts (cs ++ t)) u = true ↔ ∃ v, u = cs ++ v ∧ matchParts (parts t) v = true := by
  induction cs generalizing u with
  | nil => simp
  | cons c cs ih =>
      obtain ⟨hstar, hone⟩ := h
      rw [List.mem_cons, not_or] at hstar hone
      rw [List.cons_append, parts_char (Ne.symm hstar.1) (Ne.symm hone.1), matchParts]
      cases u with
      | nil => simp [Part.takes]
      | cons d u =>
          rw [Part.takes, Bool.and_eq_true, beq_iff_eq, ih ⟨hstar.2, hone.2⟩]
          simp only [List.cons_append, List.cons.injEq, and_assoc, exists_and_left]

/-- A file without wildcards in its path is accepted as itself. -/
theorem accepts_literal_iff {pattern path : String} (h : IsLiteral pattern.toList) :
    accepts pattern path = true ↔ path = pattern := by
  have hmatch := matchParts_literal (t := []) (u := path.toList) h
  rw [List.append_nil] at hmatch
  rw [accepts, hmatch]
  simp [parts, matchParts, String.toList_inj]

/-- The glob for a directory accepts what is below it. -/
theorem accepts_directory_iff {dir : List Char} {path : String} (h : IsLiteral dir) :
    accepts (String.ofList (dir ++ "/**".toList)) path = true ↔
      ∃ file, path.toList = dir ++ '/' :: file ∧ '\n' ∉ file := by
  have hdir : IsLiteral (dir ++ ['/']) := by
    simpa [IsLiteral] using h
  have hglob : dir ++ "/**".toList = (dir ++ ['/']) ++ ['*', '*'] := by
    rw [String.toList_ofList, List.append_assoc]
    rfl
  rw [accepts, String.toList_ofList, hglob, matchParts_literal hdir]
  simp only [matchParts_stars, List.append_assoc, List.singleton_append]

end ChangeGate.Glob
