import Mathlib.Data.List.TakeWhile

/-! # Runs of characters

A run of characters with a property ends where the text does or goes on with a character that lacks
it.  It is what is taken off the front of the text (`takeWhile_run`), and the rest is left
(`dropWhile_run`), so that both make up the text (`takeWhile_dropWhile_iff`). -/

namespace ChangeGate.Text

variable {p : Char → Bool} {cs rest run : List Char}

/-- Behind a run there is no character with the property. -/
theorem head?_dropWhile_eq_false : ∀ d ∈ (cs.dropWhile p).head?, p d = false := by
  intro d hd
  have := List.head?_dropWhile_not p cs
  rw [Option.mem_def.mp hd] at this
  simpa using this

theorem takeWhile_eq_nil (h : ∀ d ∈ cs.head?, p d = false) : cs.takeWhile p = [] := by
  cases cs with
  | nil => rfl
  | cons d cs => exact List.takeWhile_cons_of_neg (by simp [h d rfl])

theorem dropWhile_eq_self (h : ∀ d ∈ cs.head?, p d = false) : cs.dropWhile p = cs := by
  cases cs with
  | nil => rfl
  | cons d cs => exact List.dropWhile_cons_of_neg (by simp [h d rfl])

theorem takeWhile_run (hrun : ∀ c ∈ run, p c = true) (hrest : ∀ d ∈ rest.head?, p d = false) :
    (run ++ rest).takeWhile p = run := by
  rw [List.takeWhile_append_of_pos hrun, takeWhile_eq_nil hrest, List.append_nil]

theorem dropWhile_run (hrun : ∀ c ∈ run, p c = true) (hrest : ∀ d ∈ rest.head?, p d = false) :
    (run ++ rest).dropWhile p = rest := by
  rw [List.dropWhile_append_of_pos hrun, dropWhile_eq_self hrest]

/-- A run and what comes behind it make up the text. -/
theorem takeWhile_dropWhile_iff {c : Char} :
    cs.takeWhile p = run ∧ cs.dropWhile p = c :: rest ↔
      (∀ d ∈ run, p d = true) ∧ p c = false ∧ cs = run ++ c :: rest := by
  constructor
  · rintro ⟨rfl, hrest⟩
    have hend : c ∈ (cs.dropWhile p).head? := by rw [hrest, List.head?_cons, Option.mem_some]
    refine ⟨List.all_eq_true.mp List.all_takeWhile, head?_dropWhile_eq_false c hend, ?_⟩
    rw [← hrest, List.takeWhile_append_dropWhile]
  · rintro ⟨hrun, hc, rfl⟩
    have hends : ∀ d ∈ (c :: rest).head?, p d = false := by
      rintro d ⟨⟩
      exact hc
    exact ⟨takeWhile_run hrun hends, dropWhile_run hrun hends⟩

end ChangeGate.Text
