import ChangeGate.Fix.Globs
import ChangeGate.Proofs.Text.Lines
import ChangeGate.Proofs.Token.Joining

/-! # The place for globs

Where globs are added is found in the text: behind the brace of a block `Unmapped` that starts a
line, or else behind the last closing brace.  The block that is found is spelled as its tokens
wherever no literal goes over it (`spells_opening`). -/

namespace ChangeGate

open Token

namespace Fix

variable {content front rest : List Char}

/-- What opens a block `Unmapped`, but for the brace. -/
def opening (blanks : List Char) : List Char :=
  "domain".toList ++ ' ' :: ("Unmapped".toList ++ blanks)

theorem opening_append (blanks rest : List Char) :
    opening blanks ++ rest =
      "domain".toList ++ ' ' :: ("Unmapped".toList ++ (blanks ++ rest)) := by
  have hassoc (a b c d : List Char) : a ++ ' ' :: (b ++ c) ++ d = a ++ ' ' :: (b ++ (c ++ d)) := by
    simp
  exact hassoc _ _ _ _

/-- What stands behind the brace of a block `Unmapped` that starts a text. -/
def opened? (cs : List Char) : Option (List Char) :=
  match (Text.behind? "domain Unmapped".toList cs).map (·.dropWhile Text.isBlank) with
  | some ('\x7b' :: rest) => some rest
  | _ => none

theorem behindUnmapped?_eq (content : List Char) :
    behindUnmapped? content = (Text.lineStarts content).findSome? opened? := rfl

theorem opened?_eq_some_iff {cs : List Char} :
    opened? cs = some rest ↔
      ∃ blanks, (∀ c ∈ blanks, Text.isBlank c = true) ∧ cs = opening blanks ++ '\x7b' :: rest := by
  have hwords (cs : List Char) :
      "domain Unmapped".toList ++ cs = "domain".toList ++ ' ' :: ("Unmapped".toList ++ cs) := by
    -- A literal gives its characters away by unification.
    repeat rw [String.toList_ofList]
    rfl
  constructor
  · intro h
    unfold opened? at h
    split at h
    · rename_i hbehind
      cases h
      obtain ⟨after, hafter, hblanks⟩ := Option.map_eq_some_iff.mp hbehind
      refine ⟨after.takeWhile Text.isBlank, fun c hc => List.mem_takeWhile_imp hc, ?_⟩
      rw [opening_append, ← hblanks, List.takeWhile_append_dropWhile, ← hwords]
      exact Text.behind?_eq_some_iff.mp hafter
    · cases h
  · rintro ⟨blanks, hblanks, rfl⟩
    have hafter : Text.behind? "domain Unmapped".toList (opening blanks ++ '\x7b' :: rest) =
        some (blanks ++ '\x7b' :: rest) := by
      rw [Text.behind?_eq_some_iff, opening_append, hwords]
    have hdrop : (blanks ++ '\x7b' :: rest).dropWhile Text.isBlank = '\x7b' :: rest := by
      rw [List.dropWhile_append_of_pos hblanks, List.dropWhile_cons_of_neg (by decide)]
    rw [opened?, hafter, Option.map_some, hdrop]
    rfl

theorem behindUnmapped?_eq_some (h : behindUnmapped? content = some rest) :
    ∃ front blanks, content = front ++ (opening blanks ++ '\x7b' :: rest) ∧
      (front = [] ∨ ∃ front', front = front' ++ ['\n']) ∧ ∀ c ∈ blanks, Text.isBlank c = true := by
  obtain ⟨line, hline, hfound⟩ := List.exists_of_findSome?_eq_some h
  obtain ⟨blanks, hblanks, hsplit⟩ := opened?_eq_some_iff.mp hfound
  rcases Text.split_of_mem_lineStarts hline with rfl | ⟨front, rfl⟩
  · exact ⟨[], blanks, hsplit, .inl rfl, hblanks⟩
  · refine ⟨front ++ ['\n'], blanks, ?_, .inr ⟨front, rfl⟩, hblanks⟩
    rw [hsplit, List.append_assoc]
    rfl

theorem splitLastBrace?_eq_some (h : splitLastBrace? content = some (front, rest)) :
    ∃ inside, front = inside ++ ['\x7d'] ∧ content = inside ++ '\x7d' :: rest ∧ '\x7d' ∉ rest := by
  unfold splitLastBrace? at h
  split at h
  · cases h
  · rename_i hfound
    obtain ⟨c, before, hdrop⟩ := List.exists_cons_of_ne_nil hfound
    have hc : (c != '\x7d') = false :=
      Text.head?_dropWhile_eq_false c (by rw [hdrop]; rfl)
    obtain rfl : c = '\x7d' := by simpa using hc
    have hsplit := List.takeWhile_append_dropWhile (p := (· != '\x7d')) (l := content.reverse)
    rw [hdrop] at hsplit h
    generalize htake : content.reverse.takeWhile (· != '\x7d') = behind at hsplit
    obtain rfl : content = before.reverse ++ '\x7d' :: behind.reverse := by
      have hreverse := congrArg List.reverse hsplit
      simpa using hreverse.symm
    have hbehind : '\x7d' ∉ behind := by
      rw [← htake]
      intro hmem
      simpa using List.mem_takeWhile_imp hmem
    have hrest : (before.reverse ++ '\x7d' :: behind.reverse).drop ('\x7d' :: before).length =
        behind.reverse := by
      rw [List.append_cons before.reverse]
      exact List.drop_left' (by simp)
    rw [hrest] at h
    cases h
    exact ⟨before.reverse, by simp, rfl, by simpa using hbehind⟩

theorem splitLastBrace?_append (front : List Char) (h : '\x7d' ∉ rest) :
    splitLastBrace? (front ++ '\x7d' :: rest) = some (front ++ ['\x7d'], rest) := by
  have hrest : ∀ c ∈ rest.reverse, (c != '\x7d') = true := by
    intro c hc
    exact bne_iff_ne.mpr (ne_of_mem_of_not_mem (List.mem_reverse.mp hc) h)
  have hdrop : (front ++ '\x7d' :: rest).reverse.dropWhile (· != '\x7d') =
      '\x7d' :: front.reverse := by
    rw [List.reverse_append, List.reverse_cons, List.append_assoc, List.singleton_append,
      List.dropWhile_append_of_pos hrest, List.dropWhile_cons_of_neg (by simp)]
  unfold splitLastBrace?
  rw [hdrop]
  have hbehind : (front ++ '\x7d' :: rest).drop ('\x7d' :: front.reverse).length = rest := by
    rw [List.append_cons front]
    exact List.drop_left' (by simp)
  simp only [hbehind, List.reverse_cons, List.reverse_reverse]

theorem mem_of_splitLastBrace?_eq_none (h : splitLastBrace? content = none) : '\x7d' ∉ content := by
  unfold splitLastBrace? at h
  split at h
  · rename_i hnil
    rw [List.dropWhile_eq_nil_iff] at hnil
    intro hmem
    simpa using hnil _ (List.mem_reverse.mpr hmem)
  · cases h

/-! ### What the opening of a block spells -/

variable {breaks breaks' : Bool} {ss : List Sign}

theorem continuesName_of_isBlank {c : Char} (hc : Text.isBlank c = true) :
    continuesName c = false := by
  rw [← Bool.not_eq_true]
  intro hname
  simp only [Text.isBlank, Bool.or_eq_true, Bool.and_eq_true, decide_eq_true_eq, beq_iff_eq] at hc
  delta continuesName startsName Char.isAlpha Char.isUpper Char.isLower Char.isDigit at hname
  simp only [Bool.or_eq_true, Bool.and_eq_true, decide_eq_true_eq, beq_iff_eq, ge_iff_le,
    UInt32.le_iff_toNat_le, Char.ext_iff, ← UInt32.toNat_inj] at hname
  have hnat : c.toNat = c.val.toNat := rfl
  have hnumbers : 'A'.val.toNat = 65 ∧ 'Z'.val.toNat = 90 ∧ 'a'.val.toNat = 97 ∧
      'z'.val.toNat = 122 ∧ '0'.val.toNat = 48 ∧ '9'.val.toNat = 57 ∧ '_'.val.toNat = 95 := by
    decide
  omega

/-- No token starts with a blank but a line end. -/
theorem eq_of_lexeme_of_isBlank {kind : Kind} {c : Char} {text raw mid : List Char}
    (h : Lexeme kind text (c :: raw) mid) (hc : Text.isBlank c = true) : c = '\n' := by
  have hname := continuesName_of_isBlank hc
  cases h with
  | lineEnd => rfl
  | mark h =>
      unfold mark? at h
      split at h <;> first | exact absurd hc (by decide) | cases h
  | pair h =>
      unfold pair? at h
      split at h <;> first | exact absurd hc (by decide) | cases h
  | text h => exact absurd hc (by decide)
  | number h =>
      rcases h.holds.isDigit_or_eq List.mem_cons_self with hdigit | rfl
      · rw [continuesName_of_isDigit hdigit] at hname
        cases hname
      · exact absurd hc (by decide)
  | keyword h _ => exact absurd List.mem_cons_self (h.holds.not_mem hname)
  | name h _ => exact absurd List.mem_cons_self (h.holds.not_mem hname)

/-- A blank that is no flaw separates tokens. -/
theorem isSpace_or_eq_of_isBlank {c : Char} {r : List Char} (hc : Text.isBlank c = true)
    (h : Spells breaks (c :: r) ss breaks' []) : isSpace c = true ∨ c = '\n' := by
  have hstands := head_stands c r
  match hhead : head c r with
  | .flaw flaw => exact absurd hhead h.head_ne_flaw
  | .gap raw rest =>
      rcases head_eq_gap_iff.mp hhead with ⟨hspace, -, -⟩ | ⟨_, -, -, rfl, -, -⟩
      · exact .inl hspace
      · exact absurd hc (by decide)
  | .lineEnd rest =>
      rw [hhead] at hstands
      exact .inr (List.cons.inj hstands).1
  | .token kind text raw rest =>
      rw [hhead] at hstands
      obtain ⟨hsplit, hlexeme, -⟩ := hstands
      have hlt := Head.rest_lt c r
      rw [hhead, ← List.length_cons, hsplit, List.length_append] at hlt
      cases raw with
      | nil => exact absurd hlt (by simp [Head.rest])
      | cons a raw =>
          obtain ⟨rfl, -⟩ := List.cons.inj hsplit
          exact .inr (eq_of_lexeme_of_isBlank hlexeme hc)

/-- Blanks in front of an opening brace spell a line end at most. -/
theorem spells_blanks {blanks : List Char} (h : ∀ c ∈ blanks, isSpace c = true ∨ c = '\n') :
    ∃ gap, (gap = [] ∨ gap = [.lineEnd]) ∧ ∀ rest,
      Spells true (blanks ++ '\x7b' :: rest) (gap ++ [.openBrace]) true rest := by
  have hbrace (breaks : Bool) (rest : List Char) :
      Spells breaks ('\x7b' :: rest) [.openBrace] true rest := by
    have hlexeme : Lexeme .openBrace "\x7b".toList ['\x7b'] rest := .mark rfl
    exact spells_lexeme hlexeme nofun .done
  induction blanks with
  | nil => exact ⟨[], .inl rfl, hbrace true⟩
  | cons c blanks ih =>
      obtain ⟨hc | rfl, hblanks⟩ := List.forall_mem_cons.mp h
      · obtain ⟨gap, hshape, hspells⟩ := ih hblanks
        exact ⟨gap, hshape, fun rest => .gap (head_space hc _) (hspells rest)⟩
      · exact ⟨[.lineEnd], .inr rfl, fun rest =>
          .lineEnd ((spells_gap (gap_of_blanks hblanks _)).trans (hbrace false rest))⟩

/-- The words that open a block are spelled whatever blanks stand behind them. -/
theorem spells_words {blanks : List Char} (h : ∀ c ∈ blanks, Text.isBlank c = true)
    (breaks : Bool) (rest : List Char) :
    Spells breaks (opening blanks ++ '\x7b' :: rest) [.reserved "domain", .name "Unmapped"] true
      (blanks ++ '\x7b' :: rest) := by
  have hstops : ∀ c ∈ (blanks ++ '\x7b' :: rest).head?, continuesName c = false := by
    intro c hc
    cases blanks with
    | nil =>
        cases hc
        rfl
    | cons b blanks =>
        cases hc
        exact continuesName_of_isBlank (h c List.mem_cons_self)
  have hdomain : Lexeme .keyword "domain".toList "domain".toList
      (' ' :: ("Unmapped".toList ++ (blanks ++ '\x7b' :: rest))) :=
    .keyword (isLongest_word (by decide) fun c hc => by cases hc; rfl) (by decide)
  have hname : Lexeme .name "Unmapped".toList "Unmapped".toList (blanks ++ '\x7b' :: rest) :=
    .name (isLongest_word (by decide) hstops) (by decide)
  rw [opening_append]
  exact spells_lexeme hdomain nofun (.gap (head_space rfl _) (spells_lexeme hname nofun .done))

/-- Blanks between tokens are no flaws. -/
theorem isSpace_or_eq_of_spells {blanks : List Char} (h : ∀ c ∈ blanks, Text.isBlank c = true)
    (hspells : Spells breaks (blanks ++ '\x7b' :: rest) ss breaks' []) :
    ∀ c ∈ blanks, isSpace c = true ∨ c = '\n' := by
  induction blanks generalizing breaks ss with
  | nil => nofun
  | cons c blanks ih =>
      obtain ⟨hc, hblanks⟩ := List.forall_mem_cons.mp h
      have hspace := isSpace_or_eq_of_isBlank hc hspells
      refine List.forall_mem_cons.mpr ⟨hspace, ?_⟩
      rcases hspace with hspace | rfl
      · exact ih hblanks (hspells.of_gap (head_space hspace _))
      · obtain ⟨_, -, hspells⟩ := hspells.of_lineEnd
        exact ih hblanks hspells

/-- Where a text without quotes spells something, what stands in front of a line of it is spelled
whatever follows. -/
theorem spells_front {more : List Char} (h : Spells false (front ++ more) ss breaks' [])
    (hfront : front = [] ∨ ∃ front', front = front' ++ ['\n']) (hmore : '"' ∉ more) :
    ∃ before, ∀ rest, Spells false (front ++ rest) before false rest := by
  rcases hfront with rfl | ⟨front, rfl⟩
  · exact ⟨[], fun rest => .done⟩
  · rw [List.append_assoc] at h
    obtain ⟨before, breaks, hbefore⟩ := h.front_of_append hmore
    refine ⟨before ++ ((if breaks then [.lineEnd] else []) ++ []), fun rest => ?_⟩
    rw [List.append_assoc]
    exact (hbefore.behind_lineFeed rest).trans (.lineEnd .done)

/-- The block that is found is spelled as its opening wherever no literal goes over it. -/
theorem spells_opening {blanks : List Char} {ss' : List Sign} {breaks'' : Bool}
    (h : Spells false (front ++ (opening blanks ++ '\x7b' :: rest)) ss breaks' [])
    (hplace : Spells false (front ++ (opening blanks ++ ['\x7b'])) ss' breaks'' [])
    (hfront : front = [] ∨ ∃ front', front = front' ++ ['\n'])
    (hblanks : ∀ c ∈ blanks, Text.isBlank c = true) :
    ∃ before gap, (gap = [] ∨ gap = [.lineEnd]) ∧ ∀ rest,
      Spells false (front ++ (opening blanks ++ '\x7b' :: rest))
        (before ++ .reserved "domain" :: .name "Unmapped" :: (gap ++ [.openBrace])) true rest := by
  have hquote : '"' ∉ opening blanks ++ ['\x7b'] := by
    unfold opening
    repeat rw [String.toList_ofList]
    intro hmem
    have hblank : '"' ∈ blanks := by simpa using hmem
    exact absurd (hblanks _ hblank) (by decide)
  obtain ⟨before, hbefore⟩ := spells_front hplace hfront hquote
  obtain ⟨_, -, hopening⟩ := (hbefore _).split h
  obtain ⟨_, -, hbehind⟩ := (spells_words hblanks false rest).split hopening
  obtain ⟨gap, hgap, hbrace⟩ := spells_blanks (isSpace_or_eq_of_spells hblanks hbehind)
  exact ⟨before, gap, hgap, fun rest =>
    (hbefore _).trans ((spells_words hblanks false rest).trans (hbrace rest))⟩

end Fix
end ChangeGate
