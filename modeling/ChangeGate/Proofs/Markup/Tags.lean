import ChangeGate.Markup.Basic
import ChangeGate.Proofs.Text.Runs

/-! # Tags of markup

A tag stands between an opening bracket and the next bracket, which has to be a closing one
(`tag?_eq_some_iff`), so that whether there is one shows at the first character and the first
bracket of what follows (`tag?_ne_none_iff`).  A run of backslashes in front of it decides whether
it counts.

`scan_induction` follows how markup is read.  Two texts one behind the other have the tags of both
if no tag begins in the first one and ends in the second (`tagsBehind_append`); the backslashes at
the end of the first one still stand in front of the second.  In particular lines have their own
tags (`tags_intercalate`). -/

namespace ChangeGate.Markup

variable {cs ds rest body : List Char} {c : Char} {slashes : Nat}

/-! ### Brackets -/

/-- Whether a character is a bracket. -/
def isBracket (c : Char) : Bool := c == '[' || c == ']'

theorem isBracket_iff : isBracket c = true ↔ c = '[' ∨ c = ']' := by
  simp [isBracket]

/-- The first bracket of a text. -/
def bracket? (cs : List Char) : Option Char := cs.find? isBracket

theorem bracket?_cons : bracket? (c :: cs) = if isBracket c then some c else bracket? cs := by
  rw [bracket?, List.find?_cons, bracket?]
  cases isBracket c <;> rfl

theorem bracket?_cons_eq_none_iff :
    bracket? (c :: cs) = none ↔ isBracket c = false ∧ bracket? cs = none := by
  rw [bracket?_cons]
  cases isBracket c <;> simp

theorem bracket?_append : bracket? (cs ++ ds) = (bracket? cs).or (bracket? ds) :=
  List.find?_append

theorem bracket?_eq_none_iff : bracket? cs = none ↔ ∀ c ∈ cs, isBracket c = false := by
  simp [bracket?]

theorem bracket?_eq_some_iff {b : Char} : bracket? cs = some b ↔
    isBracket b = true ∧ ∃ front rest, cs = front ++ b :: rest ∧ bracket? front = none := by
  rw [bracket?, List.find?_eq_some_iff_append]
  simp [bracket?_eq_none_iff]

theorem bracket?_replicate (n : Nat) : bracket? (List.replicate n '\\') = none := by
  rw [bracket?_eq_none_iff]
  intro c hc
  rw [List.eq_of_mem_replicate hc]
  rfl

theorem bracket?_replicate_append (n : Nat) :
    bracket? (List.replicate n '\\' ++ cs) = bracket? cs := by
  rw [bracket?_append, bracket?_replicate, Option.none_or]

theorem bracket?_reverse_eq_none_iff : bracket? cs.reverse = none ↔ bracket? cs = none := by
  simp [bracket?_eq_none_iff]

theorem bracket?_reverse_cons :
    bracket? (c :: cs).reverse = (bracket? cs.reverse).or (bracket? [c]) := by
  rw [List.reverse_cons, bracket?_append]

theorem bracket?_reverse_append :
    bracket? (cs ++ ds).reverse = (bracket? ds.reverse).or (bracket? cs.reverse) := by
  rw [List.reverse_append, bracket?_append]

/-! ### Tags -/

/-- Whether a text starts like the inside of a tag. -/
def starts (cs : List Char) : Bool := cs.head?.any startsTag

theorem starts_cons : starts (c :: cs) = startsTag c := rfl

theorem starts_append (h : cs ≠ []) : starts (cs ++ ds) = starts cs := by
  obtain ⟨c, cs, rfl⟩ := List.exists_cons_of_ne_nil h
  rfl

theorem ne_nil_of_starts (h : starts cs = true) : cs ≠ [] := by
  rintro rfl
  cases h

/-- Whether a text can stand in a tag. -/
def IsBody (cs : List Char) : Prop := bracket? cs = none ∧ starts cs = true

theorem tag?_eq_some_iff :
    tag? cs = some (body, rest) ↔ IsBody body ∧ cs = body ++ ']' :: rest := by
  have hfree (run : List Char) :
      (∀ d ∈ run, (d != '[' && d != ']') = true) ↔ bracket? run = none := by
    simp [bracket?_eq_none_iff, isBracket]
  unfold tag?
  constructor
  · intro h
    split at h
    · rename_i hstarts
      split at h
      · rename_i rest' hrest
        cases h
        obtain ⟨hall, -, heq⟩ := Text.takeWhile_dropWhile_iff.mp ⟨rfl, hrest⟩
        have hne : cs.takeWhile (fun d => d != '[' && d != ']') ≠ [] := by
          intro hnil
          rw [heq, hnil] at hstarts
          cases hstarts
        refine ⟨⟨(hfree _).mp hall, ?_⟩, heq⟩
        rw [← starts_append hne, ← heq]
        exact hstarts
      · cases h
    · cases h
  · rintro ⟨⟨hbody, hstarts⟩, rfl⟩
    obtain ⟨htake, hdrop⟩ := Text.takeWhile_dropWhile_iff.mpr
      ⟨(hfree body).mpr hbody, by decide, (rfl : body ++ ']' :: rest = _)⟩
    rw [← starts, starts_append (ne_nil_of_starts hstarts), if_pos hstarts, hdrop, htake]
    rfl

/-- There is a tag exactly if the text starts like one and its first bracket closes. -/
theorem tag?_ne_none_iff : tag? cs ≠ none ↔ bracket? cs = some ']' ∧ starts cs = true := by
  constructor
  · intro h
    obtain ⟨⟨body, rest⟩, htag⟩ := Option.ne_none_iff_exists'.mp h
    obtain ⟨⟨hbody, hstarts⟩, rfl⟩ := tag?_eq_some_iff.mp htag
    rw [bracket?_append, hbody, starts_append (ne_nil_of_starts hstarts)]
    exact ⟨rfl, hstarts⟩
  · rintro ⟨hclose, hstarts⟩
    obtain ⟨-, body, rest, rfl, hbody⟩ := bracket?_eq_some_iff.mp hclose
    have hne : body ≠ [] := by
      rintro rfl
      cases hstarts
    rw [starts_append hne] at hstarts
    rw [tag?_eq_some_iff.mpr ⟨⟨hbody, hstarts⟩, rfl⟩]
    exact Option.some_ne_none _

theorem tag?_eq_none (h : bracket? cs ≠ some ']') : tag? cs = none :=
  not_not.mp fun htag => h (tag?_ne_none_iff.mp htag).1

theorem tag?_of_starts_eq_false (h : starts cs = false) : tag? cs = none :=
  not_not.mp fun htag => Bool.eq_false_iff.mp h (tag?_ne_none_iff.mp htag).2

theorem tag?_of_bracket?_eq_none (h : bracket? cs = none) : tag? cs = none :=
  tag?_eq_none (by rw [h]; exact nofun)

/-! ### Reading markup -/

/-- The inside of a piece that is a tag. -/
def Piece.tag? : Piece → Option (List Char)
  | text _ => none
  | tag cs => some cs

/-- The tags of markup that stands behind a run of backslashes. -/
def tagsBehind (slashes : Nat) (cs : List Char) : List (List Char) :=
  (piecesFrom [] slashes cs).filterMap Piece.tag?

theorem filterMap_textPiece (cs : List Char) : (textPiece cs).filterMap Piece.tag? = [] := by
  rw [textPiece]
  split <;> rfl

theorem piecesFrom_tag (seen : List Char) (h : tag? cs = some (body, rest)) :
    piecesFrom seen slashes ('[' :: cs) =
      textPiece seen.reverse ++ textPiece (List.replicate (slashes / 2) '\\') ++
        if slashes % 2 = 1 then .text ('[' :: body ++ [']']) :: piecesFrom [] 0 rest
        else .tag body :: piecesFrom [] 0 rest := by
  rw [piecesFrom, if_neg (by decide)]
  dsimp only
  rw [if_pos rfl]
  split
  · rename_i htag
    cases h.symm.trans htag
    rfl
  · rename_i htag
    cases h.symm.trans htag

theorem piecesFrom_plain (seen : List Char) (hslash : c ≠ '\\') (h : c = '[' → tag? cs = none) :
    piecesFrom seen slashes (c :: cs) =
      piecesFrom (c :: (List.replicate slashes '\\' ++ seen)) 0 cs := by
  rw [piecesFrom, if_neg hslash]
  dsimp only
  split
  · rename_i hc
    split
    · rename_i htag
      cases (h hc).symm.trans htag
    · rfl
  · rfl

/-- What was read before does not matter for the tags. -/
theorem filterMap_piecesFrom (seen seen' : List Char) (slashes : Nat) (cs : List Char) :
    (piecesFrom seen slashes cs).filterMap Piece.tag? =
      (piecesFrom seen' slashes cs).filterMap Piece.tag? := by
  fun_induction piecesFrom seen slashes cs generalizing seen' with
  | case1 seen slashes => rw [piecesFrom, filterMap_textPiece, filterMap_textPiece]
  | case2 seen slashes r ih => rw [ih seen', piecesFrom, if_pos rfl]
  | case3 seen slashes r body rest htag =>
      rw [piecesFrom_tag seen' htag]
      simp only [List.filterMap_append, filterMap_textPiece, List.nil_append]
  | case4 seen slashes r htag hslash plain ih =>
      rw [piecesFrom_plain seen' hslash fun _ => htag]
      exact ih _
  | case5 seen slashes c r hslash plain hopen ih =>
      rw [piecesFrom_plain seen' hslash fun h => absurd h hopen]
      exact ih _

@[simp] theorem tagsBehind_nil : tagsBehind slashes [] = [] := by
  rw [tagsBehind, piecesFrom, filterMap_textPiece]

@[simp] theorem tagsBehind_slash :
    tagsBehind slashes ('\\' :: cs) = tagsBehind (slashes + 1) cs := by
  rw [tagsBehind, piecesFrom, if_pos rfl, tagsBehind]

theorem tagsBehind_tag (h : IsBody body) : tagsBehind slashes ('[' :: (body ++ ']' :: rest)) =
    (if slashes % 2 = 1 then [] else [body]) ++ tagsBehind 0 rest := by
  rw [tagsBehind, piecesFrom_tag [] (tag?_eq_some_iff.mpr ⟨h, rfl⟩), List.filterMap_append,
    List.filterMap_append, filterMap_textPiece, filterMap_textPiece]
  split <;> rfl

theorem tagsBehind_plain (hslash : c ≠ '\\') (h : c = '[' → tag? cs = none) :
    tagsBehind slashes (c :: cs) = tagsBehind 0 cs := by
  rw [tagsBehind, piecesFrom_plain [] hslash h]
  exact filterMap_piecesFrom _ [] 0 cs

/-- A character that is neither a backslash nor opens a tag. -/
theorem tagsBehind_cons (hslash : c ≠ '\\') (hopen : c ≠ '[') :
    tagsBehind slashes (c :: cs) = tagsBehind 0 cs :=
  tagsBehind_plain hslash fun h => absurd h hopen

theorem tagsBehind_replicate (n : Nat) :
    tagsBehind slashes (List.replicate n '\\' ++ cs) = tagsBehind (slashes + n) cs := by
  induction n generalizing slashes with
  | zero => rfl
  | succ n ih =>
      rw [List.replicate_succ, List.cons_append, tagsBehind_slash, ih]
      congr 1
      omega

/-- A text is read as backslashes are counted: nothing, a backslash, a tag, or a character that
starts none. -/
@[elab_as_elim]
theorem scan_induction {motive : Nat → List Char → Prop} (nil : ∀ slashes, motive slashes [])
    (slash : ∀ slashes cs, motive (slashes + 1) cs → motive slashes ('\\' :: cs))
    (tag : ∀ slashes body rest, IsBody body → motive 0 rest →
      motive slashes ('[' :: (body ++ ']' :: rest)))
    (plain : ∀ slashes c cs, c ≠ '\\' → (c = '[' → tag? cs = none) → motive 0 cs →
      motive slashes (c :: cs)) (slashes : Nat) (cs : List Char) : motive slashes cs := by
  fun_induction escapeFrom slashes cs with
  | case1 slashes => exact nil slashes
  | case2 slashes r ih => exact slash slashes r ih
  | case3 slashes r body rest htag _ _ ih =>
      obtain ⟨hbody, rfl⟩ := tag?_eq_some_iff.mp htag
      exact tag slashes body rest hbody ih
  | case4 slashes r htag hslash ih => exact plain slashes '[' r hslash (fun _ => htag) ih
  | case5 slashes c r hslash hopen ih =>
      exact plain slashes c r hslash (fun h => absurd h hopen) ih

/-! ### Backslashes at the end -/

/-- The number of backslashes at the end of a text that stands behind a run of them. -/
def trailing (slashes : Nat) (cs : List Char) : Nat :=
  cs.foldl (fun n c => if c = '\\' then n + 1 else 0) slashes

theorem trailing_slash : trailing slashes ('\\' :: cs) = trailing (slashes + 1) cs := rfl

theorem trailing_cons (h : c ≠ '\\') : trailing slashes (c :: cs) = trailing 0 cs := by
  rw [trailing, List.foldl_cons, if_neg h, trailing]

theorem trailing_append : trailing slashes (cs ++ ds) = trailing (trailing slashes cs) ds :=
  List.foldl_append

theorem trailing_replicate (n : Nat) : trailing slashes (List.replicate n '\\') = slashes + n := by
  induction n generalizing slashes with
  | zero => rfl
  | succ n ih =>
      rw [List.replicate_succ, trailing_slash, ih]
      omega

/-- Behind a character that is no backslash, those in front of it do not count. -/
theorem trailing_append_cons (h : c ≠ '\\') :
    trailing slashes (cs ++ c :: ds) = trailing 0 ds := by
  rw [trailing_append, trailing_cons h]

/-! ### Tags that two texts make together -/

/-- Whether no tag begins in one text and ends in the next one. -/
def Apart (cs ds : List Char) : Prop :=
  ∀ front body, cs = front ++ '[' :: body → tag? body = none → tag? (body ++ ds) = none

theorem Apart.of_append (skipped : List Char) (h : Apart (skipped ++ cs) ds) : Apart cs ds := by
  rintro front body rfl
  exact h (skipped ++ front) body (List.append_assoc ..).symm

theorem Apart.of_cons (h : Apart (c :: cs) ds) : Apart cs ds := .of_append [c] h

theorem tag?_append_eq_none (h : tag? cs = none)
    (hopen : bracket? cs = none → bracket? ds ≠ some ']') : tag? (cs ++ ds) = none := by
  cases hbracket : bracket? cs with
  | none => exact tag?_eq_none (by simpa [bracket?_append, hbracket] using hopen hbracket)
  | some b =>
      have hne : cs ≠ [] := by
        rintro rfl
        cases hbracket
      refine not_not.mp fun htag => tag?_ne_none_iff.mpr ?_ h
      obtain ⟨hclose, hstarts⟩ := tag?_ne_none_iff.mp htag
      rw [bracket?_append, hbracket] at hclose
      rw [starts_append hne] at hstarts
      exact ⟨hbracket.trans hclose, hstarts⟩

theorem apart_of_bracket? (h : bracket? ds ≠ some ']') : Apart cs ds :=
  fun _ _ _ hnone => tag?_append_eq_none hnone fun _ => h

/-- Nothing is open at the end if the last bracket closes. -/
theorem apart_of_reverse (h : bracket? cs.reverse ≠ some '[') : Apart cs ds := by
  rintro front body rfl hnone
  refine tag?_append_eq_none hnone fun hfree => absurd ?_ h
  rw [bracket?_reverse_append, bracket?_reverse_cons, bracket?_reverse_eq_none_iff.mpr hfree]
  rfl

theorem apart_of_bracket?_eq_none (h : bracket? cs = none) : Apart cs ds := by
  refine apart_of_reverse ?_
  rw [bracket?_reverse_eq_none_iff.mpr h]
  exact nofun

/-- Texts that make no tag together have the tags of both. -/
theorem tagsBehind_append (h : Apart cs ds) :
    tagsBehind slashes (cs ++ ds) =
      tagsBehind slashes cs ++ tagsBehind (trailing slashes cs) ds := by
  induction slashes, cs using scan_induction with
  | nil slashes => rw [tagsBehind_nil]; rfl
  | slash slashes cs ih =>
      rw [List.cons_append, tagsBehind_slash, tagsBehind_slash, ih h.of_cons, trailing_slash]
  | tag slashes body rest hbody ih =>
      have hrest : Apart rest ds := 
        .of_append ('[' :: (body ++ [']'])) (by simpa using h)
      rw [List.cons_append, List.append_assoc, List.cons_append, tagsBehind_tag hbody,
        tagsBehind_tag hbody, ih hrest, List.append_assoc, ← List.cons_append,
        trailing_append_cons (by decide)]
  | plain slashes c cs hslash hopen ih =>
      have htag (hc : c = '[') : tag? (cs ++ ds) = none := h [] cs (by rw [hc]; rfl) (hopen hc)
      rw [List.cons_append, tagsBehind_plain hslash htag, tagsBehind_plain hslash hopen,
        ih h.of_cons, trailing_cons hslash]

/-! ### Lines -/

/-- Without brackets there are no tags. -/
theorem tagsBehind_eq_nil (h : bracket? cs = none) : tagsBehind slashes cs = [] := by
  induction cs generalizing slashes with
  | nil => rw [tagsBehind_nil]
  | cons c cs ih =>
      obtain ⟨-, hcs⟩ := bracket?_cons_eq_none_iff.mp h
      by_cases hslash : c = '\\'
      · rw [hslash, tagsBehind_slash, ih hcs]
      · rw [tagsBehind_plain hslash fun _ => tag?_of_bracket?_eq_none hcs, ih hcs]

/-- A text without brackets that no backslash ends. -/
theorem tagsBehind_text (h : bracket? cs = none) (hend : trailing 0 cs = 0) :
    tagsBehind 0 (cs ++ ds) = tagsBehind 0 ds := by
  rw [tagsBehind_append (apart_of_bracket?_eq_none h), tagsBehind_eq_nil h, hend, List.nil_append]

theorem tagsBehind_open (h : IsBody body) :
    tagsBehind 0 ('[' :: (body ++ ']' :: ds)) = body :: tagsBehind 0 ds := by
  rw [tagsBehind_tag h]
  rfl

/-- Behind one backslash no text without brackets makes a tag. -/
theorem tagsBehind_quoted (h : bracket? cs = none) :
    tagsBehind 1 ('[' :: (cs ++ ']' :: ds)) = tagsBehind 0 ds := by
  by_cases hstarts : starts cs = true
  · rw [tagsBehind_tag ⟨h, hstarts⟩]
    rfl
  · have hbehind : starts (cs ++ ']' :: ds) = false := by
      cases cs with
      | nil => rfl
      | cons c cs => exact Bool.eq_false_iff.mpr hstarts
    rw [tagsBehind_plain (by decide) fun _ => tag?_of_starts_eq_false hbehind,
      tagsBehind_append (apart_of_bracket?_eq_none h), tagsBehind_eq_nil h,
      tagsBehind_cons (by decide) (by decide), List.nil_append]

theorem bracket?_intercalate {lines : List (List Char)} (h : ∀ l ∈ lines, bracket? l ≠ some ']') :
    bracket? (['\n'].intercalate lines) ≠ some ']' := by
  induction lines with
  | nil => exact nofun
  | cons l lines ih =>
      obtain ⟨hl, hlines⟩ := List.forall_mem_cons.mp h
      cases lines with
      | nil => simpa using hl
      | cons l' lines =>
          rw [List.intercalate_cons_cons, bracket?_append, bracket?_append]
          cases hfirst : bracket? l with
          | none => exact ih hlines
          | some b => simpa [hfirst] using hl

/-- Lines that do not start with the end of a tag have their own tags. -/
theorem tagsBehind_intercalate {lines : List (List Char)}
    (h : ∀ l ∈ lines, bracket? l ≠ some ']') :
    tagsBehind 0 (['\n'].intercalate lines) = lines.flatMap (tagsBehind 0) := by
  induction lines with
  | nil => exact tagsBehind_nil
  | cons l lines ih =>
      obtain ⟨-, hlines⟩ := List.forall_mem_cons.mp h
      cases lines with
      | nil => simp
      | cons l' lines =>
          have hbreak : bracket? (['\n'] ++ ['\n'].intercalate (l' :: lines)) ≠ some ']' :=
            bracket?_intercalate hlines
          rw [List.intercalate_cons_cons, List.append_assoc,
            tagsBehind_append (apart_of_bracket? hbreak), List.singleton_append,
            tagsBehind_cons (by decide) (by decide), ih hlines]
          rfl

/-- The tags of markup, in order. -/
def tags (s : String) : List String :=
  ((pieces s.toList).filterMap Piece.tag?).map String.ofList

theorem tags_eq (s : String) : tags s = (tagsBehind 0 s.toList).map String.ofList := rfl

theorem tags_intercalate {lines : List String} (h : ∀ s ∈ lines, bracket? s.toList ≠ some ']') :
    tags ("\n".intercalate lines) = lines.flatMap tags := by
  have hlines : ∀ cs ∈ lines.map String.toList, bracket? cs ≠ some ']' := by
    simpa using h
  have htext : ("\n".intercalate lines).toList = ['\n'].intercalate (lines.map String.toList) :=
    String.toList_intercalate
  rw [tags_eq, htext, tagsBehind_intercalate hlines, List.flatMap_map, List.map_flatMap]
  rfl

end ChangeGate.Markup
