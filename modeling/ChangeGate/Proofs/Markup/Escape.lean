import ChangeGate.Proofs.Markup.Tags
import Mathlib.Data.List.Induction

/-! # Tags in escaped text

Escaping doubles the backslashes in front of what would be a tag and adds one more, so escaped text
has no tags (`tagsBehind_escapeFrom`).  It leaves the first and the last bracket of the text and the
backslashes at its end, except that a single one is doubled (`trailing_escapeChars`).

What comes behind escaped text has its own tags if nothing dangles from the text
(`tagsBehind_escapeChars_of_not_dangles`).  An opening bracket that is closed only behind the text
is not escaped and makes a tag there (`tagsBehind_escapeChars_of_dangles`). -/

namespace ChangeGate.Markup

variable {cs ds rest body : List Char} {c : Char} {slashes : Nat}

/-! ### Escaping -/

@[simp] theorem escapeFrom_nil : escapeFrom slashes [] = List.replicate slashes '\\' := by
  rw [escapeFrom]

@[simp] theorem escapeFrom_slash :
    escapeFrom slashes ('\\' :: cs) = escapeFrom (slashes + 1) cs := by
  rw [escapeFrom, if_pos rfl]

theorem escapeFrom_tag (h : IsBody body) : escapeFrom slashes ('[' :: (body ++ ']' :: rest)) =
    List.replicate (2 * slashes + 1) '\\' ++ '[' :: (body ++ ']' :: escapeFrom 0 rest) := by
  have htag := tag?_eq_some_iff.mpr ⟨h, (rfl : body ++ ']' :: rest = _)⟩
  rw [escapeFrom, if_neg (by decide), if_pos rfl]
  split
  · rename_i heq
    cases htag.symm.trans heq
    simp
  · rename_i heq
    cases htag.symm.trans heq

theorem escapeFrom_plain (hslash : c ≠ '\\') (h : c = '[' → tag? cs = none) :
    escapeFrom slashes (c :: cs) = List.replicate slashes '\\' ++ c :: escapeFrom 0 cs := by
  rw [escapeFrom, if_neg hslash]
  split
  · rename_i hc
    split
    · rename_i heq
      cases (h hc).symm.trans heq
    · rw [hc]
  · rfl

/-! ### Escaped text -/

theorem bracket?_escapeFrom : bracket? (escapeFrom slashes cs) = bracket? cs := by
  induction slashes, cs using scan_induction with
  | nil slashes => rw [escapeFrom_nil, bracket?_replicate]; rfl
  | slash slashes cs ih => rwa [escapeFrom_slash]
  | tag slashes body rest hbody ih => rw [escapeFrom_tag hbody, bracket?_replicate_append]; rfl
  | plain slashes c cs hslash hopen ih =>
      rw [escapeFrom_plain hslash hopen, bracket?_replicate_append, bracket?_cons, ih,
        bracket?_cons]

theorem starts_escapeFrom :
    starts (escapeFrom slashes cs) = true ↔ slashes = 0 ∧ starts cs = true := by
  have hreplicate (n : Nat) (ds : List Char) :
      starts (List.replicate n '\\' ++ ds) = true ↔ n = 0 ∧ starts ds = true := by
    cases n with
    | zero => simp
    | succ n => simp [List.replicate_succ, starts_cons, startsTag]
  induction slashes, cs using scan_induction with
  | nil slashes => simpa using hreplicate slashes []
  | slash slashes cs ih => simp [ih, starts_cons, startsTag]
  | tag slashes body rest hbody ih =>
      rw [escapeFrom_tag hbody, hreplicate]
      simp [starts_cons, startsTag]
  | plain slashes c cs hslash hopen ih =>
      rw [escapeFrom_plain hslash hopen, hreplicate, starts_cons, starts_cons]

theorem tag?_escapeFrom (h : tag? cs = none) : tag? (escapeFrom slashes cs) = none := by
  refine not_not.mp fun htag => tag?_ne_none_iff.mpr ?_ h
  obtain ⟨hclose, hstarts⟩ := tag?_ne_none_iff.mp htag
  exact ⟨bracket?_escapeFrom ▸ hclose, (starts_escapeFrom.mp hstarts).2⟩

/-- No tag is in escaped text. -/
theorem tagsBehind_escapeFrom : tagsBehind 0 (escapeFrom slashes cs) = [] := by
  induction slashes, cs using scan_induction with
  | nil slashes => rw [escapeFrom_nil, tagsBehind_eq_nil (bracket?_replicate slashes)]
  | slash slashes cs ih => rwa [escapeFrom_slash]
  | tag slashes body rest hbody ih =>
      rw [escapeFrom_tag hbody, tagsBehind_replicate, tagsBehind_tag hbody, ih,
        if_pos (by omega)]
      rfl
  | plain slashes c cs hslash hopen ih =>
      rw [escapeFrom_plain hslash hopen, tagsBehind_replicate,
        tagsBehind_plain hslash fun hc => tag?_escapeFrom (hopen hc), ih]

/-- Escaping leaves the backslashes at the end. -/
theorem trailing_escapeFrom : trailing 0 (escapeFrom slashes cs) = trailing slashes cs := by
  induction slashes, cs using scan_induction with
  | nil slashes => rw [escapeFrom_nil, trailing_replicate, Nat.zero_add]; rfl
  | slash slashes cs ih => rw [escapeFrom_slash, ih, trailing_slash]
  | tag slashes body rest hbody ih =>
      rw [escapeFrom_tag hbody, trailing_append_cons (by decide), trailing_append_cons (by decide),
        ih, trailing_cons (by decide), trailing_append_cons (by decide)]
  | plain slashes c cs hslash hopen ih =>
      rw [escapeFrom_plain hslash hopen, trailing_append_cons hslash, ih, trailing_cons hslash]

/-- Escaping leaves the last bracket. -/
theorem bracket?_reverse_escapeFrom :
    bracket? (escapeFrom slashes cs).reverse = bracket? cs.reverse := by
  have hreplicate (n : Nat) : bracket? (List.replicate n '\\').reverse = none := by
    rw [List.reverse_replicate, bracket?_replicate]
  induction slashes, cs using scan_induction with
  | nil slashes => rw [escapeFrom_nil, hreplicate]; rfl
  | slash slashes cs ih =>
      rw [escapeFrom_slash, ih, bracket?_reverse_cons]
      exact (Option.or_none ..).symm
  | tag slashes body rest hbody ih =>
      simp only [escapeFrom_tag hbody, bracket?_reverse_append, bracket?_reverse_cons, ih,
        hreplicate]
      simp
  | plain slashes c cs hslash hopen ih =>
      rw [escapeFrom_plain hslash hopen, bracket?_reverse_append, bracket?_reverse_cons, ih,
        hreplicate, bracket?_reverse_cons, Option.or_none]

/-- Text in front of the first bracket is left as it is. -/
theorem escapeFrom_append {ds' : List Char} (h : bracket? cs = none)
    (hds : ∀ n, escapeFrom n ds = List.replicate n '\\' ++ ds') :
    escapeFrom slashes (cs ++ ds) = List.replicate slashes '\\' ++ (cs ++ ds') := by
  induction cs generalizing slashes with
  | nil => exact hds slashes
  | cons c cs ih =>
      obtain ⟨hc, hcs⟩ := bracket?_cons_eq_none_iff.mp h
      by_cases hslash : c = '\\'
      · rw [List.cons_append, hslash, escapeFrom_slash, ih hcs, List.replicate_succ',
          List.append_assoc]
        rfl
      · have hopen (hc' : c = '[') : tag? (cs ++ ds) = none := by
          rw [hc'] at hc
          cases hc
        rw [List.cons_append, escapeFrom_plain hslash hopen, ih hcs]
        rfl

/-- Text without brackets is left as it is. -/
theorem escapeFrom_eq (h : bracket? cs = none) : escapeFrom 0 cs = cs := by
  have hnil (n : Nat) : escapeFrom n [] = List.replicate n '\\' ++ [] := by
    rw [escapeFrom_nil, List.append_nil]
  have happend : escapeFrom 0 (cs ++ []) = cs ++ [] := escapeFrom_append h hnil
  rwa [List.append_nil] at happend

/-- A bracket that opens no tag parts the text in two that are escaped apart. -/
theorem escapeFrom_append_open (h : tag? ds = none) :
    escapeFrom slashes (cs ++ '[' :: ds) = escapeFrom slashes cs ++ '[' :: escapeFrom 0 ds := by
  induction slashes, cs using scan_induction with
  | nil slashes => rw [List.nil_append, escapeFrom_plain (by decide) fun _ => h, escapeFrom_nil]
  | slash slashes cs ih => rw [List.cons_append, escapeFrom_slash, escapeFrom_slash, ih]
  | tag slashes body rest hbody ih =>
      rw [List.cons_append, List.append_assoc, List.cons_append, escapeFrom_tag hbody, ih,
        escapeFrom_tag hbody]
      simp
  | plain slashes c cs hslash hopen ih =>
      have htag (hc : c = '[') : tag? (cs ++ '[' :: ds) = none :=
        tag?_append_eq_none (hopen hc) fun _ => by simp [bracket?, isBracket]
      rw [List.cons_append, escapeFrom_plain hslash htag, ih, escapeFrom_plain hslash hopen]
      simp

/-! ### Escaped text in markup -/

theorem endsInOneSlash_iff : endsInOneSlash cs = true ↔ trailing 0 cs = 1 := by
  have hlast (ds : List Char) (c : Char) : trailing 0 (ds ++ [c]) =
      if c = '\\' then trailing 0 ds + 1 else 0 := by
    rw [trailing_append]
    rfl
  cases cs using List.reverseRecOn with
  | nil => decide
  | append_singleton ds c =>
      rw [hlast, endsInOneSlash, List.reverse_append, List.reverse_singleton,
        List.singleton_append]
      by_cases hc : c = '\\'
      · subst hc
        cases ds using List.reverseRecOn with
        | nil => decide
        | append_singleton ds d =>
            rw [hlast, List.reverse_append, List.reverse_singleton, List.singleton_append]
            by_cases hd : d = '\\'
            · simp [hd]
            · simp [hd]
      · simp [hc]

theorem escapeChars_eq (cs : List Char) :
    escapeChars cs = escapeFrom 0 cs ++ if trailing 0 cs = 1 then ['\\'] else [] := by
  have hone : endsInOneSlash (escapeFrom 0 cs) = true ↔ trailing 0 cs = 1 := by
    rw [endsInOneSlash_iff, trailing_escapeFrom]
  rw [escapeChars]
  by_cases h : trailing 0 cs = 1
  · rw [if_pos h, if_pos (hone.mpr h)]
  · rw [if_neg h, if_neg (mt hone.mp h), List.append_nil]

/-- A single backslash at the end is doubled. -/
theorem trailing_escapeChars :
    trailing 0 (escapeChars cs) = if trailing 0 cs = 1 then 2 else trailing 0 cs := by
  rw [escapeChars_eq, trailing_append, trailing_escapeFrom]
  split
  · rename_i h
    rw [h]
    rfl
  · rfl

theorem bracket?_escapeChars : bracket? (escapeChars cs) = bracket? cs := by
  rw [escapeChars_eq, bracket?_append, bracket?_escapeFrom]
  split <;> simp [bracket?, isBracket]

theorem bracket?_reverse_escapeChars : bracket? (escapeChars cs).reverse = bracket? cs.reverse := by
  rw [escapeChars_eq, bracket?_reverse_append, bracket?_reverse_escapeFrom]
  split <;> simp [bracket?, isBracket]

/-- Escaped text has no tags, and none comes up if what follows does not close one. -/
theorem tagsBehind_escapeChars (h : Apart (escapeChars cs) ds) :
    tagsBehind 0 (escapeChars cs ++ ds) = tagsBehind (trailing 0 (escapeChars cs)) ds := by
  have hnone : tagsBehind 0 (escapeChars cs) = [] := by
    rw [escapeChars_eq]
    split
    · rw [tagsBehind_append (apart_of_bracket? (by decide)), tagsBehind_escapeFrom]
      simp
    · rw [List.append_nil, tagsBehind_escapeFrom]
  rw [tagsBehind_append h, hnone, List.nil_append]

/-- Up to its last bracket, if that one opens no tag, a text is escaped apart. -/
theorem escapeChars_append_open {front : List Char} (h : tag? ds = none) :
    escapeChars (front ++ '[' :: ds) = escapeFrom 0 front ++ '[' :: escapeChars ds := by
  rw [escapeChars_eq, escapeChars_eq, escapeFrom_append_open h, trailing_append_cons (by decide),
    List.append_assoc, List.cons_append]

theorem escapeChars_append_close (h : bracket? cs = none) :
    escapeChars (cs ++ ']' :: ds) = cs ++ ']' :: escapeChars ds := by
  have hclose (n : Nat) :
      escapeFrom n (']' :: ds) = List.replicate n '\\' ++ ']' :: escapeFrom 0 ds :=
    escapeFrom_plain (by decide) nofun
  rw [escapeChars_eq, escapeChars_eq, escapeFrom_append h hclose, trailing_append_cons (by decide)]
  simp

theorem starts_escapeChars (h : bracket? cs = none) :
    starts (escapeChars cs ++ ds) = starts (cs ++ ds) := by
  rw [escapeChars_eq, escapeFrom_eq h]
  cases cs <;> rfl

theorem toList_escape (s : String) : (escape s).toList = escapeChars s.toList :=
  String.toList_ofList

/-- Whether the last bracket of a text could open a tag that ends behind the text. -/
def Dangles (cs : List Char) : Prop := ∃ front body, cs = front ++ '[' :: body ∧ IsBody body

theorem tagsBehind_escapeChars_open {front : List Char} (h : bracket? cs = none) :
    tagsBehind 0 (escapeChars (front ++ '[' :: cs) ++ ds) =
      tagsBehind (trailing 0 front) ('[' :: (escapeChars cs ++ ds)) := by
  have hopen : bracket? ('[' :: (escapeChars cs ++ ds)) ≠ some ']' := by
    simp [bracket?, isBracket]
  rw [escapeChars_append_open (tag?_of_bracket?_eq_none h), List.append_assoc, List.cons_append,
    tagsBehind_append (apart_of_bracket? hopen), tagsBehind_escapeFrom, trailing_escapeFrom,
    List.nil_append]

/-- Escaped text has no tags, and none comes up behind it if nothing dangles. -/
theorem tagsBehind_escapeChars_of_not_dangles (h : ¬ Dangles cs) (hds : starts ds = false) :
    tagsBehind 0 (escapeChars cs ++ ds) = tagsBehind (trailing 0 (escapeChars cs)) ds := by
  by_cases hopen : bracket? cs.reverse = some '['
  · obtain ⟨-, body, front, hcs, hbody⟩ := bracket?_eq_some_iff.mp hopen
    obtain rfl : cs = front.reverse ++ '[' :: body.reverse := by
      rw [← List.reverse_reverse cs, hcs]
      simp
    have hfree : bracket? body.reverse = none := bracket?_reverse_eq_none_iff.mpr hbody
    have hstarts : starts (body.reverse ++ ds) = false := by
      cases hbody' : body.reverse with
      | nil => exact hds
      | cons c cs =>
          refine Bool.eq_false_iff.mpr fun hc => h ⟨_, _, rfl, hfree, ?_⟩
          rw [hbody']
          exact hc
    have htag : tag? (escapeChars body.reverse ++ ds) = none :=
      tag?_of_starts_eq_false (by rw [starts_escapeChars hfree, hstarts])
    have hapart : Apart (escapeChars body.reverse) ds :=
      apart_of_bracket?_eq_none (by rw [bracket?_escapeChars, hfree])
    rw [tagsBehind_escapeChars_open hfree, tagsBehind_plain (by decide) fun _ => htag,
      tagsBehind_escapeChars hapart, escapeChars_append_open (tag?_of_bracket?_eq_none hfree),
      trailing_append_cons (by decide)]
  · refine tagsBehind_escapeChars (apart_of_reverse ?_)
    rwa [bracket?_reverse_escapeChars]

/-- A tag that dangles from escaped text ends at the next closing bracket. -/
theorem tagsBehind_escapeChars_of_dangles {front w : List Char} (hbody : IsBody body)
    (hw : bracket? w = none) :
    tagsBehind 0 (escapeChars (front ++ '[' :: body) ++ (w ++ ']' :: rest)) =
      (if trailing 0 front % 2 = 1 then [] else [escapeChars body ++ w]) ++ tagsBehind 0 rest := by
  have hinside : IsBody (escapeChars body ++ w) := by
    refine ⟨?_, ?_⟩
    · rw [bracket?_append, bracket?_escapeChars, hbody.1, hw]
      rfl
    · rw [starts_escapeChars hbody.1, starts_append (ne_nil_of_starts hbody.2)]
      exact hbody.2
  rw [tagsBehind_escapeChars_open hbody.1, ← List.append_assoc, tagsBehind_tag hinside]

end ChangeGate.Markup
