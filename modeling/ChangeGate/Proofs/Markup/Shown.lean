import ChangeGate.Markup.Plain
import ChangeGate.Proofs.Markup.Escape

/-! # What markup shows

Markup is shown unless a closing tag closes nothing, so whether it is shown is a matter of its tags
(`isSome_plain`).  A template that closes what it opens leaves the tags of others alone
(`Closed`).

What is shown is the text of the pieces (`said`), as long as that has no tabs, no characters that
are dropped and no names of pictures (`plain_eq`).  Text of the template is said as it is, tags are
not said, and escaped text is said as it was before it was escaped (`saidBehind_escapeChars`). -/

namespace ChangeGate.Markup

variable {cs ds rest body style run : List Char} {c : Char} {slashes : Nat}
  {opened : List OpenTag}

/-! ### Tags that are open -/

/-- The tags that are open behind markup, if it closes none that is not. -/
def after? (opened : List OpenTag) (cs : List Char) : Option (List OpenTag) :=
  (tagsBehind 0 cs).foldlM openAfter opened

theorem isSome_plainFrom (ps : List Piece) :
    (plainFrom opened ps).isSome = ((ps.filterMap Piece.tag?).foldlM openAfter opened).isSome := by
  induction ps generalizing opened with
  | nil => rfl
  | cons p ps ih =>
      cases p with
      | text cs => rw [plainFrom, Option.isSome_map, ih, List.filterMap_cons_none rfl]
      | tag body =>
          rw [plainFrom, List.filterMap_cons_some (rfl : (Piece.tag body).tag? = some body),
            List.foldlM_cons]
          cases openAfter opened body with
          | none => rfl
          | some opened' => exact ih

/-- Markup is shown exactly if it closes no tag that is not open. -/
theorem isSome_plain (s : String) : (plain s).isSome = (after? [] s.toList).isSome := by
  rw [plain, Option.isSome_map, isSome_plainFrom]
  rfl

/-! ### Templates -/

/-- Whether a character neither belongs to a tag nor disables one. -/
def isFree (c : Char) : Bool := !isBracket c && c != '\\'

theorem isFree_iff : isFree c = true ↔ isBracket c = false ∧ c ≠ '\\' := by
  simp [isFree]

theorem bracket?_of_free (h : cs.all isFree = true) : bracket? cs = none :=
  bracket?_eq_none_iff.mpr fun c hc => (isFree_iff.mp (List.all_eq_true.mp h c hc)).1

theorem bracket?_cons_open : bracket? ('[' :: ds) ≠ some ']' := by
  simp [bracket?, isBracket]

theorem bracket?_free_append (h : cs.all isFree = true) (hds : bracket? ds ≠ some ']') :
    bracket? (cs ++ ds) ≠ some ']' := by
  rwa [bracket?_append, bracket?_of_free h, Option.none_or]

theorem bracket?_open (h : cs.all isFree = true) : bracket? (cs ++ '[' :: ds) ≠ some ']' :=
  bracket?_free_append h bracket?_cons_open

theorem slash_not_mem_of_free (h : cs.all isFree = true) : '\\' ∉ cs :=
  fun hc => (isFree_iff.mp (List.all_eq_true.mp h _ hc)).2 rfl

theorem trailing_eq_zero (h : '\\' ∉ cs) : trailing 0 cs = 0 := by
  induction cs with
  | nil => rfl
  | cons c cs ih =>
      obtain ⟨hc, hcs⟩ := not_or.mp (List.mem_cons.not.mp h)
      rw [trailing_cons (Ne.symm hc), ih hcs]

/-- Text that is free of brackets and backslashes needs no escape. -/
theorem escapeChars_of_free (h : cs.all isFree = true) : escapeChars cs = cs := by
  rw [escapeChars_eq, trailing_eq_zero (slash_not_mem_of_free h),
    escapeFrom_eq (bracket?_of_free h)]
  exact List.append_nil cs

/-- A style: the inside of a tag that can be opened and closed again. -/
structure IsStyle (style : List Char) : Prop where
  body : IsBody style
  opens : style.head? ≠ some '/'
  proper : (OpenTag.ofBody style).isProper = true

instance : DecidablePred IsStyle := fun _ =>
  decidable_of_iff ((_ ∧ _) ∧ _ ∧ _)
    ⟨fun h => ⟨h.1, h.2.1, h.2.2⟩, fun h => ⟨h.body, h.opens, h.proper⟩⟩

/-- A run of text in a style, with what comes behind it. -/
def styled (style run rest : List Char) : List Char :=
  '[' :: (style ++ ']' :: (run ++ '[' :: (['/'] ++ ']' :: rest)))

theorem bracket?_styled : bracket? (styled style run ds) ≠ some ']' := bracket?_cons_open

theorem isBody_slash : IsBody ['/'] := ⟨by decide, by decide⟩

theorem tagsBehind_run (h : run.all isFree = true) :
    tagsBehind 0 (run ++ ds) = tagsBehind 0 ds :=
  tagsBehind_text (bracket?_of_free h) (trailing_eq_zero (slash_not_mem_of_free h))

/-- A run of text parts what follows from the backslashes in front of it. -/
theorem tagsBehind_run_of_ne_nil (hne : run ≠ []) (h : run.all isFree = true) :
    tagsBehind slashes (run ++ ds) = tagsBehind 0 ds := by
  obtain ⟨c, run, rfl⟩ := List.exists_cons_of_ne_nil hne
  rw [List.all_cons, Bool.and_eq_true, isFree_iff] at h
  obtain ⟨⟨hbracket, hslash⟩, hrun⟩ := h
  have hopen : c ≠ '[' := by
    rintro rfl
    cases hbracket
  rw [List.cons_append, tagsBehind_cons hslash hopen, tagsBehind_run hrun]

theorem tagsBehind_styled (hstyle : IsBody style) (hrun : run.all isFree = true) :
    tagsBehind 0 (styled style run ds) = [style, ['/']] ++ tagsBehind 0 ds := by
  rw [styled, tagsBehind_open hstyle, tagsBehind_run hrun, tagsBehind_open isBody_slash]
  rfl

theorem openAfter_style (h : IsStyle style) :
    openAfter opened style = some (.ofBody style :: opened) := by
  have hopens : (style.takeWhile (· != '=')).head? ≠ some '/' := by
    cases style with
    | nil => exact nofun
    | cons c cs =>
        have hc : c ≠ '/' := fun hc => h.opens (congrArg some hc)
        rw [List.takeWhile_cons]
        split <;> simp [hc]
  unfold openAfter
  split
  · rename_i hslash
    rw [hslash] at hopens
    exact absurd rfl hopens
  · rfl

theorem openAfter_slash (h : (OpenTag.ofBody style).isProper = true) :
    openAfter (.ofBody style :: opened) ['/'] = some opened := by
  have hname : ['/'].takeWhile (· != '=') = ['/'] := by decide
  have hclosed : closed? (.ofBody style :: opened) ((Text.trim []).map Char.toLower) =
      some (.ofBody style, opened) := rfl
  unfold openAfter
  simp only [hname, hclosed]
  exact if_pos h

/-- A style that is closed behind its text leaves the open tags as they are. -/
theorem foldlM_pair (h : IsStyle style) (bodies : List (List Char)) :
    (style :: ['/'] :: bodies).foldlM openAfter opened = bodies.foldlM openAfter opened := by
  rw [List.foldlM_cons, openAfter_style h]
  show (openAfter (.ofBody style :: opened) ['/']).bind _ = _
  rw [openAfter_slash h.proper]
  rfl

/-- Markup that closes what it opens and leaves what follows alone. -/
def Closed (cs : List Char) : Prop :=
  ∀ opened ds, after? opened (cs ++ ds) = after? opened ds

theorem Closed.append (h : Closed cs) (h' : Closed ds) : Closed (cs ++ ds) := by
  intro opened rest
  rw [List.append_assoc, h, h']

theorem Closed.text (h : cs.all isFree = true) : Closed cs := by
  intro opened ds
  rw [after?, tagsBehind_run h, after?]

theorem Closed.styled (hstyle : IsStyle style) (hrun : run.all isFree = true) :
    Closed (Markup.styled style run []) := by
  intro opened ds
  have happend : Markup.styled style run [] ++ ds = Markup.styled style run ds := by
    simp [Markup.styled]
  rw [happend, after?, tagsBehind_styled hstyle.body hrun]
  exact foldlM_pair hstyle _

theorem Closed.intercalate {sep : String} {parts : List String} (hsep : Closed sep.toList)
    (h : ∀ part ∈ parts, Closed part.toList) : Closed (sep.intercalate parts).toList := by
  rw [String.toList_intercalate]
  induction parts with
  | nil => exact fun _ _ => rfl
  | cons part parts ih =>
      obtain ⟨hpart, hparts⟩ := List.forall_mem_cons.mp h
      cases parts with
      | nil => simpa using hpart
      | cons part' parts =>
          rw [List.map_cons, List.map_cons, List.intercalate_cons_cons]
          exact (hpart.append hsep).append (ih hparts)

theorem Closed.isSome_plain {s : String} (h : Closed s.toList) : (plain s).isSome = true := by
  have hafter := h [] []
  rw [List.append_nil] at hafter
  rw [Markup.isSome_plain, hafter, after?, tagsBehind_nil]
  rfl

/-! ### Tags that are not closed -/

/-- Tags that close none but those that they open. -/
def Harmless (ts : List String) : Prop :=
  ∀ bodies : List (List Char), (∀ opened, (bodies.foldlM openAfter opened).isSome = true) →
    ∀ opened, ((ts.map String.toList ++ bodies).foldlM openAfter opened).isSome = true

namespace Harmless

variable {ts ts' : List String}

theorem nil : Harmless [] := fun _ h => h

theorem append (h : Harmless ts) (h' : Harmless ts') : Harmless (ts ++ ts') := by
  intro bodies hbodies
  rw [List.map_append, List.append_assoc]
  exact h _ (h' _ hbodies)

theorem opening {name : String} (hname : IsStyle name.toList) : Harmless [name] := by
  intro bodies hbodies opened
  show ((name.toList :: bodies).foldlM openAfter opened).isSome = true
  rw [List.foldlM_cons, openAfter_style hname]
  exact hbodies _

theorem pair {name : String} (hname : IsStyle name.toList) : Harmless [name, "/"] := by
  intro bodies hbodies opened
  show ((name.toList :: ['/'] :: bodies).foldlM openAfter opened).isSome = true
  rw [foldlM_pair hname]
  exact hbodies _

theorem flatMap {α : Type} {xs : List α} {f : α → List String} (h : ∀ x ∈ xs, Harmless (f x)) :
    Harmless (xs.flatMap f) := by
  induction xs with
  | nil => exact nil
  | cons x xs ih =>
      obtain ⟨hx, hxs⟩ := List.forall_mem_cons.mp h
      rw [List.flatMap_cons]
      exact hx.append (ih hxs)

theorem isSome_plain {s : String} (h : Harmless (tags s)) : (plain s).isSome = true := by
  have hbodies : (tags s).map String.toList ++ [] = tagsBehind 0 s.toList := by
    rw [tags_eq, List.map_map, List.append_nil]
    exact (List.map_congr_left fun _ _ => String.toList_ofList).trans (List.map_id _)
  rw [Markup.isSome_plain, after?, ← hbodies]
  exact h [] (fun _ => rfl) []

end Harmless

/-! ### What is said -/

/-- The text of a piece without the backslashes in front of its opening brackets. -/
def Piece.said : Piece → List Char
  | .text cs => unescapeBrackets cs
  | .tag _ => []

/-- What markup says that stands behind a run of backslashes. -/
def saidBehind (slashes : Nat) (cs : List Char) : List Char :=
  (piecesFrom [] slashes cs).flatMap Piece.said

theorem flatMap_textPiece (cs : List Char) :
    (textPiece cs).flatMap Piece.said = unescapeBrackets cs := by
  rw [textPiece]
  split
  · rename_i hnil
    rw [List.isEmpty_iff.mp hnil]
    rfl
  · exact List.flatMap_singleton ..

theorem unescapeBrackets_cons (h : c ≠ '\\') :
    unescapeBrackets (c :: cs) = c :: unescapeBrackets cs := by
  rw [unescapeBrackets]
  rintro _ rfl
  exact absurd rfl h

theorem unescapeBrackets_eq (h : '\\' ∉ cs) : unescapeBrackets cs = cs := by
  induction cs with
  | nil => rfl
  | cons c cs ih =>
      obtain ⟨hc, hcs⟩ := not_or.mp (List.mem_cons.not.mp h)
      rw [unescapeBrackets_cons (Ne.symm hc), ih hcs]

/-- Backslashes that are followed by no bracket stay. -/
theorem unescapeBrackets_append (h : cs.getLast? ≠ some '\\') :
    unescapeBrackets (cs ++ ds) = unescapeBrackets cs ++ unescapeBrackets ds := by
  fun_induction unescapeBrackets cs with
  | case1 r ih =>
      rw [List.cons_append, List.cons_append, unescapeBrackets, List.cons_append, ih]
      cases r with
      | nil => exact nofun
      | cons d r => simpa using h
  | case2 c r hopen ih =>
      cases r with
      | nil =>
          have hc : c ≠ '\\' := by simpa using h
          exact unescapeBrackets_cons hc
      | cons d r =>
          rw [List.cons_append, unescapeBrackets, ih (by simpa using h), List.cons_append]
          rintro r' rfl heq
          obtain ⟨rfl, -⟩ := List.cons.inj heq
          exact hopen r rfl rfl
  | case3 => rfl

/-- What was read before is said in front of the rest. -/
theorem flatMap_piecesFrom_append {seen' : List Char} (h : seen'.head? ≠ some '\\')
    (seen : List Char) (slashes : Nat) (cs : List Char) :
    (piecesFrom (seen ++ seen') slashes cs).flatMap Piece.said =
      unescapeBrackets seen'.reverse ++ (piecesFrom seen slashes cs).flatMap Piece.said := by
  have hsplit (ds : List Char) : unescapeBrackets (seen'.reverse ++ ds) =
      unescapeBrackets seen'.reverse ++ unescapeBrackets ds := by
    refine unescapeBrackets_append ?_
    rwa [List.getLast?_reverse]
  fun_induction piecesFrom seen slashes cs with
  | case1 seen slashes =>
      rw [piecesFrom, flatMap_textPiece, flatMap_textPiece, List.reverse_append, List.append_assoc,
        hsplit]
  | case2 seen slashes r ih => rw [piecesFrom, if_pos rfl, ih]
  | case3 seen slashes r body rest htag =>
      rw [piecesFrom_tag _ htag]
      simp only [List.flatMap_append, flatMap_textPiece, List.reverse_append, hsplit,
        List.append_assoc]
  | case4 seen slashes r htag hslash plain ih =>
      rw [piecesFrom_plain _ hslash fun _ => htag, ← List.append_assoc, ← List.cons_append, ih]
  | case5 seen slashes c r hslash plain hopen ih =>
      rw [piecesFrom_plain _ hslash fun h => absurd h hopen, ← List.append_assoc,
        ← List.cons_append, ih]

@[simp] theorem saidBehind_nil : saidBehind 0 [] = [] := by
  rw [saidBehind, piecesFrom]
  rfl

@[simp] theorem saidBehind_slash :
    saidBehind slashes ('\\' :: cs) = saidBehind (slashes + 1) cs := by
  rw [saidBehind, piecesFrom, if_pos rfl, saidBehind]

theorem saidBehind_plain (hslash : c ≠ '\\') (h : c = '[' → tag? cs = none) :
    saidBehind slashes (c :: cs) =
      unescapeBrackets (List.replicate slashes '\\' ++ [c]) ++ saidBehind 0 cs := by
  have hhead : (c :: List.replicate slashes '\\').head? ≠ some '\\' := by simpa using hslash
  rw [saidBehind, piecesFrom_plain [] hslash h, List.append_nil,
    ← List.nil_append (c :: List.replicate slashes '\\'), flatMap_piecesFrom_append hhead,
    List.reverse_cons, List.reverse_replicate, saidBehind]

theorem saidBehind_cons (hslash : c ≠ '\\') (h : c = '[' → tag? cs = none) :
    saidBehind 0 (c :: cs) = c :: saidBehind 0 cs := by
  rw [saidBehind_plain hslash h, List.replicate_zero, List.nil_append, unescapeBrackets_cons hslash]
  rfl

theorem saidBehind_open (h : IsBody body) :
    saidBehind 0 ('[' :: (body ++ ']' :: ds)) = saidBehind 0 ds := by
  rw [saidBehind, piecesFrom_tag [] (tag?_eq_some_iff.mpr ⟨h, rfl⟩)]
  simp [textPiece, Piece.said, saidBehind]

theorem saidBehind_text (h : cs.all isFree = true) :
    saidBehind 0 (cs ++ ds) = cs ++ saidBehind 0 ds := by
  induction cs with
  | nil => rfl
  | cons c cs ih =>
      rw [List.all_cons, Bool.and_eq_true] at h
      obtain ⟨hbracket, hslash⟩ := isFree_iff.mp h.1
      have hopen : c ≠ '[' := by
        rintro rfl
        cases hbracket
      rw [List.cons_append, saidBehind_cons hslash fun h => absurd h hopen, ih h.2,
        List.cons_append]

theorem saidBehind_styled (hstyle : IsBody style) (hrun : run.all isFree = true) :
    saidBehind 0 (styled style run ds) = run ++ saidBehind 0 ds := by
  rw [styled, saidBehind_open hstyle, saidBehind_text hrun, saidBehind_open isBody_slash]

/-- Behind one backslash brackets are said with what they hold, be it a tag or not. -/
theorem saidBehind_quoted (h : cs.all isFree = true) :
    saidBehind 1 ('[' :: (cs ++ ']' :: ds)) = '[' :: (cs ++ ']' :: saidBehind 0 ds) := by
  by_cases hstarts : starts cs = true
  · have hbody : IsBody cs := ⟨bracket?_of_free h, hstarts⟩
    have hslash : '\\' ∉ '[' :: (cs ++ [']']) := by
      simpa using slash_not_mem_of_free h
    rw [saidBehind, piecesFrom_tag [] (tag?_eq_some_iff.mpr ⟨hbody, rfl⟩), if_pos rfl]
    simp [textPiece, Piece.said, saidBehind, unescapeBrackets_eq hslash]
  · have hbehind : starts (cs ++ ']' :: ds) = false := by
      cases cs with
      | nil => rfl
      | cons c cs => exact Bool.eq_false_iff.mpr hstarts
    rw [saidBehind_plain (by decide) fun _ => tag?_of_starts_eq_false hbehind, saidBehind_text h,
      saidBehind_cons (by decide) fun h => absurd h (by decide)]
    rfl

/-! ### Escaped text is said as it was -/

/-- Whether no bracket that escaping leaves alone opens a tag with what follows. -/
def Parted (cs ds : List Char) : Prop :=
  ∀ front body, cs = front ++ '[' :: body → tag? body = none → tag? (escapeFrom 0 body ++ ds) = none

theorem Parted.of_append (skipped : List Char) (h : Parted (skipped ++ cs) ds) : Parted cs ds := by
  rintro front body rfl
  exact h (skipped ++ front) body (List.append_assoc ..).symm

theorem parted_of_bracket? (h : bracket? ds ≠ some ']') : Parted cs ds :=
  fun _ _ _ hnone => tag?_append_eq_none (tag?_escapeFrom hnone) fun _ => h

theorem parted_of_not_dangles (h : ¬ Dangles cs) (hds : starts ds = false) : Parted cs ds := by
  rintro front body rfl hnone
  cases hbody : bracket? body with
  | some b =>
      refine tag?_append_eq_none (tag?_escapeFrom hnone) fun hfree => ?_
      rw [bracket?_escapeFrom, hbody] at hfree
      cases hfree
  | none =>
      rw [escapeFrom_eq hbody]
      refine tag?_of_starts_eq_false ?_
      cases body with
      | nil => exact hds
      | cons c body => exact Bool.eq_false_iff.mpr fun hc => h ⟨front, c :: body, rfl, hbody, hc⟩

theorem saidBehind_escapeFrom (hslash : '\\' ∉ cs) (h : Parted cs ds) :
    saidBehind 0 (escapeFrom 0 cs ++ ds) = cs ++ saidBehind 0 ds := by
  refine scan_induction (motive := fun _ cs => '\\' ∉ cs → Parted cs ds →
    saidBehind 0 (escapeFrom 0 cs ++ ds) = cs ++ saidBehind 0 ds) ?_ ?_ ?_ ?_ 0 cs hslash h
  · intro _ _ _
    rw [escapeFrom_nil]
    rfl
  · intro _ cs _ hslash
    exact absurd List.mem_cons_self hslash
  · intro _ body rest hbody ih hslash h
    have hfree : body.all isFree = true := by
      rw [List.all_eq_true]
      refine fun c hc => isFree_iff.mpr ⟨bracket?_eq_none_iff.mp hbody.1 c hc, ?_⟩
      rintro rfl
      exact hslash (by simp [hc])
    have hrest : '\\' ∉ rest := fun hc => hslash (by simp [hc])
    have hparted : Parted rest ds := .of_append ('[' :: (body ++ [']'])) (by simpa using h)
    rw [escapeFrom_tag hbody]
    show saidBehind 0 ('\\' :: '[' :: (body ++ ']' :: escapeFrom 0 rest) ++ ds) = _
    rw [List.cons_append, saidBehind_slash, List.cons_append, List.append_assoc, List.cons_append,
      saidBehind_quoted hfree, ih hrest hparted]
    simp
  · intro _ c cs hc hopen ih hslash h
    have htag (hbracket : c = '[') : tag? (escapeFrom 0 cs ++ ds) = none :=
      h [] cs (by rw [hbracket]; rfl) (hopen hbracket)
    have hcs : '\\' ∉ cs := fun h => hslash (List.mem_cons_of_mem _ h)
    rw [escapeFrom_plain hc hopen]
    show saidBehind 0 (c :: (escapeFrom 0 cs ++ ds)) = _
    rw [saidBehind_cons hc htag, ih hcs (.of_append [c] h), List.cons_append]

theorem saidBehind_escapeChars (hslash : '\\' ∉ cs) (h : Parted cs ds) :
    saidBehind 0 (escapeChars cs ++ ds) = cs ++ saidBehind 0 ds := by
  have hescape : escapeChars cs = escapeFrom 0 cs := by
    rw [escapeChars_eq, trailing_eq_zero hslash]
    exact List.append_nil _
  rw [hescape]
  exact saidBehind_escapeFrom hslash h

/-! ### Plain text -/

/-- Whether somewhere in a text the name of a picture stands between two colons. -/
def namesPicture : List Char → Bool
  | [] => false
  | c :: cs =>
    c == ':' && (Emoji.code? cs).any (fun code => (Emoji.codePicture? code.1).isSome) ||
      namesPicture cs

/-- Whether a text is shown as it is: it has no backslashes, no character is dropped or filled up,
and no picture is named. -/
def isPlain (cs : List Char) : Bool :=
  cs.all (fun c => !isHidden c && c != '\t' && c != '\\') && !namesPicture cs

theorem drop_length_takeWhile (p : Char → Bool) (cs : List Char) :
    cs.drop (cs.takeWhile p).length = cs.dropWhile p := by
  have happend : (cs.takeWhile p ++ cs.dropWhile p).drop (cs.takeWhile p).length =
      cs.dropWhile p := List.drop_left
  rwa [List.takeWhile_append_dropWhile] at happend

/-- Whether a character is shown as it is and can neither open nor end the name of a picture. -/
def isSolid (c : Char) : Bool := !isHidden c && c != '\t' && c != '\\' && c != ':'

theorem isPlain_of_solid (h : cs.all isSolid = true) : isPlain cs = true := by
  have hsolid (c : Char) (hc : c ∈ cs) :
      (!isHidden c && c != '\t' && c != '\\') = true ∧ (c != ':') = true :=
    Bool.and_eq_true_iff.mp (List.all_eq_true.mp h c hc)
  have hnames : namesPicture cs = false := by
    clear h
    induction cs with
    | nil => rfl
    | cons c cs ih =>
        obtain ⟨hc, hcs⟩ := List.forall_mem_cons.mp hsolid
        have hcolon : (c == ':') = false := by simpa using hc.2
        rw [namesPicture, hcolon, ih hcs]
        rfl
  rw [isPlain, hnames, List.all_eq_true.mpr fun c hc => (hsolid c hc).1]
  rfl

theorem code?_eq_some_iff {code : List Char} : Emoji.code? cs = some (code, rest) ↔
    (∀ c ∈ code, (c != ':' && !Text.isBlank c) = true) ∧ cs = code ++ ':' :: rest := by
  have hruns : (cs.takeWhile fun c => c != ':' && !Text.isBlank c) = code ∧
      (cs.dropWhile fun c => c != ':' && !Text.isBlank c) = ':' :: rest ↔
      (∀ c ∈ code, (c != ':' && !Text.isBlank c) = true) ∧ cs = code ++ ':' :: rest := by
    rw [Text.takeWhile_dropWhile_iff]
    exact ⟨fun h => ⟨h.1, h.2.2⟩, fun h => ⟨h.1, rfl, h.2⟩⟩
  rw [← hruns]
  unfold Emoji.code?
  dsimp only
  rw [drop_length_takeWhile]
  split
  · rename_i rest' hrest
    rw [hrest, Option.some.injEq, Prod.mk.injEq, List.cons.injEq]
    simp
  · rename_i hne
    exact ⟨nofun, fun h => absurd h.2 (hne _)⟩

theorem code?_append {code : List Char} (h : Emoji.code? cs = some (code, rest)) (ds : List Char) :
    Emoji.code? (cs ++ ds) = some (code, rest ++ ds) := by
  obtain ⟨hcode, rfl⟩ := code?_eq_some_iff.mp h
  exact code?_eq_some_iff.mpr ⟨hcode, by simp⟩

theorem namesPicture_append (h : namesPicture (cs ++ ds) = false) :
    namesPicture cs = false ∧ namesPicture ds = false := by
  induction cs with
  | nil => exact ⟨rfl, h⟩
  | cons c cs ih =>
      rw [List.cons_append, namesPicture, Bool.or_eq_false_iff] at h
      obtain ⟨hcs, hds⟩ := ih h.2
      refine ⟨?_, hds⟩
      rw [namesPicture, hcs, Bool.or_false]
      cases hcode : Emoji.code? cs with
      | none => exact Bool.and_false _
      | some code =>
          rw [code?_append hcode] at h
          exact h.1

theorem of_mem_of_isPlain (h : isPlain cs = true) (hc : c ∈ cs) :
    (!isHidden c && c != '\t' && c != '\\') = true :=
  List.all_eq_true.mp (Bool.and_eq_true_iff.mp h).1 c hc

theorem isPlain_append (h : isPlain (cs ++ ds) = true) : isPlain cs = true ∧ isPlain ds = true := by
  simp only [isPlain, List.all_append, Bool.and_eq_true, Bool.not_eq_true'] at h ⊢
  obtain ⟨⟨hcs, hds⟩, hnames⟩ := h
  exact ⟨⟨hcs, (namesPicture_append hnames).1⟩, hds, (namesPicture_append hnames).2⟩

theorem withPictures_eq (h : namesPicture cs = false) : Emoji.withPictures cs = cs := by
  fun_induction Emoji.withPictures cs with
  | case1 => rfl
  | case2 r code rest hcode _ ih =>
      rw [namesPicture, hcode, Bool.or_eq_false_iff] at h
      obtain ⟨-, rfl⟩ := code?_eq_some_iff.mp hcode
      have hnone : Emoji.codePicture? code = none := by simpa using h.1
      have hrest : namesPicture (':' :: rest) = false := (namesPicture_append h.2).2
      rw [namesPicture, Bool.or_eq_false_iff] at hrest
      rw [hnone, ih hrest.2]
      simp
  | case3 r hcode ih =>
      rw [namesPicture, Bool.or_eq_false_iff] at h
      rw [ih h.2]
  | case4 c r hcolon ih =>
      rw [namesPicture, Bool.or_eq_false_iff] at h
      rw [ih h.2]

theorem expandTabs_eq (h : '\t' ∉ cs) (column : Nat) : expandTabs column cs = cs := by
  fun_induction expandTabs column cs with
  | case1 => rfl
  | case2 => exact absurd List.mem_cons_self h
  | case3 column r ih => rw [ih fun hr => h (List.mem_cons_of_mem _ hr)]
  | case4 column c r _ _ ih => rw [ih fun hr => h (List.mem_cons_of_mem _ hr)]

theorem shown_eq (h : isPlain (unescapeBrackets cs) = true) : shown cs = unescapeBrackets cs := by
  have hnames : namesPicture (unescapeBrackets cs) = false := by
    simpa using (Bool.and_eq_true_iff.mp h).2
  rw [shown, withPictures_eq hnames, List.filter_eq_self]
  intro c hc
  exact (Bool.and_eq_true_iff.mp (Bool.and_eq_true_iff.mp (of_mem_of_isPlain h hc)).1).1

theorem plainFrom_eq {ps : List Piece} {out : List Char}
    (hplain : isPlain (ps.flatMap Piece.said) = true) (h : plainFrom opened ps = some out) :
    out = ps.flatMap Piece.said := by
  induction ps generalizing opened out with
  | nil => exact (Option.some.inj h).symm
  | cons p ps ih =>
      rw [List.flatMap_cons] at hplain
      obtain ⟨hp, hps⟩ := isPlain_append hplain
      cases p with
      | text cs =>
          obtain ⟨more, hmore, rfl⟩ := Option.map_eq_some_iff.mp h
          rw [ih hps hmore, shown_eq hp]
          rfl
      | tag body =>
          obtain ⟨opened', -, hmore⟩ := Option.bind_eq_some_iff.mp h
          exact ih hps hmore

/-- Markup that is shown shows what it says, if that is plain. -/
theorem plain_eq {s : String} (hshown : (plain s).isSome = true)
    (hplain : isPlain (saidBehind 0 s.toList) = true) : plain s = some (saidBehind 0 s.toList) := by
  obtain ⟨shown, hs⟩ := Option.isSome_iff_exists.mp hshown
  obtain ⟨out, hout, rfl⟩ := Option.map_eq_some_iff.mp hs
  have htab : '\t' ∉ saidBehind 0 s.toList :=
    fun h => absurd (of_mem_of_isPlain hplain h) (by decide)
  rw [hs, plainFrom_eq hplain hout]
  exact congrArg some (expandTabs_eq htab 0)

end ChangeGate.Markup
