import ChangeGate.Change.Template
import ChangeGate.Proofs.Text.Runs

/-! # Names in a template

A template is filled in from left to right.  A name reaches from an opening brace to the next
closing one, and may hold opening braces itself (`name?_eq_some_iff`).

`IsReading` cuts a template into text and such names, and filling in replaces the names of a reading
and nothing else (`exists_isReading`), so that a template without braces stays (`render_eq_self`);
what names show is not read again.  If no opening brace stands between another one and its closing
brace, the names are the texts between braces that hold none (`IsReading.isInnermost`), and otherwise
some name of the reading holds a brace (`IsReading.apart_iff`) and is filled in as such
(`render_doubled`). -/

namespace ChangeGate.Template

variable {cs name rest : List Char}

/-! ### Names between braces -/

theorem name?_eq_some_iff : name? cs = some (name, rest) ↔
    (name ≠ [] ∧ '\x7d' ∉ name) ∧ cs = name ++ '\x7d' :: rest := by
  have hopen : (∀ c ∈ name, (c != '\x7d') = true) ↔ '\x7d' ∉ name := by
    simp only [bne_iff_ne, ne_eq]
    exact ⟨fun h hmem => h _ hmem rfl, fun h c hc => ne_of_mem_of_not_mem hc h⟩
  unfold name?
  constructor
  · intro h
    split at h
    · rename_i c word closing rest' hname hrest
      cases h
      obtain ⟨hall, hclosing, heq⟩ := Text.takeWhile_dropWhile_iff.mp ⟨hname, hrest⟩
      obtain rfl : closing = '\x7d' := by simpa using hclosing
      exact ⟨⟨List.cons_ne_nil _ _, hopen.mp hall⟩, heq⟩
    · cases h
  · rintro ⟨⟨hne, hname⟩, heq⟩
    obtain ⟨htake, hdrop⟩ := Text.takeWhile_dropWhile_iff.mpr ⟨hopen.mpr hname, rfl, heq⟩
    rw [htake, hdrop]
    cases name with
    | nil => exact absurd rfl hne
    | cons c name => rfl

/-- Two ways to cut a text at a character are the same if neither the first one nor what is between
the two cuts holds it, and otherwise the second cut comes later. -/
theorem eq_or_exists_of_append_eq {α : Type} {x : α} {xs ys zs ws : List α} (hx : x ∉ xs)
    (h : xs ++ x :: zs = ys ++ x :: ws) :
    (ys = xs ∧ ws = zs) ∨ ∃ us, ys = xs ++ x :: us ∧ zs = us ++ x :: ws := by
  rcases List.append_eq_append_iff.mp h with ⟨us, rfl, hzs⟩ | ⟨us, rfl, hws⟩
  · cases us with
    | nil => exact .inl ⟨List.append_nil _, (List.cons.inj hzs).2.symm⟩
    | cons u us =>
        obtain ⟨rfl, rfl⟩ := List.cons.inj hzs
        exact .inr ⟨us, rfl, rfl⟩
  · cases us with
    | nil => exact .inl ⟨(List.append_nil _).symm, (List.cons.inj hws).2⟩
    | cons u us =>
        obtain ⟨rfl, -⟩ := List.cons.inj hws
        exact absurd (List.mem_append_right _ (List.mem_cons_self ..)) hx

/-! ### Parts -/

/-- What a template is made of: text, and names between braces. -/
inductive Part
  | text (cs : List Char)
  | name (cs : List Char)

/-- A text between braces. -/
def braced (cs : List Char) : List Char := '\x7b' :: (cs ++ ['\x7d'])

/-- The template that parts write. -/
def written (ps : List Part) : List Char :=
  ps.flatMap fun
    | .text cs => cs
    | .name cs => braced cs

/-- The text that parts give with their names filled in. -/
def filled (value : List Char → List Char) (ps : List Part) : List Char :=
  ps.flatMap fun
    | .text cs => cs
    | .name cs => value cs

variable {ps : List Part}

/-- How a template is read: names are not empty and hold no closing brace, and whatever could be
the name behind an opening brace ends a name. -/
structure IsReading (cs : List Char) (ps : List Part) : Prop where
  written : written ps = cs
  name : ∀ name, .name name ∈ ps → name ≠ [] ∧ '\x7d' ∉ name
  ends : ∀ before name after, name ≠ [] → '\x7d' ∉ name → cs = before ++ braced name ++ after →
    ∃ qs opening rs, ps = qs ++ .name (opening ++ name) :: rs ∧
      Template.written qs ++ '\x7b' :: opening = before ++ ['\x7b'] ∧ Template.written rs = after

theorem isReading_nil : IsReading [] [] := by
  refine ⟨rfl, nofun, fun before name after _ _ h => ?_⟩
  simp [braced] at h

/-- A character that no name starts with stands for itself. -/
theorem IsReading.char {c : Char} (h : IsReading cs ps)
    (hc : ∀ name rest, name ≠ [] → '\x7d' ∉ name → c :: cs ≠ braced name ++ rest) :
    IsReading (c :: cs) (.text [c] :: ps) := by
  refine ⟨congrArg (c :: ·) h.written, fun name hmem => ?_,
    fun before name after hne hname heq => ?_⟩
  · exact h.name name ((List.mem_cons.mp hmem).resolve_left nofun)
  · cases before with
    | nil => exact absurd heq (hc name after hne hname)
    | cons d before =>
        obtain ⟨rfl, htail⟩ := List.cons.inj heq
        obtain ⟨qs, opening, rs, rfl, hqs, hrs⟩ := h.ends before name after hne hname htail
        exact ⟨.text [c] :: qs, opening, rs, rfl, congrArg (c :: ·) hqs, hrs⟩

/-- A name between braces is one, up to the first closing brace. -/
theorem IsReading.braced (h : IsReading rest ps) (hne : name ≠ []) (hname : '\x7d' ∉ name) :
    IsReading (braced name ++ rest) (.name name :: ps) := by
  refine ⟨congrArg (Template.braced name ++ ·) h.written, ?_,
    fun before name' after hne' hname' heq => ?_⟩
  · intro name' hmem
    rcases List.mem_cons.mp hmem with heq | hmem
    · cases heq
      exact ⟨hne, hname⟩
    · exact h.name name' hmem
  · have hopen (cs : List Char) (hcs : '\x7d' ∉ cs) : '\x7d' ∉ '\x7b' :: cs := by
      simpa using hcs
    have hcut : ('\x7b' :: name) ++ '\x7d' :: rest =
        (before ++ '\x7b' :: name') ++ '\x7d' :: after := by
      simpa [Template.braced] using heq
    rcases eq_or_exists_of_append_eq (hopen name hname) hcut with ⟨hsame, rfl⟩ | ⟨us, hlater, rfl⟩
    · -- Both end with the same brace, and the name starts no later.
      cases before with
      | nil =>
          cases hsame
          exact ⟨[], [], ps, rfl, rfl, h.written⟩
      | cons d before =>
          obtain ⟨rfl, rfl⟩ := List.cons.inj hsame
          exact ⟨[], before ++ ['\x7b'], ps, by simp, rfl, h.written⟩
    · -- The name is behind this one.
      rcases List.append_eq_append_iff.mp hlater with ⟨vs, -, hvs⟩ | ⟨vs, rfl, hvs⟩
      · have hmem : '\x7d' ∈ '\x7b' :: name' :=
          hvs ▸ List.mem_append_right _ (List.mem_cons_self ..)
        exact absurd hmem (hopen name' hname')
      · cases vs with
        | nil => cases hvs
        | cons d vs =>
            obtain ⟨rfl, rfl⟩ := List.cons.inj hvs
            obtain ⟨qs, opening, rs, rfl, hqs, hrs⟩ :=
              h.ends vs name' after hne' hname' (by simp [Template.braced])
            refine ⟨.name name :: qs, opening, rs, rfl, ?_, hrs⟩
            simpa [Template.written, Template.braced] using hqs

/-- Filling in reads the template. -/
theorem exists_isReading (cs : List Char) :
    ∃ ps, IsReading cs ps ∧ ∀ value, fill value cs = filled value ps := by
  induction cs using fill.induct with
  | case1 => exact ⟨[], isReading_nil, fun value => by rw [fill]; rfl⟩
  | case2 r name rest hname hlt ih =>
      obtain ⟨ps, hps, hfill⟩ := ih
      obtain ⟨⟨hne, hopen⟩, rfl⟩ := name?_eq_some_iff.mp hname
      have hread := hps.braced hne hopen
      refine ⟨_, by simpa [braced] using hread, fun value => ?_⟩
      rw [fill, if_pos rfl]
      split
      · rename_i heq
        cases hname.symm.trans heq
        rw [hfill]
        rfl
      · rename_i heq
        cases hname.symm.trans heq
  | case3 r hname ih =>
      obtain ⟨ps, hps, hfill⟩ := ih
      refine ⟨_, hps.char fun name rest hne hopen heq => ?_, fun value => ?_⟩
      · rw [braced, List.cons_append, List.append_assoc] at heq
        have hsome := name?_eq_some_iff.mpr ⟨⟨hne, hopen⟩, (List.cons.inj heq).2⟩
        cases hname.symm.trans hsome
      · rw [fill, if_pos rfl]
        split
        · rename_i heq
          cases hname.symm.trans heq
        · rw [hfill]
          rfl
  | case4 c r hc ih =>
      obtain ⟨ps, hps, hfill⟩ := ih
      refine ⟨_, hps.char fun name rest _ _ heq => hc (List.cons.inj heq).1, fun value => ?_⟩
      rw [fill, if_neg hc, hfill]
      rfl

/-- Parts that write no name are filled in as they are. -/
theorem filled_eq_written (h : '\x7b' ∉ written ps ∨ '\x7d' ∉ written ps)
    (value : List Char → List Char) : filled value ps = written ps := by
  induction ps with
  | nil => rfl
  | cons p ps ih =>
      simp only [written, List.flatMap_cons, List.mem_append, not_or] at h
      have hrest := ih (h.imp And.right And.right)
      cases p with
      | text cs => exact congrArg (cs ++ ·) hrest
      | name cs => simp [braced] at h

/-- A template without an opening or without a closing brace stays as it is. -/
theorem render_eq_self {template : String}
    (h : '\x7b' ∉ template.toList ∨ '\x7d' ∉ template.toList) (a : Action) (t : Task) :
    render template a t = template := by
  obtain ⟨ps, hps, hfill⟩ := exists_isReading template.toList
  have hwritten : '\x7b' ∉ written ps ∨ '\x7d' ∉ written ps := by rwa [hps.written]
  rw [render, hfill, filled_eq_written hwritten, hps.written, String.ofList_toList]

/-! ### Names without braces -/

/-- A name that holds no brace. -/
def IsBare (name : List Char) : Prop := name ≠ [] ∧ '\x7b' ∉ name ∧ '\x7d' ∉ name

/-- A reading with a name for each text without braces that stands between two. -/
structure IsInnermost (cs : List Char) (ps : List Part) : Prop where
  written : written ps = cs
  name : ∀ name, .name name ∈ ps → IsBare name
  placed : ∀ before name after, IsBare name → cs = before ++ braced name ++ after →
    ∃ qs rs, ps = qs ++ .name name :: rs ∧
      Template.written qs = before ∧ Template.written rs = after

/-- No opening brace stands between another one and the closing brace behind it. -/
def Apart (cs : List Char) : Prop :=
  ∀ before name after, cs = before ++ braced name ++ after → '\x7b' ∈ name → '\x7d' ∈ name

theorem IsReading.apart_iff (h : IsReading cs ps) :
    Apart cs ↔ ∀ name, .name name ∈ ps → '\x7b' ∉ name := by
  constructor
  · intro hapart name hmem hopen
    obtain ⟨qs, rs, rfl⟩ := List.append_of_mem hmem
    refine (h.name name hmem).2 (hapart (Template.written qs) name (Template.written rs) ?_ hopen)
    rw [← h.written]
    simp [Template.written]
  · intro hnone before name after heq hopen
    by_contra hclose
    obtain ⟨qs, opening, rs, rfl, -, -⟩ :=
      h.ends before name after (List.ne_nil_of_mem hopen) hclose heq
    exact hnone _ (List.mem_append_right _ (List.mem_cons_self ..)) (List.mem_append_right _ hopen)

theorem IsReading.isInnermost (h : IsReading cs ps) (hapart : Apart cs) : IsInnermost cs ps := by
  have hnone := h.apart_iff.mp hapart
  refine ⟨h.written, fun name hmem => ⟨(h.name name hmem).1, hnone name hmem, (h.name name hmem).2⟩,
    fun before name after hbare heq => ?_⟩
  obtain ⟨qs, opening, rs, rfl, hqs, hrs⟩ := h.ends before name after hbare.1 hbare.2.2 heq
  -- A name that started further to the left would hold the opening brace of this one.
  rcases List.eq_nil_or_concat opening with rfl | ⟨front, c, rfl⟩
  · exact ⟨qs, rs, rfl, List.append_cancel_right hqs, hrs⟩
  · have hlast : (Template.written qs ++ '\x7b' :: front) ++ [c] = before ++ ['\x7b'] := by
      simpa using hqs
    obtain ⟨-, hc⟩ := List.append_inj' hlast rfl
    cases hc
    exact absurd (by simp) (hnone _ (List.mem_append_right _ (List.mem_cons_self ..)))

/-! ### What a name shows -/

/-- What a name shows of an action under a task: the content of the field that it names, or the name
between angle brackets if there is none. -/
inductive Shows (a : Action) (t : Task) (name : List Char) : List Char → Prop
  | text {f : Field} {s : String} (hf : f.path.toList = Text.trim name)
      (hs : f.read a t = some (.text s)) : Shows a t name s.toList
  | texts {f : Field} {ss : List String} (hf : f.path.toList = Text.trim name)
      (hss : f.read a t = some (.texts ss)) : Shows a t name (",".intercalate ss).toList
  | null {f : Field} (hf : f.path.toList = Text.trim name) (hnone : f.read a t = none) :
      Shows a t name ('<' :: Text.trim name ++ ['>'])
  | unknown (hf : ∀ f : Field, f.path.toList ≠ Text.trim name) :
      Shows a t name ('<' :: Text.trim name ++ ['>'])

theorem shows_value (a : Action) (t : Task) (name : List Char) :
    Shows a t name (value a t name) := by
  unfold value
  dsimp only
  cases hfield : Field.ofPath? (String.ofList (Text.trim name)) with
  | none =>
      refine .unknown fun f hf => Field.ofPath?_eq_none_iff.mp hfield f ?_
      rw [← hf, String.ofList_toList]
  | some f =>
      have hf : f.path.toList = Text.trim name := by
        have := List.find?_some hfield
        rw [beq_iff_eq] at this
        rw [this, String.toList_ofList]
      rw [Option.bind_some]
      cases hread : f.read a t with
      | none => exact .null hf hread
      | some content =>
          cases content with
          | text s => exact .text hf hread
          | texts ss => exact .texts hf hread

/-! ### The text of a template -/

/-- **Names make way for what they show** and the rest of the template stays.  The names are the
texts without braces that stand between two exactly if the braces are apart. -/
theorem render_parts (template : String) (a : Action) (t : Task) :
    (∀ name, Shows a t name (value a t name)) ∧
    ∃ ps, IsReading template.toList ps ∧
      render template a t = String.ofList (filled (value a t) ps) ∧
      (Apart template.toList ↔ ∀ name, .name name ∈ ps → '\x7b' ∉ name) ∧
      (Apart template.toList → IsInnermost template.toList ps) := by
  obtain ⟨ps, hps, hfill⟩ := exists_isReading template.toList
  exact ⟨shows_value a t, ps, hps, by rw [render, hfill], hps.apart_iff, hps.isInnermost⟩

/-- What a name shows is not filled in again, and a brace that opens nothing stays. -/
theorem render_parts_stray :
    Apart "\x7bfile.path\x7d \x7b".toList ∧
    render "\x7bfile.path\x7d \x7b" { path := "\x7btask.tags\x7d" } {} = "\x7btask.tags\x7d \x7b" ∧
    ∃ ps, IsInnermost "\x7bfile.path\x7d \x7b".toList ps ∧
      render "\x7bfile.path\x7d \x7b" { path := "\x7btask.tags\x7d" } {} =
        String.ofList (filled (value { path := "\x7btask.tags\x7d" } {}) ps) := by
  have hread : IsReading (braced "file.path".toList ++ [' ', '\x7b'])
      [.name "file.path".toList, .text [' '], .text ['\x7b']] :=
    ((isReading_nil.char (by simp [braced])).char (by simp [braced])).braced (by decide) (by decide)
  have hapart : Apart "\x7bfile.path\x7d \x7b".toList := hread.apart_iff.mpr (by simp)
  obtain ⟨-, ps, -, hrender, -, hinner⟩ :=
    render_parts "\x7bfile.path\x7d \x7b" { path := "\x7btask.tags\x7d" } {}
  exact ⟨hapart, by decide +kernel, ps, hinner hapart, hrender⟩

/-! ### Braces inside a name -/

/-- A template with a doubled brace in front of a name. -/
def doubled : String := "\x7b\x7bfile.path\x7d\x7d"

theorem isInnermost_doubled : IsInnermost doubled.toList
    [.text ['\x7b'], .name "file.path".toList, .text ['\x7d']] := by
  refine ⟨by decide, by simp [IsBare], fun before name after hbare heq => ?_⟩
  have hcut : ('\x7b' :: '\x7b' :: "file.path".toList) ++ '\x7d' :: ['\x7d'] =
      (before ++ '\x7b' :: name) ++ '\x7d' :: after := by
    simpa [braced, doubled] using heq
  rcases eq_or_exists_of_append_eq (by decide) hcut with ⟨hname, rfl⟩ | ⟨us, hname, hus⟩
  · -- The name ends at the first closing brace, so it starts behind the second opening one.
    cases before with
    | nil =>
        obtain ⟨-, rfl⟩ := List.cons.inj hname
        exact absurd (List.mem_cons_self ..) hbare.2.1
    | cons d before =>
        obtain ⟨rfl, htail⟩ := List.cons.inj hname
        cases before with
        | nil =>
            obtain ⟨-, rfl⟩ := List.cons.inj htail
            exact ⟨[_], [_], rfl, rfl, rfl⟩
        | cons e before =>
            have hpath : before ++ '\x7b' :: name = "file.path".toList := (List.cons.inj htail).2
            have hmem : '\x7b' ∈ "file.path".toList :=
              hpath ▸ List.mem_append_right _ (List.mem_cons_self ..)
            exact absurd hmem (by decide)
  · -- The second closing brace stands right behind the first one, so no name ends there.
    obtain rfl : us = [] := by
      cases us with
      | nil => rfl
      | cons u us => simp at hus
    rcases List.eq_nil_or_concat name with rfl | ⟨front, c, rfl⟩
    · exact absurd rfl hbare.1
    · have hlast : (before ++ '\x7b' :: front) ++ [c] =
          ('\x7b' :: '\x7b' :: "file.path".toList) ++ ['\x7d'] := by simpa using hname
      obtain ⟨-, hc⟩ := List.append_inj' hlast rfl
      cases hc
      exact absurd (by simp) hbare.2.2

/-- Between doubled braces the name takes the opening brace in front of it for its own, and what is
filled in is not what stands at the field. -/
theorem render_doubled :
    render doubled { path := "a.py" } {} = "<\x7bfile.path>\x7d" ∧
    (∃ ps, IsInnermost doubled.toList ps) ∧
    ∀ ps, IsInnermost doubled.toList ps →
      String.ofList (filled (value { path := "a.py" } {}) ps) = "\x7ba.py\x7d" := by
  refine ⟨by decide +kernel, ⟨_, isInnermost_doubled⟩, fun ps hps => ?_⟩
  have hbare : IsBare "file.path".toList := by simp [IsBare]
  obtain ⟨qs, rs, rfl, hqs, hrs⟩ := hps.placed ['\x7b'] _ ['\x7d'] hbare (by decide)
  have hfront : filled (value { path := "a.py" } {}) qs = ['\x7b'] :=
    (filled_eq_written (.inr (hqs ▸ by decide)) _).trans hqs
  have hback : filled (value { path := "a.py" } {}) rs = ['\x7d'] :=
    (filled_eq_written (.inl (hrs ▸ by decide)) _).trans hrs
  have hvalue : value { path := "a.py" } {} "file.path".toList = "a.py".toList := by decide
  have hfilled : filled (value { path := "a.py" } {}) (qs ++ .name "file.path".toList :: rs) =
      ['\x7b'] ++ ("a.py".toList ++ ['\x7d']) := by
    rw [← hfront, ← hback, ← hvalue]
    simp [filled]
  rw [hfilled]
  decide

end ChangeGate.Template
