import ChangeGate.Proofs.Token.Printing

/-! # Joining sources

`Spells` is what the scanner makes of a text as far as signs go, wherever the text stands
(`spells_of_scanFrom`).  A line feed goes on with no lexeme, so a text spells the same in front of
one (`Spells.behind_lineFeed`), and a text without flaws has none in front of a line feed, unless a
literal goes over it (`Spells.front_of_append`).

Signs are laid out in lines if each line has blanks in front of it at most (`LaidOut`); then they
are spelled by their text (`LaidOut.spells`). -/

namespace ChangeGate.Token

variable {kind : Kind} {c d : Char} {r cs f raw text rest more : List Char} {breaks : Bool}
  {ss ss' : List Sign}

/-! ### Heads in front of another rest -/

theorem head_eq_gap_iff : head c r = .gap raw rest ↔
    isSpace c = true ∧ raw = [c] ∧ rest = r ∨
      ∃ words, '\n' ∉ words ∧ (∀ a ∈ rest.head?, a = '\n') ∧ c = '/' ∧
        r = '/' :: (words ++ rest) ∧ raw = '/' :: '/' :: words := by
  constructor
  · intro h
    unfold head at h
    split at h
    · cases h
    split at h
    · rename_i hc
      cases h
      exact .inl ⟨hc, rfl, rfl⟩
    split at h
    · rename_i hcomment
      obtain ⟨rfl, hr⟩ := hcomment
      obtain ⟨r, rfl⟩ := List.head?_eq_some_iff.mp hr
      rw [List.takeWhile_cons_of_pos (by decide), List.dropWhile_cons_of_pos (by decide)] at h
      cases h
      refine .inr ⟨r.takeWhile (· != '\n'), fun hmem => ?_, fun a ha => ?_, rfl, ?_, rfl⟩
      · simpa using List.mem_takeWhile_imp hmem
      · simpa using Text.head?_dropWhile_eq_false a ha
      · rw [List.takeWhile_append_dropWhile]
    repeat' split at h
    all_goals cases h
  · rintro (⟨hc, rfl, rfl⟩ | ⟨words, hwords, hend, rfl, rfl, rfl⟩)
    · exact head_space hc _
    · exact head_comment hwords hend

theorem prefix_of_prefix_append_cons {m : List Char} (hd : d ∉ m) (h : m <+: f ++ d :: more) :
    m <+: f := by
  obtain ⟨k, hk⟩ := h
  rcases List.append_eq_append_iff.mp hk with ⟨a, rfl, -⟩ | ⟨a, rfl, ha⟩
  · exact List.prefix_append _ _
  · cases a with
    | nil => simp
    | cons e a =>
        cases ha
        exact absurd (by simp) hd

/-- What is the longest text of a sort stays it in front of another rest that starts with no
character of such a text. -/
theorem IsLongest.behind {sort : List Char → Prop}
    (hmore : ∀ d ∈ more.head?, ∀ cs, sort cs → d ∉ cs) (h : IsLongest sort raw (f ++ rest)) :
    IsLongest sort raw (f ++ more) := by
  refine ⟨h.holds, fun m hm hlonger => h.longest m ?_ hlonger⟩
  cases more with
  | nil =>
      rw [List.append_nil] at hm
      exact hm.trans (List.prefix_append _ _)
  | cons d more =>
      have hnot : d ∉ m := fun hmem => hmore d rfl _ hlonger (List.mem_append_right _ hmem)
      exact (prefix_of_prefix_append_cons hnot hm).trans (List.prefix_append _ _)

theorem IsWord.not_mem (hd : continuesName d = false) (h : IsWord cs) : d ∉ cs := by
  obtain ⟨hc, hcs⟩ := h
  have hall : ∀ a ∈ _ :: _, continuesName a = true :=
    List.forall_mem_cons.mpr ⟨continuesName_of_startsName hc, hcs⟩
  intro hmem
  rw [hall d hmem] at hd
  cases hd

theorem IsNumeral.not_mem (hd : continuesName d = false) (hpoint : d ≠ '.') (h : IsNumeral cs) :
    d ∉ cs := by
  intro hmem
  rcases h.isDigit_or_eq hmem with hdigit | hdot
  · rw [continuesName_of_isDigit hdigit] at hd
    cases hd
  · exact hpoint hdot

/-- A text starts with no character that goes on with a lexeme. -/
def Stops (cs : List Char) : Prop := ∀ d ∈ cs.head?, continuesName d = false ∧ d ≠ '.'

theorem stops_cons_iff : Stops (d :: more) ↔ continuesName d = false ∧ d ≠ '.' := by
  simp [Stops]

theorem stops_lineFeed (more : List Char) : Stops ('\n' :: more) :=
  stops_cons_iff.mpr ⟨rfl, by decide⟩

/-- A lexeme stays one in front of another rest that does not go on with it. -/
theorem Lexeme.behind (hmore : Stops more) (h : Lexeme kind text raw (f ++ rest)) :
    Lexeme kind text raw (f ++ more) := by
  have hword : ∀ d ∈ more.head?, ∀ cs, IsWord cs → d ∉ cs := fun d hd _ h =>
    h.not_mem (hmore d hd).1
  cases h with
  | lineEnd => exact .lineEnd
  | mark h => exact .mark h
  | pair h => exact .pair h
  | text h => exact .text h
  | number h => exact .number (h.behind fun d hd _ h => h.not_mem (hmore d hd).1 (hmore d hd).2)
  | keyword h hraw => exact .keyword (h.behind hword) hraw
  | name h hraw => exact .name (h.behind hword) hraw

theorem head_token_behind (h : head c (r ++ rest) = .token kind text raw (f ++ rest))
    (hmore : Stops more) : head c (r ++ more) = .token kind text raw (f ++ more) := by
  have hstands := head_stands c (r ++ rest)
  rw [h] at hstands
  obtain ⟨hsplit, hlexeme, hkind⟩ := hstands
  have hfront : c :: r = raw ++ f := by
    rw [← List.cons_append, ← List.append_assoc] at hsplit
    exact List.append_cancel_right hsplit
  have hlexeme' : Lexeme kind text raw (f ++ more) := hlexeme.behind hmore
  obtain ⟨c', r', heq, hhead⟩ := head_of_lexeme hlexeme' hkind
  rw [← List.append_assoc, ← hfront, List.cons_append] at heq
  cases heq
  exact hhead

/-! ### In front of a line feed -/

theorem head_gap_lineFeed (h : head c r = .gap raw rest) (more : List Char) :
    head c (r ++ '\n' :: more) = .gap raw (rest ++ '\n' :: more) := by
  rw [head_eq_gap_iff] at h ⊢
  rcases h with ⟨hc, rfl, rfl⟩ | ⟨words, hwords, hend, rfl, rfl, rfl⟩
  · exact .inl ⟨hc, rfl, rfl⟩
  · refine .inr ⟨words, hwords, fun a ha => ?_, rfl, by simp, rfl⟩
    cases rest with
    | nil => exact (Option.some.inj ha).symm
    | cons b rest => exact hend a ha

theorem head_token_lineFeed (h : head c r = .token kind text raw rest) (more : List Char) :
    head c (r ++ '\n' :: more) = .token kind text raw (rest ++ '\n' :: more) := by
  rw [← List.append_nil r, ← List.append_nil rest] at h
  exact head_token_behind h (stops_lineFeed more)

theorem textSpan_append_eq_none (h : textSpan r = none) (hmore : '"' ∉ more) :
    textSpan (r ++ more) = none := by
  refine Option.eq_none_iff_forall_ne_some.mpr fun ⟨raw, rest⟩ hsome => ?_
  obtain ⟨inside, rfl, hsplit, hinside⟩ := escapes_of_textSpan hsome
  rcases List.append_eq_append_iff.mp hsplit with ⟨a, rfl, rfl⟩ | ⟨a, rfl, ha⟩
  · exact hmore (by simp)
  · cases a with
    | nil =>
        obtain rfl : '"' :: rest = more := ha
        exact hmore (by simp)
    | cons e a =>
        cases ha
        rw [(textSpan_of_escapes hinside a).1] at h
        cases h

theorem pair?_lineFeed (c : Char) : pair? c '\n' = none := by
  unfold pair?
  split <;> simp_all

/-- A flaw stays one in front of a line feed, if no quote behind it closes a literal. -/
theorem head_flaw_behind {flaw : Flaw} (h : head c r = .flaw flaw) (hmore : '"' ∉ more) :
    head c (r ++ '\n' :: more) = .flaw flaw := by
  cases flaw with
  | unclosedText =>
      rw [head_eq_unclosedText_iff] at h ⊢
      exact ⟨h.1, textSpan_append_eq_none h.2 (by simpa using hmore)⟩
  | unexpected d =>
      rw [head_eq_unexpected_iff] at h ⊢
      obtain ⟨hc, hline, hspace, hcomment, hpair, hother⟩ := h
      refine ⟨hc, hline, hspace, ?_, ?_, hother⟩
      · cases r with
        | nil => simp
        | cons e r => exact hcomment
      · cases r with
        | nil => exact pair?_lineFeed c
        | cons e r => exact hpair

/-! ### What joined texts spell -/

variable {breaks' breaks'' : Bool} {mid : List Char} {p q : Place} {ts : List Token}

theorem spells_of_scanFrom (h : scanFrom p breaks cs = .ok (ts, q)) :
    ∃ breaks', Spells breaks cs (ts.map sign) breaks' [] := by
  fun_induction scanFrom p breaks cs generalizing ts q with
  | case1 =>
      cases h
      exact ⟨_, .done⟩
  | case2 p breaks c r raw rest hhead hlt ih =>
      obtain ⟨breaks', hrest⟩ := ih h
      exact ⟨breaks', .gap hhead hrest⟩
  | case3 p breaks c r rest hhead hlt us q' hrest ih =>
      have hstands := head_stands c r
      rw [hhead] at hstands
      cases (hstands : c :: r = '\n' :: rest)
      cases h
      obtain ⟨breaks', hrest⟩ := ih hrest
      have hline (b : Bool) : Spells b ('\n' :: r) _ breaks' [] := .lineEnd hrest
      cases breaks with
      | true => exact ⟨breaks', hline true⟩
      | false => exact ⟨breaks', hline false⟩
  | case4 => cases h
  | case5 p breaks c r kind text raw rest hhead hlt us q' hrest ih =>
      cases h
      obtain ⟨breaks', hrest⟩ := ih hrest
      exact ⟨breaks', .token hhead hrest⟩
  | case6 => cases h
  | case7 => cases h

/-- A text spells the same in front of a line feed. -/
theorem Spells.behind_lineFeed (h : Spells breaks cs ss breaks' []) (more : List Char) :
    Spells breaks (cs ++ '\n' :: more) ss breaks' ('\n' :: more) := by
  generalize hrest : ([] : List Char) = rest at h
  induction h with
  | done => exact hrest ▸ .done
  | gap hhead _ ih => exact .gap (head_gap_lineFeed hhead more) (ih hrest)
  | lineEnd _ ih => exact .lineEnd (ih hrest)
  | token hhead _ ih => exact .token (head_token_lineFeed hhead more) (ih hrest)

section

variable {flaw : Flaw}

theorem Spells.of_gap (h : Spells breaks (c :: r) ss breaks' []) (hhead : head c r = .gap raw mid) :
    Spells breaks mid ss breaks' [] := by
  cases h with
  | gap hhead' h =>
      cases hhead.symm.trans hhead'
      exact h
  | lineEnd h => cases hhead
  | token hhead' h => cases hhead.symm.trans hhead'

theorem Spells.of_lineEnd (h : Spells breaks ('\n' :: mid) ss breaks' []) :
    ∃ ss', ss = (if breaks then [.lineEnd] else []) ++ ss' ∧ Spells false mid ss' breaks' [] := by
  cases h with
  | gap hhead h => cases hhead
  | lineEnd h => exact ⟨_, rfl, h⟩
  | token hhead h => cases hhead

theorem Spells.of_token (h : Spells breaks (c :: r) ss breaks' [])
    (hhead : head c r = .token kind text raw mid) :
    ∃ ss', ss = ⟨kind, .ofList text⟩ :: ss' ∧ Spells true mid ss' breaks' [] := by
  cases h with
  | gap hhead' h => cases hhead.symm.trans hhead'
  | lineEnd h => cases hhead
  | token hhead' h =>
      cases hhead.symm.trans hhead'
      exact ⟨_, rfl, h⟩

theorem Spells.head_ne_flaw (h : Spells breaks (c :: r) ss breaks' []) : head c r ≠ .flaw flaw := by
  intro hhead
  cases h with
  | gap hhead' _ => cases hhead.symm.trans hhead'
  | lineEnd _ => cases hhead
  | token hhead' _ => cases hhead.symm.trans hhead'

end

/-- What a text spells starts with what a front of it spells. -/
theorem Spells.split (h : Spells breaks cs ss breaks' mid) (h' : Spells breaks cs ss' breaks'' []) :
    ∃ rest, ss' = ss ++ rest ∧ Spells breaks' mid rest breaks'' [] := by
  induction h generalizing ss' with
  | done => exact ⟨ss', rfl, h'⟩
  | gap hhead _ ih => exact ih (h'.of_gap hhead)
  | lineEnd _ ih =>
      obtain ⟨ss₁, rfl, h₁⟩ := h'.of_lineEnd
      obtain ⟨rest, rfl, hrest⟩ := ih h₁
      exact ⟨rest, by rw [List.append_assoc], hrest⟩
  | token hhead _ ih =>
      obtain ⟨ss₁, rfl, h₁⟩ := h'.of_token hhead
      obtain ⟨rest, rfl, hrest⟩ := ih h₁
      exact ⟨rest, rfl, hrest⟩

/-! ### Line ends at the edges -/

/-- Where a line end leaves no token, none is spelled first. -/
theorem Spells.head_kind (h : Spells false cs ss breaks' rest) :
    ∀ s ∈ ss.head?, s.kind ≠ .lineEnd := by
  generalize hbreaks : false = breaks at h
  induction h with
  | done => nofun
  | gap _ _ ih => exact ih hbreaks
  | lineEnd _ ih =>
      subst hbreaks
      exact ih rfl
  | token hhead _ _ =>
      rintro _ ⟨⟩
      exact kind_ne_lineEnd_of_head hhead

/-- Where a line end leaves no token, the same is spelled but for a first line end. -/
theorem Spells.unbroken (h : Spells breaks cs ss breaks' []) :
    ∃ ss' breaks'', Spells false cs ss' breaks'' [] ∧ (ss = ss' ∨ ss = .lineEnd :: ss') := by
  generalize hnil : ([] : List Char) = rest at h
  induction h with
  | done => exact ⟨[], false, .done, .inl rfl⟩
  | gap hhead _ ih =>
      obtain ⟨ss', breaks'', h', hss⟩ := ih hnil
      exact ⟨ss', breaks'', .gap hhead h', hss⟩
  | @lineEnd breaks _ _ _ _ h _ =>
      refine ⟨_, _, .lineEnd h, ?_⟩
      cases breaks with
      | true => exact .inr rfl
      | false => exact .inl rfl
  | token hhead h _ => exact ⟨_, _, .token hhead h, .inl rfl⟩

/-- A line end leaves a token behind any sign but another line end. -/
theorem Spells.breaks_eq (h : Spells breaks cs ss breaks' rest) :
    breaks' = ss.getLast?.elim breaks (·.kind != .lineEnd) := by
  induction h with
  | done => rfl
  | gap _ _ ih => exact ih
  | @lineEnd breaks _ _ _ ss _ ih =>
      rw [ih, List.getLast?_append]
      cases ss.getLast? with
      | some s => rfl
      | none => cases breaks <;> rfl
  | @token _ _ _ _ _ _ _ _ _ ss hhead _ ih =>
      rw [ih, List.getLast?_cons]
      cases ss.getLast? with
      | some s => rfl
      | none => exact (bne_iff_ne.mpr (kind_ne_lineEnd_of_head hhead)).symm

/-- A text that spells something does so up to each of its line feeds that no quote follows. -/
theorem Spells.front_of_append (h : Spells breaks (cs ++ '\n' :: more) ss breaks' [])
    (hmore : '"' ∉ more) : ∃ ss' breaks'', Spells breaks cs ss' breaks'' [] := by
  induction hlen : cs.length using Nat.strong_induction_on generalizing cs breaks ss with
  | _ n ih =>
      cases cs with
      | nil => exact ⟨[], breaks, .done⟩
      | cons c r =>
          have hlt := Head.rest_lt c r
          match hhead : head c r with
          | .flaw flaw => exact absurd (head_flaw_behind hhead hmore) h.head_ne_flaw
          | .gap raw mid =>
              rw [hhead] at hlt
              have h₁ := h.of_gap (head_gap_lineFeed hhead more)
              obtain ⟨ss', breaks'', h'⟩ := ih _ (hlen ▸ hlt) h₁ rfl
              exact ⟨ss', breaks'', .gap hhead h'⟩
          | .lineEnd mid =>
              rw [hhead] at hlt
              have hstands := head_stands c r
              rw [hhead] at hstands
              cases (hstands : c :: r = '\n' :: mid)
              obtain ⟨_, -, h₁⟩ := h.of_lineEnd
              obtain ⟨ss', breaks'', h'⟩ := ih _ (hlen ▸ hlt) h₁ rfl
              exact ⟨_, breaks'', .lineEnd h'⟩
          | .token kind text raw mid =>
              rw [hhead] at hlt
              obtain ⟨_, -, h₁⟩ := h.of_token (head_token_lineFeed hhead more)
              obtain ⟨ss', breaks'', h'⟩ := ih _ (hlen ▸ hlt) h₁ rfl
              exact ⟨_, breaks'', .token hhead h'⟩

/-! ### Closing braces -/

theorem Lexeme.eq_closeBrace (h : Lexeme .closeBrace text raw rest) : raw = ['\x7d'] := by
  cases h with
  | mark h =>
      unfold mark? at h
      split at h <;> simp_all
  | pair h =>
      unfold pair? at h
      split at h <;> simp_all

/-- A closing brace in a longer lexeme stands in a literal. -/
theorem Lexeme.kind_of_mem_closeBrace (h : Lexeme kind text raw rest) (hmem : '\x7d' ∈ raw)
    (hraw : raw ≠ ['\x7d']) : kind = .text := by
  cases h with
  | lineEnd => simp at hmem
  | mark h => exact absurd (List.mem_singleton.mp hmem ▸ rfl) hraw
  | @pair _ c d _ h =>
      unfold pair? at h
      split at h <;> simp_all
  | text => rfl
  | number h => exact absurd hmem (h.holds.not_mem rfl (by decide))
  | keyword h _ => exact absurd hmem (h.holds.not_mem rfl)
  | name h _ => exact absurd hmem (h.holds.not_mem rfl)

/-- A text without closing braces spells none. -/
theorem Spells.kind_ne_closeBrace (h : Spells breaks cs ss breaks' []) (hcs : '\x7d' ∉ cs) :
    ∀ s ∈ ss, s.kind ≠ .closeBrace := by
  generalize ([] : List Char) = rest at h
  induction h with
  | done => simp
  | @gap _ _ c r raw mid _ _ hhead _ ih =>
      have hstands := head_stands c r
      rw [hhead] at hstands
      exact ih fun hmem => hcs (hstands.1 ▸ List.mem_append_right _ hmem)
  | @lineEnd breaks _ _ _ _ _ ih =>
      refine List.forall_mem_append.mpr ⟨fun s hs => ?_, ih fun hmem => hcs (.tail _ hmem)⟩
      cases breaks <;> simp_all
  | @token _ _ c r raw text mid _ kind _ hhead _ ih =>
      have hstands := head_stands c r
      rw [hhead] at hstands
      obtain ⟨hsplit, hlexeme, -⟩ := hstands
      rw [hsplit] at hcs
      refine List.forall_mem_cons.mpr ⟨?_, ih fun hmem => hcs (List.mem_append_right _ hmem)⟩
      rintro rfl
      rw [hlexeme.eq_closeBrace] at hcs
      exact hcs (by simp)

theorem head_closeBrace (r : List Char) :
    head '\x7d' r = .token .closeBrace ['\x7d'] ['\x7d'] r := by cases r <;> rfl

/-- A comment goes over a closing brace, or ends before it. -/
theorem head_gap_closeBrace (hhead : head c (f ++ '\x7d' :: rest) = .gap raw mid) :
    (∃ f', mid = f' ++ '\x7d' :: rest ∧ head c (f ++ ['\x7d']) = .gap raw (f' ++ ['\x7d'])) ∨
      (∃ words, rest = words ++ mid) ∧ ∃ raw', head c (f ++ ['\x7d']) = .gap raw' [] := by
  rw [head_eq_gap_iff] at hhead
  rcases hhead with ⟨hc, rfl, rfl⟩ | ⟨words, hwords, hend, rfl, hsplit, rfl⟩
  · exact .inl ⟨f, rfl, head_space hc _⟩
  cases f with
  | nil => cases hsplit
  | cons e f =>
      rw [List.cons_append] at hsplit ⊢
      obtain ⟨rfl, htail⟩ := List.cons.inj hsplit
      rcases List.append_eq_append_iff.mp htail with ⟨a, rfl, ha⟩ | ⟨a, rfl, rfl⟩
      · cases a with
        | nil =>
            obtain rfl : '\x7d' :: rest = mid := ha
            exact absurd (hend _ rfl) (by decide)
        | cons b a =>
            rw [List.cons_append] at ha
            obtain ⟨rfl, rfl⟩ := List.cons.inj ha
            have hfront : '\n' ∉ f ++ ['\x7d'] := by simp_all
            refine .inr ⟨⟨a, rfl⟩, '/' :: '/' :: (f ++ ['\x7d']), ?_⟩
            conv_lhs => rw [← List.append_nil (f ++ ['\x7d'])]
            exact head_comment hfront nofun
      · refine .inl ⟨a, rfl, ?_⟩
        rw [List.append_assoc]
        refine head_comment hwords fun b hb => ?_
        cases a with
        | nil => exact absurd (hend _ rfl) (by decide)
        | cons b' a => exact hend b hb

/-- A literal goes over a closing brace, or the token ends before it. -/
theorem head_token_closeBrace (hhead : head c (f ++ '\x7d' :: rest) = .token kind text raw mid) :
    (∃ f', mid = f' ++ '\x7d' :: rest ∧
      head c (f ++ ['\x7d']) = .token kind text raw (f' ++ ['\x7d'])) ∨
      (∃ words, rest = words ++ mid) ∧ kind = .text := by
  have hstands := head_stands c (f ++ '\x7d' :: rest)
  rw [hhead] at hstands
  obtain ⟨hsplit, hlexeme, -⟩ := hstands
  have hstops : Stops ['\x7d'] := stops_cons_iff.mpr ⟨rfl, by decide⟩
  rw [← List.cons_append] at hsplit
  rcases List.append_eq_append_iff.mp hsplit with ⟨a, rfl, ha⟩ | ⟨a, hraw, rfl⟩
  · cases a with
    | nil =>
        obtain rfl : '\x7d' :: rest = mid := ha
        exact .inl ⟨[], rfl, head_token_behind (f := []) hhead hstops⟩
    | cons b a =>
        rw [List.cons_append] at ha
        obtain ⟨rfl, rfl⟩ := List.cons.inj ha
        exact .inr ⟨⟨a, rfl⟩, hlexeme.kind_of_mem_closeBrace (by simp) (by simp)⟩
  · exact .inl ⟨a, rfl, head_token_behind hhead hstops⟩

/-- Up to the last closing brace a text spells what it does, unless a literal goes over it; no
closing brace is spelled behind. -/
theorem Spells.front_of_closeBrace (h : Spells breaks (f ++ '\x7d' :: rest) ss breaks' [])
    (hrest : '\x7d' ∉ rest) :
    ∃ ss₁ ss₂, ss = ss₁ ++ ss₂ ∧ (∀ s ∈ ss₂, s.kind ≠ .closeBrace) ∧
      ((∃ breaks'', Spells breaks (f ++ ['\x7d']) ss₁ breaks'' []) ∨
        ∃ s ∈ ss₂.head?, s.kind = .text) := by
  generalize hcs : f ++ '\x7d' :: rest = cs at h
  generalize hnil : ([] : List Char) = last at h
  induction h generalizing f with
  | done => exact absurd (hcs.trans hnil.symm) (by simp)
  | @gap breaks breaks' c r raw mid last ss hhead h ih =>
      subst hnil
      cases f with
      | nil =>
          obtain ⟨rfl, rfl⟩ := List.cons.inj hcs
          cases (head_closeBrace rest).symm.trans hhead
      | cons e f =>
          obtain ⟨rfl, rfl⟩ := List.cons.inj hcs
          rcases head_gap_closeBrace hhead with ⟨f', rfl, hhead'⟩ | ⟨⟨words, rfl⟩, raw', hhead'⟩
          · obtain ⟨ss₁, ss₂, rfl, hnone, ⟨b, h₁⟩ | htext⟩ := ih rfl rfl
            · exact ⟨ss₁, ss₂, rfl, hnone, .inl ⟨b, .gap hhead' h₁⟩⟩
            · exact ⟨ss₁, ss₂, rfl, hnone, .inr htext⟩
          · have hmid : '\x7d' ∉ mid := fun hmem => hrest (List.mem_append_right _ hmem)
            exact ⟨[], ss, rfl, h.kind_ne_closeBrace hmid, .inl ⟨breaks, .gap hhead' .done⟩⟩
  | @lineEnd breaks breaks' mid last ss h ih =>
      subst hnil
      cases f with
      | nil => cases hcs
      | cons e f =>
          obtain ⟨rfl, rfl⟩ := List.cons.inj hcs
          obtain ⟨ss₁, ss₂, rfl, hnone, ⟨b, h₁⟩ | htext⟩ := ih rfl rfl
          · exact ⟨_, ss₂, (List.append_assoc ..).symm, hnone, .inl ⟨b, .lineEnd h₁⟩⟩
          · exact ⟨_, ss₂, (List.append_assoc ..).symm, hnone, .inr htext⟩
  | @token breaks breaks' c r raw text mid last kind ss hhead h ih =>
      subst hnil
      cases f with
      | nil =>
          obtain ⟨rfl, rfl⟩ := List.cons.inj hcs
          cases (head_closeBrace rest).symm.trans hhead
          exact ⟨[_], ss, rfl, h.kind_ne_closeBrace hrest,
            .inl ⟨true, .token (head_closeBrace []) .done⟩⟩
      | cons e f =>
          obtain ⟨rfl, rfl⟩ := List.cons.inj hcs
          rcases head_token_closeBrace hhead with ⟨f', rfl, hhead'⟩ | ⟨⟨words, rfl⟩, rfl⟩
          · obtain ⟨ss₁, ss₂, rfl, hnone, ⟨b, h₁⟩ | htext⟩ := ih rfl rfl
            · exact ⟨_ :: ss₁, ss₂, rfl, hnone, .inl ⟨b, .token hhead' h₁⟩⟩
            · exact ⟨_ :: ss₁, ss₂, rfl, hnone, .inr htext⟩
          · have hmid : '\x7d' ∉ mid := fun hmem => hrest (List.mem_append_right _ hmem)
            refine ⟨[], _, rfl, ?_, .inr ⟨_, rfl, rfl⟩⟩
            exact List.forall_mem_cons.mpr ⟨nofun, h.kind_ne_closeBrace hmid⟩

/-! ### Lines with blanks in front -/

/-- A text is made of lines of signs, each with blanks in front of it and a line feed behind it. -/
inductive LaidOut : List (List Sign) → List Char → Prop
  | nil : LaidOut [] []
  | cons {front cs : List Char} {line : List Sign} {lines : List (List Sign)}
      (hfront : ∀ c ∈ front, isSpace c = true ∨ c = '\n') (hline : IsLine line)
      (h : LaidOut lines cs) : LaidOut (line :: lines) (front ++ (lineText line ++ '\n' :: cs))

theorem LaidOut.append {lines lines' : List (List Sign)} {cs' : List Char} (h : LaidOut lines cs)
    (h' : LaidOut lines' cs') : LaidOut (lines ++ lines') (cs ++ cs') := by
  induction h with
  | nil => exact h'
  | cons hfront hline _ ih =>
      rw [List.append_assoc, List.append_assoc]
      exact .cons hfront hline ih

/-- An empty line may stand in front of the first line. -/
theorem LaidOut.behind_lineFeed {line : List Sign} {lines : List (List Sign)}
    (h : LaidOut (line :: lines) cs) : LaidOut (line :: lines) ('\n' :: cs) := by
  cases h with
  | cons hfront hline h =>
      rw [← List.cons_append]
      exact .cons (List.forall_mem_cons.mpr ⟨.inr rfl, hfront⟩) hline h

theorem gap_of_blanks {front : List Char} (h : ∀ c ∈ front, isSpace c = true ∨ c = '\n')
    (rest : List Char) : Gap false front rest := by
  induction front with
  | nil => exact .nil
  | cons c front ih =>
      obtain ⟨hc | rfl, hfront⟩ := List.forall_mem_cons.mp h
      · exact .space hc (ih hfront)
      · exact .lineEnd rfl (ih hfront)

/-- Lines that are laid out spell their signs, with a line end behind each line. -/
theorem LaidOut.spells {lines : List (List Sign)} (h : LaidOut lines cs) (rest : List Char) :
    Spells false (cs ++ rest) (signs lines) false rest := by
  induction h with
  | nil => exact .done
  | cons hfront hline _ ih =>
      rw [List.append_assoc, List.append_assoc, List.cons_append, signs_cons, List.append_assoc]
      exact (spells_gap (gap_of_blanks hfront _)).trans
        ((spells_lineText hline.ne_nil hline.writable false _).trans (.lineEnd ih))

end ChangeGate.Token
