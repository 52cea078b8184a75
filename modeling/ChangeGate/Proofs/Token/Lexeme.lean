import ChangeGate.Proofs.Text.Runs
import ChangeGate.Token.Scan
import Mathlib.Data.List.Infix

/-! # Gaps and lexemes

Two relations say what may stand in a source.  `Lexeme` is what a token is written as, where words
and numerals are the longest ones that stand there (`IsLongest`), and `Gap` is what may stand
between tokens.  Both look at the text behind them.

The scanner goes over a gap and leaves nothing (`scanFrom_gap`), and takes a lexeme and leaves its
token (`scanFrom_lexeme`).  What it takes for a gap or for a token is one
(`head_stands`). -/

namespace ChangeGate.Token

/-! ### Words, numerals and literals -/

/-- A name or a reserved word. -/
inductive IsWord : List Char → Prop
  | mk {c : Char} {cs : List Char} (hc : startsName c = true)
      (hcs : ∀ d ∈ cs, continuesName d = true) : IsWord (c :: cs)

/-- A run of digits. -/
structure IsDigits (cs : List Char) : Prop where
  ne_nil : cs ≠ []
  digits : ∀ c ∈ cs, c.isDigit = true

/-- A run of digits with an optional fraction. -/
inductive IsNumeral : List Char → Prop
  | whole {cs : List Char} (h : IsDigits cs) : IsNumeral cs
  | fraction {cs places : List Char} (h : IsDigits cs) (hplaces : IsDigits places) :
      IsNumeral (cs ++ '.' :: places)

/-- The inside of a literal stands for a text.  A backslash stands before each quote and each
backslash of the text, and may stand before any other character. -/
inductive Escapes : List Char → List Char → Prop
  | nil : Escapes [] []
  | plain {c : Char} {raw text : List Char} (hquote : c ≠ '"') (hbackslash : c ≠ '\\')
      (h : Escapes raw text) : Escapes (c :: raw) (c :: text)
  | escaped {c : Char} {raw text : List Char} (h : Escapes raw text) :
      Escapes ('\\' :: c :: raw) (c :: text)

/-- The longest text of a sort at the front of `front ++ rest`. -/
structure IsLongest (sort : List Char → Prop) (front rest : List Char) : Prop where
  holds : sort front
  longest : ∀ more, more <+: rest → sort (front ++ more) → more = []

theorem IsLongest.unique {sort : List Char → Prop} {front front' rest rest' : List Char}
    (h : IsLongest sort front rest) (h' : IsLongest sort front' rest')
    (heq : front ++ rest = front' ++ rest') : front = front' ∧ rest = rest' := by
  rcases List.append_eq_append_iff.mp heq with ⟨more, rfl, rfl⟩ | ⟨more, rfl, rfl⟩
  · obtain rfl := h.longest more (List.prefix_append _ _) h'.holds
    simp
  · obtain rfl := h'.longest more (List.prefix_append _ _) h.holds
    simp

/-- No text of the sort goes on with the next character. -/
theorem isLongest_of_next {sort : List Char → Prop} {front rest : List Char} (h : sort front)
    (hnext : ∀ c more rest', rest = c :: (more ++ rest') → ¬ sort (front ++ c :: more)) :
    IsLongest sort front rest := by
  refine ⟨h, fun more hmore hlonger => ?_⟩
  cases more with
  | nil => rfl
  | cons c more =>
      obtain ⟨rest', rfl⟩ := hmore
      exact absurd hlonger (hnext c more rest' rfl)

theorem isWord_iff {c : Char} {cs : List Char} :
    IsWord (c :: cs) ↔ startsName c = true ∧ ∀ d ∈ cs, continuesName d = true :=
  ⟨fun | .mk hc hcs => ⟨hc, hcs⟩, fun ⟨hc, hcs⟩ => .mk hc hcs⟩

instance : DecidablePred IsWord
  | [] => isFalse nofun
  | c :: cs => decidable_of_iff ((startsName c && cs.all continuesName) = true) <| by
      rw [Bool.and_eq_true, List.all_eq_true, isWord_iff]

theorem isDigits_iff {cs : List Char} : IsDigits cs ↔ (cs != [] && cs.all Char.isDigit) = true := by
  rw [Bool.and_eq_true, List.all_eq_true, bne_iff_ne]
  exact ⟨fun ⟨hne, hdigits⟩ => ⟨hne, hdigits⟩, fun ⟨hne, hdigits⟩ => ⟨hne, hdigits⟩⟩

instance : DecidablePred IsDigits := fun _ => decidable_of_iff _ isDigits_iff.symm

/-- A word ends before a character that continues no name. -/
theorem isLongest_word {c : Char} {cs rest : List Char} (hword : IsWord (c :: cs))
    (hrest : ∀ d ∈ rest.head?, continuesName d = false) : IsLongest IsWord (c :: cs) rest := by
  refine isLongest_of_next hword ?_
  rintro d more rest' rfl hlonger
  have hd := hrest d rfl
  rw [List.cons_append, isWord_iff] at hlonger
  rw [hlonger.2 d (by simp)] at hd
  cases hd

theorem IsNumeral.isDigit_or_eq {cs : List Char} (h : IsNumeral cs) {c : Char} (hc : c ∈ cs) :
    c.isDigit = true ∨ c = '.' := by
  cases h with
  | whole h => exact .inl (h.digits c hc)
  | fraction h hplaces =>
      rcases List.mem_append.mp hc with hc | hc
      · exact .inl (h.digits c hc)
      · rcases List.mem_cons.mp hc with rfl | hc
        · exact .inr rfl
        · exact .inl (hplaces.digits c hc)

theorem not_isDigits_of_mem {cs : List Char} (hpoint : '.' ∈ cs) : ¬ IsDigits cs := fun h =>
  absurd (h.digits '.' hpoint) (by decide)

theorem IsDigits.ne_point {cs : List Char} (h : IsDigits cs) : ∀ c ∈ cs, (c != '.') = true := by
  intro c hc
  rw [bne_iff_ne]
  rintro rfl
  exact not_isDigits_of_mem hc h

/-- A numeral has one point, and digits behind it. -/
theorem IsNumeral.behind_point {cs places : List Char} (h : IsNumeral (cs ++ '.' :: places)) :
    IsDigits cs ∧ IsDigits places := by
  generalize heq : cs ++ '.' :: places = numeral at h
  cases h with
  | whole h => exact absurd h (not_isDigits_of_mem (by simp [← heq]))
  | @fraction cs' places' h hplaces =>
      rcases List.append_eq_append_iff.mp heq with ⟨more, rfl, hmore⟩ | ⟨more, rfl, hmore⟩
      · cases more with
        | nil =>
            cases hmore
            exact ⟨by simpa using h, hplaces⟩
        | cons d more =>
            cases hmore
            exact absurd h (not_isDigits_of_mem (by simp))
      · cases more with
        | nil =>
            cases hmore
            exact ⟨by simpa using h, hplaces⟩
        | cons d more =>
            cases hmore
            exact absurd hplaces (not_isDigits_of_mem (by simp))

/-- A whole numeral ends before what is neither a digit nor a point with a digit behind it. -/
theorem isLongest_whole {cs rest : List Char} (h : IsDigits cs)
    (hdigit : ∀ d ∈ rest.head?, d.isDigit = false)
    (hpoint : ∀ d rest', rest = '.' :: d :: rest' → d.isDigit = false) :
    IsLongest IsNumeral cs rest := by
  refine isLongest_of_next (.whole h) ?_
  rintro c more rest' rfl hlonger
  have hc : c.isDigit = false := hdigit c rfl
  obtain rfl : c = '.' := by
    simpa [hc] using hlonger.isDigit_or_eq (c := c) (by simp)
  have hplaces := hlonger.behind_point.2
  cases more with
  | nil => exact absurd rfl hplaces.ne_nil
  | cons d more =>
      have hd := hpoint d (more ++ rest') rfl
      rw [hplaces.digits d (by simp)] at hd
      cases hd

/-- A numeral with a fraction ends before what is no digit. -/
theorem isLongest_fraction {cs places rest : List Char} (h : IsDigits cs)
    (hplaces : IsDigits places) (hdigit : ∀ d ∈ rest.head?, d.isDigit = false) :
    IsLongest IsNumeral (cs ++ '.' :: places) rest := by
  refine isLongest_of_next (.fraction h hplaces) ?_
  rintro c more rest' rfl hlonger
  have hc : c.isDigit = false := hdigit c rfl
  rw [List.append_assoc, List.cons_append] at hlonger
  have hlong := hlonger.behind_point.2.digits c (by simp)
  rw [hc] at hlong
  cases hlong

/-- The scanner takes the longest word. -/
theorem isLongest_takeWhile {c : Char} (hc : startsName c = true) (cs : List Char) :
    IsLongest IsWord (c :: cs.takeWhile continuesName) (cs.dropWhile continuesName) :=
  isLongest_word (.mk hc fun _ h => List.mem_takeWhile_imp h) Text.head?_dropWhile_eq_false

theorem isDigits_cons_takeWhile {c : Char} (hc : c.isDigit = true) (cs : List Char) :
    IsDigits (c :: cs.takeWhile Char.isDigit) :=
  ⟨List.cons_ne_nil _ _, List.forall_mem_cons.mpr ⟨hc, fun _ h => List.mem_takeWhile_imp h⟩⟩

/-- The scanner takes the longest numeral. -/
theorem isLongest_numeralSpan {c : Char} (hc : c.isDigit = true) (r : List Char) :
    IsLongest IsNumeral (numeralSpan (c :: r)).1 (numeralSpan (c :: r)).2 ∧
      (numeralSpan (c :: r)).1 ++ (numeralSpan (c :: r)).2 = c :: r := by
  have hwhole := isDigits_cons_takeWhile hc r
  have hsplit : (r.takeWhile Char.isDigit) ++ r.dropWhile Char.isDigit = r :=
    List.takeWhile_append_dropWhile
  have hhead : ∀ d ∈ (r.dropWhile Char.isDigit).head?, d.isDigit = false :=
    Text.head?_dropWhile_eq_false
  rw [numeralSpan, List.takeWhile_cons_of_pos hc, List.dropWhile_cons_of_pos hc]
  split
  · rename_i d r' hrest
    rw [hrest] at hsplit
    split
    · rename_i hd
      have hplaces := isDigits_cons_takeWhile hd r'
      refine ⟨isLongest_fraction hwhole hplaces Text.head?_dropWhile_eq_false, ?_⟩
      simp only [List.append_assoc, List.cons_append, List.takeWhile_append_dropWhile, hsplit]
    · rename_i hd
      refine ⟨isLongest_whole hwhole (by simp) ?_, by rw [List.cons_append, hsplit]⟩
      rintro d' rest' heq
      cases heq
      exact Bool.not_eq_true _ ▸ hd
  · rename_i rest hrest
    refine ⟨isLongest_whole hwhole hhead ?_, by rw [List.cons_append, hsplit]⟩
    rintro d rest' heq
    exact absurd heq (hrest d rest')

theorem textSpan_of_escapes {raw text : List Char} (h : Escapes raw text) (rest : List Char) :
    textSpan (raw ++ '"' :: rest) = some (raw ++ ['"'], rest) ∧
      unescape (raw ++ ['"']) = text := by
  induction h with
  | nil => exact ⟨rfl, rfl⟩
  | plain hquote hbackslash _ ih =>
      refine ⟨?_, ?_⟩
      · rw [List.cons_append, textSpan, ih.1] <;> simp [hquote, hbackslash]
      · rw [List.cons_append, unescape, ih.2] <;> simp [hquote, hbackslash]
  | escaped _ ih =>
      refine ⟨?_, ?_⟩
      · rw [List.cons_append, List.cons_append, textSpan, ih.1]
        simp
      · rw [List.cons_append, List.cons_append, unescape, ih.2]

/-- A literal that is not found is never closed. -/
theorem ne_of_textSpan_eq_none {cs : List Char} (h : textSpan cs = none) :
    ∀ inside text after, Escapes inside text → cs ≠ inside ++ '"' :: after := by
  rintro inside text after hinside rfl
  rw [(textSpan_of_escapes hinside after).1] at h
  cases h

theorem escapes_of_textSpan {cs raw rest : List Char} (h : textSpan cs = some (raw, rest)) :
    ∃ inside, raw = inside ++ ['"'] ∧ cs = inside ++ '"' :: rest ∧
      Escapes inside (unescape raw) := by
  fun_induction textSpan cs generalizing raw rest with
  | case1 => cases h
  | case2 r =>
      cases h
      exact ⟨[], rfl, rfl, .nil⟩
  | case3 => cases h
  | case4 c r ih =>
      obtain ⟨⟨raw', rest'⟩, h', heq⟩ := Option.map_eq_some_iff.mp h
      cases heq
      obtain ⟨inside, rfl, rfl, hinside⟩ := ih h'
      refine ⟨'\\' :: c :: inside, rfl, rfl, ?_⟩
      rw [unescape]
      exact .escaped hinside
  | case5 c r hquote hlast hbackslash ih =>
      obtain ⟨⟨raw', rest'⟩, h', heq⟩ := Option.map_eq_some_iff.mp h
      cases heq
      obtain ⟨inside, rfl, rfl, hinside⟩ := ih h'
      have hc : c ≠ '\\' := by
        rintro rfl
        cases inside <;> simp_all
      have hc' : c ≠ '"' := by
        rintro rfl
        simp_all
      refine ⟨c :: inside, rfl, rfl, ?_⟩
      rw [unescape] <;> simp_all [Escapes.plain]

/-! ### What may stand in a source -/

/-- What a token of a kind and a text is written as, in front of a rest. -/
inductive Lexeme : Kind → List Char → List Char → List Char → Prop
  | lineEnd {rest : List Char} : Lexeme .lineEnd ['\n'] ['\n'] rest
  | mark {kind : Kind} {c : Char} {rest : List Char} (h : mark? c = some kind) :
      Lexeme kind [c] [c] rest
  | pair {kind : Kind} {c d : Char} {rest : List Char} (h : pair? c d = some kind) :
      Lexeme kind [c, d] [c, d] rest
  | text {raw text rest : List Char} (h : Escapes raw text) :
      Lexeme .text text ('"' :: raw ++ ['"']) rest
  | number {raw rest : List Char} (h : IsLongest IsNumeral raw rest) : Lexeme .number raw raw rest
  | keyword {raw rest : List Char} (h : IsLongest IsWord raw rest)
      (hraw : String.ofList raw ∈ keywords) : Lexeme .keyword raw raw rest
  | name {raw rest : List Char} (h : IsLongest IsWord raw rest)
      (hraw : String.ofList raw ∉ keywords) : Lexeme .name raw raw rest

/-- What may stand between tokens, in front of a rest: blanks, comments up to the end of their line,
and line ends where these leave no token. -/
inductive Gap (breaks : Bool) : List Char → List Char → Prop
  | nil {rest : List Char} : Gap breaks [] rest
  | space {c : Char} {gap rest : List Char} (hc : isSpace c = true) (h : Gap breaks gap rest) :
      Gap breaks (c :: gap) rest
  | comment {words gap rest : List Char} (hwords : '\n' ∉ words)
      (hend : ∀ c ∈ (gap ++ rest).head?, c = '\n') (h : Gap breaks gap rest) :
      Gap breaks ('/' :: '/' :: (words ++ gap)) rest
  | lineEnd {gap rest : List Char} (hbreaks : breaks = false) (h : Gap breaks gap rest) :
      Gap breaks ('\n' :: gap) rest

variable {kind : Kind} {c : Char} {r text raw rest gap : List Char} {breaks : Bool}

theorem kind_of_mark? (h : mark? c = some kind) :
    kind ≠ .lineEnd ∧ kind ≠ .sourceEnd ∧ kind ≠ .text := by
  unfold mark? at h
  split at h <;> cases h <;> decide

theorem kind_of_pair? {d : Char} (h : pair? c d = some kind) :
    kind ≠ .lineEnd ∧ kind ≠ .sourceEnd ∧ kind ≠ .text := by
  unfold pair? at h
  split at h <;> cases h <;> decide

theorem Lexeme.ne_sourceEnd (h : Lexeme kind text raw rest) : kind ≠ .sourceEnd := by
  cases h with
  | mark h => exact (kind_of_mark? h).2.1
  | pair h => exact (kind_of_pair? h).2.1
  | _ => exact nofun

/-- The text of a token that is no literal is what is written. -/
theorem Lexeme.raw_eq (h : Lexeme kind text raw rest) (hkind : kind ≠ .text) : raw = text := by
  cases h with
  | text h => exact absurd rfl hkind
  | _ => rfl

/-! ### What the scanner finds -/

/-- What is found at the head of a text stands there. -/
def Head.Stands (cs : List Char) : Head → Prop
  | .gap raw rest => cs = raw ++ rest ∧ ∀ {breaks gap rest'}, rest = gap ++ rest' →
      Gap breaks gap rest' → Gap breaks (raw ++ gap) rest'
  | .lineEnd rest => cs = '\n' :: rest
  | .token kind text raw rest => cs = raw ++ rest ∧ Lexeme kind text raw rest ∧ kind ≠ .lineEnd
  | .flaw _ => True

theorem head_stands (c : Char) (r : List Char) : (head c r).Stands (c :: r) := by
  unfold head
  split
  · rename_i hc
    rw [hc]
    rfl
  split
  · rename_i hc
    exact ⟨rfl, fun _ hgap => .space hc hgap⟩
  split
  · rename_i hcomment
    obtain ⟨rfl, hr⟩ := hcomment
    obtain ⟨r, rfl⟩ := List.head?_eq_some_iff.mp hr
    rw [List.takeWhile_cons_of_pos (by decide), List.dropWhile_cons_of_pos (by decide)]
    refine ⟨by simp [List.takeWhile_append_dropWhile], fun hrest hgap => ?_⟩
    refine .comment (fun hmem => ?_) (fun c hc => ?_) hgap
    · simpa using List.mem_takeWhile_imp hmem
    · rw [← hrest] at hc
      simpa using Text.head?_dropWhile_eq_false c hc
  split
  · rename_i hpair
    obtain ⟨d, hd, hpair⟩ := Option.bind_eq_some_iff.mp hpair
    obtain ⟨r, rfl⟩ := List.head?_eq_some_iff.mp hd
    exact ⟨rfl, .pair hpair, (kind_of_pair? hpair).1⟩
  split
  · rename_i hmark
    exact ⟨rfl, .mark hmark, (kind_of_mark? hmark).1⟩
  split
  · rename_i hquote
    split
    · rename_i htext
      obtain ⟨inside, rfl, rfl, hinside⟩ := escapes_of_textSpan htext
      subst hquote
      exact ⟨by simp, .text hinside, nofun⟩
    · trivial
  split
  · rename_i hdigit
    obtain ⟨hlongest, hsplit⟩ := isLongest_numeralSpan hdigit r
    exact ⟨hsplit.symm, .number hlongest, nofun⟩
  split
  · rename_i hstart
    have hword := isLongest_takeWhile hstart r
    refine ⟨by rw [List.cons_append, List.takeWhile_append_dropWhile], ?_⟩
    split
    · rename_i hkey
      exact ⟨.keyword hword (List.contains_iff_mem.mp hkey), nofun⟩
    · rename_i hkey
      exact ⟨.name hword fun h => hkey (List.contains_iff_mem.mpr h), nofun⟩
  · trivial

/-- The head of a text takes its first character, so what follows the head ends the text behind
it. -/
theorem Head.rest_suffix (c : Char) (r : List Char) : (head c r).rest <:+ r := by
  have hstands := head_stands c r
  have hlt := rest_lt c r
  have hbehind {raw rest : List Char} (hsplit : c :: r = raw ++ rest)
      (hlt : rest.length < r.length + 1) : rest <:+ r := by
    rcases List.suffix_cons_iff.mp ⟨raw, hsplit.symm⟩ with rfl | h
    · exact absurd hlt (Nat.lt_irrefl _)
    · exact h
  cases hhead : head c r with
  | gap raw rest =>
      rw [hhead] at hstands hlt
      exact hbehind hstands.1 hlt
  | lineEnd rest =>
      rw [hhead] at hstands
      exact (List.cons.inj hstands).2 ▸ List.suffix_rfl
  | token kind text raw rest =>
      rw [hhead] at hstands hlt
      exact hbehind hstands.1 hlt
  | flaw f => exact List.nil_suffix

/-- No token but a line end is a line end. -/
theorem kind_ne_lineEnd_of_head (h : head c r = .token kind text raw rest) : kind ≠ .lineEnd := by
  have hstands := head_stands c r
  rw [h] at hstands
  exact hstands.2.2

/-! ### What the scanner takes -/

theorem head_space (hc : isSpace c = true) (r : List Char) : head c r = .gap [c] r := by
  have hline : c ≠ '\n' := by
    rintro rfl
    exact absurd hc (by decide)
  rw [head, if_neg hline, if_pos hc]

/-- A comment goes up to the end of its line. -/
theorem head_comment {words : List Char} (hwords : '\n' ∉ words)
    (hend : ∀ c ∈ rest.head?, c = '\n') :
    head '/' ('/' :: (words ++ rest)) = .gap ('/' :: '/' :: words) rest := by
  have hall : ∀ d ∈ words, (d != '\n') = true := fun d hd => by
    rw [bne_iff_ne]
    rintro rfl
    exact hwords hd
  have hstop : ∀ d ∈ rest.head?, (d != '\n') = false := fun d hd => by simp [hend d hd]
  rw [head, if_neg (by decide), if_neg (by decide), if_pos ⟨rfl, rfl⟩,
    List.takeWhile_cons_of_pos (by decide), List.dropWhile_cons_of_pos (by decide),
    Text.takeWhile_run hall hstop, Text.dropWhile_run hall hstop]

/-- A character of a word or a numeral starts nothing else. -/
theorem head_of_continuesName (hc : continuesName c = true) (r : List Char) :
    head c r =
      if c.isDigit then
        .token .number (numeralSpan (c :: r)).1 (numeralSpan (c :: r)).1 (numeralSpan (c :: r)).2
      else
        let raw := c :: r.takeWhile continuesName
        .token (if keywords.contains (String.ofList raw) then .keyword else .name) raw raw
          (r.dropWhile continuesName) := by
  have hne : ∀ d, continuesName d = false → c ≠ d := by
    rintro d hd rfl
    rw [hc] at hd
    cases hd
  have hspace : ¬ isSpace c = true := by
    simp [isSpace, hne ' ' rfl, hne '\t' rfl, hne '\r' rfl]
  have hpair : r.head?.bind (pair? c) = none := by
    refine Option.bind_eq_none_iff.mpr fun d _ => ?_
    rw [pair?]
    · exact fun h => absurd h (hne '-' rfl)
    · exact fun h => absurd h (hne '=' rfl)
    · exact fun h => absurd h (hne '!' rfl)
    · exact fun h => absurd h (hne '&' rfl)
  have hmark : mark? c = none := by
    rw [mark?] <;> exact fun h => absurd h (hne _ rfl)
  rw [head, if_neg (hne '\n' rfl), if_neg hspace, if_neg (fun h => hne '/' rfl h.1), hpair]
  simp only [hmark, if_neg (hne '"' rfl)]
  split
  · rfl
  · rename_i hdigit
    rw [if_pos (by simpa [continuesName, hdigit] using hc)]

theorem continuesName_of_startsName (hc : startsName c = true) : continuesName c = true := by
  rw [continuesName, hc, Bool.true_or]

theorem continuesName_of_isDigit (hc : c.isDigit = true) : continuesName c = true := by
  rw [continuesName, hc, Bool.or_true]

theorem isDigit_eq_false_of_startsName (hc : startsName c = true) : c.isDigit = false := by
  rw [← Bool.not_eq_true, Char.isDigit_iff_toNat]
  rintro ⟨-, hnine⟩
  obtain rfl | hletter : c = '_' ∨ c.isAlpha = true := by simpa [startsName, or_comm] using hc
  · exact absurd hnine (by decide)
  · have hA : 'A'.toNat ≤ c.toNat := by
      rcases Bool.or_eq_true_iff.mp hletter with hupper | hlower
      · exact UInt32.le_iff_toNat_le.mp (of_decide_eq_true hupper).1
      · have ha : 'a'.val ≤ c.val := of_decide_eq_true (Bool.and_eq_true_iff.mp hlower).1
        exact le_trans (by decide) (UInt32.le_iff_toNat_le.mp ha)
    exact absurd (hA.trans hnine) (by decide)

theorem head_text {r : List Char} (h : textSpan r = some (raw, rest)) :
    head '"' r = .token .text (unescape raw) ('"' :: raw) rest := by
  have hpair : r.head?.bind (pair? '"') = none := by
    cases r <;> rfl
  rw [head, if_neg (by decide), if_neg (by decide), if_neg fun h => absurd h.1 (by decide), hpair]
  simp only [h]
  rfl

theorem head_number (h : IsLongest IsNumeral raw rest) :
    ∃ c r, raw ++ rest = c :: r ∧ head c r = .token .number raw raw rest := by
  obtain ⟨c, raw', rfl, hc⟩ : ∃ c raw', raw = c :: raw' ∧ c.isDigit = true := by
    cases h.holds with
    | whole hdigits =>
        obtain ⟨c, raw', rfl⟩ := List.exists_cons_of_ne_nil hdigits.ne_nil
        exact ⟨c, raw', rfl, hdigits.digits c (by simp)⟩
    | @fraction cs places hdigits _ =>
        obtain ⟨c, cs', rfl⟩ := List.exists_cons_of_ne_nil hdigits.ne_nil
        exact ⟨c, cs' ++ '.' :: places, rfl, hdigits.digits c (by simp)⟩
  obtain ⟨hspan, hsplit⟩ := isLongest_numeralSpan hc (raw' ++ rest)
  obtain ⟨hraw, hrest⟩ := hspan.unique h hsplit
  exact ⟨c, raw' ++ rest, rfl, by
    rw [head_of_continuesName (continuesName_of_isDigit hc), if_pos hc, hraw, hrest]⟩

theorem head_word (h : IsLongest IsWord raw rest) :
    ∃ c r, raw ++ rest = c :: r ∧ head c r = .token
      (if keywords.contains (String.ofList raw) then .keyword else .name) raw raw rest := by
  obtain @⟨c, cs, hc, hcs⟩ := h.holds
  obtain ⟨hraw, hrest⟩ := (isLongest_takeWhile hc (cs ++ rest)).unique h (by
    rw [List.cons_append, List.takeWhile_append_dropWhile, List.cons_append])
  exact ⟨c, cs ++ rest, rfl, by
    rw [head_of_continuesName (continuesName_of_startsName hc),
      if_neg (by simp [isDigit_eq_false_of_startsName hc]), hraw, hrest]⟩

/-- A lexeme at the head of a text is taken for its token. -/
theorem head_of_lexeme (h : Lexeme kind text raw rest) (hkind : kind ≠ .lineEnd) :
    ∃ c r, raw ++ rest = c :: r ∧ head c r = .token kind text raw rest := by
  cases h with
  | lineEnd => exact absurd rfl hkind
  | @mark _ c _ h =>
      refine ⟨c, rest, rfl, ?_⟩
      unfold mark? at h
      split at h <;> cases h <;> cases rest <;> rfl
  | @pair _ c d _ h =>
      refine ⟨c, d :: rest, rfl, ?_⟩
      unfold pair? at h
      split at h <;> cases h <;> rfl
  | @text inside _ _ h =>
      obtain ⟨hspan, htext⟩ := textSpan_of_escapes h rest
      refine ⟨'"', inside ++ '"' :: rest, by simp, ?_⟩
      rw [head_text hspan, htext]
      rfl
  | number h => exact head_number h
  | keyword h hraw =>
      obtain ⟨c, r, hcr, hhead⟩ := head_word h
      exact ⟨c, r, hcr, by rw [hhead, if_pos (List.contains_iff_mem.mpr hraw)]⟩
  | name h hraw =>
      obtain ⟨c, r, hcr, hhead⟩ := head_word h
      exact ⟨c, r, hcr, by rw [hhead, if_neg fun h => hraw (List.contains_iff_mem.mp h)]⟩

/-! ### Flaws -/

theorem head_eq_unclosedText_iff :
    head c r = .flaw .unclosedText ↔ c = '"' ∧ textSpan r = none := by
  constructor
  · intro h
    unfold head at h
    repeat' split at h
    all_goals cases h
    rename_i hquote _ htext
    exact ⟨hquote, htext⟩
  · rintro ⟨rfl, htext⟩
    have hpair : r.head?.bind (pair? '"') = none := by
      cases r <;> rfl
    rw [head, if_neg (by decide), if_neg (by decide), if_neg fun h => absurd h.1 (by decide), hpair]
    simp only [htext]
    rfl

/-- An unexpected character is found by it and the character behind it. -/
theorem head_eq_unexpected_iff {d : Char} : head c r = .flaw (.unexpected d) ↔ c = d ∧
    c ≠ '\n' ∧ isSpace c = false ∧ ¬ (c = '/' ∧ r.head? = some '/') ∧
      r.head?.bind (pair? c) = none ∧ mark? c = none ∧ c ≠ '"' ∧ continuesName c = false := by
  constructor
  · intro h
    unfold head at h
    repeat' split at h
    all_goals cases h
    simp_all [continuesName]
  · rintro ⟨rfl, hline, hspace, hcomment, hpair, hmark, hquote, hname⟩
    rw [continuesName, Bool.or_eq_false_iff] at hname
    rw [head, if_neg hline, if_neg (by simp [hspace]), if_neg hcomment, hpair]
    simp [hmark, hquote, hname]

/-! ### Scanning on -/

/-- The scanner's step, without the reason why it ends. -/
theorem scanFrom_cons (p : Place) (breaks : Bool) (c : Char) (r : List Char) :
    scanFrom p breaks (c :: r) =
      match head c r with
      | .gap raw rest => scanFrom (p.past raw) breaks rest
      | .lineEnd rest => (scanFrom (p.step '\n') false rest).map fun (ts, q) =>
          (if breaks then ⟨.lineEnd, "\n", p⟩ :: ts else ts, q)
      | .token kind text raw rest => (scanFrom (p.past raw) true rest).map fun (ts, q) =>
          (⟨kind, String.ofList text, p⟩ :: ts, q)
      | .flaw f => .error (f, p) := by
  rw [scanFrom]
  split <;> rename_i hhead <;> simp only [hhead]
  case h_2 rest => cases scanFrom (p.step '\n') false rest <;> rfl
  case h_3 raw rest => cases scanFrom (p.past raw) true rest <;> rfl

theorem scanFrom_of_gap (h : head c r = .gap raw rest) (p : Place) (breaks : Bool) :
    scanFrom p breaks (c :: r) = scanFrom (p.past raw) breaks rest := by
  rw [scanFrom_cons, h]

theorem scanFrom_lineEnd (p : Place) (breaks : Bool) (rest : List Char) :
    scanFrom p breaks ('\n' :: rest) = (scanFrom (p.step '\n') false rest).map fun (ts, q) =>
      (if breaks then ⟨.lineEnd, "\n", p⟩ :: ts else ts, q) := by
  have hhead : head '\n' rest = .lineEnd rest := rfl
  rw [scanFrom_cons, hhead]

theorem scanFrom_of_token (h : head c r = .token kind text raw rest) (p : Place) (breaks : Bool) :
    scanFrom p breaks (c :: r) = (scanFrom (p.past raw) true rest).map fun (ts, q) =>
      (⟨kind, String.ofList text, p⟩ :: ts, q) := by
  rw [scanFrom_cons, h]

theorem scanFrom_of_flaw {f : Flaw} (h : head c r = .flaw f) (p : Place) (breaks : Bool) :
    scanFrom p breaks (c :: r) = .error (f, p) := by
  rw [scanFrom_cons, h]

/-- A gap leaves no token. -/
theorem scanFrom_gap (h : Gap breaks gap rest) (p : Place) :
    scanFrom p breaks (gap ++ rest) = scanFrom (p.past gap) breaks rest := by
  induction h generalizing p with
  | nil => rfl
  | space hc _ ih => rw [List.cons_append, scanFrom_of_gap (head_space hc _), ih]; rfl
  | @comment words gap rest hwords hend _ ih =>
      rw [List.cons_append, List.cons_append, List.append_assoc,
        scanFrom_of_gap (head_comment hwords hend), ih, ← Place.past_append]
      rfl
  | @lineEnd gap rest hbreaks _ ih =>
      subst hbreaks
      rw [List.cons_append, scanFrom_lineEnd, ih, Place.past_cons]
      cases scanFrom ((p.step '\n').past gap) false rest <;> rfl

/-- A lexeme leaves its token. -/
theorem scanFrom_lexeme (h : Lexeme kind text raw rest) (hbreaks : kind = .lineEnd → breaks = true)
    (p : Place) : scanFrom p breaks (raw ++ rest) =
      (scanFrom (p.past raw) (kind != .lineEnd) rest).map fun (ts, q) =>
        (⟨kind, String.ofList text, p⟩ :: ts, q) := by
  by_cases hkind : kind = .lineEnd
  · subst hkind
    obtain rfl := hbreaks rfl
    cases h with
    | lineEnd => exact scanFrom_lineEnd p true rest
    | mark h => exact absurd rfl (kind_of_mark? h).1
    | pair h => exact absurd rfl (kind_of_pair? h).1
  · obtain ⟨c, r, hcr, hhead⟩ := head_of_lexeme h hkind
    rw [hcr, scanFrom_of_token hhead, bne_iff_ne.mpr hkind]

end ChangeGate.Token
