import ChangeGate.Proofs.Token.Lexeme

/-! # Writing tokens

A sign is a token without a place.  `linesText` writes lines of signs: a space stands between two of
them unless they touch, and a line feed behind each line.  Texts are quoted, with a backslash before
each quote and each backslash.

`scan_linesText`: lines of signs that can be written are scanned as the tokens that they are, with a
line end behind each line. -/

namespace ChangeGate.Token

/-! ### Signs -/

/-- A word that is not reserved. -/
structure IsName (s : String) : Prop where
  word : IsWord s.toList
  free : s ∉ keywords

theorem isName_iff {s : String} : IsName s ↔ IsWord s.toList ∧ s ∉ keywords :=
  ⟨fun ⟨hword, hfree⟩ => ⟨hword, hfree⟩, fun ⟨hword, hfree⟩ => ⟨hword, hfree⟩⟩

instance : DecidablePred IsName := fun _ => decidable_of_iff _ isName_iff.symm

/-- A token without its place. -/
structure Sign where
  kind : Kind
  text : String
  deriving DecidableEq, Repr

/-- What a token is, wherever it stands. -/
def sign (t : Token) : Sign := ⟨t.kind, t.text⟩

namespace Sign

/-- A reserved word. -/
abbrev reserved (word : String) : Sign := ⟨.keyword, word⟩

/-- A name that is no reserved word. -/
abbrev name (word : String) : Sign := ⟨.name, word⟩

/-- A word, reserved or not. -/
def word (s : String) : Sign := if s ∈ keywords then reserved s else name s

theorem text_word (s : String) : (word s).text = s := by
  rw [word]
  split <;> rfl

/-- A numeral. -/
abbrev numeral (digits : String) : Sign := ⟨.number, digits⟩

/-- A text. -/
abbrev quoted (s : String) : Sign := ⟨.text, s⟩

/-- An opening brace. -/
abbrev openBrace : Sign := ⟨.openBrace, "\x7b"⟩

/-- A closing brace. -/
abbrev closeBrace : Sign := ⟨.closeBrace, "\x7d"⟩

/-- A comma. -/
abbrev comma : Sign := ⟨.comma, ","⟩

/-- A point. -/
abbrev point : Sign := ⟨.dot, "."⟩

/-- The sign between the parts of a conjunction. -/
abbrev both : Sign := ⟨.both, "&&"⟩

/-- A line end. -/
abbrev lineEnd : Sign := ⟨.lineEnd, "\n"⟩

/-- The signs that can be written on a line. -/
inductive Writable : Sign → Prop
  | reserved {word : String} (h : word ∈ keywords) : Writable (reserved word)
  | name {word : String} (h : IsName word) : Writable (name word)
  | numeral {digits : String} (h : IsNumeral digits.toList) : Writable (numeral digits)
  | quoted {s : String} : Writable (quoted s)
  | mark {kind : Kind} {c : Char} (h : mark? c = some kind) : Writable ⟨kind, .ofList [c]⟩
  | pair {kind : Kind} {c d : Char} (h : pair? c d = some kind) : Writable ⟨kind, .ofList [c, d]⟩

theorem Writable.word {s : String} (h : IsWord s.toList) : (word s).Writable := by
  rw [Sign.word]
  split
  · rename_i hs
    exact .reserved hs
  · rename_i hs
    exact .name ⟨h, hs⟩

theorem Writable.openBrace : openBrace.Writable := .mark rfl

theorem Writable.closeBrace : closeBrace.Writable := .mark rfl

theorem Writable.comma : comma.Writable := .mark rfl

theorem Writable.point : point.Writable := .mark rfl

theorem Writable.both : both.Writable := .pair rfl

end Sign

/-- A text with a backslash before each quote and each backslash. -/
def escaped (cs : List Char) : List Char :=
  cs.flatMap fun c => if c = '"' ∨ c = '\\' then ['\\', c] else [c]

/-- How a sign is written. -/
def Sign.written (s : Sign) : List Char :=
  if s.kind = .text then '"' :: escaped s.text.toList ++ ['"'] else s.text.toList

theorem escapes_escaped (cs : List Char) : Escapes (escaped cs) cs := by
  induction cs with
  | nil => exact .nil
  | cons c cs ih =>
      rw [escaped, List.flatMap_cons, ← escaped]
      split
      · exact .escaped ih
      · rename_i hc
        rw [not_or] at hc
        exact .plain hc.1 hc.2 ih

theorem isWord_of_mem_keywords : ∀ word ∈ keywords, IsWord word.toList := by decide

/-! ### Lines -/

/-- Whether nothing stands between two signs: around a point, and before a comma.  A point behind a
numeral is kept apart, since it could belong to it. -/
def Sign.touches (s t : Sign) : Bool :=
  s.kind == .dot || (s.kind != .number && (t.kind == .dot || t.kind == .comma))

/-- A line of signs. -/
def lineText : List Sign → List Char
  | [] => []
  | [s] => s.written
  | s :: t :: ss => s.written ++ ((if s.touches t then [] else [' ']) ++ lineText (t :: ss))

/-- Lines of signs, each with a line feed behind it. -/
def linesText (lines : List (List Sign)) : List Char :=
  lines.flatMap fun line => lineText line ++ ['\n']

/-- The signs of lines, each with a line end behind it. -/
def signs (lines : List (List Sign)) : List Sign :=
  lines.flatMap fun line => line ++ [.lineEnd]

/-- The lines of a block: what opens it up to the brace, its body, and the brace that closes it. -/
def blockLines (opening : List Sign) (body : List (List Sign)) : List (List Sign) :=
  (opening ++ [.openBrace]) :: (body ++ [[.closeBrace]])

theorem signs_cons (line : List Sign) (lines : List (List Sign)) :
    signs (line :: lines) = (line ++ [.lineEnd]) ++ signs lines := List.flatMap_cons

theorem signs_append (lines lines' : List (List Sign)) :
    signs (lines ++ lines') = signs lines ++ signs lines' := List.flatMap_append

theorem signs_map {α : Type} (f : α → List Sign) (xs : List α) :
    signs (xs.map f) = xs.flatMap fun x => f x ++ [.lineEnd] := List.flatMap_map ..

theorem signs_flatMap {α : Type} (f : α → List (List Sign)) (xs : List α) :
    signs (xs.flatMap f) = xs.flatMap fun x => signs (f x) := List.flatMap_assoc

theorem signs_blockLines (opening : List Sign) (body : List (List Sign)) :
    signs (blockLines opening body) =
      opening ++ ([.openBrace, .lineEnd] ++ (signs body ++ [.closeBrace, .lineEnd])) := by
  simp [blockLines, signs]

/-- A line that can be written. -/
structure IsLine (line : List Sign) : Prop where
  ne_nil : line ≠ []
  writable : ∀ s ∈ line, s.Writable

theorem isLine_pair {s t : Sign} (hs : s.Writable) (ht : t.Writable) : IsLine [s, t] :=
  ⟨List.cons_ne_nil _ _, by simp [hs, ht]⟩

theorem isLine_of_mem_blockLines {opening line : List Sign} {body : List (List Sign)}
    (hopening : ∀ s ∈ opening, s.Writable) (hbody : ∀ line ∈ body, IsLine line)
    (h : line ∈ blockLines opening body) : IsLine line := by
  rw [blockLines, List.mem_cons, List.mem_append, List.mem_singleton] at h
  rcases h with rfl | h | rfl
  · refine ⟨by simp, fun s hs => ?_⟩
    rcases List.mem_append.mp hs with hs | hs
    · exact hopening s hs
    · rw [List.mem_singleton.mp hs]
      exact .openBrace
  · exact hbody line h
  · refine ⟨by simp, fun s hs => ?_⟩
    rw [List.mem_singleton.mp hs]
    exact .closeBrace

variable {s t : Sign} {rest : List Char}

theorem Sign.Writable.kind_ne_lineEnd (h : s.Writable) : s.kind ≠ .lineEnd := by
  cases h with
  | mark h => exact (kind_of_mark? h).1
  | pair h => exact (kind_of_pair? h).1
  | _ => exact nofun

/-- A sign is a lexeme if what is behind it does not go on with it. -/
theorem Sign.Writable.lexeme (h : s.Writable)
    (hrest : s.kind ≠ .dot → ∀ c ∈ rest.head?, continuesName c = false)
    (hpoint : s.kind = .number → rest.head? ≠ some '.') :
    Lexeme s.kind s.text.toList s.written rest := by
  have hdigit (h : ∀ c ∈ rest.head?, continuesName c = false) (c : Char) (hc : c ∈ rest.head?) :
      c.isDigit = false := by
    rw [← Bool.not_eq_true]
    intro hd
    have := h c hc
    rw [continuesName_of_isDigit hd] at this
    cases this
  have hword {word : String} (hword : IsWord word.toList)
      (h : ∀ c ∈ rest.head?, continuesName c = false) : IsLongest IsWord word.toList rest := by
    generalize word.toList = cs at hword
    cases hword with
    | mk hc hcs => exact isLongest_word (.mk hc hcs) h
  cases h with
  | reserved h =>
      exact .keyword (hword (isWord_of_mem_keywords _ h) (hrest nofun))
        (by rwa [String.ofList_toList])
  | name h => exact .name (hword h.word (hrest nofun)) (by simpa using h.free)
  | @numeral digits h =>
      have hrest := hdigit (hrest nofun)
      have hpoint := hpoint rfl
      refine .number ?_
      show IsLongest IsNumeral digits.toList rest
      generalize digits.toList = cs at h
      cases h with
      | whole h => exact isLongest_whole h hrest fun d rest' heq => absurd (by rw [heq]; rfl) hpoint
      | fraction h hplaces => exact isLongest_fraction h hplaces hrest
  | quoted => exact .text (escapes_escaped _)
  | mark h =>
      rw [Sign.written, if_neg (kind_of_mark? h).2.2, String.toList_ofList]
      exact .mark h
  | pair h =>
      rw [Sign.written, if_neg (kind_of_pair? h).2.2, String.toList_ofList]
      exact .pair h

/-- No point or comma goes on with a word. -/
theorem Sign.Writable.stops (h : t.Writable) (ht : t.kind = .dot ∨ t.kind = .comma)
    (rest : List Char) : ∀ c ∈ (t.written ++ rest).head?, continuesName c = false := by
  have hmark {kind : Kind} {c : Char} (h : mark? c = some kind) : continuesName c = false := by
    unfold mark? at h
    split at h <;> first | rfl | cases h
  cases h with
  | mark h =>
      rw [Sign.written, if_neg (kind_of_mark? h).2.2, String.toList_ofList]
      rintro c' hc
      cases hc
      exact hmark h
  | pair h =>
      unfold pair? at h
      split at h <;> cases h <;> simp at ht
  | _ => simp at ht

/-! ### What a text spells -/

/-- The scanner makes signs of a text and stands at a rest of it then.  `breaks` says at both ends
whether a line end leaves a token there; places have no part in it. -/
inductive Spells : Bool → List Char → List Sign → Bool → List Char → Prop
  | done {breaks : Bool} {rest : List Char} : Spells breaks rest [] breaks rest
  | gap {breaks breaks' : Bool} {c : Char} {r raw mid rest : List Char} {ss : List Sign}
      (hhead : head c r = .gap raw mid) (h : Spells breaks mid ss breaks' rest) :
      Spells breaks (c :: r) ss breaks' rest
  | lineEnd {breaks breaks' : Bool} {mid rest : List Char} {ss : List Sign}
      (h : Spells false mid ss breaks' rest) :
      Spells breaks ('\n' :: mid) ((if breaks then [.lineEnd] else []) ++ ss) breaks' rest
  | token {breaks breaks' : Bool} {c : Char} {r raw text mid rest : List Char} {kind : Kind}
      {ss : List Sign} (hhead : head c r = .token kind text raw mid)
      (h : Spells true mid ss breaks' rest) :
      Spells breaks (c :: r) (⟨kind, .ofList text⟩ :: ss) breaks' rest

variable {breaks breaks' breaks'' : Bool} {cs mid raw gap : List Char} {ss ss' : List Sign}

theorem Spells.trans (h : Spells breaks cs ss breaks' mid)
    (h' : Spells breaks' mid ss' breaks'' rest) :
    Spells breaks cs (ss ++ ss') breaks'' rest := by
  induction h with
  | done => exact h'
  | gap hhead _ ih => exact .gap hhead (ih h')
  | lineEnd _ ih =>
      rw [List.append_assoc]
      exact .lineEnd (ih h')
  | token hhead _ ih => exact .token hhead (ih h')

/-- What is spelled is scanned, wherever it stands. -/
theorem Spells.scanFrom (h : Spells breaks cs ss breaks' rest) (p : Place) :
    ∃ front ts, cs = front ++ rest ∧ ts.map sign = ss ∧ Token.scanFrom p breaks cs =
      (Token.scanFrom (p.past front) breaks' rest).map fun (us, q) => (ts ++ us, q) := by
  induction h generalizing p with
  | @done breaks rest =>
      refine ⟨[], [], rfl, rfl, ?_⟩
      rw [Place.past_nil]
      cases Token.scanFrom p breaks rest <;> rfl
  | @gap _ _ c r raw _ _ _ hhead _ ih =>
      have hstands := head_stands c r
      rw [hhead] at hstands
      obtain ⟨front, ts, rfl, hts, hscan⟩ := ih (p.past raw)
      refine ⟨raw ++ front, ts, by rw [hstands.1, List.append_assoc], hts, ?_⟩
      rw [scanFrom_of_gap hhead, hscan, Place.past_append]
  | @lineEnd breaks breaks' mid rest ss _ ih =>
      obtain ⟨front, ts, rfl, hts, hscan⟩ := ih (p.step '\n')
      refine ⟨'\n' :: front, (if breaks then [⟨.lineEnd, "\n", p⟩] else []) ++ ts, rfl, ?_, ?_⟩
      · rw [List.map_append, hts]
        cases breaks <;> rfl
      · rw [scanFrom_lineEnd, hscan, Place.past_cons]
        cases Token.scanFrom ((p.step '\n').past front) breaks' rest <;> cases breaks <;> rfl
  | @token _ breaks' c r raw _ _ rest _ _ hhead _ ih =>
      have hstands := head_stands c r
      rw [hhead] at hstands
      obtain ⟨front, ts, rfl, hts, hscan⟩ := ih (p.past raw)
      refine ⟨raw ++ front, ⟨_, _, p⟩ :: ts, by rw [hstands.1, List.append_assoc],
        by rw [List.map_cons, hts]; rfl, ?_⟩
      rw [scanFrom_of_token hhead, hscan, Place.past_append]
      cases Token.scanFrom ((p.past raw).past front) breaks' rest <;> rfl

theorem Spells.scanFrom_eq_ok (h : Spells breaks cs ss breaks' []) (p : Place) :
    ∃ ts q, ts.map sign = ss ∧ Token.scanFrom p breaks cs = .ok (ts, q) := by
  obtain ⟨front, ts, -, hts, hscan⟩ := h.scanFrom p
  refine ⟨ts, p.past front, hts, ?_⟩
  rw [hscan, Token.scanFrom]
  simp [Except.map]

theorem spells_gap (h : Gap breaks gap rest) : Spells breaks (gap ++ rest) [] breaks rest := by
  induction h with
  | nil => exact .done
  | space hc _ ih => exact .gap (head_space hc _) ih
  | @comment words gap rest hwords hend _ ih =>
      rw [List.cons_append, List.cons_append, List.append_assoc]
      exact .gap (head_comment hwords hend) ih
  | @lineEnd gap rest hbreaks _ ih =>
      subst hbreaks
      exact .lineEnd ih

theorem spells_lexeme {text : String} {kind : Kind} (hlexeme : Lexeme kind text.toList raw mid)
    (hkind : kind ≠ .lineEnd) (h : Spells true mid ss breaks' rest) :
    Spells breaks (raw ++ mid) (⟨kind, text⟩ :: ss) breaks' rest := by
  obtain ⟨c, r, hcr, hhead⟩ := head_of_lexeme hlexeme hkind
  have htoken : Spells breaks (c :: r) _ breaks' rest := .token hhead h
  rw [String.ofList_toList] at htoken
  rwa [hcr]

/-! ### Scanning lines -/

theorem lineText_cons (s : Sign) (ss : List Sign) :
    ∃ more, lineText (s :: ss) = s.written ++ more := by
  cases ss with
  | nil => exact ⟨[], (List.append_nil _).symm⟩
  | cons t ss => exact ⟨_, rfl⟩

/-- A sign is a lexeme in front of the next one, or of the space between them. -/
theorem Sign.Writable.lexeme_next (hs : s.Writable) (ht : t.Writable) (ss : List Sign)
    (rest : List Char) : Lexeme s.kind s.text.toList s.written
      ((if s.touches t then [] else [' ']) ++ (lineText (t :: ss) ++ rest)) := by
  by_cases htouch : s.touches t = true
  · obtain ⟨more, hmore⟩ := lineText_cons t ss
    rw [if_pos htouch, List.nil_append, hmore, List.append_assoc]
    rw [Sign.touches, Bool.or_eq_true, Bool.and_eq_true, Bool.or_eq_true, beq_iff_eq, bne_iff_ne,
      beq_iff_eq, beq_iff_eq] at htouch
    refine hs.lexeme (fun hdot => ?_) fun hnumber => ?_
    · exact ht.stops (htouch.resolve_left hdot).2 _
    · rcases htouch with hdot | hnot
      · rw [hnumber] at hdot
        cases hdot
      · exact absurd hnumber hnot.1
  · -- No sign goes on with a space.
    rw [if_neg htouch]
    exact hs.lexeme (fun _ c hc => by cases hc; rfl) fun _ => nofun

/-- A line spells its signs. -/
theorem spells_lineText {line : List Sign} (hne : line ≠ []) (h : ∀ s ∈ line, s.Writable)
    (breaks : Bool) (rest : List Char) :
    Spells breaks (lineText line ++ '\n' :: rest) line true ('\n' :: rest) := by
  induction line generalizing breaks with
  | nil => exact absurd rfl hne
  | cons s ss ih =>
      obtain ⟨hs, hss⟩ := List.forall_mem_cons.mp h
      cases ss with
      | nil =>
          have hlexeme : Lexeme s.kind s.text.toList s.written ('\n' :: rest) :=
            hs.lexeme (fun _ c hc => by cases hc; rfl) fun _ => nofun
          exact spells_lexeme hlexeme hs.kind_ne_lineEnd .done
      | cons t ss =>
          obtain ⟨ht, -⟩ := List.forall_mem_cons.mp hss
          have hgap : Gap true (if s.touches t then [] else [' '])
              (lineText (t :: ss) ++ '\n' :: rest) := by
            split
            · exact .nil
            · exact .space rfl .nil
          rw [lineText, List.append_assoc, List.append_assoc]
          exact spells_lexeme (hs.lexeme_next ht ss _) hs.kind_ne_lineEnd
            ((spells_gap hgap).trans (ih (List.cons_ne_nil _ _) hss true))

/-- Lines spell their signs, with a line end behind each line. -/
theorem spells_linesText {lines : List (List Sign)} (h : ∀ line ∈ lines, IsLine line) :
    Spells false (linesText lines) (signs lines) false [] := by
  induction lines with
  | nil => exact .done
  | cons line lines ih =>
      obtain ⟨hline, hlines⟩ := List.forall_mem_cons.mp h
      rw [linesText, List.flatMap_cons, List.append_assoc, List.singleton_append, ← linesText,
        signs_cons, List.append_assoc]
      exact (spells_lineText hline.ne_nil hline.writable false _).trans (.lineEnd (ih hlines))

/-- Lines of signs are scanned as these, with a line end behind each line. -/
theorem scan_linesText {lines : List (List Sign)} (h : ∀ line ∈ lines, IsLine line) :
    ∃ ts q, ts.map sign = signs lines ∧ scan (.ofList (linesText lines)) = .ok (ts, q) := by
  rw [scan, String.toList_ofList]
  exact (spells_linesText h).scanFrom_eq_ok .start

end ChangeGate.Token
