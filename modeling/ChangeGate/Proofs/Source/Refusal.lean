import ChangeGate.Number.Basic
import ChangeGate.Proofs.Source.Yields
import ChangeGate.Proofs.Token.Flaws

/-! # Where a source is refused

A source with a flaw is refused at the place of the flaw (`points_of_scan_error`).  A reader
blames good tokens if what it refuses is one of them or their end whenever all tokens at hand are
good, and if a numeral that is too long to be read is one of them too.  The combinators keep this:
`Blames.bind`, `Blames.ite` and `Blames.repeated`.

`exists_read_or_points`: what a source is read as, or the place of it that a syntax error points
at. -/

namespace ChangeGate

namespace Token

/-! ### Flaws -/

/-- What a flaw is found at: a character that opens no token, or a quote that is not closed. -/
inductive Flaw.IsAt : Flaw → List Char → Prop
  | unexpected (c : Char) (rest : List Char) : IsAt (.unexpected c) (c :: rest)
  | unclosedText {rest : List Char}
      (h : ∀ inside text after, Escapes inside text → rest ≠ inside ++ '"' :: after) :
      IsAt .unclosedText ('"' :: rest)

theorem isAt_of_head {c : Char} {r : List Char} {f : Flaw} (h : head c r = .flaw f) :
    f.IsAt (c :: r) := by
  cases f with
  | unexpected d =>
      obtain ⟨rfl, -⟩ := head_eq_unexpected_iff.mp h
      exact .unexpected c r
  | unclosedText =>
      obtain ⟨rfl, htext⟩ := head_eq_unclosedText_iff.mp h
      exact .unclosedText (ne_of_textSpan_eq_none htext)

/-- A numeral that is too long to be read. -/
def IsLong (t : Token) : Prop := t.kind = .number ∧ Number.ofNumeral? t.text.toList = none

/-- A numeral that is too long is a run of digits. -/
theorem ofNumeral?_eq_none_iff {cs : List Char} (h : IsNumeral cs) :
    Number.ofNumeral? cs = none ↔ IsDigits cs ∧ Text.longestNumeral < cs.length := by
  rw [Number.ofNumeral?]
  cases h with
  | whole h =>
      rw [List.dropWhile_eq_nil_iff.mpr h.ne_point, List.takeWhile_eq_self_iff.mpr h.ne_point]
      simp [h]
  | @fraction digits places h hplaces =>
      have hpoint : '.' ∈ digits ++ '.' :: places := by simp
      rw [List.dropWhile_append_of_pos h.ne_point, List.dropWhile_cons_of_neg (by decide)]
      simp [not_isDigits_of_mem hpoint]

end Token

namespace Source

variable {α β σ : Type}

/-! ### What a reader blames -/

/-- A refusal is at a good token or at the end of the tokens, and a long numeral is a good token. -/
def Refusal.IsAt (good : Token → Prop) : Refusal → Prop
  | .problem _ got => ∀ t ∈ got, good t
  | .longNumeral => ∃ t, good t ∧ t.IsLong

/-- Among good tokens a reader refuses good tokens only. -/
def Blames (good : Token → Prop) (r : Reader α) : Prop :=
  ∀ ts e, (∀ t ∈ ts, good t) → r ts = .error e → e.IsAt good

/-- A reader that goes by the next token is not stopped by a long numeral. -/
theorem Pinpoints.ne_longNumeral {follow : List Token → Prop} {r : Reader α} (h : Pinpoints follow r)
    (ts : List Token) : r ts ≠ .error .longNumeral := by
  obtain ⟨front, rest, rfl, -, ⟨x, htakes⟩ | ⟨p, hrefuses⟩⟩ := h ts
  · rw [htakes rest rfl]
    exact nofun
  · rw [hrefuses rest rfl]
    exact nofun

/-- A reader yields that it takes tokens from the front, whatever else it yields. -/
theorem Yields.anywhere {good good' : Token → Prop} {Q : α → Prop} {r : Reader α}
    (h : Yields good Q r) : Yields good' (fun _ => True) r :=
  fun ts x rest hread => ⟨(h ts x rest hread).1, fun _ => trivial⟩

theorem bind_eq_error_iff {r : Reader α} {f : α → Reader β} {ts : List Token} {e : Refusal} :
    (r >>= f) ts = .error e ↔
      r ts = .error e ∨ ∃ x mid, r ts = .ok (x, mid) ∧ f x mid = .error e := by
  cases h : r ts with
  | error e' =>
      rw [bind_of_error f h]
      simp
  | ok read =>
      obtain ⟨x, mid⟩ := read
      rw [bind_of_ok f h]
      simp

namespace Blames

variable {good : Token → Prop} {Q : α → Prop} {r r' : Reader α} {f : α → Reader β}

/-- A reader that goes by the next token blames it. -/
theorem of_pinpoints {follow : List Token → Prop} (h : Pinpoints follow r) : Blames good r := by
  intro ts e hts hread
  obtain ⟨front, rest, rfl, -, ⟨x, htakes⟩ | ⟨p, hrefuses⟩⟩ := h ts
  · rw [htakes rest rfl] at hread
    cases hread
  · rw [hrefuses rest rfl] at hread
    cases hread
    exact fun t ht => hts t (List.mem_append_right _ (List.mem_of_mem_head? ht))

theorem pure {x : α} : Blames good (Pure.pure x) := by
  intro ts e hts h
  cases h

theorem get : Blames good (get : Reader (List Token)) := by
  intro ts e hts h
  cases h

theorem refuse (p : Problem) : Blames good (refuse p : Reader α) := by
  intro ts e hts h
  cases h
  exact fun t ht => hts t (List.mem_of_mem_head? ht)

theorem ite {c : Prop} [Decidable c] (hr : Blames good r) (hr' : Blames good r') :
    Blames good (if c then r else r') := by
  split
  · exact hr
  · exact hr'

/-- What the first reader yields may be used of the second one. -/
theorem bind (hr : Blames good r) (hy : Yields good Q r) (hf : ∀ x, Q x → Blames good (f x)) :
    Blames good (r >>= f) := by
  intro ts e hts h
  rcases bind_eq_error_iff.mp h with hread | ⟨x, mid, hread, h⟩
  · exact hr ts e hts hread
  · obtain ⟨hmid, hx⟩ := hy ts x mid hread
    exact hf x (hx hts) mid e (fun t ht => hts t (hmid.subset ht)) h

theorem bind_pure {g : α → β} (hr : Blames good r) :
    Blames good (r >>= fun x => Pure.pure (g x)) := by
  intro ts e hts h
  rcases bind_eq_error_iff.mp h with hread | ⟨x, mid, -, h⟩
  · exact hr ts e hts hread
  · cases h

theorem takeIf (ok : Token → Bool) (p : Problem) : Blames good (takeIf ok p) := by
  intro ts e hts h
  cases ts with
  | nil => exact refuse p [] e hts h
  | cons t ts =>
      rw [Source.takeIf] at h
      split at h
      · cases h
      · exact refuse p (t :: ts) e hts h

theorem take (kind : Token.Kind) : Blames good (take kind) := takeIf _ _

theorem literal (kind : Token.Kind) :
    Blames good (do return (← Source.take kind).text : Reader String) :=
  (take kind).bind_pure

theorem skipLineEnds : Blames good skipLineEnds := of_pinpoints .skipLineEnds

theorem endStatement : Blames good endStatement := of_pinpoints .endStatement

theorem openBlock : Blames good openBlock := of_pinpoints .openBlock

theorem closeBlock : Blames good closeBlock := of_pinpoints .closeBlock

/-- What each step blames, a repetition blames. -/
theorem repeated {done : List Token → Bool} {step : σ → Reader σ}
    (hstep : ∀ s, Blames good (step s)) (hy : ∀ s, Yields good (fun _ => True) (step s)) (s : σ) :
    Blames good (repeated done step s) := by
  intro ts e hts h
  induction hlen : ts.length using Nat.strong_induction_on generalizing s ts with
  | _ n ih =>
      rw [Source.repeated, loop] at h
      split at h
      · cases h
      · split at h
        · rename_i hread
          cases h
          exact hstep s ts e hts hread
        · rename_i s' rest hread
          split at h
          · rename_i hlt
            have hrest := (hy s ts s' rest hread).1
            exact ih _ (hlen ▸ hlt) s' rest (fun t ht => hts t (hrest.subset ht)) h rfl
          · cases h

theorem items {done : List Token → Bool} {item : Reader α} (hitem : Blames good item)
    (hy : Yields good Q item) (xs : List α) : Blames good (items done item xs) :=
  repeated (fun _ => hitem.bind_pure)
    (fun _ => hy.bind fun _ => .pure fun _ => trivial) xs

/-- A reader refuses one of the tokens at hand. -/
theorem got_mem (h : ∀ good, Blames good r) (ts : List Token) (p : Problem) (got : Option Token)
    (hread : r ts = .error (.problem p got)) : ∀ t ∈ got, t ∈ ts :=
  h (· ∈ ts) ts _ (fun _ ht => ht) hread

end Blames

/-! ### What a syntax error points at -/

/-- What a defect is found at: its flaw, the token that is refused, or the end of the source. -/
inductive Defect.IsAt : Defect → List Char → Prop
  | flaw {f : Token.Flaw} {cs : List Char} (h : f.IsAt cs) : IsAt (.lexical f) cs
  | token (p : Problem) {t : Token} {raw rest : List Char}
      (h : Token.Lexeme t.kind t.text.toList raw rest) : IsAt (.grammar p t) (raw ++ rest)
  | sourceEnd (p : Problem) (place : Place) : IsAt (.grammar p (.sourceEnd place)) []

/-- A syntax error names the file and the place of what is wrong with the source. -/
def SyntaxError.Points (source file : String) (e : SyntaxError) : Prop :=
  e.file = file ∧ ∃ front rest, source.toList = front ++ rest ∧ e.place = .behind front ∧
    e.defect.IsAt rest

variable {source file : String} {ts : List Token} {last : Place}

/-- A token of a source points at its lexeme. -/
theorem points_of_mem (hscan : Token.scan source = .ok (ts, last)) {t : Token} (ht : t ∈ ts)
    (p : Problem) : SyntaxError.Points source file ⟨file, t.place, .grammar p t⟩ := by
  obtain ⟨pieces, gap, hsource, rfl, hfollow, -⟩ := Token.scan_eq_ok_iff.mp hscan
  obtain ⟨x, hx, rfl⟩ := List.mem_map.mp ht
  obtain ⟨before, after, rfl⟩ := List.append_of_mem hx
  obtain ⟨⟨-, hlexeme, hplace⟩, -⟩ := (Token.follow_iff.mp hfollow).1 before x after rfl
  rw [List.nil_append] at hplace
  refine ⟨rfl, Token.written before x.gap, x.lexeme ++ Token.written after gap, ?_, hplace,
    .token p hlexeme⟩
  rw [hsource]
  simp [Token.written]

theorem points_of_scan_error {f : Token.Flaw} (hscan : Token.scan source = .error (f, last)) :
    SyntaxError.Points source file ⟨file, last, .lexical f⟩ := by
  obtain ⟨front, c, rest, -, -, hsource, hplace, -, hflaw⟩ := Token.scanFrom_eq_error_iff.mp hscan
  exact ⟨rfl, front, c :: rest, hsource, hplace.trans (Place.past_start front),
    .flaw (Token.isAt_of_head hflaw)⟩

/-- A source whose tokens are refused at one of them, or at their end, is refused at its place. -/
theorem points_of_got (hscan : Token.scan source = .ok (ts, last)) {got : Option Token}
    (hgot : ∀ t ∈ got, t ∈ ts) (p : Problem) :
    SyntaxError.Points source file
      ⟨file, (got.getD (.sourceEnd last)).place, .grammar p (got.getD (.sourceEnd last))⟩ := by
  cases got with
  | some t => exact points_of_mem hscan (hgot t rfl) p
  | none =>
      obtain rfl := Token.place_of_scan hscan
      exact ⟨rfl, source.toList, [], (List.append_nil _).symm, rfl, .sourceEnd p _⟩

/-- **Reading comes to something.**  A source is read, or refused with a syntax error that points at
what is wrong, or its tokens are refused for a numeral. -/
theorem exists_read_or_points (reader : Reader α) (source file : String)
    (hreader : ∀ ts p got, reader ts = .error (.problem p got) → ∀ t ∈ got, t ∈ ts) :
    (∃ x, read reader source file = .ok x) ∨
    (∃ e, read reader source file = .error (.malformed e) ∧ e.Points source file) ∨
    (read reader source file = .error .longNumeral ∧
      ∃ ts last, Token.scan source = .ok (ts, last) ∧ reader ts = .error .longNumeral) := by
  cases hscan : Token.scan source with
  | error flaw =>
      obtain ⟨f, place⟩ := flaw
      refine .inr (.inl ⟨_, ?_, points_of_scan_error hscan⟩)
      rw [read, readFront, hscan]
      rfl
  | ok scanned =>
      obtain ⟨ts, last⟩ := scanned
      rw [read_of_scan hscan]
      split
      · exact .inl ⟨_, rfl⟩
      · rename_i hlong
        exact .inr (.inr ⟨rfl, ts, last, rfl, hlong⟩)
      · rename_i p got hproblem
        exact .inr (.inl ⟨_, rfl, points_of_got hscan (hreader ts p got hproblem) p⟩)

end Source
end ChangeGate
