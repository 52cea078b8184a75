import ChangeGate.Proofs.Token.Lexeme
import Mathlib.Data.List.Chain

/-! # How a source is cut into tokens

A source is gaps and lexemes by turns, one lexeme for each token and a last gap behind them.
`all_eq_ok_iff`: the tokens of a source are those of the pieces that it is cut into, each with the
place of its lexeme, and the source's end.  The place behind a text is counted by
`Place.behind`. -/

namespace ChangeGate

/-- The place behind a text: its lines, and the characters since its last line feed. -/
def Place.behind (front : List Char) : Place :=
  ⟨1 + front.count '\n', 1 + (front.reverse.takeWhile (· ≠ '\n')).length⟩

theorem Place.past_start (front : List Char) : Place.start.past front = .behind front := by
  induction front using List.reverseRecOn with
  | nil => rfl
  | append_singleton front c ih =>
      rw [past_append, ih, past_cons, past_nil, step, behind, behind, List.count_append,
        List.reverse_append, List.reverse_singleton, List.singleton_append]
      by_cases hc : c = '\n'
      · simp [hc, Nat.add_assoc]
      · simp [hc, Nat.add_assoc]

theorem Place.past_behind (front more : List Char) :
    (Place.behind front).past more = .behind (front ++ more) := by
  rw [← past_start, ← past_append, past_start]

namespace Token

/-- A token with what it is written as and the gap in front of it. -/
structure Piece where
  gap : List Char
  lexeme : List Char
  token : Token

/-- The text of pieces and a last gap. -/
def written (pieces : List Piece) (last : List Char) : List Char :=
  pieces.flatMap (fun x => x.gap ++ x.lexeme) ++ last

/-- Whether a line end behind pieces leaves a token: it does behind a token that is no line end. -/
def breaksBehind (before : List Piece) : Bool :=
  before.getLast?.any fun x => x.token.kind != .lineEnd

/-- A piece stands behind others and in front of a rest: its gap and its lexeme may stand there, and
its token has the place of the lexeme. -/
structure Piece.Stands (before : List Piece) (x : Piece) (rest : List Char) : Prop where
  gap : Gap (breaksBehind before) x.gap (x.lexeme ++ rest)
  lexeme : Lexeme x.token.kind x.token.text.toList x.lexeme rest
  place : x.token.place = .behind (written before x.gap)

variable {before pieces : List Piece} {last : List Char}

theorem written_cons (x : Piece) (xs : List Piece) (last : List Char) :
    written (x :: xs) last = x.gap ++ (x.lexeme ++ written xs last) := by
  simp [written]

theorem written_concat (before : List Piece) (x : Piece) (last : List Char) :
    written (before ++ [x]) last = written before (x.gap ++ (x.lexeme ++ last)) := by
  simp [written]

theorem past_written (xs : List Piece) (last more : List Char) :
    (Place.behind (written xs last)).past more = .behind (written xs (last ++ more)) := by
  rw [Place.past_behind, written, written, List.append_assoc]

theorem breaksBehind_concat (before : List Piece) (x : Piece) :
    breaksBehind (before ++ [x]) = (x.token.kind != .lineEnd) := by
  simp [breaksBehind]

/-! ### One piece after the other -/

/-- The pieces behind others and a last gap stand where they do, and a line end is a token only
where it leaves one. -/
def Follow (last : List Char) : List Piece → List Piece → Prop
  | before, [] => Gap (breaksBehind before) last []
  | before, x :: xs =>
    x.Stands before (written xs last) ∧
      (x.token.kind = .lineEnd → breaksBehind before = true) ∧ Follow last (before ++ [x]) xs

/-- Pieces that follow are scanned as their tokens. -/
theorem scanFrom_of_follow (h : Follow last before pieces) :
    scanFrom (.behind (written before [])) (breaksBehind before) (written pieces last) =
      .ok (pieces.map (·.token), .behind (written before (written pieces last))) := by
  induction pieces generalizing before with
  | nil =>
      have hgap := scanFrom_gap h (.behind (written before []))
      rw [List.append_nil, past_written] at hgap
      rw [show written [] last = last from rfl, hgap, scanFrom]
      rfl
  | cons x xs ih =>
      obtain ⟨⟨hgap, hlexeme, hplace⟩, hbreaks, hxs⟩ := h
      have hrest := ih hxs
      rw [breaksBehind_concat, written_concat, written_concat, List.append_nil] at hrest
      rw [written_cons, scanFrom_gap hgap, scanFrom_lexeme hlexeme hbreaks, past_written,
        List.nil_append, past_written, hrest, String.ofList_toList, ← hplace]
      rfl

/-- The scanner stands behind pieces and the start of a gap. -/
structure IsAt (before : List Piece) (gap : List Char) (p : Place) (breaks : Bool)
    (cs : List Char) : Prop where
  place : p = .behind (written before gap)
  counts : breaks = breaksBehind before
  widens : ∀ {more rest}, cs = more ++ rest → Gap breaks more rest → Gap breaks (gap ++ more) rest

variable {gap raw rest cs text : List Char} {p q : Place} {breaks : Bool} {kind : Kind}
  {ts : List Token}

theorem IsAt.isGap (h : IsAt before gap p breaks cs) : Gap breaks gap cs := by
  rw [← List.append_nil gap]
  exact h.widens rfl .nil

/-- Over more of the gap. -/
theorem IsAt.widen (h : IsAt before gap p breaks (raw ++ rest))
    (hwiden : ∀ {more rest'}, rest = more ++ rest' → Gap breaks more rest' →
      Gap breaks (raw ++ more) rest') :
    IsAt before (gap ++ raw) (p.past raw) breaks rest where
  place := by rw [h.place, past_written]
  counts := h.counts
  widens hmore hgap := by
    rw [List.append_assoc]
    exact h.widens (by rw [hmore, List.append_assoc]) (hwiden hmore hgap)

/-- Over the lexeme behind the gap. -/
theorem IsAt.take (h : IsAt before gap p breaks (raw ++ rest)) (kind : Kind) (text : List Char) :
    IsAt (before ++ [⟨gap, raw, ⟨kind, String.ofList text, p⟩⟩]) [] (p.past raw)
      (kind != .lineEnd) rest where
  place := by rw [h.place, past_written, written_concat, List.append_nil]
  counts := by rw [breaksBehind_concat]
  widens _ hgap := hgap

/-- Some tokens and the place of their end are those of pieces that follow and make up a text. -/
def Splits (before : List Piece) (cs : List Char) (ts : List Token) (q : Place) : Prop :=
  ∃ pieces last, cs = written pieces last ∧ ts = pieces.map (·.token) ∧
    Follow last before pieces ∧ q = .behind (written before cs)

theorem Splits.cons (h : IsAt before gap p breaks (raw ++ rest))
    (hlexeme : Lexeme kind text raw rest)
    (hbreaks : kind = .lineEnd → breaks = true)
    (hrest : Splits (before ++ [⟨gap, raw, ⟨kind, String.ofList text, p⟩⟩]) rest ts q) :
    Splits before (gap ++ (raw ++ rest)) (⟨kind, String.ofList text, p⟩ :: ts) q := by
  obtain ⟨pieces, last, rfl, rfl, hfollow, rfl⟩ := hrest
  have hgap := h.isGap
  rw [h.counts] at hgap hbreaks
  refine ⟨_ :: pieces, last, by rw [written_cons], rfl,
    ⟨⟨hgap, ?_, h.place⟩, hbreaks, hfollow⟩, by rw [written_concat]⟩
  rwa [String.toList_ofList]

/-- What is scanned is cut into pieces that follow. -/
theorem splits_of_scanFrom (h : scanFrom p breaks cs = .ok (ts, q))
    (hat : IsAt before gap p breaks cs) : Splits before (gap ++ cs) ts q := by
  fun_induction scanFrom p breaks cs generalizing ts q before gap with
  | case1 p breaks =>
      cases h
      have hlast := hat.isGap
      rw [hat.counts] at hlast
      exact ⟨[], gap, by simp [written], rfl, hlast, by rw [hat.place, List.append_nil]⟩
  | case2 p breaks c r raw rest hhead hlt ih =>
      have hstands := head_stands c r
      rw [hhead] at hstands
      obtain ⟨hsplit, hwiden⟩ := hstands
      rw [hsplit] at hat ⊢
      rw [← List.append_assoc]
      exact ih h (hat.widen hwiden)
  | case3 p breaks c r rest hhead hlt us q' hrest ih =>
      have hstands := head_stands c r
      rw [hhead] at hstands
      change c :: r = ['\n'] ++ rest at hstands
      rw [hstands] at hat ⊢
      cases h
      cases breaks with
      | true =>
          have hnext := ih hrest (hat.take .lineEnd ['\n'])
          exact .cons hat .lineEnd (fun _ => rfl) hnext
      | false =>
          -- Behind no token, or behind another line end, it belongs to the gap.
          rw [← List.append_assoc]
          exact ih hrest (hat.widen fun _ hgap => .lineEnd rfl hgap)
  | case4 => cases h
  | case5 p breaks c r kind text raw rest hhead hlt us q' hrest ih =>
      have hstands := head_stands c r
      rw [hhead] at hstands
      obtain ⟨hsplit, hlexeme, hkind⟩ := hstands
      rw [hsplit] at hat ⊢
      cases h
      have hnext := hat.take kind text
      rw [bne_iff_ne.mpr hkind] at hnext
      exact .cons hat hlexeme (fun h => absurd h hkind) (ih hrest hnext)
  | case6 => cases h
  | case7 => cases h

/-! ### Whole sources -/

/-- Pieces follow if each of them stands where it does. -/
theorem follow_iff : Follow last before pieces ↔
    (∀ front x after, pieces = front ++ x :: after →
      x.Stands (before ++ front) (written after last) ∧
        (x.token.kind = .lineEnd → breaksBehind (before ++ front) = true)) ∧
      Gap (breaksBehind (before ++ pieces)) last [] := by
  induction pieces generalizing before with
  | nil => simp [Follow]
  | cons x xs ih =>
      rw [Follow, ih]
      constructor
      · rintro ⟨hx, hbreaks, hxs, hlast⟩
        refine ⟨fun front y after h => ?_, by simpa using hlast⟩
        cases front with
        | nil =>
            cases h
            rw [List.append_nil]
            exact ⟨hx, hbreaks⟩
        | cons z front =>
            cases h
            simpa using hxs front y after rfl
      · rintro ⟨hall, hlast⟩
        have hx := hall [] x xs rfl
        rw [List.append_nil] at hx
        refine ⟨hx.1, hx.2, fun front y after h => ?_, by simpa using hlast⟩
        simpa using hall (x :: front) y after (by rw [h]; rfl)

/-- No line end is the first token or stands behind another line end. -/
def Apart (ts : List Token) : Prop :=
  (∀ t ∈ ts.head?, t.kind ≠ .lineEnd) ∧
    ts.IsChain fun t u => t.kind = .lineEnd → u.kind ≠ .lineEnd

theorem apart_map_iff : Apart (pieces.map (·.token)) ↔
    ∀ front x after, pieces = front ++ x :: after → x.token.kind = .lineEnd →
      breaksBehind front = true := by
  rw [Apart, List.isChain_map, List.isChain_iff_forall_rel_of_append_cons_cons]
  constructor
  · rintro ⟨hfirst, happart⟩ front x after rfl hx
    rcases List.eq_nil_or_concat' front with rfl | ⟨front, y, rfl⟩
    · exact absurd hx (hfirst x.token (by simp))
    · rw [breaksBehind_concat, bne_iff_ne]
      exact fun hy => happart (List.append_assoc front [y] (x :: after)) hy hx
  · refine fun hall => ⟨fun t ht hline => ?_, fun x y front after h hx hy => ?_⟩
    · cases pieces with
      | nil => cases ht
      | cons x after =>
          cases ht
          cases hall [] x after rfl hline
    · have hbreaks := hall (front ++ [x]) y after (by rw [h]; simp) hy
      rw [breaksBehind_concat, bne_iff_ne] at hbreaks
      exact hbreaks hx

theorem apart_concat_iff {t : Token} (ht : t.kind ≠ .lineEnd) : Apart (ts ++ [t]) ↔ Apart ts := by
  rw [Apart, Apart, List.isChain_append]
  cases ts with
  | nil => simp [ht]
  | cons u us => simp [ht]

theorem scan_eq_ok_iff {source : String} :
    scan source = .ok (ts, q) ↔ Splits [] source.toList ts q := by
  constructor
  · intro h
    have hat : IsAt [] [] .start false source.toList := ⟨rfl, rfl, fun _ hgap => hgap⟩
    exact splits_of_scanFrom h hat
  · rintro ⟨pieces, last, hsource, rfl, hfollow, rfl⟩
    rw [scan, hsource]
    exact scanFrom_of_follow hfollow

theorem all_eq_ok_iff_scan {source : String} :
    all source = .ok ts ↔ ∃ us q, scan source = .ok (us, q) ∧ ts = us ++ [sourceEnd q] := by
  rw [all]
  cases scan source with
  | error e => simp [Except.map]
  | ok scanned =>
      obtain ⟨us, q⟩ := scanned
      simp [Except.map, eq_comm]

theorem all_eq_error_iff_scan {source : String} {flaw : Flaw} :
    all source = .error (flaw, q) ↔ scan source = .error (flaw, q) := by
  rw [all]
  cases scan source <;> simp [Except.map]

/-- The tokens of a source end where the source does. -/
theorem place_of_scan {source : String} (h : scan source = .ok (ts, q)) :
    q = .behind source.toList := by
  obtain ⟨_, _, -, -, -, hplace⟩ := scan_eq_ok_iff.mp h
  exact hplace

/-- The tokens in front of the source's end are scanned. -/
theorem scan_of_all {source : String} (h : all source = .ok (ts ++ [sourceEnd q])) :
    scan source = .ok (ts, q) := by
  obtain ⟨ts', q', hscan, heq⟩ := all_eq_ok_iff_scan.mp h
  obtain ⟨rfl, hq⟩ := List.append_inj' heq rfl
  cases hq
  exact hscan

/-- **The tokens account for the whole source.**  A source has some tokens exactly if it is gaps and
lexemes by turns, each of them such as may stand there: the tokens are those of the lexemes, each
with the place of its lexeme, and behind them the one source end.  No line end is the first token
or stands behind another one. -/
theorem all_eq_ok_iff {source : String} {ts : List Token} :
    all source = .ok ts ↔ ∃ pieces last,
      source.toList = written pieces last ∧
      (∀ before x after, pieces = before ++ x :: after → x.Stands before (written after last)) ∧
      Gap (breaksBehind pieces) last [] ∧
      ts = pieces.map (·.token) ++ [sourceEnd (.behind source.toList)] ∧
      (∀ x ∈ pieces, x.token.kind ≠ .sourceEnd ∧
        (x.token.kind ≠ .text → x.lexeme = x.token.text.toList)) ∧ Apart ts := by
  have hend (us : List Token) (q : Place) : Apart (us ++ [sourceEnd q]) ↔ Apart us :=
    apart_concat_iff (by simp [sourceEnd])
  constructor
  · intro h
    obtain ⟨us, q, hscan, rfl⟩ := all_eq_ok_iff_scan.mp h
    obtain ⟨pieces, last, hsource, rfl, hfollow, rfl⟩ := scan_eq_ok_iff.mp hscan
    obtain ⟨hall, hlast⟩ := follow_iff.mp hfollow
    refine ⟨pieces, last, hsource, fun before x after h => (hall before x after h).1, hlast, rfl,
      fun x hx => ?_, ?_⟩
    · obtain ⟨before, after, hsplit⟩ := List.append_of_mem hx
      have hlexeme := (hall before x after hsplit).1.lexeme
      exact ⟨hlexeme.ne_sourceEnd, hlexeme.raw_eq⟩
    · rw [hend, apart_map_iff]
      exact fun before x after h => (hall before x after h).2
  · rintro ⟨pieces, last, hsource, hall, hlast, rfl, -, happart⟩
    rw [hend, apart_map_iff] at happart
    refine all_eq_ok_iff_scan.mpr
      ⟨_, _, scan_eq_ok_iff.mpr ⟨pieces, last, hsource, rfl, ?_, rfl⟩, rfl⟩
    exact follow_iff.mpr ⟨fun before x after h => ⟨hall before x after h, happart before x after h⟩,
      hlast⟩

end Token
end ChangeGate
