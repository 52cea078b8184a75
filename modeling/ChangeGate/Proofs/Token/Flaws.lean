import ChangeGate.Proofs.Token.Joining
import ChangeGate.Proofs.Token.Pieces

/-! # Where the scanner stops

A source that has no tokens is spelled up to a character at whose head a flaw is found, and the
place of the flaw is the place of that character (`scanFrom_eq_error_iff`).  What is in front of it
is spelled whatever comes behind, unless that goes on with a lexeme (`Spells.behind`), so it has
tokens of its own, and other characters behind an unexpected one and its neighbour change nothing
(`flaw_of_all`). -/

namespace ChangeGate.Token

variable {kind : Kind} {c d : Char} {r cs f raw text rest more : List Char}
  {breaks breaks' : Bool} {ss : List Sign} {flaw : Flaw} {p q : Place}

/-- Something that the scanner knows stands at the front of a text: a lexeme, or what may stand
between tokens. -/
def Begins (cs : List Char) : Prop :=
  (∃ kind text raw rest, Lexeme kind text raw rest ∧ cs = raw ++ rest) ∨
    ∃ breaks gap rest, Gap breaks gap rest ∧ gap ≠ [] ∧ cs = gap ++ rest

/-- Nothing stands where a flaw is found. -/
theorem not_begins_of_flaw (h : head c r = .flaw flaw) : ¬ Begins (c :: r) := by
  rintro (⟨kind, text, raw, rest, hlexeme, hsplit⟩ | ⟨breaks, gap, rest, hgap, hne, hsplit⟩)
  · by_cases hkind : kind = .lineEnd
    · subst hkind
      cases hlexeme with
      | lineEnd =>
          cases hsplit
          cases h
      | mark h => exact (kind_of_mark? h).1 rfl
      | pair h => exact (kind_of_pair? h).1 rfl
    · obtain ⟨c', r', hsplit', hhead⟩ := head_of_lexeme hlexeme hkind
      cases hsplit.trans hsplit'
      cases h.symm.trans hhead
  · cases hgap with
    | nil => exact hne rfl
    | space hc _ =>
        cases hsplit
        cases h.symm.trans (head_space hc _)
    | comment hwords hend _ =>
        rw [List.cons_append, List.cons_append, List.append_assoc] at hsplit
        cases hsplit
        cases h.symm.trans (head_comment hwords hend)
    | lineEnd _ _ =>
        cases hsplit
        cases h

/-- An unexpected character does not go on with a lexeme. -/
theorem stops_of_unexpected (h : head c r = .flaw (.unexpected d)) (more : List Char) :
    Stops (c :: more) := by
  obtain ⟨-, -, -, -, -, hmark, -, hname⟩ := head_eq_unexpected_iff.mp h
  refine stops_cons_iff.mpr ⟨hname, ?_⟩
  rintro rfl
  cases hmark

/-- What is found at an unexpected character goes by the next character only. -/
theorem head_unexpected_behind (h : head c (d :: r) = .flaw (.unexpected c)) (more : List Char) :
    head c (d :: more) = .flaw (.unexpected c) := by
  rw [head_eq_unexpected_iff] at h ⊢
  exact h

/-! ### In front of another rest -/

theorem head_gap_behind (h : head c r = .gap raw (f ++ rest)) (hrest : ∃ e ∈ rest.head?, e ≠ '\n')
    (more : List Char) : ∃ r', r = r' ++ rest ∧ head c (r' ++ more) = .gap raw (f ++ more) := by
  rcases head_eq_gap_iff.mp h with ⟨hc, rfl, rfl⟩ | ⟨words, hwords, hend, rfl, rfl, rfl⟩
  · exact ⟨f, rfl, head_space hc _⟩
  · refine ⟨'/' :: (words ++ f), by simp, ?_⟩
    rw [List.cons_append, List.append_assoc]
    refine head_comment hwords fun a ha => ?_
    cases f with
    | nil =>
        -- The comment would end in front of the rest.
        obtain ⟨e, he, hne⟩ := hrest
        exact absurd (hend e he) hne
    | cons b f => exact hend a ha

/-- A text spells the same in front of another rest that does not go on with it, if it does not
stand at the end of its line. -/
theorem Spells.behind (h : Spells breaks cs ss breaks' rest) (hrest : ∃ e ∈ rest.head?, e ≠ '\n')
    (hmore : Stops more) :
    ∃ front, cs = front ++ rest ∧ Spells breaks (front ++ more) ss breaks' more := by
  induction h with
  | done => exact ⟨[], rfl, .done⟩
  | gap hhead _ ih =>
      obtain ⟨front, rfl, h⟩ := ih hrest
      obtain ⟨r', rfl, hhead'⟩ := head_gap_behind hhead hrest more
      exact ⟨_ :: r', rfl, .gap hhead' h⟩
  | lineEnd _ ih =>
      obtain ⟨front, rfl, h⟩ := ih hrest
      exact ⟨'\n' :: front, rfl, .lineEnd h⟩
  | @token _ _ c r _ _ _ _ _ _ hhead _ ih =>
      obtain ⟨front, rfl, h⟩ := ih hrest
      have hsuffix := Head.rest_suffix c r
      rw [hhead] at hsuffix
      obtain ⟨r', rfl⟩ := (List.suffix_append front _).trans hsuffix
      exact ⟨c :: r', rfl, .token (head_token_behind hhead hmore) h⟩

/-! ### The first flaw -/

/-- A text has no tokens if it is spelled up to a flaw, which stands where the text behind it
starts. -/
theorem scanFrom_eq_error_iff : scanFrom p breaks cs = .error (flaw, q) ↔
    ∃ front c r ss breaks', cs = front ++ c :: r ∧ q = p.past front ∧
      Spells breaks cs ss breaks' (c :: r) ∧ head c r = .flaw flaw := by
  constructor
  · intro h
    fun_induction scanFrom p breaks cs with
    | case1 => cases h
    | case2 p breaks c r raw rest hhead hlt ih =>
        have hstands := head_stands c r
        rw [hhead] at hstands
        obtain ⟨front, c', r', ss, breaks', rfl, rfl, hspells, hflaw⟩ := ih h
        refine ⟨raw ++ front, c', r', ss, breaks', ?_, ?_, .gap hhead hspells, hflaw⟩
        · rw [hstands.1, List.append_assoc]
        · rw [Place.past_append]
    | case3 => cases h
    | case4 p breaks c r rest hhead hlt e hrest ih =>
        have hstands := head_stands c r
        rw [hhead] at hstands
        cases (hstands : c :: r = '\n' :: rest)
        cases h
        obtain ⟨front, c', r', ss, breaks', rfl, rfl, hspells, hflaw⟩ := ih hrest
        exact ⟨'\n' :: front, c', r', _, breaks', rfl, rfl, .lineEnd hspells, hflaw⟩
    | case5 => cases h
    | case6 p breaks c r kind text raw rest hhead hlt e hrest ih =>
        have hstands := head_stands c r
        rw [hhead] at hstands
        cases h
        obtain ⟨front, c', r', ss, breaks', rfl, rfl, hspells, hflaw⟩ := ih hrest
        refine ⟨raw ++ front, c', r', _, breaks', ?_, ?_, .token hhead hspells, hflaw⟩
        · rw [hstands.1, List.append_assoc]
        · rw [Place.past_append]
    | case7 p breaks c r f hhead =>
        cases h
        exact ⟨[], c, r, [], breaks, rfl, rfl, .done, hhead⟩
  · rintro ⟨front, c, r, ss, breaks', rfl, rfl, hspells, hflaw⟩
    obtain ⟨front', ts, hsplit, -, hscan⟩ := hspells.scanFrom p
    obtain rfl := List.append_cancel_right hsplit
    rw [hscan, scanFrom_of_flaw hflaw]
    rfl

/-- **A flaw is where the scanner cannot go on.**  A source that has no tokens has a flaw at one of
its characters, and the text in front of it has tokens of its own.  The flaw is a quote whose
literal is never closed, or a character at which nothing starts; then every source that is the same
up to the character behind it has the same flaw. -/
theorem flaw_of_all {source : String} (h : all source = .error (flaw, q)) :
    ∃ front c rest, source.toList = front ++ c :: rest ∧ q = .behind front ∧
      (∃ ts, all (.ofList front) = .ok ts) ∧
      (flaw = .unclosedText ∧ c = '"' ∧
          (∀ inside text after, Escapes inside text → rest ≠ inside ++ '"' :: after) ∨
        flaw = .unexpected c ∧ c ≠ '"' ∧ ¬ Begins (c :: rest) ∧
          ∀ d ∈ rest.head?, ∀ source' : String, front ++ [c, d] <+: source'.toList →
            all source' = .error (flaw, q)) := by
  obtain ⟨front, c, rest, ss, breaks, hsource, rfl, hspells, hflaw⟩ :=
    scanFrom_eq_error_iff.mp (all_eq_error_iff_scan.mp h)
  rw [hsource] at hspells
  have hc : ∃ e ∈ (c :: rest).head?, e ≠ '\n' := by
    refine ⟨c, rfl, ?_⟩
    rintro rfl
    cases hflaw
  have hfront {more : List Char} (hmore : Stops more) :
      Spells false (front ++ more) ss breaks more := by
    obtain ⟨front', hsplit, hbehind⟩ := hspells.behind hc hmore
    rwa [List.append_cancel_right hsplit]
  refine ⟨front, c, rest, hsource, Place.past_start front, ?_, ?_⟩
  · have hown : Spells false (front ++ []) ss breaks [] := hfront nofun
    rw [List.append_nil] at hown
    obtain ⟨ts, last, -, hscan⟩ := hown.scanFrom_eq_ok .start
    refine ⟨_, all_eq_ok_iff_scan.mpr ⟨ts, last, ?_, rfl⟩⟩
    rwa [scan, String.toList_ofList]
  · cases flaw with
    | unclosedText =>
        obtain ⟨hquote, htext⟩ := head_eq_unclosedText_iff.mp hflaw
        exact .inl ⟨rfl, hquote, ne_of_textSpan_eq_none htext⟩
    | unexpected d =>
        obtain ⟨rfl, -, -, -, -, -, hquote, -⟩ := head_eq_unexpected_iff.mp hflaw
        refine .inr ⟨rfl, hquote, not_begins_of_flaw hflaw, fun d hd source' hsame => ?_⟩
        obtain ⟨rest, rfl⟩ := List.head?_eq_some_iff.mp hd
        obtain ⟨rest', hrest'⟩ := hsame
        rw [List.append_assoc] at hrest'
        rw [all_eq_error_iff_scan, scan, scanFrom_eq_error_iff]
        refine ⟨front, c, d :: rest', ss, breaks, hrest'.symm, rfl, ?_, ?_⟩
        · rw [← hrest']
          exact hfront (stops_of_unexpected hflaw _)
        · exact head_unexpected_behind hflaw _

/-- A lone slash behind a point that belongs to no numeral. -/
theorem flaw_of_all_lone :
    all "1./x" = .error (.unexpected '/', ⟨1, 3⟩) ∧ (∃ ts, all "1." = .ok ts) ∧
      ¬ Begins ['/', 'x'] ∧ ∀ source : String, "1./x".toList <+: source.toList →
        all source = .error (.unexpected '/', ⟨1, 3⟩) := by
  have hall : all "1./x" = .error (.unexpected '/', ⟨1, 3⟩) := by decide +kernel
  obtain ⟨front, c, rest, hsource, -, hfront, hflaw⟩ := flaw_of_all hall
  rcases hflaw with ⟨hflaw, -⟩ | ⟨hflaw, -, hbegins, hsame⟩
  · cases hflaw
  · cases hflaw
    obtain ⟨rfl, rfl⟩ : front = ['1', '.'] ∧ rest = ['x'] := by
      change ['1', '.', '/', 'x'] = _ at hsource
      rcases front with _ | ⟨a, _ | ⟨b, _ | ⟨d, _ | ⟨e, front⟩⟩⟩⟩ <;> simp_all [eq_comm]
    exact ⟨hall, hfront, hbegins, fun source h => hsame 'x' rfl source h⟩

end ChangeGate.Token
