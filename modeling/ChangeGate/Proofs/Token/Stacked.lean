import ChangeGate.Proofs.Token.Joining
import ChangeGate.Proofs.Token.Pieces

/-! # Sources one below the other

The scanner carries its place and its last token from one line to the next, and nothing else.  A
text that starts some lines further down has the same tokens, each of them as many lines further
down (`scanFrom_lower`), and a text with tokens has them in front of a line feed too
(`scanFrom_append_lineFeed`).

`all_stacked`: the tokens of two sources, one below the other, are those of the first, a line end
where it counts, and those of the second, further down; a flaw of the second one is found further
down as well. -/

namespace ChangeGate

/-- A place some lines further down. -/
def Place.lower (n : Nat) (p : Place) : Place := ⟨p.line + n, p.column⟩

theorem Place.lower_step (n : Nat) (p : Place) (c : Char) :
    (p.lower n).step c = (p.step c).lower n := by
  unfold step lower
  split
  · simp only [Nat.add_right_comm]
  · rfl

theorem Place.lower_past (n : Nat) (p : Place) (cs : List Char) :
    (p.lower n).past cs = (p.past cs).lower n := by
  induction cs generalizing p with
  | nil => rfl
  | cons c cs ih => rw [past_cons, past_cons, lower_step, ih]

/-- The place behind a line feed is at the start of a line. -/
theorem Place.behind_lineFeed (front : List Char) :
    (Place.behind front).step '\n' = Place.start.lower (1 + front.count '\n') := by
  rw [step, if_pos rfl, behind, start, lower, Nat.add_comm 1 (1 + _)]

namespace Token

/-- A token some lines further down. -/
def lower (n : Nat) (t : Token) : Token := { t with place := t.place.lower n }

/-- What is scanned, some lines further down. -/
def lowered (n : Nat) :
    Except (Flaw × Place) (List Token × Place) → Except (Flaw × Place) (List Token × Place)
  | .ok (ts, q) => .ok (ts.map (lower n), q.lower n)
  | .error (flaw, q) => .error (flaw, q.lower n)

variable {cs : List Char} {ts us : List Token} {p q : Place} {breaks : Bool}

/-- A text that starts further down has the same tokens further down. -/
theorem scanFrom_lower (n : Nat) (p : Place) (breaks : Bool) (cs : List Char) :
    scanFrom (p.lower n) breaks cs = lowered n (scanFrom p breaks cs) := by
  induction hlen : cs.length using Nat.strong_induction_on generalizing p breaks cs with
  | _ k ih =>
      cases cs with
      | nil =>
          rw [scanFrom, scanFrom]
          rfl
      | cons c r =>
          have hlt := Head.rest_lt c r
          have hstands := head_stands c r
          cases hhead : head c r with
          | gap raw rest =>
              rw [hhead] at hlt
              rw [scanFrom_of_gap hhead, scanFrom_of_gap hhead, Place.lower_past,
                ih _ (hlen ▸ hlt) _ _ _ rfl]
          | lineEnd rest =>
              rw [hhead] at hlt hstands
              cases (hstands : c :: r = '\n' :: rest)
              rw [scanFrom_lineEnd, scanFrom_lineEnd, Place.lower_step, ih _ (hlen ▸ hlt) _ _ _ rfl]
              cases scanFrom (p.step '\n') false r with
              | error e => rfl
              | ok scanned => cases breaks <;> rfl
          | token kind text raw rest =>
              rw [hhead] at hlt
              rw [scanFrom_of_token hhead, scanFrom_of_token hhead, Place.lower_past,
                ih _ (hlen ▸ hlt) _ _ _ rfl]
              cases scanFrom (p.past raw) true rest <;> rfl
          | flaw f =>
              rw [scanFrom_of_flaw hhead, scanFrom_of_flaw hhead]
              rfl

/-- Whether a line end behind tokens counts, if `breaks` says so behind none. -/
def breaksAfter (breaks : Bool) (ts : List Token) : Bool :=
  ts.getLast?.elim breaks (·.kind != .lineEnd)

/-- Behind a token it counts as it does behind that token. -/
theorem breaksAfter_cons (breaks : Bool) (t : Token) (ts : List Token) :
    breaksAfter breaks (t :: ts) = breaksAfter (t.kind != .lineEnd) ts := by
  rw [breaksAfter, breaksAfter, List.getLast?_cons]
  cases ts.getLast? <;> rfl

/-- A text has its tokens in front of a line feed too, and the scanner goes on behind them. -/
theorem scanFrom_append_lineFeed (h : scanFrom p breaks cs = .ok (ts, q)) (more : List Char) :
    scanFrom p breaks (cs ++ '\n' :: more) =
      (scanFrom q (breaksAfter breaks ts) ('\n' :: more)).map fun (us, q') => (ts ++ us, q') := by
  fun_induction scanFrom p breaks cs generalizing ts q with
  | case1 p breaks =>
      cases h
      show scanFrom p breaks ('\n' :: more) = (scanFrom p breaks ('\n' :: more)).map _
      cases scanFrom p breaks ('\n' :: more) <;> rfl
  | case2 p breaks c r raw rest hhead hlt ih =>
      rw [List.cons_append, scanFrom_of_gap (head_gap_lineFeed hhead more), ih h]
  | case3 p breaks c r rest hhead hlt us q' hrest ih =>
      have hstands := head_stands c r
      rw [hhead] at hstands
      cases (hstands : c :: r = '\n' :: rest)
      cases h
      rw [List.cons_append, scanFrom_lineEnd, ih hrest]
      cases breaks with
      | false =>
          rw [if_neg Bool.false_ne_true]
          cases scanFrom q' (breaksAfter false us) ('\n' :: more) <;> rfl
      | true =>
          have hbreaks : breaksAfter true (⟨.lineEnd, "\n", p⟩ :: us) = breaksAfter false us :=
            breaksAfter_cons _ _ _
          rw [if_pos rfl, hbreaks]
          cases scanFrom q' (breaksAfter false us) ('\n' :: more) <;> rfl
  | case4 => cases h
  | case5 p breaks c r kind text raw rest hhead hlt us q' hrest ih =>
      cases h
      have hkind : (kind != .lineEnd) = true := bne_iff_ne.mpr (kind_ne_lineEnd_of_head hhead)
      rw [List.cons_append, scanFrom_of_token (head_token_lineFeed hhead more), ih hrest,
        breaksAfter_cons, hkind]
      cases scanFrom q' (breaksAfter true us) ('\n' :: more) <;> rfl
  | case6 => cases h
  | case7 => cases h

/-- The line end that a line feed leaves behind the tokens of a source: none if there are no tokens
or the last one is a line end. -/
def lineEndBehind (ts : List Token) (p : Place) : List Token :=
  if ts.getLast?.any (·.kind != .lineEnd) then [⟨.lineEnd, "\n", p⟩] else []

theorem lineEndBehind_eq (ts : List Token) (p : Place) :
    lineEndBehind ts p = if breaksAfter false ts then [⟨.lineEnd, "\n", p⟩] else [] := by
  rw [lineEndBehind, breaksAfter]
  cases ts.getLast? <;> rfl

/-- What is scanned of two sources, one below the other. -/
theorem scan_stacked {a : String} (ha : scan a = .ok (ts, p)) (b : String) :
    scan (a ++ "\n" ++ b) = (lowered (1 + a.toList.count '\n') (scan b)).map
      fun (us, q) => (ts ++ lineEndBehind ts p ++ us, q) := by
  obtain rfl := place_of_scan ha
  have hjoined : (a ++ "\n" ++ b).toList = a.toList ++ '\n' :: b.toList := by simp
  rw [scan, hjoined, scanFrom_append_lineFeed ha, scanFrom_lineEnd, lineEndBehind_eq]
  show _ = (lowered _ (scanFrom .start false b.toList)).map _
  rw [← scanFrom_lower, ← Place.behind_lineFeed]
  show ((scanFrom ((Place.behind a.toList).step '\n') false b.toList).map _).map _ = _
  cases scanFrom ((Place.behind a.toList).step '\n') false b.toList with
  | error e => rfl
  | ok scanned =>
      cases breaksAfter false ts with
      | false => simp [Except.map]
      | true => simp [Except.map]

/-- **Tokens of sources one below the other.**  Behind a source that has tokens and a line feed, a
second source has the tokens that it has alone, as many lines further down, behind a line end where
that counts; and if it has a flaw, it has the same one as many lines further down. -/
theorem all_stacked {a : String} (ha : all a = .ok (ts ++ [sourceEnd p])) (b : String) :
    let lines := 1 + a.toList.count '\n'
    let joined := a ++ "\n" ++ b
    p = .behind a.toList ∧
      (∀ us q, all b = .ok (us ++ [sourceEnd q]) →
        all joined = .ok (ts ++ lineEndBehind ts p ++ us.map (lower lines) ++
          [sourceEnd (.behind joined.toList)])) ∧
      ∀ flaw q, all b = .error (flaw, q) → all joined = .error (flaw, q.lower lines) := by
  have hjoined := scan_stacked (scan_of_all ha) b
  refine ⟨place_of_scan (scan_of_all ha), fun us q hb => ?_, fun flaw q hb => ?_⟩
  · rw [scan_of_all hb] at hjoined
    refine all_eq_ok_iff_scan.mpr ⟨_, _, hjoined, ?_⟩
    rw [place_of_scan hjoined]
  · rw [all_eq_error_iff_scan] at hb ⊢
    rw [hjoined, hb]
    rfl

/-- A comment in front of the line feed leaves the line end behind its token, and the empty line
below leaves none. -/
theorem all_stacked_commented :
    all "x // c" = .ok ([⟨.name, "x", ⟨1, 1⟩⟩] ++ [sourceEnd ⟨1, 7⟩]) ∧
      all "\n y" = .ok ([⟨.name, "y", ⟨2, 2⟩⟩] ++ [sourceEnd ⟨2, 3⟩]) ∧
      all ("x // c" ++ "\n" ++ "\n y") = .ok
        [⟨.name, "x", ⟨1, 1⟩⟩, ⟨.lineEnd, "\n", ⟨1, 7⟩⟩, ⟨.name, "y", ⟨3, 2⟩⟩, sourceEnd ⟨3, 3⟩] ∧
      all "y\n @" = .error (.unexpected '@', ⟨2, 2⟩) ∧
      all ("x // c" ++ "\n" ++ "y\n @") = .error (.unexpected '@', ⟨3, 2⟩) := by
  have hfirst : all "x // c" = .ok ([⟨.name, "x", ⟨1, 1⟩⟩] ++ [sourceEnd ⟨1, 7⟩]) := by
    decide +kernel
  have hsecond : all "\n y" = .ok ([⟨.name, "y", ⟨2, 2⟩⟩] ++ [sourceEnd ⟨2, 3⟩]) := by
    decide +kernel
  have hflawed : all "y\n @" = .error (.unexpected '@', ⟨2, 2⟩) := by decide +kernel
  obtain ⟨-, hgood, -⟩ := all_stacked hfirst "\n y"
  obtain ⟨-, -, hbad⟩ := all_stacked hfirst "y\n @"
  refine ⟨hfirst, hsecond, (hgood _ _ hsecond).trans ?_, hflawed, (hbad _ _ hflawed).trans ?_⟩
  · decide +kernel
  · decide +kernel

end Token
end ChangeGate
