import ChangeGate.Proofs.Token.Lexeme

/-! # Line ends between tokens

A line end counts only behind another token: `tidyFrom` drops the ones that open a list of tokens
or follow another one.  The tokens of a source have none of these (`tidyFrom_scan`), and neither has
a front of them, whatever else is put behind it (`tidyFrom_append`). -/

namespace ChangeGate.Token

/-- The tokens without the line ends that do not count; `breaks` says whether one counts here. -/
def tidyFrom (breaks : Bool) : List Token → List Token
  | [] => []
  | t :: ts =>
    if t.kind = .lineEnd then
      if breaks then t :: tidyFrom false ts else tidyFrom false ts
    else t :: tidyFrom true ts

variable {t : Token} {ts : List Token} {breaks : Bool}

theorem tidyFrom_cons_of_ne (breaks : Bool) (ts : List Token) (ht : t.kind ≠ .lineEnd) :
    tidyFrom breaks (t :: ts) = t :: tidyFrom true ts := by rw [tidyFrom, if_neg ht]

theorem tidyFrom_true_cons (ts : List Token) (ht : t.kind = .lineEnd) :
    tidyFrom true (t :: ts) = t :: tidyFrom false ts := by rw [tidyFrom, if_pos ht, if_pos rfl]

theorem tidyFrom_false_cons (ts : List Token) (ht : t.kind = .lineEnd) :
    tidyFrom false (t :: ts) = tidyFrom false ts := by
  rw [tidyFrom, if_pos ht, if_neg Bool.false_ne_true]

theorem length_tidyFrom_le (breaks : Bool) (ts : List Token) :
    (tidyFrom breaks ts).length ≤ ts.length := by
  fun_induction tidyFrom breaks ts <;> simp_all
  omega

/-- Tokens in front that are tidy with what is behind them stay as they are. -/
theorem tidyFrom_append {front rest : List Token}
    (h : tidyFrom breaks (front ++ rest) = front ++ rest) (rest' : List Token) :
    ∃ rest'', tidyFrom breaks (front ++ rest') = front ++ rest'' := by
  induction front generalizing breaks with
  | nil => exact ⟨_, rfl⟩
  | cons t front ih =>
      rw [List.cons_append] at h
      have hcons (breaks' : Bool)
          (hstep : ∀ ts, tidyFrom breaks (t :: ts) = t :: tidyFrom breaks' ts) :
          ∃ rest'', tidyFrom breaks (t :: front ++ rest') = t :: front ++ rest'' := by
        rw [hstep] at h
        obtain ⟨rest'', h'⟩ := ih (List.cons.inj h).2
        exact ⟨rest'', by rw [List.cons_append, hstep, h', List.cons_append]⟩
      by_cases ht : t.kind = .lineEnd
      · cases breaks with
        | true => exact hcons false fun ts => tidyFrom_true_cons ts ht
        | false =>
            -- The line end would have been dropped.
            have hlength := length_tidyFrom_le false (front ++ rest)
            rw [tidyFrom_false_cons _ ht] at h
            rw [h, List.length_cons] at hlength
            omega
      · exact hcons true fun ts => tidyFrom_cons_of_ne _ ts ht

/-! ### The tokens of a source -/

theorem tidyFrom_scanFrom {p q : Place} {cs : List Char} (h : scanFrom p breaks cs = .ok (ts, q)) :
    tidyFrom breaks ts = ts := by
  fun_induction scanFrom p breaks cs generalizing ts q with
  | case1 p breaks =>
      cases h
      rfl
  | case2 p breaks c r raw rest hhead hlt ih =>
      exact ih h
  | case3 p breaks c r rest hhead hlt us q' hrest ih =>
      cases h
      cases breaks with
      | true =>
          rw [if_pos rfl, tidyFrom_true_cons _ rfl, ih hrest]
      | false =>
          rw [if_neg Bool.false_ne_true]
          exact ih hrest
  | case4 => cases h
  | case5 p breaks c r kind text raw rest hhead hlt us q' hrest ih =>
      cases h
      rw [tidyFrom_cons_of_ne _ _ (kind_ne_lineEnd_of_head hhead), ih hrest]
  | case6 => cases h
  | case7 => cases h

theorem tidyFrom_scan {source : String} {last : Place} (h : scan source = .ok (ts, last)) :
    tidyFrom false ts = ts := tidyFrom_scanFrom h

end ChangeGate.Token
