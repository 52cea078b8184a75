import ChangeGate.Source.Reading
import Mathlib.Data.List.TakeWhile

/-! # Where a reader refuses

A reader pinpoints what is wrong if it decides by the tokens that it takes and the next one, and
refuses at a token only where other tokens could have stood: what it took before can be finished
(`Pinpoints`).  The property says what may follow, since an end of a statement is shown by the
token behind it.

The combinators keep the property: `Pinpoints.bind`, `Pinpoints.choose` and `Pinpoints.repeated`. -/

namespace ChangeGate.Source

variable {α β σ : Type}

/-! ### Reading on -/

theorem bind_eq_ok_iff {r : Reader α} {f : α → Reader β} {ts rest : List Token} {y : β} :
    (r >>= f) ts = .ok (y, rest) ↔ ∃ x mid, r ts = .ok (x, mid) ∧ f x mid = .ok (y, rest) := by
  show (r ts >>= fun read => f read.1 read.2) = _ ↔ _
  cases r ts with
  | error e => simp [bind, Except.bind]
  | ok read =>
      obtain ⟨x, mid⟩ := read
      constructor
      · exact fun h => ⟨x, mid, rfl, h⟩
      · rintro ⟨x, mid, h, hf⟩
        cases h
        exact hf

theorem bind_of_ok {r : Reader α} (f : α → Reader β) {ts mid : List Token} {x : α}
    (h : r ts = .ok (x, mid)) : (r >>= f) ts = f x mid := by
  show (r ts >>= fun read => f read.1 read.2) = _
  rw [h]
  rfl

theorem bind_of_error {r : Reader α} (f : α → Reader β) {ts : List Token} {e : Refusal}
    (h : r ts = .error e) : (r >>= f) ts = .error e := by
  show (r ts >>= fun read => f read.1 read.2) = _
  rw [h]
  rfl

theorem takeIf_eq_ok_iff {ok : Token → Bool} {p : Problem} {t : Token} {ts rest : List Token} :
    takeIf ok p ts = .ok (t, rest) ↔ ts = t :: rest ∧ ok t = true := by
  cases ts with
  | nil => simp [takeIf, refuse]
  | cons u us =>
      by_cases hu : ok u = true
      · rw [takeIf, if_pos hu]
        constructor
        · intro h
          cases h
          exact ⟨rfl, hu⟩
        · rintro ⟨h, -⟩
          cases h
          rfl
      · rw [takeIf, if_neg hu]
        constructor
        · intro h
          cases h
        · rintro ⟨h, ht⟩
          cases h
          exact absurd ht hu

theorem take_eq_ok_iff {kind : Token.Kind} {t : Token} {ts rest : List Token} :
    take kind ts = .ok (t, rest) ↔ ts = t :: rest ∧ t.kind = kind := by
  rw [take, takeIf_eq_ok_iff, beq_iff_eq]

section

variable {t : Token}

theorem takeIf_of_ok {ok : Token → Bool} {p : Problem} (ht : ok t = true) (ts : List Token) :
    takeIf ok p (t :: ts) = .ok (t, ts) := takeIf_eq_ok_iff.mpr ⟨rfl, ht⟩

theorem take_of_kind {kind : Token.Kind} (ht : t.kind = kind) (ts : List Token) :
    take kind (t :: ts) = .ok (t, ts) := take_eq_ok_iff.mpr ⟨rfl, ht⟩

theorem takeKeyword_of_isKeyword {word : String} (ht : t.isKeyword word = true) (ts : List Token) :
    takeKeyword word (t :: ts) = .ok (t, ts) := takeIf_of_ok ht ts

end

/-! ### Line ends -/

/-- What may follow the end of a statement: no further line end. -/
def OffLineEnd (ts : List Token) : Prop := atKind .lineEnd ts = false

theorem offLineEnd_nil : OffLineEnd [] := rfl

theorem offLineEnd_cons_iff {t : Token} {ts : List Token} :
    OffLineEnd (t :: ts) ↔ t.kind ≠ .lineEnd := beq_eq_false_iff_ne

theorem offLineEnd_dropWhile (ts : List Token) :
    OffLineEnd (ts.dropWhile (·.kind == .lineEnd)) := by
  induction ts with
  | nil => exact offLineEnd_nil
  | cons t ts ih =>
      by_cases ht : t.kind = .lineEnd
      · rwa [List.dropWhile_cons_of_pos (by simpa using ht)]
      · rw [List.dropWhile_cons_of_neg (by simpa using ht)]
        exact offLineEnd_cons_iff.mpr ht

theorem skipLineEnds_append (front : List Token) {rest : List Token}
    (hfront : ∀ t ∈ front, t.kind = .lineEnd) (hrest : OffLineEnd rest) :
    skipLineEnds (front ++ rest) = .ok ((), rest) := by
  have hdrop : rest.dropWhile (·.kind == .lineEnd) = rest := by
    cases rest with
    | nil => rfl
    | cons t ts => exact List.dropWhile_cons_of_neg (by simpa using offLineEnd_cons_iff.mp hrest)
  show Except.ok ((), (front ++ rest).dropWhile (·.kind == .lineEnd)) = _
  rw [List.dropWhile_append_of_pos (by simpa using hfront), hdrop]

theorem endStatement_of_lineEnd {t : Token} (ht : t.kind = .lineEnd) (ts : List Token) :
    endStatement (t :: ts) = skipLineEnds ts := by rw [endStatement, if_pos ht]

theorem endStatement_of_closeBrace {t : Token} (ht : t.kind = .closeBrace) (ts : List Token) :
    endStatement (t :: ts) = .ok ((), t :: ts) := by
  rw [endStatement, if_neg (by simp [ht]), if_pos ht]

/-- A statement ends at a line end, a closing brace or the end of the source. -/
theorem atKind_eq_false_of_endStatement {kind : Token.Kind} (hline : kind ≠ .lineEnd)
    (hbrace : kind ≠ .closeBrace) {ts rest : List Token} {u : Unit}
    (h : endStatement ts = .ok (u, rest)) : atKind kind ts = false := by
  cases ts with
  | nil => rfl
  | cons t ts =>
      refine beq_eq_false_iff_ne.mpr fun hkind => ?_
      rw [endStatement, if_neg (hkind ▸ hline), if_neg (hkind ▸ hbrace)] at h
      cases h

/-! ### What a reader goes by -/

/-- A reader takes a list of tokens up to where another rest may start, if that starts alike. -/
def Takes (r : Reader α) (x : α) (front rest : List Token) : Prop :=
  ∀ rest', rest'.head? = rest.head? → r (front ++ rest') = .ok (x, rest')

/-- A reader refuses the token behind a list of tokens, whatever comes after. -/
def Refuses (r : Reader α) (p : Problem) (front rest : List Token) : Prop :=
  ∀ rest', rest'.head? = rest.head? → r (front ++ rest') = .error (.problem p rest'.head?)

/-- With further tokens a reader takes all of a list of tokens, whatever it is that may follow. -/
def Finishes (follow : List Token → Prop) (r : Reader α) (front : List Token) : Prop :=
  ∃ more x, ∀ rest, follow rest → r (front ++ (more ++ rest)) = .ok (x, rest)

/-- On a list of tokens, a reader goes by those that it takes and the next one, and what it takes
before it is done or refuses can be finished. -/
def PinpointsAt (follow : List Token → Prop) (r : Reader α) (ts : List Token) : Prop :=
  ∃ front rest, ts = front ++ rest ∧ Finishes follow r front ∧
    ((∃ x, Takes r x front rest) ∨ ∃ p, Refuses r p front rest)

/-- A reader goes by the tokens that it takes and the next one, and refuses nothing but what cannot
go on. -/
def Pinpoints (follow : List Token → Prop) (r : Reader α) : Prop :=
  ∀ ts, PinpointsAt follow r ts

/-- What a reader accepts opens with a token of a sort, which it takes. -/
def Opens (ok : Token → Prop) (r : Reader α) : Prop :=
  ∀ ts x rest, r ts = .ok (x, rest) → ∃ t ts', ts = t :: ts' ∧ ok t ∧ rest.length ≤ ts'.length

/-- A condition on the tokens left that goes by the next one. -/
def GoesByNext (c : List Token → Bool) : Prop := ∀ ts ts', ts.head? = ts'.head? → c ts = c ts'

theorem goesByNext_atKind (kind : Token.Kind) : GoesByNext (atKind kind) := fun ts ts' h => by
  rw [atKind, atKind, h]

theorem goesByNext_atKeyword (word : String) : GoesByNext (atKeyword word) := fun ts ts' h => by
  rw [atKeyword, atKeyword, h]

theorem goesByNext_isEmpty : GoesByNext List.isEmpty
  | [], [], _ => rfl
  | _ :: _, _ :: _, _ => rfl

theorem GoesByNext.not {c : List Token → Bool} (hc : GoesByNext c) : GoesByNext fun ts => !c ts :=
  fun ts ts' h => congrArg _ (hc ts ts' h)

theorem head?_append_of_head? {front rest rest' : List Token} (h : rest'.head? = rest.head?) :
    (front ++ rest').head? = (front ++ rest).head? := by
  rw [List.head?_append, List.head?_append, h]

/-- Behind tokens that can be finished, a reader goes on as another one does. -/
theorem PinpointsAt.prepend {follow : List Token → Prop} {r r' : Reader α} {front rest : List Token}
    (hfinish : Finishes follow r front)
    (hread : ∀ rest', rest'.head? = rest.head? → r (front ++ rest') = r' rest')
    (h : PinpointsAt follow r' rest) : PinpointsAt follow r (front ++ rest) := by
  obtain ⟨front', rest, rfl, ⟨more, x, hfin⟩, hgo⟩ := h
  have hreadOn (rest' : List Token) (h : (front' ++ rest').head? = (front' ++ rest).head?) :
      r ((front ++ front') ++ rest') = r' (front' ++ rest') := by
    rw [List.append_assoc, hread _ h]
  refine ⟨front ++ front', rest, (List.append_assoc _ _ _).symm, ?_, ?_⟩
  · -- Where nothing more is taken, other tokens than the next one may have to follow.
    cases front' with
    | nil => rwa [List.append_nil]
    | cons t front' => exact ⟨more, x, fun k hk => by rw [hreadOn (more ++ k) rfl, hfin k hk]⟩
  · refine hgo.imp (fun ⟨y, htakes⟩ => ⟨y, fun rest' hrest => ?_⟩)
      fun ⟨p, hrefuses⟩ => ⟨p, fun rest' hrest => ?_⟩
    · rw [hreadOn _ (head?_append_of_head? hrest), htakes rest' hrest]
    · rw [hreadOn _ (head?_append_of_head? hrest), hrefuses rest' hrest]

namespace Pinpoints

variable {follow follow' : List Token → Prop} {r : Reader α} {f : α → Reader β}

/-- From nothing, a reader can always be finished. -/
theorem finishes_nil (hr : Pinpoints follow r) : Finishes follow r [] := by
  obtain ⟨front, rest, hts, hfin, -⟩ := hr []
  obtain ⟨rfl, -⟩ := List.append_eq_nil_iff.mp hts.symm
  exact hfin

theorem length_le (hr : Pinpoints follow r) {ts rest : List Token} {x : α}
    (h : r ts = .ok (x, rest)) : rest.length ≤ ts.length := by
  obtain ⟨front, rest', rfl, -, ⟨x', htakes⟩ | ⟨p, hrefuses⟩⟩ := hr ts
  · rw [htakes rest' rfl] at h
    cases h
    rw [List.length_append]
    exact Nat.le_add_left _ _
  · rw [hrefuses rest' rfl] at h
    cases h

theorem pure (x : α) : Pinpoints follow (Pure.pure x : Reader α) := fun ts =>
  ⟨[], ts, rfl, ⟨[], x, fun _ _ => rfl⟩, .inl ⟨x, fun _ _ => rfl⟩⟩

theorem takeIf {ok : Token → Bool} {p : Problem} {t : Token} (ht : ok t = true) :
    Pinpoints follow (Source.takeIf ok p) := by
  have hfin : Finishes follow (Source.takeIf ok p) [] :=
    ⟨[t], t, fun _ _ => takeIf_eq_ok_iff.mpr ⟨rfl, ht⟩⟩
  intro ts
  cases ts with
  | nil =>
      refine ⟨[], [], rfl, hfin, .inr ⟨p, fun rest' h => ?_⟩⟩
      obtain rfl := List.head?_eq_none_iff.mp h
      rfl
  | cons u us =>
      by_cases hu : ok u = true
      · have hread (rest : List Token) : Source.takeIf ok p ([u] ++ rest) = .ok (u, rest) :=
          takeIf_eq_ok_iff.mpr ⟨rfl, hu⟩
        exact ⟨[u], us, rfl, ⟨[], u, fun rest _ => hread rest⟩, .inl ⟨u, fun rest _ => hread rest⟩⟩
      · refine ⟨[], u :: us, rfl, hfin, .inr ⟨p, fun rest' h => ?_⟩⟩
        obtain ⟨us', rfl⟩ := List.head?_eq_some_iff.mp h
        rw [List.nil_append, Source.takeIf, if_neg hu]
        rfl

/-- A reader is followed by another one if what that accepts may follow it. -/
theorem bind (hr : Pinpoints follow r) (hf : ∀ x, Pinpoints follow' (f x))
    (h : ∀ x ts y rest, f x ts = .ok (y, rest) → follow' rest → follow ts) :
    Pinpoints follow' (r >>= f) := by
  intro ts
  obtain ⟨front, rest, rfl, ⟨more, x, hfin⟩, hgo⟩ := hr ts
  have hfinish : Finishes follow' (r >>= f) front := by
    obtain ⟨more', y, hfin'⟩ := (hf x).finishes_nil
    refine ⟨more ++ more', y, fun k hk => ?_⟩
    have hnext : f x (more' ++ k) = .ok (y, k) := hfin' k hk
    rw [List.append_assoc, bind_of_ok f (hfin _ (h x _ y k hnext hk)), hnext]
  obtain ⟨x, htakes⟩ | ⟨p, hrefuses⟩ := hgo
  · exact .prepend hfinish (fun rest' hrest => bind_of_ok f (htakes rest' hrest)) (hf x rest)
  · exact ⟨front, rest, rfl, hfinish,
      .inr ⟨p, fun rest' hrest => bind_of_error f (hrefuses rest' hrest)⟩⟩

/-- Anything may follow a token that is taken. -/
theorem takeIf_bind {ok : Token → Bool} {p : Problem} {f : Token → Reader β} {t : Token}
    (ht : ok t = true) (hf : ∀ t, Pinpoints follow (f t)) :
    Pinpoints follow (Source.takeIf ok p >>= f) := by
  have htake : Pinpoints (fun _ => True) (Source.takeIf ok p) := takeIf ht
  exact htake.bind hf fun _ _ _ _ _ _ => trivial

theorem take_bind (kind : Token.Kind) {f : Token → Reader β} (hf : ∀ t, Pinpoints follow (f t)) :
    Pinpoints follow (take kind >>= f) :=
  takeIf_bind (t := ⟨kind, "", .start⟩) (beq_self_eq_true _) hf

theorem takeKeyword_bind (word : String) {f : Token → Reader β}
    (hf : ∀ t, Pinpoints follow (f t)) : Pinpoints follow (takeKeyword word >>= f) :=
  takeIf_bind (t := ⟨.keyword, word, .start⟩) (by simp [Token.isKeyword]) hf

theorem bind_pure {g : α → β} (hr : Pinpoints follow r) :
    Pinpoints follow (r >>= fun x => Pure.pure (g x)) := by
  refine hr.bind (fun x => .pure _) fun x ts y rest h hrest => ?_
  cases h
  exact hrest

/-! ### Choices -/

/-- Where a reader goes by another one, and that one accepts only what is decided so. -/
theorem of_agrees {c : List Token → Bool} {b : Bool} {r' : Reader α} {ts : List Token}
    (hc : GoesByNext c) (hr : Pinpoints follow r)
    (haccept : ∀ ts x rest, r ts = .ok (x, rest) → c ts = b)
    (hagree : ∀ ts, c ts = b → r' ts = r ts) (hts : c ts = b) : PinpointsAt follow r' ts := by
  obtain ⟨front, rest, rfl, ⟨more, x, hfin⟩, hgo⟩ := hr ts
  have hread (rest' : List Token) (h : rest'.head? = rest.head?) :
      r' (front ++ rest') = r (front ++ rest') :=
    hagree _ ((hc _ _ (head?_append_of_head? h)).trans hts)
  refine ⟨front, rest, rfl, ⟨more, x, fun k hk => ?_⟩, ?_⟩
  · exact (hagree _ (haccept _ _ _ (hfin k hk))).trans (hfin k hk)
  · exact hgo.imp (fun ⟨y, h⟩ => ⟨y, fun rest' hrest => (hread rest' hrest).trans (h rest' hrest)⟩)
      fun ⟨p, h⟩ => ⟨p, fun rest' hrest => (hread rest' hrest).trans (h rest' hrest)⟩

/-- The next token chooses between readers that accept only what is theirs. -/
theorem choose {c : List Token → Bool} {r' : Reader α} (hc : GoesByNext c)
    (hr : Pinpoints follow r) (hr' : Pinpoints follow r')
    (hthen : ∀ ts x rest, r ts = .ok (x, rest) → c ts = true)
    (helse : ∀ ts x rest, r' ts = .ok (x, rest) → c ts = false) :
    Pinpoints follow fun ts => if c ts then r ts else r' ts := by
  intro ts
  cases hts : c ts with
  | true => exact hr.of_agrees hc hthen (fun ts h => if_pos h) hts
  | false => exact hr'.of_agrees hc helse (fun ts h => if_neg (by simp [h])) hts

/-- The next token is refused where no reader is chosen. -/
theorem orRefuse {c : List Token → Bool} {p : Problem} (hc : GoesByNext c)
    (hr : Pinpoints follow r) (hthen : ∀ ts x rest, r ts = .ok (x, rest) → c ts = true) :
    Pinpoints follow fun ts => if c ts then r ts else refuse p ts := by
  intro ts
  cases hts : c ts with
  | true => exact hr.of_agrees hc hthen (fun ts h => if_pos h) hts
  | false =>
      obtain ⟨more, x, hfin⟩ := hr.finishes_nil
      refine ⟨[], ts, rfl, ⟨more, x, fun k hk => ?_⟩, .inr ⟨p, fun rest' hrest => ?_⟩⟩
      · have hread : r (more ++ k) = .ok (x, k) := hfin k hk
        exact (if_pos (hthen _ _ _ hread)).trans hread
      · exact if_neg (by simp [(hc _ _ hrest).trans hts])

/-! ### Line ends -/

theorem skipLineEnds : Pinpoints OffLineEnd skipLineEnds := by
  intro ts
  have hfront : ∀ t ∈ ts.takeWhile (·.kind == .lineEnd), t.kind = .lineEnd := fun t ht => by
    simpa using List.mem_takeWhile_imp ht
  have hread {rest : List Token} (hrest : OffLineEnd rest) := skipLineEnds_append _ hfront hrest
  refine ⟨_, _, List.takeWhile_append_dropWhile.symm, ⟨[], (), fun k hk => hread hk⟩,
    .inl ⟨(), fun rest' h => hread ?_⟩⟩
  exact (goesByNext_atKind _ _ _ h).trans (offLineEnd_dropWhile ts)

theorem endStatement : Pinpoints OffLineEnd endStatement := by
  let newline : Token := ⟨.lineEnd, "\n", .start⟩
  have hline : Pinpoints OffLineEnd (take .lineEnd >>= fun _ => Source.skipLineEnds) :=
    take_bind _ fun _ => skipLineEnds
  have hfin : Finishes OffLineEnd Source.endStatement [] :=
    ⟨[newline], (), fun k hk => skipLineEnds_append [] (by simp) hk⟩
  intro ts
  cases ts with
  | nil =>
      refine ⟨[], [], rfl, hfin, .inl ⟨(), fun rest' h => ?_⟩⟩
      obtain rfl := List.head?_eq_none_iff.mp h
      rfl
  | cons t ts =>
      by_cases ht : t.kind = .lineEnd
      · refine hline.of_agrees (goesByNext_atKind .lineEnd) ?_ ?_ (beq_iff_eq.mpr ht)
        · intro ts x rest h
          obtain ⟨u, mid, hu, -⟩ := bind_eq_ok_iff.mp h
          obtain ⟨rfl, hkind⟩ := take_eq_ok_iff.mp hu
          exact beq_iff_eq.mpr hkind
        · intro ts hts
          cases ts with
          | nil => cases hts
          | cons u us =>
              have hu : u.kind = .lineEnd := beq_iff_eq.mp hts
              rw [endStatement_of_lineEnd hu, bind_of_ok _ (take_eq_ok_iff.mpr ⟨rfl, hu⟩)]
      · refine ⟨[], t :: ts, rfl, hfin, ?_⟩
        by_cases hbrace : t.kind = .closeBrace
        · refine .inl ⟨(), fun rest' h => ?_⟩
          obtain ⟨us, rfl⟩ := List.head?_eq_some_iff.mp h
          exact endStatement_of_closeBrace hbrace us
        · refine .inr ⟨.expectedStatementEnd, fun rest' h => ?_⟩
          obtain ⟨us, rfl⟩ := List.head?_eq_some_iff.mp h
          rw [List.nil_append, Source.endStatement, if_neg ht, if_neg hbrace]
          rfl

theorem openBlock : Pinpoints OffLineEnd openBlock := by
  refine skipLineEnds.bind (fun _ => .take_bind .openBrace fun _ => skipLineEnds) ?_
  intro _ ts _ _ h _
  obtain ⟨o, inner, htake, -⟩ := bind_eq_ok_iff.mp h
  obtain ⟨rfl, ho⟩ := take_eq_ok_iff.mp htake
  exact offLineEnd_cons_iff.mpr (by simp [ho])

theorem closeBlock : Pinpoints OffLineEnd closeBlock := .take_bind .closeBrace fun _ => endStatement

end Pinpoints

/-! ### Openings -/

namespace Opens

variable {ok : Token → Prop} {follow : List Token → Prop} {r r' : Reader α} {f : α → Reader β}

theorem takeIf_bind {ok : Token → Bool} {p : Problem} {f : Token → Reader β}
    (hf : ∀ t, Pinpoints follow (f t)) : Opens (ok · = true) (takeIf ok p >>= f) := by
  intro ts y rest h
  obtain ⟨t, ts', ht, hread⟩ := bind_eq_ok_iff.mp h
  obtain ⟨rfl, hok⟩ := takeIf_eq_ok_iff.mp ht
  exact ⟨t, ts', rfl, hok, (hf t).length_le hread⟩

theorem bind_pure {g : α → β} (hr : Opens ok r) :
    Opens ok (r >>= fun x => Pure.pure (g x)) := by
  intro ts y rest h
  obtain ⟨x, mid, hread, hpure⟩ := bind_eq_ok_iff.mp h
  cases hpure
  exact hr ts x rest hread

theorem mono {ok' : Token → Prop} (hr : Opens ok r) (h : ∀ t, ok t → ok' t) : Opens ok' r := by
  intro ts x rest hread
  obtain ⟨t, ts', hts, ht, hle⟩ := hr ts x rest hread
  exact ⟨t, ts', hts, h t ht, hle⟩

theorem choose {c : List Token → Bool} (hr : Opens ok r) (hr' : Opens ok r') :
    Opens ok fun ts => if c ts then r ts else r' ts := by
  intro ts x rest h
  dsimp only at h
  split at h
  · exact hr ts x rest h
  · exact hr' ts x rest h

theorem refuse (p : Problem) : Opens ok (refuse p : Reader α) := by
  intro ts x rest h
  cases h

/-- A repetition takes nothing, or what its step opens with. -/
theorem of_repeated {done : List Token → Bool} {step : σ → Reader σ}
    (hstep : ∀ s, Opens ok (step s)) {s s' : σ} {ts rest : List Token}
    (h : repeated done step s ts = .ok (s', rest)) : ts = rest ∨ ∃ t ts', ts = t :: ts' ∧ ok t := by
  cases hts : done ts with
  | true =>
      rw [repeated, loop_of_done hts] at h
      cases h
      exact .inl rfl
  | false =>
      cases hread : step s ts with
      | error e =>
          rw [repeated, loop_of_error hts hread] at h
          cases h
      | ok read =>
          obtain ⟨t, ts', hts', ht, -⟩ := hstep s _ _ _ hread
          exact .inr ⟨t, ts', hts', ht⟩

end Opens

namespace Pinpoints

variable {ok : Token → Prop} {follow follow' : List Token → Prop}

/-! ### Repetition -/

/-- A step opens with what shows that the repetition is not done. -/
theorem repeated {done : List Token → Bool} {step : σ → Reader σ} (hdone : GoesByNext done)
    (hstep : ∀ s, Pinpoints follow (step s)) (hopens : ∀ s, Opens ok (step s))
    (hon : ∀ t ts, ok t → done (t :: ts) = false)
    (hfollow : ∀ ts, follow' ts → done ts = true ∧ follow ts) (s : σ) :
    Pinpoints follow' (repeated done step s) := by
  have hread {s s' : σ} {ts rest : List Token} (h : step s ts = .ok (s', rest)) :
      rest.length < ts.length ∧
        Source.repeated done step s ts = Source.repeated done step s' rest := by
    obtain ⟨t, ts', rfl, ht, hle⟩ := hopens s _ _ _ h
    have hlt : rest.length < (t :: ts').length := Nat.lt_succ_of_le hle
    exact ⟨hlt, loop_of_shorter (hon t ts' ht) h hlt⟩
  intro ts
  induction hlen : ts.length using Nat.strong_induction_on generalizing s ts with
  | _ n ih =>
      cases hts : done ts with
      | true =>
          have hstop (rest : List Token) (h : done rest = true) :
              Source.repeated done step s rest = .ok (s, rest) := loop_of_done h
          refine ⟨[], ts, rfl, ⟨[], s, fun k hk => hstop k (hfollow k hk).1⟩, .inl ⟨s, ?_⟩⟩
          exact fun rest' h => hstop rest' ((hdone _ _ h).trans hts)
      | false =>
          obtain ⟨front, rest, rfl, ⟨more, s₁, hfin⟩, hgo⟩ := hstep s ts
          have hfinish : Finishes follow' (Source.repeated done step s) front := by
            refine ⟨more, s₁, fun k hk => ?_⟩
            rw [(hread (hfin k (hfollow k hk).2)).2]
            exact loop_of_done (hfollow k hk).1
          obtain ⟨s', htakes⟩ | ⟨p, hrefuses⟩ := hgo
          · exact .prepend hfinish (fun rest' hrest => (hread (htakes rest' hrest)).2)
              (ih _ (hlen ▸ (hread (htakes rest rfl)).1) s' rest rfl)
          · refine ⟨front, rest, rfl, hfinish, .inr ⟨p, fun rest' hrest => ?_⟩⟩
            have hnot : done (front ++ rest') = false :=
              (hdone _ _ (head?_append_of_head? hrest)).trans hts
            exact loop_of_error hnot (hrefuses rest' hrest)

theorem items {done : List Token → Bool} {item : Reader α} (hdone : GoesByNext done)
    (hitem : Pinpoints follow item) (hopens : Opens ok item)
    (hon : ∀ t ts, ok t → done (t :: ts) = false)
    (hfollow : ∀ ts, follow' ts → done ts = true ∧ follow ts) (xs : List α) :
    Pinpoints follow' (items done item xs) :=
  repeated hdone (fun _ => hitem.bind_pure) (fun _ => hopens.bind_pure) hon hfollow xs

/-- Items between separators may be followed by anything but a separator. -/
theorem separated {separator : Token.Kind} {item : Reader α}
    (hitem : Pinpoints (fun _ => True) item) :
    Pinpoints (fun ts => atKind separator ts = false) (separated separator item) := by
  have hnext : Pinpoints (fun _ => True) (do let _ ← take separator; item) :=
    take_bind separator fun _ => hitem
  refine hitem.bind (fun x => items ((goesByNext_atKind separator).not) hnext
    (Opens.takeIf_bind fun _ => hitem) ?_ ?_ [x]) fun _ _ _ _ _ _ => trivial
  · intro t ts ht
    simpa [atKind] using ht
  · intro ts hts
    exact ⟨by simp [hts], trivial⟩

end Pinpoints

/-! ### Whole sources -/

/-- A source that has tokens is read as its tokens are, and refused at the token that is refused;
the end of the source stands behind them. -/
theorem read_of_scan {reader : Reader α} {source file : String} {ts : List Token} {last : Place}
    (h : Token.scan source = .ok (ts, last)) :
    read reader source file =
      match reader ts with
      | .ok (x, _) => .ok x
      | .error .longNumeral => .error .longNumeral
      | .error (.problem p got) =>
        .error (.malformed ⟨file, (got.getD (.sourceEnd last)).place,
          .grammar p (got.getD (.sourceEnd last))⟩) := by
  rw [read, readFront, h]
  dsimp only
  split <;> simp_all [Except.map]

/-- What is read is what the reader takes from the tokens of the source. -/
theorem scan_of_read {reader : Reader α} {source file : String} {x : α}
    (h : read reader source file = .ok x) :
    ∃ ts last rest, Token.scan source = .ok (ts, last) ∧ reader ts = .ok (x, rest) := by
  cases hscan : Token.scan source with
  | error e =>
      rw [read, readFront, hscan] at h
      cases h
  | ok scanned =>
      obtain ⟨ts, last⟩ := scanned
      rw [read_of_scan hscan] at h
      split at h
      · rename_i x' rest hreader
        cases h
        exact ⟨ts, last, rest, rfl, hreader⟩
      · cases h
      · cases h

/-- What a source is read as does not depend on the name of its file. -/
theorem read_of_read {reader : Reader α} {source file : String} {x : α}
    (h : read reader source file = .ok x) (file' : String) : read reader source file' = .ok x := by
  obtain ⟨ts, last, rest, hscan, hreader⟩ := scan_of_read h
  rw [read_of_scan hscan, hreader]

end ChangeGate.Source
