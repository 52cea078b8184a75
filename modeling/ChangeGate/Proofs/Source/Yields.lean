import ChangeGate.Proofs.Source.Pinpoint

/-! # What a reader yields

A reader yields a property if what it accepts has it whenever all tokens at hand are good, and if
the tokens that it leaves stand at the end of these.  The combinators keep this: `Yields.bind`,
`Yields.ite` and `Yields.repeated`. -/

namespace ChangeGate.Source

variable {α β σ : Type}

/-- A reader takes tokens from the front, and what it accepts has a property if the tokens at hand
are good. -/
def Yields (good : Token → Prop) (Q : α → Prop) (r : Reader α) : Prop :=
  ∀ ts x rest, r ts = .ok (x, rest) → rest <:+ ts ∧ ((∀ t ∈ ts, good t) → Q x)

namespace Yields

variable {good : Token → Prop} {Q R : α → Prop} {S : β → Prop} {r r' : Reader α} {f : α → Reader β}

theorem weaken (hr : Yields good Q r) (h : ∀ x, Q x → R x) : Yields good R r :=
  fun ts x rest hread => (hr ts x rest hread).imp_right fun hgood hts => h x (hgood hts)

theorem pure {x : α} (hx : Q x) : Yields good Q (Pure.pure x) := by
  intro ts _ _ h
  cases h
  exact ⟨List.suffix_rfl, fun _ => hx⟩

/-- What the first reader yields may be used of the second one. -/
theorem bind (hr : Yields good Q r) (hf : ∀ x, Yields good (fun y => Q x → S y) (f x)) :
    Yields good S (r >>= f) := by
  intro ts y rest h
  obtain ⟨x, mid, hread, hread'⟩ := bind_eq_ok_iff.mp h
  obtain ⟨hmid, hx⟩ := hr ts x mid hread
  obtain ⟨hrest, hy⟩ := hf x mid y rest hread'
  exact ⟨hrest.trans hmid, fun hts => hy (fun t ht => hts t (hmid.subset ht)) (hx hts)⟩

theorem ite {c : Prop} [Decidable c] (hr : Yields good Q r) (hr' : Yields good Q r') :
    Yields good Q (if c then r else r') := by
  split
  · exact hr
  · exact hr'

theorem get : Yields good (fun _ => True) (get : Reader (List Token)) := by
  intro ts _ _ h
  cases h
  exact ⟨List.suffix_rfl, fun _ => trivial⟩

theorem throw (e : Refusal) : Yields good Q (throw e : Reader α) := by
  intro ts x rest h
  cases h

theorem refuse (p : Problem) : Yields good Q (refuse p : Reader α) := by
  intro ts x rest h
  cases h

theorem takeIf (ok : Token → Bool) (p : Problem) :
    Yields good (fun t => good t ∧ ok t = true) (takeIf ok p) := by
  intro ts t rest h
  obtain ⟨rfl, ht⟩ := takeIf_eq_ok_iff.mp h
  exact ⟨List.suffix_cons t rest, fun hts => ⟨hts t List.mem_cons_self, ht⟩⟩

theorem take (kind : Token.Kind) : Yields good (fun t => good t ∧ t.kind = kind) (take kind) :=
  (takeIf _ _).weaken fun _ h => ⟨h.1, beq_iff_eq.mp h.2⟩

theorem literal (kind : Token.Kind) :
    Yields good (fun s => ∃ t, good t ∧ t.kind = kind ∧ t.text = s)
      (do return (← Source.take kind).text) :=
  (take kind).bind fun t => .pure fun h => ⟨t, h.1, h.2, rfl⟩

theorem skipLineEnds : Yields good (fun _ => True) skipLineEnds := by
  intro ts _ _ h
  cases h
  exact ⟨List.dropWhile_suffix _, fun _ => trivial⟩

theorem endStatement : Yields good (fun _ => True) endStatement := by
  intro ts u rest h
  refine ⟨?_, fun _ => trivial⟩
  cases ts with
  | nil =>
      cases h
      exact List.suffix_rfl
  | cons t ts =>
      rw [Source.endStatement] at h
      split at h
      · cases h
        exact (List.dropWhile_suffix _).trans (List.suffix_cons t ts)
      · split at h
        · cases h
          exact List.suffix_rfl
        · cases h

theorem openBlock : Yields good (fun _ => True) openBlock :=
  skipLineEnds.bind fun _ => (take .openBrace).bind fun _ =>
    skipLineEnds.weaken fun _ _ _ _ => trivial

theorem closeBlock : Yields good (fun _ => True) closeBlock :=
  (take .closeBrace).bind fun _ => endStatement.weaken fun _ _ _ => trivial

/-! ### Repetition -/

/-- What each step keeps, a repetition keeps. -/
theorem repeated {done : List Token → Bool} {step : σ → Reader σ} {P : σ → Prop}
    (hstep : ∀ s, Yields good (fun s' => P s → P s') (step s)) (s : σ) :
    Yields good (fun s' => P s → P s') (repeated done step s) := by
  intro ts s' rest h
  induction hlen : ts.length using Nat.strong_induction_on generalizing s ts with
  | _ n ih =>
      rw [Source.repeated, loop] at h
      split at h
      · cases h
        exact ⟨List.suffix_rfl, fun _ hs => hs⟩
      · split at h
        · cases h
        · rename_i s₁ mid hread
          obtain ⟨hmid, hs₁⟩ := hstep s ts s₁ mid hread
          split at h
          · rename_i hlt
            obtain ⟨hrest, hs'⟩ := ih _ (hlen ▸ hlt) s₁ mid h rfl
            exact ⟨hrest.trans hmid,
              fun hts hs => hs' (fun t ht => hts t (hmid.subset ht)) (hs₁ hts hs)⟩
          · cases h
            exact ⟨hmid, hs₁⟩

theorem items {done : List Token → Bool} {item : Reader α} (hitem : Yields good Q item)
    (xs : List α) :
    Yields good (fun ys => (∀ x ∈ xs, Q x) → ∀ y ∈ ys, Q y) (items done item xs) := by
  refine repeated (P := fun ys => ∀ y ∈ ys, Q y)
    (fun ys => hitem.bind fun y => .pure fun hy hys => ?_) xs
  intro y' hy'
  rcases List.mem_append.mp hy' with h | h
  · exact hys y' h
  · rwa [List.mem_singleton.mp h]

end Yields

namespace Opens

theorem takeIf {ok : Token → Bool} {p : Problem} : Opens (ok · = true) (takeIf ok p) := by
  intro ts t rest h
  obtain ⟨rfl, ht⟩ := takeIf_eq_ok_iff.mp h
  exact ⟨t, rest, rfl, ht, le_rfl⟩

/-- A reader opens with what its first part opens with. -/
theorem bind {ok good : Token → Prop} {r : Reader α} {f : α → Reader β} (hr : Opens ok r)
    (hf : ∀ x, Yields good (fun _ => True) (f x)) : Opens ok (r >>= f) := by
  intro ts y rest h
  obtain ⟨x, mid, hread, hread'⟩ := bind_eq_ok_iff.mp h
  obtain ⟨t, ts', rfl, ht, hle⟩ := hr ts x mid hread
  exact ⟨t, ts', rfl, ht, (hf x mid y rest hread').1.length_le.trans hle⟩

end Opens
end ChangeGate.Source
