import ChangeGate.Proofs.Source.Phrase
import ChangeGate.Proofs.Token.Printing

/-! # Writing phrases

A phrase is written as some signs if any tokens with these signs say what it says, whatever stands
behind them (`Writes`).  Sequences of written phrases are written one behind the other
(`writes_many`, `writes_separated`). -/

namespace ChangeGate.Source

open Token (Sign signs)

variable {α : Type} {P : Phrase α}

/-- Tokens with some signs say something, whatever stands behind them. -/
def Writes (P : Phrase α) (ss : List Sign) (x : α) : Prop :=
  ∀ ts rest, ts.map Token.sign = ss → P (ts ++ rest) x rest

variable {t : Token} {ts rest : List Token} {word : String}

theorem isKeyword_of_sign (h : t.sign = Sign.reserved word) : t.isKeyword word = true :=
  isKeyword_iff.mpr ⟨congrArg Sign.kind h, congrArg Sign.text h⟩

/-- A word is written as one, reserved or not. -/
theorem isNameLike_of_sign (h : t.sign = Sign.word word) : t.isNameLike = true ∧ t.text = word := by
  have hkind := congrArg Sign.kind h
  refine ⟨?_, (congrArg Sign.text h).trans (Sign.text_word word)⟩
  rw [Token.isNameLike, Bool.or_eq_true, beq_iff_eq, beq_iff_eq]
  rw [Sign.word] at hkind
  split at hkind
  · exact .inr hkind
  · exact .inl hkind

theorem writes_literal (kind : Token.Kind) (s : String) : Writes (Literal kind) [⟨kind, s⟩] s := by
  intro ts rest h
  obtain ⟨t, rfl, ht⟩ := List.map_eq_singleton_iff.mp h
  have hliteral : Literal kind (t :: rest) t.text rest := .mk (congrArg Sign.kind ht)
  rwa [show t.text = s from congrArg Sign.text ht] at hliteral

/-- Phrases are written one behind the other. -/
theorem writes_many {ι : Type} {w : ι → List Sign} {value : ι → α} {is : List ι}
    (h : ∀ i ∈ is, Writes P (w i) (value i)) : Writes (Many P) (is.flatMap w) (is.map value) := by
  induction is with
  | nil =>
      intro ts rest hts
      obtain rfl := List.map_eq_nil_iff.mp hts
      exact .nil
  | cons i is ih =>
      obtain ⟨hi, his⟩ := List.forall_mem_cons.mp h
      intro ts rest hts
      rw [List.flatMap_cons, List.map_eq_append_iff] at hts
      obtain ⟨ts₁, ts₂, rfl, h₁, h₂⟩ := hts
      rw [List.append_assoc]
      exact .cons (hi ts₁ _ h₁) (ih his ts₂ rest h₂)

theorem Many.append {ts mid rest : List Token} {xs ys : List α} (h : Many P ts xs mid)
    (h' : Many P mid ys rest) : Many P ts (xs ++ ys) rest := by
  induction h with
  | nil => exact h'
  | cons first _ ih => exact .cons first (ih h')

/-- Phrases are written with separators between them. -/
theorem writes_separated {w : α → List Sign} {separator : Sign} {x : α} {xs : List α}
    (h : ∀ y ∈ x :: xs, Writes P (w y) y) :
    Writes (Separated separator.kind P) (w x ++ xs.flatMap fun y => separator :: w y)
      (x :: xs) := by
  obtain ⟨hx, hxs⟩ := List.forall_mem_cons.mp h
  have hbehind : ∀ y ∈ xs, Writes (Behind separator.kind P) (separator :: w y) (id y) := by
    intro y hy ts rest hts
    obtain ⟨t, ts, rfl, ht, hts⟩ := List.map_eq_cons_iff.mp hts
    exact .mk (congrArg Sign.kind ht) (hxs y hy ts rest hts)
  intro ts rest hts
  obtain ⟨ts₁, ts₂, rfl, h₁, h₂⟩ := List.map_eq_append_iff.mp hts
  have hothers := writes_many hbehind ts₂ rest h₂
  rw [List.map_id] at hothers
  rw [List.append_assoc]
  exact .mk (hx ts₁ _ h₁) hothers

/-! ### Statements and blocks -/

theorem ending_of_sign (h : t.sign = Sign.lineEnd) (rest : List Token) : Ending (t :: rest) rest :=
  .line (congrArg Sign.kind h)

theorem writes_sentence {ok : Token → Bool} {s : Sign} (hok : ∀ t, t.sign = s → ok t = true) :
    Writes (Sentence word ok) [Sign.reserved word, s, Sign.lineEnd] s.text := by
  intro ts rest hts
  obtain ⟨k, ts, rfl, hk, hts⟩ := List.map_eq_cons_iff.mp hts
  obtain ⟨t, ts, rfl, ht, hts⟩ := List.map_eq_cons_iff.mp hts
  obtain ⟨e, rfl, he⟩ := List.map_eq_singleton_iff.mp hts
  have hsentence := Sentence.mk (isKeyword_of_sign hk) (hok t ht) (ending_of_sign he rest)
  rwa [show t.text = s.text from congrArg Sign.text ht] at hsentence

/-- The tokens of the lines of a block. -/
theorem split_of_blockLines {opening : List Sign} {body : List (List Sign)}
    (h : ts.map Token.sign = signs (Token.blockLines opening body)) (rest : List Token) :
    ∃ ts₁ before ts₂ after, ts ++ rest = ts₁ ++ before ∧ ts₁.map Token.sign = opening ∧
      Opening before (ts₂ ++ after) ∧ ts₂.map Token.sign = signs body ∧ Closing after rest := by
  rw [Token.signs_blockLines] at h
  obtain ⟨ts₁, ts, rfl, h₁, h⟩ := List.map_eq_append_iff.mp h
  obtain ⟨braces, ts, rfl, hopen, h⟩ := List.map_eq_append_iff.mp h
  obtain ⟨ts₂, braces', rfl, h₂, hclose⟩ := List.map_eq_append_iff.mp h
  obtain ⟨o, _, rfl, ho, hend⟩ := List.map_eq_cons_iff.mp hopen
  obtain ⟨e, rfl, he⟩ := List.map_eq_singleton_iff.mp hend
  obtain ⟨c, _, rfl, hc, hend'⟩ := List.map_eq_cons_iff.mp hclose
  obtain ⟨e', rfl, he'⟩ := List.map_eq_singleton_iff.mp hend'
  refine ⟨ts₁, [o, e] ++ (ts₂ ++ ([c, e'] ++ rest)), ts₂, [c, e'] ++ rest, ?_, h₁, ?_, h₂, ?_⟩
  · simp
  · exact .mk .none (congrArg Sign.kind ho) (.line (congrArg Sign.kind he))
  · exact .mk (congrArg Sign.kind hc) (ending_of_sign he' rest)

end ChangeGate.Source
