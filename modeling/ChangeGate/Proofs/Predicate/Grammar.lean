import ChangeGate.Proofs.Predicate.Shape
import ChangeGate.Proofs.Source.Phrase

/-! # The grammar of predicates

A predicate is written as comparisons with `&&` between them, which group to the left; a comparison
is an operand, or two with `==` or `!=` between them.

`accepts_reader`: what is written so is read, if it is followed by no sign that could go on with
it. -/

namespace ChangeGate.Predicate

open Source

/-! ### The grammar -/

namespace Grammar

/-- A word, reserved or not. -/
inductive Word : Phrase String
  | mk {t : Token} {rest : List Token} (ht : t.isNameLike = true) : Word (t :: rest) t.text rest

/-- A dotted path of words that does not open with `null`. -/
inductive Dotted : Phrase String
  | mk {ts rest : List Token} {words : List String} (hnull : atKeyword "null" ts = false)
      (hwords : Separated .dot Word ts words rest) : Dotted ts (".".intercalate words) rest

/-- One operand. -/
inductive Atom : Phrase Predicate
  | text {ts rest : List Token} {s : String} (h : Literal .text ts s rest) :
      Atom ts (.text s) rest
  | number {ts rest : List Token} {s : String} {n : Number} (h : Literal .number ts s rest)
      (hn : Number.ofNumeral? s.toList = some n) : Atom ts (.number n) rest
  | null {t : Token} {rest : List Token} (ht : t.isKeyword "null" = true) :
      Atom (t :: rest) .null rest
  | field {ts rest : List Token} {path : String} (h : Dotted ts path rest) :
      Atom ts (.field path) rest

/-- An operand, or two that are compared. -/
inductive Comparison : Phrase Predicate
  | operand {ts rest : List Token} {p : Predicate} (hp : Atom ts p rest) : Comparison ts p rest
  | equal {ts mid rest : List Token} {p q : Predicate} (hp : Atom ts p mid)
      (hq : Behind .equal Atom mid q rest) : Comparison ts (.compare .equal p q) rest
  | unequal {ts mid rest : List Token} {p q : Predicate} (hp : Atom ts p mid)
      (hq : Behind .unequal Atom mid q rest) : Comparison ts (.compare .unequal p q) rest

/-- Comparisons that group to the left. -/
inductive Conjunction : Phrase Predicate
  | mk {ts mid rest : List Token} {p : Predicate} {qs : List Predicate}
      (hfirst : Comparison ts p mid) (hothers : Many (Behind .both Comparison) mid qs rest) :
      Conjunction ts (qs.foldl .both p) rest

end Grammar

open Grammar

/-- No token of some kinds is next. -/
def Off (kinds : List Token.Kind) (ts : List Token) : Prop := ∀ kind ∈ kinds, atKind kind ts = false

theorem off_cons {kinds : List Token.Kind} {t : Token} (ht : t.kind ∉ kinds) (ts : List Token) :
    Off kinds (t :: ts) := fun _ hkind => beq_eq_false_iff_ne.mpr fun h => ht (h ▸ hkind)

theorem Off.mono {kinds kinds' : List Token.Kind} {ts : List Token} (h : Off kinds ts)
    (hsub : kinds' ⊆ kinds) : Off kinds' ts := fun _ hkind => h _ (hsub hkind)

/-- The signs that go on with a predicate. -/
def connectives : List Token.Kind := [.dot, .equal, .unequal, .both]

/-! ### Paths and operands -/

theorem accepts_word {p : Problem} {follow : List Token → Prop} :
    Accepts follow (do return (← takeIf Token.isNameLike p).text) Word := by
  rintro _ _ _ ⟨ht⟩ -
  rw [bind_of_ok _ (takeIf_of_ok ht _)]
  rfl

theorem accepts_fieldPath : Accepts (Off [.dot]) fieldPath Dotted := by
  rintro _ _ rest ⟨-, hwords⟩ hrest
  obtain @⟨_, _, _, first, _, ⟨ht⟩, hothers⟩ := hwords
  have hyields : Yields (fun _ => True) (fun _ => True)
      (do return (← takeIf Token.isNameLike .expectedFieldPart).text) :=
    (Yields.takeIf _ _).bind fun _ => .pure fun _ => trivial
  have hparts := items_of_many_behind accepts_word (Opens.takeIf.bind fun _ => hyields) hothers
    (hrest .dot (by decide))
  rw [fieldPath, bind_of_ok _ (takeIf_of_ok ht _), bind_of_ok _ (hparts _)]
  rfl

theorem atom_eq (ts : List Token) : atom ts =
    if atKind .text ts then (do return Predicate.text (← takeText) : Reader Predicate) ts
    else if atKind .number ts then numeral ts
    else if atKeyword "null" ts then
      (do let _ ← takeKeyword "null"; return Predicate.null : Reader Predicate) ts
    else (do return Predicate.field (← fieldPath) : Reader Predicate) ts := by
  show (if _ then _ else _ : Reader Predicate) ts = _
  split
  · rfl
  · show (if _ then _ else _ : Reader Predicate) ts = _
    split
    · rfl
    · show (if _ then _ else _ : Reader Predicate) ts = _
      split <;> rfl

theorem accepts_atom : Accepts (Off [.dot]) atom Atom := by
  intro ts p rest h hrest
  rw [atom_eq]
  cases h with
  | text h =>
      obtain ⟨ht⟩ := id h
      rw [if_pos (atKind_of_kind ht _), bind_of_ok _ (takeText_of_literal h)]
      rfl
  | number h hn =>
      obtain ⟨ht⟩ := h
      rw [if_neg (not_atKind_of_kind (by simp [ht]) _), if_pos (atKind_of_kind ht _), numeral,
        bind_of_ok _ (take_of_kind ht _)]
      simp only [hn]
      rfl
  | @null t _ ht =>
      have hkind := (isKeyword_iff.mp ht).1
      have hnull : atKeyword "null" (t :: rest) = true := ht
      rw [if_neg (not_atKind_of_kind (by simp [hkind]) _),
        if_neg (not_atKind_of_kind (by simp [hkind]) _), if_pos hnull,
        bind_of_ok _ (takeKeyword_of_isKeyword ht _)]
      rfl
  | field h =>
      have hpath := accepts_fieldPath h hrest
      obtain ⟨hnull, hwords⟩ := h
      obtain @⟨_, _, _, first, _, @⟨t, _, ht⟩, hothers⟩ := hwords
      rw [Token.isNameLike, Bool.or_eq_true, beq_iff_eq, beq_iff_eq] at ht
      have hkind : t.kind ≠ .text ∧ t.kind ≠ .number := by
        rcases ht with ht | ht <;> simp [ht]
      rw [if_neg (not_atKind_of_kind hkind.1 _), if_neg (not_atKind_of_kind hkind.2 _),
        if_neg (by simp [hnull]), bind_of_ok _ hpath]
      rfl

/-! ### Comparisons and conjunctions -/

theorem comparison_eq (ts : List Token) : comparison ts = (atom >>= fun left us =>
    if atKind .equal us then
      (do let _ ← take .equal; return .compare .equal left (← atom) : Reader Predicate) us
    else if atKind .unequal us then
      (do let _ ← take .unequal; return .compare .unequal left (← atom) : Reader Predicate) us
    else .ok (left, us) : Reader Predicate) ts := by
  refine congrArg (fun f => (atom >>= f : Reader Predicate) ts) (funext₂ fun left us => ?_)
  show (if _ then _ else _ : Reader Predicate) us = _
  split
  · rfl
  · show (if _ then _ else _ : Reader Predicate) us = _
    split <;> rfl

theorem accepts_comparison : Accepts (Off [.dot, .equal, .unequal]) comparison Comparison := by
  intro ts p rest h hrest
  have hend : Off [.dot] rest := hrest.mono (by decide)
  rw [comparison_eq]
  cases h with
  | operand hp =>
      have hequal := hrest .equal (by decide)
      have hunequal := hrest .unequal (by decide)
      rw [bind_of_ok _ (accepts_atom hp hend), hequal, hunequal]
      rfl
  | equal hp hq =>
      obtain ⟨ht, hq⟩ := hq
      rw [bind_of_ok _ (accepts_atom hp (off_cons (by simp [ht]) _)), if_pos (atKind_of_kind ht _),
        bind_of_ok _ (take_of_kind ht _), bind_of_ok _ (accepts_atom hq hend)]
      rfl
  | unequal hp hq =>
      obtain ⟨ht, hq⟩ := hq
      rw [bind_of_ok _ (accepts_atom hp (off_cons (by simp [ht]) _)),
        if_neg (not_atKind_of_kind (by simp [ht]) _), if_pos (atKind_of_kind ht _),
        bind_of_ok _ (take_of_kind ht _), bind_of_ok _ (accepts_atom hq hend)]
      rfl

/-- A further comparison. -/
def conjoin (p : Predicate) : Reader Predicate := do
  let _ ← take .both
  return .both p (← comparison)

theorem steps_conjoin : Steps (Off [.dot, .equal, .unequal]) (fun t => (t.kind == .both) = true)
    (Behind .both Comparison) (fun p q => .ok (.both p q)) conjoin where
  reads p _ q rest hq hrest := by
    obtain ⟨ht, hq⟩ := hq
    rw [conjoin, bind_of_ok _ (take_of_kind ht _),
      bind_of_ok _ (accepts_comparison hq hrest)]
    rfl
  opens hq hrest := by
    have hopens : Opens (fun t => (t.kind == .both) = true) (do let _ ← take .both; comparison) :=
      Opens.takeIf.bind fun _ => yields_comparison.weaken fun _ _ => trivial
    exact hopens _ _ _ (accepts_behind accepts_comparison hq hrest)
  follows t ts ht := off_cons (by simp [beq_iff_eq.mp ht]) ts

/-- A conjunction is read up to what cannot go on with it. -/
theorem accepts_reader : Accepts (Off connectives) reader Conjunction := by
  rintro ts _ rest ⟨hfirst, hothers⟩ hrest
  have hend : Off [.dot, .equal, .unequal] rest := hrest.mono (by decide)
  have hboth := hrest .both (by decide)
  rw [reader, bind_of_ok _ (accepts_comparison hfirst (follow_of_many steps_conjoin hothers hend))]
  exact repeated_eq_ok_of_many steps_conjoin (fun t ts ht => by simpa [atKind] using ht) hothers
    (by simp [hboth]) hend _

end ChangeGate.Predicate
