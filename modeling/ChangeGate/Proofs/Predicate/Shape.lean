import ChangeGate.Predicate.Reader
import ChangeGate.Proofs.Source.Yields
import ChangeGate.Proofs.Text.Numeral
import ChangeGate.Proofs.Token.Pieces
import Mathlib.Algebra.Group.Nat.Defs

/-! # The shape of predicates that are read

A predicate that is read is a chain: conjunctions group to the left, each part is an operand or
compares two of them, and an operand is `null`, a text, a number or a dotted path of words that does
not open with `null` (`IsChain`).

`yields_reader`: this holds of what is read from tokens that are spelled as tokens of a source. -/

namespace ChangeGate

open Token

/-! ### Spelling -/

/-- A token is spelled as one of its kind: words, names and numerals are what they are called. -/
structure Token.Spelled (t : Token) : Prop where
  word : t.isNameLike = true → IsWord t.text.toList
  free : t.kind = .name → t.text ∉ keywords
  numeral : t.kind = .number → IsNumeral t.text.toList

theorem Token.not_isNameLike_of_mark? {c : Char} {kind : Kind} (h : mark? c = some kind) :
    kind ≠ .name ∧ kind ≠ .keyword ∧ kind ≠ .number := by
  unfold mark? at h
  split at h <;> cases h <;> decide

theorem Token.not_isNameLike_of_pair? {c d : Char} {kind : Kind} (h : pair? c d = some kind) :
    kind ≠ .name ∧ kind ≠ .keyword ∧ kind ≠ .number := by
  unfold pair? at h
  split at h <;> cases h <;> decide

theorem Token.spelled_of_lexeme {t : Token} {raw rest : List Char}
    (h : Lexeme t.kind t.text.toList raw rest) : t.Spelled := by
  obtain ⟨kind, text, place⟩ := t
  have hnone (h : kind ≠ .name ∧ kind ≠ .keyword ∧ kind ≠ .number) :
      Spelled ⟨kind, text, place⟩ := by
    obtain ⟨hname, hkeyword, hnumber⟩ := h
    exact ⟨by simp [isNameLike, hname, hkeyword], fun h => absurd h hname,
      fun h => absurd h hnumber⟩
  generalize htext : text.toList = cs at h
  cases h with
  | lineEnd => exact hnone (by decide)
  | mark h => exact hnone (not_isNameLike_of_mark? h)
  | pair h => exact hnone (not_isNameLike_of_pair? h)
  | text h => exact hnone (by decide)
  | number h => exact ⟨nofun, nofun, fun _ => htext ▸ h.holds⟩
  | keyword h hraw => exact ⟨fun _ => htext ▸ h.holds, nofun, nofun⟩
  | name h hraw =>
      rw [← htext, String.ofList_toList] at hraw
      exact ⟨fun _ => htext ▸ h.holds, fun _ => hraw, nofun⟩

/-- The tokens of a source are spelled as such. -/
theorem Token.spelled_of_scan {source : String} {ts : List Token} {last : Place}
    (h : scan source = .ok (ts, last)) : ∀ t ∈ ts, t.Spelled := by
  obtain ⟨pieces, gap, -, rfl, hfollow, -⟩ := scan_eq_ok_iff.mp h
  intro t ht
  obtain ⟨x, hx, rfl⟩ := List.mem_map.mp ht
  obtain ⟨before, after, rfl⟩ := List.append_of_mem hx
  exact spelled_of_lexeme ((follow_iff.mp hfollow).1 before x after rfl).1.lexeme

/-- What a reader yields from tokens that are spelled as such, it yields from a source. -/
theorem Source.Yields.of_read {α : Type} {Q : α → Prop} {r : Source.Reader α}
    (hr : Yields Token.Spelled Q r) {source file : String} {x : α}
    (h : Source.read r source file = .ok x) : Q x := by
  obtain ⟨ts, last, rest, hscan, hread⟩ := Source.scan_of_read h
  exact (hr ts x rest hread).2 (spelled_of_scan hscan)

/-! ### Numbers -/

/-- A whole number that is not negative and not too long to be read. -/
def Number.IsCount (n : Number) : Prop := ∃ k : Nat, k < 10 ^ Text.longestNumeral ∧ n = .whole k

/-- A number that a decimal fraction writes. -/
def Number.IsDecimal (n : Number) : Prop :=
  ∃ digits places, IsDigits digits ∧ IsDigits places ∧
    n = .fraction (.ofDecimal false (Text.decimalValue (digits ++ places)) (-places.length))

/-- What a numeral writes is a whole number or a decimal fraction. -/
theorem Number.isCount_or_isDecimal {cs : List Char} (h : IsNumeral cs) {n : Number}
    (hn : Number.ofNumeral? cs = some n) : n.IsCount ∨ n.IsDecimal := by
  rw [ofNumeral?] at hn
  cases h with
  | whole h =>
      rw [List.dropWhile_eq_nil_iff.mpr h.ne_point, List.takeWhile_eq_self_iff.mpr h.ne_point] at hn
      dsimp only at hn
      split at hn
      · cases hn
      · rename_i hlong
        cases hn
        refine .inl ⟨_, (Text.decimalValue_lt cs).trans_le ?_, rfl⟩
        exact Nat.pow_le_pow_right (by decide) (Nat.le_of_not_lt hlong)
  | @fraction digits places h hplaces =>
      rw [List.dropWhile_append_of_pos h.ne_point, List.takeWhile_append_of_pos h.ne_point,
        List.dropWhile_cons_of_neg (by decide), List.takeWhile_cons_of_neg (by decide),
        List.append_nil] at hn
      cases hn
      exact .inr ⟨digits, places, h, hplaces, rfl⟩

namespace Predicate

open Source

/-! ### Chains -/

/-- Words with points between them, the first of which is not `null`. -/
def IsPath (path : String) : Prop :=
  ∃ word words, path = ".".intercalate (word :: words) ∧ word ≠ "null" ∧
    ∀ w ∈ word :: words, IsWord w.toList

section

variable (literal : Number → Prop)

/-- The operands whose numbers are of a sort. -/
inductive IsOperand : Predicate → Prop
  | null : IsOperand .null
  | text (value : String) : IsOperand (.text value)
  | number {n : Number} (hn : literal n) : IsOperand (.number n)
  | field {path : String} (hpath : IsPath path) : IsOperand (.field path)

/-- An operand, or two that are compared. -/
inductive IsComparison : Predicate → Prop
  | operand {p : Predicate} (hp : IsOperand literal p) : IsComparison p
  | equal {p q : Predicate} (hp : IsOperand literal p) (hq : IsOperand literal q) :
      IsComparison (.compare .equal p q)
  | unequal {p q : Predicate} (hp : IsOperand literal p) (hq : IsOperand literal q) :
      IsComparison (.compare .unequal p q)

/-- Conjunctions of comparisons that group to the left. -/
inductive IsChain : Predicate → Prop
  | comparison {p : Predicate} (hp : IsComparison literal p) : IsChain p
  | both {p q : Predicate} (hp : IsChain p) (hq : IsComparison literal q) : IsChain (.both p q)

end

/-! ### What is read -/

/-- The numbers that can be written in a source. -/
abbrev IsLiteral (n : Number) : Prop := n.IsCount ∨ n.IsDecimal

/-- What is read behind the first word of a path. -/
theorem yields_parts (first : String) :
    Yields Spelled (fun parts => ∃ words, parts = first :: words ∧ ∀ w ∈ words, IsWord w.toList)
      (items (fun ts => !atKind .dot ts) (do
        let _ ← take .dot
        return (← takeIf Token.isNameLike .expectedFieldPart).text) [first]) := by
  have hword : Yields Spelled (fun w => IsWord w.toList) (do
      let _ ← take .dot
      return (← takeIf Token.isNameLike .expectedFieldPart).text) :=
    (Yields.take .dot).bind fun _ => (Yields.takeIf _ _).bind fun t =>
      .pure fun ht _ => ht.1.word ht.2
  refine (Yields.repeated (fun parts => hword.bind fun w => .pure ?_) [first]).weaken
    fun parts h => h ⟨[], rfl, nofun⟩
  rintro hw ⟨words, rfl, hwords⟩
  exact ⟨words ++ [w], rfl, by simpa [or_imp, forall_and] using ⟨hwords, hw⟩⟩

/-- A path is read from tokens that do not open with `null`. -/
theorem isPath_of_fieldPath {ts rest : List Token} {path : String}
    (h : fieldPath ts = .ok (path, rest)) (hnull : atKeyword "null" ts = false) :
    rest <:+ ts ∧ ((∀ t ∈ ts, t.Spelled) → IsPath path) := by
  obtain ⟨t, ts', htake, h⟩ := bind_eq_ok_iff.mp h
  obtain ⟨parts, mid, hparts, hpure⟩ := bind_eq_ok_iff.mp h
  obtain ⟨rfl, ht⟩ := takeIf_eq_ok_iff.mp htake
  cases hpure
  obtain ⟨hrest, hyields⟩ := yields_parts t.text ts' parts rest hparts
  refine ⟨hrest.trans (List.suffix_cons t ts'), fun hts => ?_⟩
  obtain ⟨hspelled, hts'⟩ := List.forall_mem_cons.mp hts
  obtain ⟨words, rfl, hwords⟩ := hyields hts'
  refine ⟨t.text, words, rfl, fun htext => ?_, List.forall_mem_cons.mpr ⟨hspelled.word ht, hwords⟩⟩
  rw [isNameLike, Bool.or_eq_true, beq_iff_eq, beq_iff_eq] at ht
  rcases ht with ht | ht
  -- A name is no reserved word, and as a reserved word the token would have been read as `null`.
  · exact hspelled.free ht (by rw [htext]; decide)
  · simp [atKeyword, isKeyword, ht, htext] at hnull

theorem yields_numeral : Yields Spelled (IsOperand IsLiteral) numeral := by
  refine (Yields.take .number).bind fun t => ?_
  split
  · rename_i n hn
    exact .pure fun ht => .number (Number.isCount_or_isDecimal (ht.1.numeral ht.2) hn)
  · exact .throw _

theorem yields_atom : Yields Spelled (IsOperand IsLiteral) atom := by
  have htext : Yields Spelled (IsOperand IsLiteral) (do return .text (← takeText)) :=
    (Yields.literal .text).bind fun s => .pure fun _ => .text s
  have hnull : Yields Spelled (IsOperand IsLiteral) (do let _ ← takeKeyword "null"; return .null) :=
    (Yields.takeIf _ _).bind fun _ => .pure fun _ => .null
  intro ts p rest h
  change (if atKind .text ts then _ else if atKind .number ts then _ else
    if atKeyword "null" ts then _ else _ : Reader Predicate) ts = _ at h
  split at h
  · exact htext ts p rest h
  · split at h
    · exact yields_numeral ts p rest h
    · split at h
      · exact hnull ts p rest h
      · rename_i hfield
        obtain ⟨path, mid, hpath, hpure⟩ := bind_eq_ok_iff.mp h
        cases hpure
        obtain ⟨hrest, hpath⟩ := isPath_of_fieldPath hpath (Bool.eq_false_iff.mpr hfield)
        exact ⟨hrest, fun hts => .field (hpath hts)⟩

theorem yields_comparison : Yields Spelled (IsComparison IsLiteral) comparison := by
  refine yields_atom.bind fun p => Yields.get.bind fun ts => .ite ?_ (.ite ?_ ?_)
  · exact (Yields.take .equal).bind fun _ => yields_atom.bind fun q =>
      .pure fun hq _ _ hp => .equal hp hq
  · exact (Yields.take .unequal).bind fun _ => yields_atom.bind fun q =>
      .pure fun hq _ _ hp => .unequal hp hq
  · exact .pure fun _ hp => .operand hp

theorem yields_reader : Yields Spelled (IsChain IsLiteral) reader := by
  refine yields_comparison.bind fun p => ?_
  have hstep (p : Predicate) :
      Yields Spelled (fun q => IsChain IsLiteral p → IsChain IsLiteral q) (do
        let _ ← take .both
        return .both p (← comparison)) :=
    (Yields.take .both).bind fun _ => yields_comparison.bind fun q =>
      .pure fun hq _ hp => .both hp hq
  exact (Yields.repeated hstep p).weaken fun q h hp => h (.comparison hp)

end Predicate
end ChangeGate
