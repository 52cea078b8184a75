import ChangeGate.Proofs.Diff.Printing
import ChangeGate.Proofs.Predicate.Grammar
import ChangeGate.Proofs.Source.Writing

/-! # Writing predicates

A predicate is written from left to right without parentheses, which there are none of: what groups
to the left is read as it was (`writes_signs`).  A path is written as its words, with points between
them. -/

namespace ChangeGate

open Source Token

/-- The sign of a relation. -/
def Relation.sign : Relation → Sign
  | .equal => ⟨.equal, "=="⟩
  | relation => ⟨.unequal, relation.symbol⟩

namespace Predicate

open Grammar

/-- The words of a path with points between them. -/
def pathSigns (path : String) : List Sign :=
  match Text.splitAt '.' path.toList with
  | [] => []
  | word :: words => .word (.ofList word) :: words.flatMap fun w => [.point, .word (.ofList w)]

/-- The signs of a number; those of a fraction do not matter. -/
def numberSigns : Number → List Sign
  | .whole n => [.numeral (.ofList (Diff.numeral n.toNat))]
  | .fraction _ => []

/-- The signs of a predicate from left to right; a node of no known class has none. -/
def signs : Predicate → List Sign
  | .both left right => left.signs ++ .both :: right.signs
  | .compare relation left right => left.signs ++ relation.sign :: right.signs
  | .field path => pathSigns path
  | .text value => [.quoted value]
  | .number n => numberSigns n
  | .null => [.reserved "null"]
  | .other _ => []

/-! ### Paths -/

theorem not_mem_of_isWord {cs : List Char} (h : IsWord cs) : '.' ∉ cs := by
  intro hmem
  obtain ⟨hc, hcs⟩ := h
  rcases List.mem_cons.mp hmem with rfl | hmem
  · exact absurd hc (by decide)
  · exact absurd (hcs _ hmem) (by decide)

theorem pathSigns_intercalate {word : String} {words : List String}
    (h : ∀ w ∈ word :: words, IsWord w.toList) :
    pathSigns (".".intercalate (word :: words)) =
      [.word word] ++ words.flatMap fun w => .point :: [.word w] := by
  have hsplit : Text.splitAt '.' (".".intercalate (word :: words)).toList =
      (word :: words).map String.toList := by
    rw [String.toList_intercalate]
    refine Text.splitAt_intercalate (List.cons_ne_nil _ _) fun cs hcs => ?_
    obtain ⟨w, hw, rfl⟩ := List.mem_map.mp hcs
    exact not_mem_of_isWord (h w hw)
  rw [pathSigns, hsplit]
  simp [List.flatMap_map]

theorem writes_word (word : String) : Writes Word [.word word] word := by
  intro ts rest hts
  obtain ⟨t, rfl, ht⟩ := List.map_eq_singleton_iff.mp hts
  obtain ⟨hname, htext⟩ := isNameLike_of_sign ht
  have hword : Word (t :: rest) t.text rest := .mk hname
  rwa [htext] at hword

theorem writes_path {path : String} (h : IsPath path) : Writes Dotted (pathSigns path) path := by
  obtain ⟨word, words, rfl, hnull, hwords⟩ := h
  rw [pathSigns_intercalate hwords]
  intro ts rest hts
  have hwords : Writes (Separated Sign.point.kind Word)
      ([.word word] ++ words.flatMap fun w => .point :: [.word w]) (word :: words) :=
    writes_separated fun w _ => writes_word w
  refine .mk ?_ (hwords ts rest hts)
  obtain ⟨t, ts, rfl, ht, -⟩ := List.map_eq_cons_iff.mp hts
  show t.isKeyword "null" = false
  rw [← Bool.not_eq_true, isKeyword_iff, (isNameLike_of_sign ht).2]
  exact fun h => hnull h.2

/-! ### Operands -/

theorem isDigits_numeral (k : Nat) : IsDigits (Diff.numeral k) :=
  ⟨Nat.toDigits_ne_nil, fun _ => Nat.isDigit_of_mem_toDigits (by decide) (by decide)⟩

theorem ofNumeral?_numeral {k : Nat} (h : k < 10 ^ Text.longestNumeral) :
    Number.ofNumeral? (Diff.numeral k) = some (.whole k) := by
  have hpoint := (isDigits_numeral k).ne_point
  have hlength : (Diff.numeral k).length ≤ Text.longestNumeral :=
    Nat.toDigits_length 10 k _ (by decide) h
  rw [Number.ofNumeral?, List.dropWhile_eq_nil_iff.mpr hpoint,
    List.takeWhile_eq_self_iff.mpr hpoint]
  dsimp only
  rw [if_neg (Nat.not_lt.mpr hlength), Diff.decimalValue_numeral]

theorem writes_operand {p : Predicate} (h : IsOperand Number.IsCount p) :
    Writes Atom p.signs p := by
  intro ts rest hts
  cases h with
  | null =>
      obtain ⟨t, rfl, ht⟩ := List.map_eq_singleton_iff.mp hts
      exact .null (isKeyword_of_sign ht)
  | text value => exact .text (writes_literal .text value ts rest hts)
  | number hn =>
      obtain ⟨k, hk, rfl⟩ := hn
      refine .number (writes_literal .number _ ts rest hts) ?_
      rw [String.toList_ofList]
      exact ofNumeral?_numeral hk
  | field hpath => exact .field (writes_path hpath ts rest hts)

theorem writes_comparison {p : Predicate} (h : IsComparison Number.IsCount p) :
    Writes Comparison p.signs p := by
  intro ts rest hts
  cases h with
  | operand hp => exact .operand (writes_operand hp ts rest hts)
  | equal hp hq =>
      obtain ⟨ts₁, ts₂, rfl, h₁, h₂⟩ := List.map_eq_append_iff.mp hts
      obtain ⟨t, ts₂, rfl, ht, h₂⟩ := List.map_eq_cons_iff.mp h₂
      rw [List.append_assoc]
      exact .equal (writes_operand hp ts₁ _ h₁)
        (.mk (congrArg Sign.kind ht) (writes_operand hq ts₂ rest h₂))
  | unequal hp hq =>
      obtain ⟨ts₁, ts₂, rfl, h₁, h₂⟩ := List.map_eq_append_iff.mp hts
      obtain ⟨t, ts₂, rfl, ht, h₂⟩ := List.map_eq_cons_iff.mp h₂
      rw [List.append_assoc]
      exact .unequal (writes_operand hp ts₁ _ h₁)
        (.mk (congrArg Sign.kind ht) (writes_operand hq ts₂ rest h₂))

/-- What groups to the left is written as what is read so. -/
theorem writes_signs {p : Predicate} (h : IsChain Number.IsCount p) :
    Writes Conjunction p.signs p := by
  induction h with
  | comparison hp =>
      intro ts rest hts
      exact .mk (writes_comparison hp ts rest hts) .nil
  | @both p q _ hq ih =>
      intro ts rest hts
      obtain ⟨ts₁, ts₂, rfl, h₁, h₂⟩ := List.map_eq_append_iff.mp hts
      obtain ⟨t, ts₂, rfl, ht, h₂⟩ := List.map_eq_cons_iff.mp h₂
      have hq : Many (Behind .both Comparison) (t :: ts₂ ++ rest) [q] rest :=
        .cons (.mk (congrArg Sign.kind ht) (writes_comparison hq ts₂ rest h₂)) .nil
      obtain ⟨hfirst, hothers⟩ := ih ts₁ (t :: ts₂ ++ rest) h₁
      rw [List.append_assoc]
      have hboth := Conjunction.mk hfirst (hothers.append hq)
      rwa [List.foldl_concat] at hboth

/-! ### Signs that can be written -/

theorem writable_of_isOperand {p : Predicate} (h : IsOperand Number.IsCount p) :
    ∀ s ∈ p.signs, s.Writable := by
  cases h with
  | null => exact List.forall_mem_singleton.mpr (.reserved (by decide))
  | text value => exact List.forall_mem_singleton.mpr .quoted
  | number hn =>
      obtain ⟨k, -, rfl⟩ := hn
      refine List.forall_mem_singleton.mpr (.numeral ?_)
      rw [String.toList_ofList]
      exact .whole (isDigits_numeral k)
  | field hpath =>
      obtain ⟨word, words, rfl, -, hwords⟩ := hpath
      rw [signs, pathSigns_intercalate hwords]
      obtain ⟨hword, hwords⟩ := List.forall_mem_cons.mp hwords
      refine List.forall_mem_cons.mpr ⟨.word hword, fun s hs => ?_⟩
      obtain ⟨w, hw, hs⟩ := List.mem_flatMap.mp hs
      simp only [List.mem_cons, List.not_mem_nil, or_false] at hs
      rcases hs with rfl | rfl
      · exact .point
      · exact .word (hwords w hw)

theorem writable_of_isComparison {p : Predicate} (h : IsComparison Number.IsCount p) :
    ∀ s ∈ p.signs, s.Writable := by
  have hpair {p q : Predicate} (relation : Relation) (hrelation : relation.sign.Writable)
      (hp : IsOperand Number.IsCount p) (hq : IsOperand Number.IsCount q) :
      ∀ s ∈ (compare relation p q).signs, s.Writable :=
    List.forall_mem_append.mpr ⟨writable_of_isOperand hp,
      List.forall_mem_cons.mpr ⟨hrelation, writable_of_isOperand hq⟩⟩
  cases h with
  | operand hp => exact writable_of_isOperand hp
  | equal hp hq => exact hpair .equal (.pair rfl) hp hq
  | unequal hp hq => exact hpair .unequal (.pair rfl) hp hq

theorem writable_of_isChain {p : Predicate} (h : IsChain Number.IsCount p) :
    ∀ s ∈ p.signs, s.Writable := by
  induction h with
  | comparison hp => exact writable_of_isComparison hp
  | both _ hq ih =>
      exact List.forall_mem_append.mpr ⟨ih,
        List.forall_mem_cons.mpr ⟨.both, writable_of_isComparison hq⟩⟩

end Predicate
end ChangeGate
