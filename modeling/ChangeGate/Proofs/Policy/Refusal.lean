import ChangeGate.Proofs.Architecture.Grammar
import ChangeGate.Proofs.Policy.RoundTrip
import ChangeGate.Proofs.Source.Refusal

/-! # Where policy files are refused

The readers of a policy file blame the tokens at hand, and of these a numeral only if it is the
literal of a predicate, behind the version.

`read_or_points`: a system file is read or refused at a place of its source, and so is a policy
file, but for a run of digits that is too long for a whole number. -/

namespace ChangeGate

open Source

variable {good : Token → Prop}

/-! ### Predicates -/

namespace Predicate

theorem blames_fieldPath : Blames good fieldPath := by
  have hpart : Blames good (do
      let _ ← take .dot
      return (← takeIf Token.isNameLike .expectedFieldPart).text : Reader String) :=
    (Blames.take .dot).bind (.take .dot) fun _ _ => (Blames.takeIf _ _).bind_pure
  have hyields : Yields good (fun _ => True) (do
      let _ ← take .dot
      return (← takeIf Token.isNameLike .expectedFieldPart).text : Reader String) :=
    (Yields.take .dot).bind fun _ => (Yields.takeIf _ _).bind fun _ => .pure fun _ _ => trivial
  exact (Blames.takeIf _ _).bind (.takeIf _ _) fun first _ => (hpart.items hyields _).bind_pure

theorem blames_numeral : Blames good numeral := by
  refine (Blames.take .number).bind (.take .number) fun t ht => ?_
  split
  · exact .pure
  · rename_i hnone
    intro ts e hts h
    cases h
    exact ⟨t, ht.1, ht.2, hnone⟩

theorem blames_atom : Blames good atom :=
  Blames.get.bind .get fun _ _ => .ite (Blames.literal .text).bind_pure
    (.ite blames_numeral (.ite (Blames.takeIf _ _).bind_pure blames_fieldPath.bind_pure))

theorem blames_comparison : Blames good comparison := by
  have hsecond (relation : Relation) (kind : Token.Kind) (p : Predicate) : Blames good (do
      let _ ← take kind
      return Predicate.compare relation p (← atom) : Reader Predicate) :=
    (Blames.take kind).bind (.take kind) fun _ _ => blames_atom.bind_pure
  exact blames_atom.bind yields_atom.anywhere fun p _ => Blames.get.bind .get fun _ _ =>
    .ite (hsecond .equal .equal p) (.ite (hsecond .unequal .unequal p) .pure)

theorem blames_reader : Blames good reader := by
  refine blames_comparison.bind yields_comparison.anywhere fun p _ => .repeated (fun p => ?_)
    (fun p => ?_) p
  · exact (Blames.take .both).bind (.take .both) fun _ _ => blames_comparison.bind_pure
  · exact (Yields.take .both).bind fun _ => yields_comparison.anywhere.bind fun _ =>
      .pure fun _ _ => trivial

end Predicate

/-! ### Violation blocks and policy blocks -/

namespace Policy

namespace Draft

theorem blames_item (code : String) (c : Clause) : Blames good (Item.reader code c) := by
  cases c with
  | when => exact Predicate.blames_reader.bind_pure
  | severity => exact (Blames.takeIf _ _).bind_pure
  | exceptWhen => exact (Blames.takeIf _ _).bind (.takeIf _ _) fun _ _ =>
      (Blames.literal .text).bind_pure
  | _ => exact (Blames.literal .text).bind_pure

theorem blames_give (d : Draft) (c : Clause) : Blames good (d.give c) := by
  have hclaim : Blames good (d.claim c) := .ite (.refuse _) (Blames.takeIf _ _).bind_pure
  exact hclaim.bind (yields_claim d c) fun _ _ => (blames_item d.code c).bind_pure

theorem blames_clause (d : Draft) : Blames good d.clause := by
  intro ts e hts h
  rw [clause_eq] at h
  cases hfound : tried.find? fun c => atKeyword c.word ts with
  | none =>
      rw [hfound] at h
      exact Blames.refuse _ ts e hts h
  | some c =>
      rw [hfound, giveFound] at h
      split at h
      · have hexcuse : Blames good d.excuse :=
          (blames_give d _).bind (yields_give d _).anywhere fun d' _ =>
            Blames.get.bind .get fun _ _ => .ite (blames_give d' _) .pure
        exact hexcuse ts e hts h
      · exact blames_give d c ts e hts h

theorem blames_clauseLine (d : Draft) : Blames good d.clauseLine :=
  (blames_clause d).bind (yields_clause d).anywhere fun _ _ => Blames.endStatement.bind_pure

end Draft

theorem blames_violationBehind {opening : Token} (h : good opening) :
    Blames good (violationBehind opening) := by
  refine (Blames.literal .name).bind (.literal .name) fun code _ =>
    (Blames.takeIf _ _).bind (.takeIf _ _) fun _ _ => (Blames.takeIf _ _).bind (.takeIf _ _)
    fun level _ => Blames.openBlock.bind .openBlock fun _ _ =>
    (Blames.repeated Draft.blames_clauseLine (fun d => (Draft.yields_clauseLine d).anywhere) _).bind
    (Yields.repeated Draft.yields_clauseLine _).anywhere fun d _ =>
    Blames.closeBlock.bind .closeBlock fun _ _ => ?_
  cases d.rule? level.text with
  | ok r => exact .pure
  | error clause =>
      -- A clause that is missing is blamed on the word that opens the block.
      intro ts e hts hread
      cases hread
      rintro t ⟨⟩
      exact h

theorem blames_ruleOf (name : String) : Blames good (ruleOf name) := by
  have hblock : Blames good violationBlock :=
    (Blames.takeIf _ _).bind (.takeIf _ _) fun _ ht => blames_violationBehind ht.1
  exact Blames.get.bind .get fun _ _ => .ite hblock (.refuse _)

theorem blames_policyBlock : Blames good policyBlock := by
  refine (Blames.takeIf _ _).bind (.takeIf _ _) fun _ _ => (Blames.literal .name).bind
    (.literal .name) fun name _ => Blames.openBlock.bind .openBlock fun _ _ => ?_
  exact ((blames_ruleOf name).items (yields_ruleOf name).anywhere _).bind
    ((yields_ruleOf name).items _).anywhere fun _ _ => Blames.closeBlock.bind_pure

/-- What a policy file holds behind its version. -/
def behindVersion (version : Token) : Reader PolicySet := do
  endStatement
  let first ← policyBlock
  let policies ← items List.isEmpty policyBlock [first]
  return { version := version.text, policies }

theorem blames_behindVersion (version : Token) : Blames good (behindVersion version) :=
  Blames.endStatement.bind .endStatement fun _ _ =>
    blames_policyBlock.bind yields_policyBlock.anywhere fun _ _ =>
    (blames_policyBlock.items yields_policyBlock.anywhere _).bind_pure

end Policy

/-! ### Whole files -/

/-- Behind the version, a source has a run of digits that is too long for a whole number. -/
def HasLongNumeral (source : String) : Prop :=
  ∃ before version after last,
    Token.scan source = .ok (before ++ version :: after, last) ∧ version.kind = .number ∧
      ∃ t ∈ after, t.kind = .number ∧ Token.IsDigits t.text.toList ∧
        Text.longestNumeral < t.text.toList.length

/-- A source of a system file is read, or refused at its place. -/
theorem Architecture.read_points (source file : String) :
    (∃ s, Architecture.read source file = .ok s) ∨
      ∃ e, Architecture.read source file = .error (.malformed e) ∧ e.Points source file := by
  rcases exists_read_or_points Architecture.reader source file
      (Blames.got_mem fun _ => .of_pinpoints Architecture.pinpoints_reader) with
    h | h | ⟨-, ts, -, -, h⟩
  · exact .inl h
  · exact .inr h
  · exact absurd h (Architecture.pinpoints_reader.ne_longNumeral ts)

namespace PolicySet

theorem reader_eq : reader = skipLineEnds >>= fun _ => takeKeyword "intent" >>= fun _ =>
    take .number >>= Policy.behindVersion := rfl

theorem blames_reader : Blames good reader :=
  Blames.skipLineEnds.bind .skipLineEnds fun _ _ => (Blames.takeIf _ _).bind (.takeIf _ _)
    fun _ _ => (Blames.take .number).bind (.take .number) fun version _ =>
    Policy.blames_behindVersion version

/-- The numeral that a policy file is refused for stands behind the version. -/
theorem exists_isLong_of_reader {ts : List Token} (h : reader ts = .error .longNumeral) :
    ∃ before version after, ts = before ++ version :: after ∧ version.kind = .number ∧
      ∃ t ∈ after, t.IsLong := by
  have htakeIf {ok : Token → Bool} {p : Problem} {us : List Token} :
      takeIf ok p us ≠ .error .longNumeral := by
    intro h
    cases us with
    | nil => cases h
    | cons u us =>
        rw [takeIf] at h
        split at h <;> cases h
  rw [reader_eq] at h
  rcases bind_eq_error_iff.mp h with h | ⟨_, ts₁, hskip, h₁⟩
  · cases h
  rcases bind_eq_error_iff.mp h₁ with h | ⟨k, ts₂, hintent, h₂⟩
  · exact absurd h htakeIf
  rcases bind_eq_error_iff.mp h₂ with h | ⟨version, after, hversion, h₃⟩
  · exact absurd h htakeIf
  obtain ⟨rfl, -⟩ := takeIf_eq_ok_iff.mp hintent
  obtain ⟨rfl, hkind⟩ := take_eq_ok_iff.mp hversion
  have hyields : Yields (fun _ => True) _ skipLineEnds := .skipLineEnds
  obtain ⟨ends, rfl⟩ := (hyields _ _ _ hskip).1
  have hlong : Refusal.IsAt (· ∈ after) .longNumeral :=
    Policy.blames_behindVersion version after .longNumeral (fun _ ht => ht) h₃
  exact ⟨ends ++ [k], version, after, by simp, hkind, hlong⟩

/-- A source of a policy file is read, or refused at its place, or has a numeral that is too
long. -/
theorem read_points (source file : String) :
    (∃ s, PolicySet.read source file = .ok s) ∨
      (∃ e, PolicySet.read source file = .error (.malformed e) ∧ e.Points source file) ∨
      PolicySet.read source file = .error .longNumeral ∧ HasLongNumeral source := by
  rcases exists_read_or_points PolicySet.reader source file
      (Blames.got_mem fun _ => blames_reader) with
    h | h | ⟨h, ts, last, hscan, hlong⟩
  · exact .inl h
  · exact .inr (.inl h)
  · refine .inr (.inr ⟨h, ?_⟩)
    obtain ⟨before, version, after, rfl, hversion, t, ht, hkind, hnone⟩ :=
      exists_isLong_of_reader hlong
    have hspelled := Token.spelled_of_scan hscan t (by simp [ht])
    exact ⟨before, version, after, last, hscan, hversion, t, ht, hkind,
      (Token.ofNumeral?_eq_none_iff (hspelled.numeral hkind)).mp hnone⟩

/-- **What reading a source comes to.**  Every source of a system file is read, or refused with a
syntax error that names the file and the place of what is wrong with it; and so is every source of a
policy file that has no run of digits too long for a whole number behind its version. -/
theorem read_or_points (source file : String) :
    ((∃ s, Architecture.read source file = .ok s) ∨
      ∃ e, Architecture.read source file = .error (.malformed e) ∧ e.Points source file) ∧
    ((∃ s, PolicySet.read source file = .ok s) ∨
      (∃ e, PolicySet.read source file = .error (.malformed e) ∧ e.Points source file) ∨
      PolicySet.read source file = .error .longNumeral ∧ HasLongNumeral source) :=
  ⟨Architecture.read_points source file, read_points source file⟩

/-! ### A numeral that is too long -/

open Token Policy

theorem predicate_of_isLong {t : Token} (ht : t.IsLong) (ts : List Token) :
    Predicate.reader (t :: ts) = .error .longNumeral := by
  obtain ⟨hkind, hnone⟩ := ht
  have hnumeral : Predicate.numeral (t :: ts) = .error .longNumeral := by
    rw [Predicate.numeral, bind_of_ok _ (take_of_kind hkind ts), hnone]
    rfl
  have hatom : Predicate.atom (t :: ts) = .error .longNumeral := by
    show (if atKind .text (t :: ts) then _ else if atKind .number (t :: ts) then _ else _ :
      Reader Predicate) (t :: ts) = _
    rw [if_neg (by simp [atKind, hkind]), if_pos (atKind_of_kind hkind ts), hnumeral]
  have hcomparison : Predicate.comparison (t :: ts) = .error .longNumeral := bind_of_error _ hatom
  exact bind_of_error _ hcomparison

theorem clauseLine_of_isLong {k t : Token} (hk : k.isKeyword Clause.when.word = true)
    (ht : t.IsLong) (code : String) (ts : List Token) :
    Draft.clauseLine { code } (k :: t :: ts) = .error .longNumeral := by
  have hpredicate := predicate_of_isLong ht ts
  have hitem : Item.reader code .when (t :: ts) = .error .longNumeral := bind_of_error _ hpredicate
  have hclause : Draft.clause { code } (k :: t :: ts) = .error .longNumeral := by
    rw [Draft.clause_eq, Draft.find?_tried hk]
    show Draft.give { code } .when (k :: t :: ts) = _
    rw [Draft.give, bind_of_ok _ (Draft.claim_of_isKeyword hk _ _)]
    exact bind_of_error _ hitem
  exact bind_of_error _ hclause

/-- The signs in front of the clauses of a block. -/
def violationOpening : List Sign :=
  [.reserved "violation", .name "V", .reserved "confidence", .reserved "high"]

variable {digits : String} {ts before inner rest : List Token}

theorem isLong_of_sign (hdigits : IsDigits digits.toList)
    (hlong : Text.longestNumeral < digits.toList.length) {t : Token}
    (ht : t.sign = .numeral digits) : t.IsLong := by
  have htext : t.text = digits := congrArg Sign.text ht
  refine ⟨congrArg Sign.kind ht, ?_⟩
  rw [htext]
  exact (ofNumeral?_eq_none_iff (.whole hdigits)).mpr ⟨hdigits, hlong⟩

theorem violationBlock_of_isLong (hts : ts.map sign = violationOpening)
    (hopen : openBlock before = .ok ((), inner))
    (hinner : ∀ code, Draft.clauseLine { code } inner = .error .longNumeral)
    (hclause : atKind .closeBrace inner = false) :
    violationBlock (ts ++ before) = .error .longNumeral := by
  obtain ⟨v, ts, rfl, hv, hts⟩ := List.map_eq_cons_iff.mp hts
  obtain ⟨c, ts, rfl, hc, hts⟩ := List.map_eq_cons_iff.mp hts
  obtain ⟨f, ts, rfl, hf, hts⟩ := List.map_eq_cons_iff.mp hts
  obtain ⟨l, rfl, hl⟩ := List.map_eq_singleton_iff.mp hts
  have hlevel : (l.kind == .keyword && confidenceNames.contains l.text) = true := by
    rw [show l.kind = .keyword from congrArg Sign.kind hl,
      show l.text = "high" from congrArg Sign.text hl]
    decide
  have hbody : repeated (atKind .closeBrace) Draft.clauseLine { code := c.text } inner =
      .error .longNumeral := loop_of_error hclause (hinner c.text)
  have hname : takeName (c :: f :: l :: before) = .ok (c.text, f :: l :: before) :=
    takeName_of_literal (.mk (congrArg Sign.kind hc))
  show violationBlock (v :: c :: f :: l :: before) = _
  rw [violationBlock, bind_of_ok _ (takeKeyword_of_isKeyword (isKeyword_of_sign hv) _),
    bind_of_ok _ hname, bind_of_ok _ (takeKeyword_of_isKeyword (isKeyword_of_sign hf) _),
    bind_of_ok _ (takeIf_of_ok hlevel _), bind_of_ok _ hopen, bind_of_error _ hbody]

/-- A policy block whose first violation block is refused for a numeral. -/
theorem policyBlock_of_violationBlock (hts : ts.map sign = [.reserved "policy", .name "P"])
    (hopen : openBlock before = .ok ((), inner))
    (hviolation : atKeyword "violation" inner = true)
    (hinner : violationBlock inner = .error .longNumeral) :
    policyBlock (ts ++ before) = .error .longNumeral := by
  obtain ⟨k, ts, rfl, hk, hts⟩ := List.map_eq_cons_iff.mp hts
  obtain ⟨n, rfl, hn⟩ := List.map_eq_singleton_iff.mp hts
  have hrule : ruleOf n.text inner = .error .longNumeral := by
    show (if atKeyword "violation" inner then violationBlock else _ : Reader Rule) inner = _
    rw [if_pos hviolation, hinner]
  have hon : atKind .closeBrace inner = false := by
    cases inner with
    | nil => rfl
    | cons v us => exact not_atKind_of_keyword v us (isKeyword_iff.mp hviolation).1
  have hrules : items (atKind .closeBrace) (ruleOf n.text) [] inner = .error .longNumeral :=
    loop_of_error hon (bind_of_error _ hrule)
  have hname : takeName (n :: before) = .ok (n.text, before) :=
    takeName_of_literal (.mk (congrArg Sign.kind hn))
  show policyBlock (k :: n :: before) = _
  rw [policyBlock_eq, bind_of_ok _ (takeIf_of_ok (isKeyword_of_sign hk) _), policyBehind,
    bind_of_ok _ hname, bind_of_ok _ hopen, bind_of_error _ hrules]

/-- The lines of a policy file with a rule whose predicate is a numeral. -/
def numeralLines (digits : String) : List (List Sign) :=
  [.reserved "intent", .numeral "2.0"] :: blockLines [.reserved "policy", .name "P"]
    (blockLines violationOpening
      [[.reserved "when", .numeral digits], [.reserved "severity", .reserved "error"],
        [.reserved "message", .quoted "m"]])

theorem reader_numeralLines (hdigits : IsDigits digits.toList)
    (hlong : Text.longestNumeral < digits.toList.length)
    (hts : ts.map sign = signs (numeralLines digits)) : reader ts = .error .longNumeral := by
  rw [numeralLines, signs_cons] at hts
  obtain ⟨ts₁, ts₂, rfl, hversion, hts⟩ := List.map_eq_append_iff.mp hts
  obtain ⟨ts₃, before, ts₄, after, hpolicy, hts₃, hopen, hts₄, -⟩ := split_of_blockLines hts []
  obtain ⟨ts₅, before', ts₆, after', hviolation, hts₅, hopen', hts₆, -⟩ :=
    split_of_blockLines hts₄ after
  obtain ⟨w, ts₆, rfl, hw, hts₆⟩ := List.map_eq_cons_iff.mp hts₆
  obtain ⟨n, ts₆, rfl, hn, -⟩ := List.map_eq_cons_iff.mp hts₆
  have hblock : violationBlock (ts₅ ++ before') = .error .longNumeral := by
    have hwhen : w.kind = .keyword := congrArg Sign.kind hw
    have hn := isLong_of_sign hdigits hlong hn
    exact violationBlock_of_isLong hts₅
      (openBlock_of_opening hopen' (offLineEnd_of_keyword w _ hwhen))
      (fun code => clauseLine_of_isLong (isKeyword_of_sign hw) hn code _)
      (not_atKind_of_keyword w _ hwhen)
  have hpolicyBlock : policyBlock ts₂ = .error .longNumeral := by
    obtain ⟨v, ts₅, rfl, hv, -⟩ := List.map_eq_cons_iff.mp hts₅
    have hv := isKeyword_of_sign hv
    rw [hviolation] at hopen
    rw [← List.append_nil ts₂, hpolicy]
    exact policyBlock_of_violationBlock hts₃
      (openBlock_of_opening hopen (offLineEnd_of_isKeyword v _ hv)) hv hblock
  obtain ⟨i, ts₁, rfl, hi, hts₁⟩ := List.map_eq_cons_iff.mp hversion
  obtain ⟨v, ts₁, rfl, hv, hts₁⟩ := List.map_eq_cons_iff.mp hts₁
  obtain ⟨e, rfl, he⟩ := List.map_eq_singleton_iff.mp hts₁
  obtain ⟨k, us, rfl, hk⟩ : ∃ k us, ts₂ = k :: us ∧ k.isKeyword "policy" = true := by
    obtain ⟨k, us, rfl, hk, -⟩ := List.map_eq_cons_iff.mp hts₃
    exact ⟨k, us ++ before, by rw [← List.append_nil ts₂, hpolicy]; rfl, isKeyword_of_sign hk⟩
  have hend : endStatement (e :: k :: us) = .ok ((), k :: us) :=
    endStatement_of_ending (ending_of_sign he _) (offLineEnd_of_isKeyword k us hk)
  have hi := isKeyword_of_sign hi
  have hskip : skipLineEnds (i :: v :: e :: k :: us) = .ok ((), i :: v :: e :: k :: us) :=
    skipLineEnds_append [] nofun (offLineEnd_of_isKeyword i _ hi)
  show reader (i :: v :: e :: k :: us) = _
  rw [reader_eq, bind_of_ok _ hskip, bind_of_ok _ (takeKeyword_of_isKeyword hi _),
    bind_of_ok _ (take_of_kind (congrArg Sign.kind hv) _), behindVersion, bind_of_ok _ hend,
    bind_of_error _ hpolicyBlock]

theorem isLine_numeralLines (h : IsDigits digits.toList) :
    ∀ line ∈ numeralLines digits, IsLine line := by
  have hversion : IsNumeral (['2'] ++ '.' :: ['0']) := .fraction (by decide) (by decide)
  have hwords : ∀ s ∈ violationOpening, s.Writable := by
    simp only [violationOpening, List.forall_mem_cons]
    exact ⟨.reserved (by decide), .name (by decide), .reserved (by decide), .reserved (by decide),
      nofun⟩
  have hclauses : ∀ line ∈ [[.reserved "when", .numeral digits],
      [.reserved "severity", .reserved "error"], [.reserved "message", .quoted "m"]],
      IsLine line := by
    simp only [List.forall_mem_cons]
    exact ⟨isLine_pair (.reserved (by decide)) (.numeral (.whole h)),
      isLine_pair (.reserved (by decide)) (.reserved (by decide)),
      isLine_pair (.reserved (by decide)) .quoted, nofun⟩
  have hpolicy : IsLine [.reserved "policy", .name "P"] :=
    isLine_pair (.reserved (by decide)) (.name (by decide))
  refine List.forall_mem_cons.mpr
    ⟨isLine_pair (.reserved (by decide)) (.numeral hversion), fun line hline => ?_⟩
  exact isLine_of_mem_blockLines hpolicy.writable
    (fun _ hline => isLine_of_mem_blockLines hwords hclauses hline) hline

/-- A numeral that is too long is no syntax error. -/
theorem read_numeralLines (hdigits : IsDigits digits.toList)
    (hlong : Text.longestNumeral < digits.toList.length) (file : String) :
    read (.ofList (linesText (numeralLines digits))) file = .error .longNumeral := by
  obtain ⟨ts, last, hts, hscan⟩ := scan_linesText (isLine_numeralLines hdigits)
  have hread : read _ file = _ := Source.read_of_scan hscan
  rw [hread, reader_numeralLines hdigits hlong hts]

/-- A run of ones that is one digit too long for a whole number. -/
def ones : String := .ofList (List.replicate (Text.longestNumeral + 1) '1')

/-- The policy file with this literal is not read, and not refused with a syntax error. -/
theorem read_ones : ¬ ((∃ s, read (.ofList (linesText (numeralLines ones))) = .ok s) ∨
    ∃ e, read (.ofList (linesText (numeralLines ones))) = .error (.malformed e)) := by
  have hread : read (.ofList (linesText (numeralLines ones))) = .error .longNumeral := by
    refine read_numeralLines ?_ ?_ _
    · rw [ones, String.toList_ofList]
      refine ⟨List.cons_ne_nil _ _, fun c hc => ?_⟩
      rw [List.eq_of_mem_replicate hc]
      decide
    · rw [ones, String.toList_ofList, List.length_replicate]
      exact Nat.lt_succ_self _
  rw [hread]
  rintro (⟨s, h⟩ | ⟨e, h⟩) <;> cases h

end PolicySet
end ChangeGate
