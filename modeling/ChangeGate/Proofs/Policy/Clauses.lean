import ChangeGate.Proofs.Policy.Grammar
import Mathlib.Data.List.Nodup

/-! # The clauses of a violation block

A draft takes each clause once (`foldlM_add?_of_nodup`), and the rule that it becomes says what the
clauses do (`rule?_eq_ok_iff`).

`violationBlock_clauses`: a violation block is read exactly if no clause is repeated and no required
one is missing, and the order of the clauses does not count; otherwise the first clause that is
repeated is refused, or the first one that is missing. -/

namespace ChangeGate.Policy

open Source Grammar

namespace Draft

variable {d : Draft} {item : Item} {ts rest : List Token}

/-! ### Adding clauses -/

theorem has_eq_isSome (d : Draft) (c : Clause) : d.has c = (d.item? c).isSome := by
  cases c <;> simp [has, item?]

theorem item?_add (d : Draft) (item : Item) (c : Clause) :
    (d.add item).item? c = if item.clause = c then some item else d.item? c := by
  cases item <;> cases c <;> rfl

theorem code_add (d : Draft) (item : Item) : (d.add item).code = d.code := by
  cases item <;> rfl

theorem has_add (d : Draft) (item : Item) (c : Clause) :
    (d.add item).has c = true ↔ item.clause = c ∨ d.has c = true := by
  rw [has_eq_isSome, has_eq_isSome, item?_add]
  split
  · rename_i h
    simp [h]
  · rename_i h
    simp [h]

/-- A draft with what clauses say. -/
def addAll (d : Draft) (items : List Item) : Draft := items.foldl add d

theorem has_addAll (d : Draft) (items : List Item) (c : Clause) :
    (d.addAll items).has c = true ↔ c ∈ items.map Item.clause ∨ d.has c = true := by
  induction items generalizing d with
  | nil => simp [addAll]
  | cons item items ih =>
      rw [addAll, List.foldl_cons, ← addAll, ih, has_add, List.map_cons, List.mem_cons,
        or_left_comm, or_assoc, eq_comm]

theorem code_addAll (d : Draft) (items : List Item) : (d.addAll items).code = d.code := by
  induction items generalizing d with
  | nil => rfl
  | cons item items ih => rw [addAll, List.foldl_cons, ← addAll, ih, code_add]

/-- Clauses that are given once are all in the draft. -/
theorem item?_addAll (d : Draft) {items : List Item} (h : (items.map Item.clause).Nodup) :
    (d.addAll items).item? item.clause = some item ↔
      item ∈ items ∨ item.clause ∉ items.map Item.clause ∧ d.item? item.clause = some item := by
  induction items generalizing d with
  | nil => simp [addAll]
  | cons first items ih =>
      rw [List.map_cons, List.nodup_cons] at h
      rw [addAll, List.foldl_cons, ← addAll, ih _ h.2, item?_add, List.mem_cons, List.map_cons,
        List.mem_cons]
      by_cases hfirst : first.clause = item.clause
      · have hclause : item.clause ∉ items.map Item.clause := hfirst ▸ h.1
        have hitem : item ∉ items := fun hmem => hclause (List.mem_map_of_mem hmem)
        simp [hfirst, hclause, hitem, eq_comm]
      · have hne : item ≠ first := fun h => hfirst (h ▸ rfl)
        simp [hfirst, hne, Ne.symm hfirst]

/-- Clauses that are given once, and not before, are added. -/
theorem foldlM_add?_of_nodup {gs : List (Token × Item)}
    (h : ((gs.map (·.2)).map Item.clause).Nodup)
    (hnew : ∀ c ∈ (gs.map (·.2)).map Item.clause, d.has c = false) :
    gs.foldlM add? d = .ok (d.addAll (gs.map (·.2))) := by
  induction gs generalizing d with
  | nil => rfl
  | cons g gs ih =>
      rw [List.map_cons, List.map_cons] at h hnew
      obtain ⟨hg, hgs⟩ := List.nodup_cons.mp h
      obtain ⟨hnew, hnews⟩ := List.forall_mem_cons.mp hnew
      have hadd : d.add? g = .ok (d.add g.2) := if_neg (by simp [hnew])
      rw [List.foldlM_cons, hadd]
      refine ih hgs fun c hc => ?_
      rw [Bool.eq_false_iff, Ne, has_add, not_or]
      exact ⟨fun h => hg (h ▸ hc), by simp [hnews c hc]⟩

end Draft

/-! ### Lines of clauses -/

namespace Draft

/-- A draft without clauses. -/
def new (code : String) : Draft := { code }

theorem has_new (code : String) (c : Clause) : (new code).has c = false := by
  cases c <;> rfl

theorem foldlM_of_line {gs : List (Token × Item)} (h : Line ts gs rest) (code : String) :
    ∃ d, gs.foldlM add? (new code) = .ok d := by
  refine ⟨_, foldlM_add?_of_nodup ?_ fun c _ => has_new code c⟩
  cases h with
  | one h hend => simp
  | approved h hg h' hg' hend => simp [hg, hg']

theorem steps_clauseLine : Steps OffLineEnd (fun t => t.kind = .keyword) Line
    (fun d gs => gs.foldlM add? d) clauseLine where
  reads d _ _ _ h hrest := clauseLine_of_line h hrest d
  opens h hrest := by
    -- What a line opens with is the same for all drafts, and one without clauses refuses no line.
    obtain ⟨d, hd⟩ := foldlM_of_line h ""
    have hread := clauseLine_of_line h hrest (new "")
    rw [hd] at hread
    exact opens_clauseLine _ _ _ _ hread
  follows := offLineEnd_of_keyword

end Draft

/-! ### Rules -/

/-- What a rule says. -/
def Says (r : Rule) : Item → Prop
  | .when p => r.when = p
  | .severity name => r.severity = name
  | .message text => r.message = text
  | .suggest text => r.suggest = some text
  | .autoFix text => r.autoFix = some text
  | .exceptWhen tag => r.exceptTag = some tag
  | .requiresApproval role => r.approver = some role

namespace Draft

variable {d : Draft}

/-- The rule of a draft says what the draft does. -/
theorem rule?_eq_ok_iff {level : String} {r : Rule} :
    d.rule? level = .ok r ↔ r.code = d.code ∧ r.confidence = level ∧
      ∀ item : Item, d.item? item.clause = some item ↔ Says r item := by
  constructor
  · intro h
    rw [rule?] at h
    split at h
    · cases h
    · cases h
    · cases h
    · rename_i hwhen hseverity hmessage
      cases h
      refine ⟨rfl, rfl, fun item => ?_⟩
      cases item <;> simp [item?, Says, Item.clause, hwhen, hseverity, hmessage]
  · rintro ⟨hcode, rfl, htells⟩
    have hwhen : d.when? = some r.when := by
      simpa [item?, Item.clause] using (htells (.when r.when)).mpr rfl
    have hseverity : d.severity? = some r.severity := by
      simpa [item?, Item.clause] using (htells (.severity r.severity)).mpr rfl
    have hmessage : d.message? = some r.message := by
      simpa [item?, Item.clause] using (htells (.message r.message)).mpr rfl
    have hsuggest : d.suggest? = r.suggest := Option.ext fun s => by
      simpa [item?, Item.clause, Says] using htells (.suggest s)
    have hautoFix : d.autoFix? = r.autoFix := Option.ext fun s => by
      simpa [item?, Item.clause, Says] using htells (.autoFix s)
    have hexcept : d.exceptTag? = r.exceptTag := Option.ext fun s => by
      simpa [item?, Item.clause, Says] using htells (.exceptWhen s)
    have happrover : d.approver? = r.approver := Option.ext fun s => by
      simpa [item?, Item.clause, Says] using htells (.requiresApproval s)
    rw [rule?, hwhen, hseverity, hmessage, hsuggest, hautoFix, hexcept, happrover, ← hcode]

/-- The clauses that a violation block needs, in the order in which they are asked for. -/
def required : List Clause := [.when, .severity, .message]

theorem rule?_eq_error_iff {level : String} {c : Clause} :
    d.rule? level = .error c ↔ required.find? (fun c => !d.has c) = some c := by
  obtain ⟨code, when?, severity?, message?, suggest?, autoFix?, exceptTag?, approver?⟩ := d
  cases when? <;> cases severity? <;> cases message? <;> simp [rule?, required, has, eq_comm]

end Draft

/-! ### Blocks -/

namespace Violation

/-- The rule that the clauses of a block make. -/
structure Makes (b : Violation) (r : Rule) : Prop where
  code : r.code = b.code
  confidence : r.confidence = b.level
  items : ∀ item, Says r item ↔ item ∈ b.items

/-- A clause was given before, by the clauses in front of a word, which are given once. -/
def IsFirstRepeated (b : Violation) (k : Token) (c : Clause) : Prop :=
  ∃ before item after, b.given = before ++ (k, item) :: after ∧ item.clause = c ∧
    (before.map (·.2.clause)).Nodup ∧ c ∈ before.map (·.2.clause)

/-- The first required clause that is not given. -/
def missing? (b : Violation) : Option Clause := Draft.required.find? fun c => c ∉ b.clauses

end Violation

variable {b : Violation} {ts rest : List Token}

theorem foldlM_flatten {α σ ε : Type} (f : σ → α → Except ε σ) (xss : List (List α)) (s : σ) :
    xss.flatten.foldlM f s = xss.foldlM (fun s xs => xs.foldlM f s) s := by
  induction xss generalizing s with
  | nil => rfl
  | cons xs xss ih =>
      rw [List.flatten_cons, List.foldlM_append, List.foldlM_cons]
      exact congrArg _ (funext ih)

/-- The body of a block is read clause by clause. -/
theorem violationBlock_of_block (h : Block ts b rest) (hrest : OffLineEnd rest) :
    violationBlock ts = (do
      let d ← b.given.foldlM Draft.add? (Draft.new b.code)
      match d.rule? b.level with
      | .ok r => .ok (r, rest)
      | .error c => .error (.problem (.missingClause b.code c) (some b.opening))) := by
  obtain @⟨v, f, l, _, _, body, _, _, code, lines, hv, hcode, hf, hl, hlevel, hopen, hbody,
    hclose⟩ := h
  have hend := closeBlock_of_closing hclose hrest
  obtain ⟨hclosed, hoff⟩ := hclose.brace
  have hopened := openBlock_of_opening hopen (follow_of_many Draft.steps_clauseLine hbody hoff)
  have hread := repeated_of_many Draft.steps_clauseLine not_atKind_of_keyword hbody hclosed hoff
    (Draft.new code)
  rw [← foldlM_flatten] at hread
  rw [violationBlock, bind_of_ok _ (takeKeyword_of_isKeyword hv _),
    bind_of_ok _ (takeName_of_literal hcode), bind_of_ok _ (takeKeyword_of_isKeyword hf _),
    bind_of_ok _ (takeIf_of_ok (by simp [hl, hlevel]) _), bind_of_ok _ hopened]
  show (repeated _ Draft.clauseLine (Draft.new code) >>= _ : Reader Rule) body = _
  cases hfold : lines.flatten.foldlM Draft.add? (Draft.new code) with
  | error e =>
      rw [hfold] at hread
      rw [bind_of_error _ hread]
      rfl
  | ok d =>
      rw [hfold] at hread
      rw [bind_of_ok _ hread, bind_of_ok _ hend]
      show _ = match d.rule? l.text with | .ok r => _ | .error c => _
      cases d.rule? l.text <;> rfl

/-- A list with a repeated key has a first element whose key stands before it. -/
theorem exists_first_repeated {α β : Type} {key : α → β} {xs : List α} (h : ¬ (xs.map key).Nodup) :
    ∃ before x after, xs = before ++ x :: after ∧ (before.map key).Nodup ∧
      key x ∈ before.map key := by
  induction xs using List.reverseRecOn with
  | nil => exact absurd List.nodup_nil h
  | append_singleton xs x ih =>
      by_cases hxs : (xs.map key).Nodup
      · refine ⟨xs, x, [], rfl, hxs, ?_⟩
        rw [List.map_append, List.map_singleton, List.nodup_append] at h
        by_contra hx
        refine h ⟨hxs, by simp, fun y hy z hz => ?_⟩
        rw [List.mem_singleton.mp hz]
        rintro rfl
        exact hx hy
      · obtain ⟨before, y, after, rfl, hbefore, hy⟩ := ih hxs
        exact ⟨before, y, after ++ [x], by simp, hbefore, hy⟩

namespace Violation

theorem nodup_clauses (b : Violation) :
    b.clauses.Nodup ∨ ∃ k c, b.IsFirstRepeated k c := by
  by_cases h : (b.given.map (·.2.clause)).Nodup
  · exact .inl (by rwa [clauses, items, List.map_map])
  · obtain ⟨before, ⟨k, item⟩, after, hsplit, hbefore, hitem⟩ := exists_first_repeated h
    exact .inr ⟨k, item.clause, before, item, after, hsplit, rfl, hbefore, hitem⟩

/-- The clauses before a repeated one are added, and that one is refused. -/
theorem foldlM_of_isFirstRepeated {k : Token} {c : Clause} (h : b.IsFirstRepeated k c)
    (code : String) : b.given.foldlM Draft.add? (Draft.new code) =
      .error (.problem (.repeatedClause code c) (some k)) := by
  obtain ⟨before, item, after, hsplit, rfl, hbefore, hitem⟩ := h
  have hmap : before.map (·.2.clause) = (before.map (·.2)).map Item.clause := by
    rw [List.map_map]
    rfl
  rw [hmap] at hbefore hitem
  have hadd := Draft.foldlM_add?_of_nodup (d := Draft.new code) hbefore fun c _ =>
    Draft.has_new code c
  have hhas : ((Draft.new code).addAll (before.map (·.2))).has item.clause = true :=
    (Draft.has_addAll _ _ _).mpr (.inl hitem)
  rw [hsplit, List.foldlM_append, hadd]
  show (List.foldlM _ _ (_ :: _) : Except Refusal Draft) = _
  rw [List.foldlM_cons, Draft.add?, if_pos hhas, Draft.code_addAll]
  rfl

/-- The draft of clauses that are given once makes the rule that says them. -/
theorem rule?_addAll (h : b.clauses.Nodup) {r : Rule} :
    ((Draft.new b.code).addAll b.items).rule? b.level = .ok r ↔ b.Makes r := by
  have hitem (item : Item) : ((Draft.new b.code).addAll b.items).item? item.clause = some item ↔
      item ∈ b.items := by
    rw [Draft.item?_addAll _ h]
    have hnew : (Draft.new b.code).item? item.clause = none := by cases item <;> rfl
    simp [hnew]
  rw [Draft.rule?_eq_ok_iff, Draft.code_addAll]
  constructor
  · rintro ⟨hcode, hlevel, htells⟩
    exact ⟨hcode, hlevel, fun item => (htells item).symm.trans (hitem item)⟩
  · rintro ⟨hcode, hlevel, htells⟩
    exact ⟨hcode, hlevel, fun item => (hitem item).trans (htells item).symm⟩

/-- The draft of all clauses lacks the first required one that is not given. -/
theorem rule?_addAll_eq_error_iff {c : Clause} :
    ((Draft.new b.code).addAll b.items).rule? b.level = .error c ↔ b.missing? = some c := by
  have hhas : (fun c => !((Draft.new b.code).addAll b.items).has c) =
      fun c => decide (c ∉ b.clauses) := by
    funext c
    rw [Bool.eq_iff_iff, Bool.not_eq_true', ← Bool.not_eq_true, Draft.has_addAll, Draft.has_new]
    simp [clauses]
  rw [Draft.rule?_eq_error_iff, hhas, missing?]

end Violation

/-! ### What becomes of a block -/

theorem violationBlock_of_nodup (h : Block ts b rest) (hrest : OffLineEnd rest)
    (hnodup : b.clauses.Nodup) :
    violationBlock ts = match ((Draft.new b.code).addAll b.items).rule? b.level with
      | .ok r => .ok (r, rest)
      | .error c => .error (.problem (.missingClause b.code c) (some b.opening)) := by
  rw [violationBlock_of_block h hrest,
    Draft.foldlM_add?_of_nodup hnodup fun c _ => Draft.has_new _ c]
  rfl

/-- A block whose clauses are given once is read as the rule that they make. -/
theorem violationBlock_of_makes (h : Block ts b rest) (hrest : OffLineEnd rest)
    (hnodup : b.clauses.Nodup) {r : Rule} (hr : b.Makes r) : violationBlock ts = .ok (r, rest) := by
  rw [violationBlock_of_nodup h hrest hnodup, (Violation.rule?_addAll hnodup).mpr hr]

/-- A block whose clauses are given once is refused at its first word if one is missing. -/
theorem violationBlock_of_missing (h : Block ts b rest) (hrest : OffLineEnd rest)
    (hnodup : b.clauses.Nodup) {c : Clause} (hc : b.missing? = some c) :
    violationBlock ts = .error (.problem (.missingClause b.code c) (some b.opening)) := by
  rw [violationBlock_of_nodup h hrest hnodup, Violation.rule?_addAll_eq_error_iff.mpr hc]

/-- A block is refused at the first word of a clause that was given before. -/
theorem violationBlock_of_repeated (h : Block ts b rest) (hrest : OffLineEnd rest) {k : Token}
    {c : Clause} (hrepeated : b.IsFirstRepeated k c) :
    violationBlock ts = .error (.problem (.repeatedClause b.code c) (some k)) := by
  rw [violationBlock_of_block h hrest, Violation.foldlM_of_isFirstRepeated hrepeated]
  rfl

/-- A block that is read gives each clause once, and makes the rule that is read. -/
theorem makes_of_violationBlock (h : Block ts b rest) (hrest : OffLineEnd rest) {r : Rule}
    {rest' : List Token} (hread : violationBlock ts = .ok (r, rest')) :
    b.clauses.Nodup ∧ b.missing? = none ∧ b.Makes r ∧ rest' = rest := by
  rcases b.nodup_clauses with hnodup | ⟨k, c, hrepeated⟩
  · rw [violationBlock_of_nodup h hrest hnodup] at hread
    split at hread
    · rename_i r' hr'
      cases hread
      refine ⟨hnodup, ?_, (Violation.rule?_addAll hnodup).mp hr', rfl⟩
      cases hc : b.missing? with
      | none => rfl
      | some c =>
          rw [Violation.rule?_addAll_eq_error_iff.mpr hc] at hr'
          cases hr'
    · cases hread
  · rw [violationBlock_of_repeated h hrest hrepeated] at hread
    cases hread

/-- A block whose clauses are given once, with none missing, makes a rule. -/
theorem exists_makes (hnodup : b.clauses.Nodup) (hnone : b.missing? = none) : ∃ r, b.Makes r := by
  cases hr : ((Draft.new b.code).addAll b.items).rule? b.level with
  | ok r => exact ⟨r, (Violation.rule?_addAll hnodup).mp hr⟩
  | error c =>
      rw [Violation.rule?_addAll_eq_error_iff.mp hr] at hnone
      cases hnone

/-! ### Clause discipline -/

namespace Violation

/-- Each required clause is given exactly once, and each other clause at most once. -/
structure IsComplete (b : Violation) : Prop where
  required : ∀ c ∈ [Clause.when, .severity, .message], b.clauses.count c = 1
  others : ∀ c, b.clauses.count c ≤ 1

theorem isComplete_iff (b : Violation) :
    b.IsComplete ↔ b.clauses.Nodup ∧ b.missing? = none := by
  have hmissing : b.missing? = none ↔ ∀ c ∈ Draft.required, c ∈ b.clauses := by
    simp [missing?, List.find?_eq_none]
  rw [hmissing, List.nodup_iff_count_le_one]
  constructor
  · rintro ⟨hrequired, hothers⟩
    refine ⟨hothers, fun c hc => ?_⟩
    rw [← List.count_pos_iff, hrequired c hc]
    exact Nat.one_pos
  · rintro ⟨hothers, hrequired⟩
    refine ⟨fun c hc => Nat.le_antisymm (hothers c) ?_, hothers⟩
    exact List.count_pos_iff.mpr (hrequired c hc)

/-- Two blocks have the same code and level, and the same clauses in some order. -/
structure Rearranges (b b' : Violation) : Prop where
  code : b.code = b'.code
  level : b.level = b'.level
  items : b.items.Perm b'.items

end Violation

/-- **The clauses of a violation block.**  A block is read exactly if each required clause is given
once and each other one at most once, and then as the rule that says what they do; another order of
the clauses gives the same rule.  The first clause that was given before is refused at its word, and
if no clause is repeated, the first required one that is missing is refused at the first word of the
block. -/
theorem violationBlock_clauses (h : Block ts b rest) (hrest : OffLineEnd rest) :
    ((∃ r rest', violationBlock ts = .ok (r, rest')) ↔ b.IsComplete) ∧
      (∀ r rest', violationBlock ts = .ok (r, rest') → rest' = rest ∧ b.Makes r ∧
        ∀ ts' b' after, Block ts' b' after → OffLineEnd after → b'.Rearranges b →
          violationBlock ts' = .ok (r, after)) ∧
      (¬ b.clauses.Nodup → ∃ k c, b.IsFirstRepeated k c ∧
        violationBlock ts = .error (.problem (.repeatedClause b.code c) (some k))) ∧
      (b.clauses.Nodup → ¬ b.IsComplete → ∃ c, b.missing? = some c ∧
        violationBlock ts = .error (.problem (.missingClause b.code c) (some b.opening))) := by
  refine ⟨⟨fun ⟨r, rest', hread⟩ => ?_, fun hcomplete => ?_⟩, fun r rest' hread => ?_,
    fun hrepeated => ?_, fun hnodup hincomplete => ?_⟩
  · obtain ⟨hnodup, hnone, -⟩ := makes_of_violationBlock h hrest hread
    exact b.isComplete_iff.mpr ⟨hnodup, hnone⟩
  · obtain ⟨hnodup, hnone⟩ := b.isComplete_iff.mp hcomplete
    obtain ⟨r, hr⟩ := exists_makes hnodup hnone
    exact ⟨r, rest, violationBlock_of_makes h hrest hnodup hr⟩
  · obtain ⟨hnodup, -, hr, rfl⟩ := makes_of_violationBlock h hrest hread
    refine ⟨rfl, hr, fun ts' b' after h' hafter hperm => ?_⟩
    refine violationBlock_of_makes h' hafter ((hperm.items.map _).nodup_iff.mpr hnodup) ?_
    exact ⟨hr.code.trans hperm.code.symm, hr.confidence.trans hperm.level.symm,
      fun item => (hr.items item).trans hperm.items.mem_iff.symm⟩
  · rcases b.nodup_clauses with hnodup | ⟨k, c, hfirst⟩
    · exact absurd hnodup hrepeated
    · exact ⟨k, c, hfirst, violationBlock_of_repeated h hrest hfirst⟩
  · cases hc : b.missing? with
    | none => exact absurd (b.isComplete_iff.mpr ⟨hnodup, hc⟩) hincomplete
    | some c => exact ⟨c, rfl, violationBlock_of_missing h hrest hnodup hc⟩

/-- The tokens of a violation block around the tokens of its lines. -/
def blockAround (lines : List Token) : List Token :=
  [⟨.keyword, "violation", ⟨1, 1⟩⟩, ⟨.name, "V", ⟨1, 11⟩⟩, ⟨.keyword, "confidence", ⟨1, 13⟩⟩,
    ⟨.keyword, "low", ⟨1, 24⟩⟩, ⟨.openBrace, "\x7b", ⟨1, 28⟩⟩] ++ lines ++
    [⟨.closeBrace, "\x7d", ⟨9, 1⟩⟩]

/-- An exception with its approval on the same line, behind the severity. -/
def approvedInline : List Token := blockAround
  [⟨.keyword, "severity", ⟨2, 1⟩⟩, ⟨.keyword, "warn", ⟨2, 10⟩⟩, ⟨.lineEnd, "\n", ⟨2, 14⟩⟩,
    ⟨.keyword, "except_when", ⟨3, 1⟩⟩, ⟨.keyword, "tagged", ⟨3, 13⟩⟩, ⟨.text, "t", ⟨3, 20⟩⟩,
    ⟨.keyword, "requires_approval", ⟨3, 24⟩⟩, ⟨.text, "lead", ⟨3, 42⟩⟩, ⟨.lineEnd, "\n", ⟨3, 48⟩⟩,
    ⟨.keyword, "message", ⟨4, 1⟩⟩, ⟨.text, "m", ⟨4, 9⟩⟩, ⟨.lineEnd, "\n", ⟨4, 12⟩⟩,
    ⟨.keyword, "when", ⟨5, 1⟩⟩, ⟨.keyword, "null", ⟨5, 6⟩⟩]

/-- The same clauses, with the approval on its own line and first. -/
def approvedFirst : List Token := blockAround
  [⟨.keyword, "requires_approval", ⟨2, 1⟩⟩, ⟨.text, "lead", ⟨2, 19⟩⟩, ⟨.lineEnd, "\n", ⟨2, 25⟩⟩,
    ⟨.keyword, "when", ⟨3, 1⟩⟩, ⟨.keyword, "null", ⟨3, 6⟩⟩, ⟨.lineEnd, "\n", ⟨3, 10⟩⟩,
    ⟨.keyword, "message", ⟨4, 1⟩⟩, ⟨.text, "m", ⟨4, 9⟩⟩, ⟨.lineEnd, "\n", ⟨4, 12⟩⟩,
    ⟨.keyword, "severity", ⟨5, 1⟩⟩, ⟨.keyword, "warn", ⟨5, 10⟩⟩, ⟨.lineEnd, "\n", ⟨5, 14⟩⟩,
    ⟨.keyword, "except_when", ⟨6, 1⟩⟩, ⟨.keyword, "tagged", ⟨6, 13⟩⟩, ⟨.text, "t", ⟨6, 20⟩⟩]

/-- An approval on the line of its exception and one on its own line make the same rule. -/
theorem violationBlock_approved : (∃ b, Block approvedInline b []) ∧ OffLineEnd [] ∧ ∃ r,
    violationBlock approvedInline = .ok (r, []) ∧ violationBlock approvedFirst = .ok (r, []) := by
  have hnull (t : Token) (rest : List Token) (ht : t.isKeyword "null" = true) :
      Content (t :: rest) (.when .null) rest := .when (.mk (.operand (.null ht)) .nil)
  have hinline : Block approvedInline _ [] :=
    .mk rfl (.mk rfl) rfl rfl (by decide) (.mk .none rfl .none)
      (.cons (.one (.mk rfl (.severity rfl (by decide))) (.line rfl))
      (.cons (.approved (.mk rfl (.exceptWhen rfl (.mk rfl))) rfl
        (.mk rfl (.requiresApproval (.mk rfl))) rfl (.line rfl))
      (.cons (.one (.mk rfl (.message (.mk rfl))) (.line rfl))
      (.cons (.one (.mk rfl (hnull _ _ rfl)) (.brace rfl)) .nil)))) (.mk rfl .source)
  have hfirst : Block approvedFirst _ [] :=
    .mk rfl (.mk rfl) rfl rfl (by decide) (.mk .none rfl .none)
      (.cons (.one (.mk rfl (.requiresApproval (.mk rfl))) (.line rfl))
      (.cons (.one (.mk rfl (hnull _ _ rfl)) (.line rfl))
      (.cons (.one (.mk rfl (.message (.mk rfl))) (.line rfl))
      (.cons (.one (.mk rfl (.severity rfl (by decide))) (.line rfl))
      (.cons (.one (.mk rfl (.exceptWhen rfl (.mk rfl))) (.brace rfl)) .nil))))) (.mk rfl .source)
  obtain ⟨hread, hrule, -⟩ := violationBlock_clauses hinline offLineEnd_nil
  obtain ⟨r, rest, hr⟩ := hread.mpr ((Violation.isComplete_iff _).mpr ⟨by decide, by decide⟩)
  obtain ⟨rfl, -, hrearranged⟩ := hrule r rest hr
  exact ⟨⟨_, hinline⟩, offLineEnd_nil, r, hr,
    hrearranged _ _ _ hfirst offLineEnd_nil ⟨rfl, rfl, by decide⟩⟩

end ChangeGate.Policy
