import ChangeGate.Proofs.Policy.Files
import ChangeGate.Proofs.Predicate.Writing

/-! # Writing policy files

`PolicySet.text` writes a policy set as a policy file, with a line for each clause.  An approval may
be written on the line of the exception that it belongs to, or on its own.

`read_text_iff`: what is written is read as it was exactly if its version is a numeral, and the
predicates of what is read are chains. -/

namespace ChangeGate

open Source Token Policy.Grammar

/-! ### Lines -/

namespace Policy

/-- The signs of a clause behind its word. -/
def Item.content : Item → List Sign
  | .when p => p.signs
  | .severity name => [.reserved name]
  | .exceptWhen tag => [.reserved "tagged", .quoted tag]
  | .message s | .suggest s | .autoFix s | .requiresApproval s => [.quoted s]

/-- The signs of a clause. -/
def Item.signs (item : Item) : List Sign := .reserved item.clause.word :: item.content

/-- The lines of an exception and an approval. -/
def exceptionLines (inline : Bool) (tag? role? : Option String) : List (List Item) :=
  match tag?, role? with
  | some tag, some role =>
    if inline then [[.exceptWhen tag, .requiresApproval role]]
    else [[.exceptWhen tag], [.requiresApproval role]]
  | some tag, none => [[.exceptWhen tag]]
  | none, some role => [[.requiresApproval role]]
  | none, none => []

end Policy

/-- The clauses of a rule, line by line. -/
def Rule.itemLines (inline : Bool) (r : Rule) : List (List Policy.Item) :=
  [[.when r.when], [.severity r.severity], [.message r.message]] ++
    (r.suggest.toList.map fun s => [.suggest s]) ++ (r.autoFix.toList.map fun s => [.autoFix s]) ++
      Policy.exceptionLines inline r.exceptTag r.approver

/-- The lines of a violation block. -/
def Rule.lines (inline : Bool) (r : Rule) : List (List Sign) :=
  blockLines [.reserved "violation", .name r.code, .reserved "confidence", .reserved r.confidence]
    ((r.itemLines inline).map fun items => items.flatMap Policy.Item.signs)

/-- The lines of a policy block. -/
def Policy.lines (inline : Rule → Bool) (p : Policy) : List (List Sign) :=
  blockLines [.reserved "policy", .name p.name] (p.rules.flatMap fun r => r.lines (inline r))

namespace PolicySet

/-- The lines of a policy file. -/
def lines (inline : Rule → Bool) (s : PolicySet) : List (List Sign) :=
  [.reserved "intent", .numeral s.version] :: s.policies.flatMap (Policy.lines inline)

/-- A policy file that declares a policy set, where the approvals of some rules stand on the lines
of their exceptions. -/
def text (inline : Rule → Bool) (s : PolicySet) : String := .ofList (linesText (s.lines inline))

end PolicySet

/-- The rules that can be written. -/
structure Rule.Writable (r : Rule) : Prop where
  code : IsName r.code
  confidence : r.confidence ∈ confidenceNames
  severity : r.severity ∈ severityNames
  when : r.when.IsChain Number.IsCount

/-- The policy sets that can be written but for the version: there is a policy, the names are no
reserved words, and the rules can be written. -/
structure PolicySet.Writable (s : PolicySet) : Prop where
  policies : s.policies ≠ []
  names : ∀ p ∈ s.policies, IsName p.name
  rules : ∀ r ∈ s.rules, r.Writable

variable {r : Rule} {inline : Rule → Bool}

namespace Policy

/-! ### What the clauses of a rule say -/

/-- The clauses that can be written. -/
def Item.Writable : Item → Prop
  | .when p => p.IsChain Number.IsCount
  | .severity name => name ∈ severityNames
  | _ => True

theorem flatten_itemLines (inline : Bool) (r : Rule) : (r.itemLines inline).flatten =
    [.when r.when, .severity r.severity, .message r.message] ++
      (r.suggest.toList.map fun s => .suggest s) ++ (r.autoFix.toList.map fun s => .autoFix s) ++
        (r.exceptTag.toList.map fun s => .exceptWhen s) ++
          (r.approver.toList.map fun s => .requiresApproval s) := by
  obtain ⟨_, _, _, _, _, suggest, exceptTag, approver, autoFix⟩ := r
  cases inline <;> cases suggest <;> cases exceptTag <;> cases approver <;> cases autoFix <;> rfl

theorem mem_flatten_itemLines {inline : Bool} {item : Item} :
    item ∈ (r.itemLines inline).flatten ↔ Says r item := by
  rw [flatten_itemLines]
  cases item <;> simp [Says, eq_comm]

theorem nodup_flatten_itemLines (inline : Bool) (r : Rule) :
    ((r.itemLines inline).flatten.map Item.clause).Nodup := by
  rw [flatten_itemLines]
  obtain ⟨_, _, _, _, _, suggest, exceptTag, approver, autoFix⟩ := r
  cases suggest <;> cases exceptTag <;> cases approver <;> cases autoFix <;>
    simp [Item.clause]

theorem writable_of_mem_itemLines (hr : r.Writable) {inline : Bool} {items : List Item}
    (hitems : items ∈ r.itemLines inline) {item : Item} (hitem : item ∈ items) : item.Writable := by
  have htells := mem_flatten_itemLines.mp (List.mem_flatten_of_mem hitems hitem)
  cases item with
  | when p => exact htells ▸ hr.when
  | severity name => exact htells ▸ hr.severity
  | _ => trivial

/-- The lines of clauses that can be written: one clause, or an exception with its approval. -/
inductive IsItemLine : List Item → Prop
  | one (item : Item) : IsItemLine [item]
  | approved (tag role : String) : IsItemLine [.exceptWhen tag, .requiresApproval role]

theorem isItemLine_of_mem {inline : Bool} {items : List Item} (h : items ∈ r.itemLines inline) :
    IsItemLine items := by
  have hexception (tag? role? : Option String) (h : items ∈ exceptionLines inline tag? role?) :
      IsItemLine items := by
    unfold exceptionLines at h
    split at h
    · split at h
      · exact List.mem_singleton.mp h ▸ .approved _ _
      · simp only [List.mem_cons, List.not_mem_nil, or_false] at h
        rcases h with rfl | rfl <;> exact .one _
    · exact List.mem_singleton.mp h ▸ .one _
    · exact List.mem_singleton.mp h ▸ .one _
    · cases h
  rw [Rule.itemLines, List.mem_append, List.mem_append, List.mem_append] at h
  rcases h with ((h | h) | h) | h
  · simp only [List.mem_cons, List.not_mem_nil, or_false] at h
    rcases h with rfl | rfl | rfl <;> exact .one _
  · obtain ⟨s, -, rfl⟩ := List.mem_map.mp h
    exact .one _
  · obtain ⟨s, -, rfl⟩ := List.mem_map.mp h
    exact .one _
  · exact hexception _ _ h

/-! ### What the lines of a rule say -/

variable {item : Item} {items : List Item} {ts : List Token}

theorem writes_content (h : item.Writable) : Writes Content item.content item := by
  intro ts rest hts
  cases item with
  | when p => exact .when (Predicate.writes_signs h ts rest hts)
  | severity name =>
      obtain ⟨t, rfl, ht⟩ := List.map_eq_singleton_iff.mp hts
      have htext : t.text = name := congrArg Sign.text ht
      have hcontent : Content (t :: rest) (.severity t.text) rest :=
        .severity (congrArg Sign.kind ht) (htext ▸ h)
      rwa [htext] at hcontent
  | exceptWhen tag =>
      obtain ⟨t, ts, rfl, ht, hts⟩ := List.map_eq_cons_iff.mp hts
      exact .exceptWhen (isKeyword_of_sign ht) (writes_literal .text tag ts rest hts)
  | message s => exact .message (writes_literal .text s ts rest hts)
  | suggest s => exact .suggest (writes_literal .text s ts rest hts)
  | autoFix s => exact .autoFix (writes_literal .text s ts rest hts)
  | requiresApproval s => exact .requiresApproval (writes_literal .text s ts rest hts)

theorem given_of_signs (h : item.Writable) (hts : ts.map sign = item.signs) (rest : List Token) :
    ∃ k, Given (ts ++ rest) (k, item) rest := by
  obtain ⟨k, ts, rfl, hk, hts⟩ := List.map_eq_cons_iff.mp hts
  exact ⟨k, .mk (isKeyword_of_sign hk) (writes_content h ts rest hts)⟩

namespace Grammar

/-- What the clauses of a line say. -/
inductive LineOf : Phrase (List Item)
  | mk {ts rest : List Token} {gs : List (Token × Item)} (h : Line ts gs rest) :
      LineOf ts (gs.map (·.2)) rest

end Grammar

theorem writes_line (hline : IsItemLine items) (h : ∀ item ∈ items, item.Writable) :
    Writes LineOf (items.flatMap Item.signs ++ [.lineEnd]) items := by
  intro ts rest hts
  obtain ⟨ts, es, rfl, hitems, hes⟩ := List.map_eq_append_iff.mp hts
  obtain ⟨e, rfl, he⟩ := List.map_eq_singleton_iff.mp hes
  have hend := ending_of_sign he rest
  rw [List.append_assoc, List.singleton_append]
  cases hline with
  | one item =>
      rw [List.flatMap_singleton] at hitems
      obtain ⟨k, hk⟩ := given_of_signs (h item (List.mem_singleton_self _)) hitems (e :: rest)
      exact .mk (.one hk hend)
  | approved tag role =>
      obtain ⟨hexcept, happroval⟩ := List.forall_mem_cons.mp h
      rw [List.flatMap_cons, List.flatMap_singleton] at hitems
      obtain ⟨ts₁, ts₂, rfl, h₁, h₂⟩ := List.map_eq_append_iff.mp hitems
      obtain ⟨k, hk⟩ := given_of_signs hexcept h₁ (ts₂ ++ e :: rest)
      obtain ⟨k', hk'⟩ := given_of_signs (happroval _ (List.mem_singleton_self _)) h₂ (e :: rest)
      rw [List.append_assoc]
      exact .mk (.approved hk rfl hk' rfl hend)

theorem many_line_of_many {ts rest : List Token} {lines : List (List Item)}
    (h : Many LineOf ts lines rest) :
    ∃ gss, Many Line ts gss rest ∧ gss.flatten.map (·.2) = lines.flatten := by
  induction h with
  | nil => exact ⟨[], .nil, rfl⟩
  | cons first _ ih =>
      obtain ⟨hline⟩ := first
      obtain ⟨gss, hmany, hgss⟩ := ih
      exact ⟨_ :: gss, .cons hline hmany, by simp [hgss]⟩

/-- The lines of a rule say what it does. -/
theorem writes_rule (hr : r.Writable) (inline : Bool) :
    Writes Making (signs (r.lines inline)) r := by
  intro ts rest hts
  obtain ⟨ts₁, before, ts₂, after, heq, h₁, hopen, h₂, hclose⟩ := split_of_blockLines hts rest
  obtain ⟨v, ts₁, rfl, hv, h₁⟩ := List.map_eq_cons_iff.mp h₁
  obtain ⟨c, ts₁, rfl, hc, h₁⟩ := List.map_eq_cons_iff.mp h₁
  obtain ⟨f, ts₁, rfl, hf, h₁⟩ := List.map_eq_cons_iff.mp h₁
  obtain ⟨l, rfl, hl⟩ := List.map_eq_singleton_iff.mp h₁
  rw [signs_map] at h₂
  have hlines : Writes (Many LineOf) _ ((r.itemLines inline).map id) :=
    writes_many fun items hitems => writes_line (isItemLine_of_mem hitems) fun item hitem =>
      writable_of_mem_itemLines hr hitems hitem
  rw [List.map_id] at hlines
  obtain ⟨gss, hmany, hgss⟩ := many_line_of_many (hlines ts₂ after h₂)
  have hlevel : l.text = r.confidence := congrArg Sign.text hl
  have hcode : c.text = r.code := congrArg Sign.text hc
  have hblock : Block (v :: c :: f :: l :: before) ⟨v, c.text, l.text, gss.flatten⟩ rest :=
    .mk (isKeyword_of_sign hv) (.mk (congrArg Sign.kind hc)) (isKeyword_of_sign hf)
      (congrArg Sign.kind hl) (hlevel ▸ hr.confidence) hopen hmany hclose
  have hitems : (⟨v, c.text, l.text, gss.flatten⟩ : Violation).items =
      (r.itemLines inline).flatten := hgss
  rw [heq]
  refine .mk hblock ?_ ⟨hcode.symm, hlevel.symm, fun item => ?_⟩
  · rw [Violation.clauses, hitems]
    exact nodup_flatten_itemLines inline r
  · rw [hitems]
    exact mem_flatten_itemLines.symm

/-- The lines of a policy say what it is. -/
theorem writes_policy {p : Policy} (hp : ∀ r ∈ p.rules, r.Writable) :
    Writes Group (signs (p.lines inline)) p := by
  intro ts rest hts
  obtain ⟨ts₁, before, ts₂, after, heq, h₁, hopen, h₂, hclose⟩ := split_of_blockLines hts rest
  obtain ⟨k, ts₁, rfl, hk, h₁⟩ := List.map_eq_cons_iff.mp h₁
  rw [signs_flatMap] at h₂
  have hrules : Writes (Many Making) _ (p.rules.map id) :=
    writes_many fun r hr => writes_rule (hp r hr) (inline r)
  rw [List.map_id] at hrules
  rw [heq]
  exact .mk (isKeyword_of_sign hk) (writes_literal .name p.name ts₁ before h₁) hopen
    (hrules ts₂ after h₂) hclose

/-! ### Lines that can be written -/

theorem writable_of_mem_content (h : item.Writable) : ∀ s ∈ item.content, s.Writable := by
  cases item with
  | when p => exact Predicate.writable_of_isChain h
  | severity name =>
      have hnames : severityNames ⊆ keywords := by decide
      exact List.forall_mem_singleton.mpr (.reserved (hnames h))
  | exceptWhen tag =>
      exact List.forall_mem_cons.mpr ⟨.reserved (by decide), List.forall_mem_singleton.mpr .quoted⟩
  | message s => exact List.forall_mem_singleton.mpr .quoted
  | suggest s => exact List.forall_mem_singleton.mpr .quoted
  | autoFix s => exact List.forall_mem_singleton.mpr .quoted
  | requiresApproval s => exact List.forall_mem_singleton.mpr .quoted

theorem mem_keywords_word (c : Clause) : c.word ∈ keywords := by
  cases c <;> decide

theorem isLine_of_mem_rule (hr : r.Writable) {inline : Bool} {line : List Sign}
    (h : line ∈ r.lines inline) : IsLine line := by
  refine isLine_of_mem_blockLines (fun s hs => ?_) (fun line hline => ?_) h
  · have hlevels : confidenceNames ⊆ keywords := by decide
    simp only [List.mem_cons, List.not_mem_nil, or_false] at hs
    rcases hs with rfl | rfl | rfl | rfl
    · exact .reserved (by decide)
    · exact .name hr.code
    · exact .reserved (by decide)
    · exact .reserved (hlevels hr.confidence)
  · obtain ⟨items, hitems, rfl⟩ := List.mem_map.mp hline
    refine ⟨?_, fun s hs => ?_⟩
    · cases isItemLine_of_mem hitems <;> exact List.cons_ne_nil _ _
    · obtain ⟨item, hitem, hs⟩ := List.mem_flatMap.mp hs
      rcases List.mem_cons.mp hs with rfl | hs
      · exact .reserved (mem_keywords_word _)
      · exact writable_of_mem_content (writable_of_mem_itemLines hr hitems hitem) s hs

theorem isLine_of_mem_policy {p : Policy} (hname : IsName p.name) (hp : ∀ r ∈ p.rules, r.Writable)
    {line : List Sign} (h : line ∈ p.lines inline) : IsLine line := by
  have hopening := isLine_pair (.reserved (by decide : "policy" ∈ keywords)) (.name hname)
  refine isLine_of_mem_blockLines hopening.writable (fun line hline => ?_) h
  obtain ⟨r, hr, hline⟩ := List.mem_flatMap.mp hline
  exact isLine_of_mem_rule (hp r hr) hline

end Policy

namespace PolicySet

variable {s : PolicySet}

theorem isLine_of_mem_lines (h : s.Writable) (hversion : IsNumeral s.version.toList) :
    ∀ line ∈ s.lines inline, IsLine line := by
  intro line hline
  rcases List.mem_cons.mp hline with rfl | hline
  · exact isLine_pair (.reserved (by decide)) (.numeral hversion)
  · obtain ⟨p, hp, hline⟩ := List.mem_flatMap.mp hline
    exact Policy.isLine_of_mem_policy (h.names p hp)
      (fun r hr => h.rules r (List.mem_flatMap.mpr ⟨p, hp, hr⟩)) hline

/-- The lines of a policy file are read as what they say. -/
theorem reader_of_signs (h : s.Writable) {ts : List Token}
    (hts : ts.map sign = signs (s.lines inline)) : reader ts = .ok (s, []) := by
  obtain ⟨version, policies⟩ := s
  obtain ⟨p, ps, rfl⟩ := List.exists_cons_of_ne_nil h.policies
  have hpolicy (p' : Policy) (hp' : p' ∈ p :: ps) : Writes Policy.Grammar.Group
      (signs (p'.lines inline)) p' :=
    Policy.writes_policy fun r hr => h.rules r (List.mem_flatMap.mpr ⟨p', hp', hr⟩)
  rw [lines, signs_cons, List.flatMap_cons, signs_append, signs_flatMap] at hts
  obtain ⟨ts₁, ts, rfl, hversion, hts⟩ := List.map_eq_append_iff.mp hts
  obtain ⟨ts₂, ts₃, rfl, hfirst, hothers⟩ := List.map_eq_append_iff.mp hts
  have hnumeral (t : Token) (ht : t.sign = .numeral version) : (t.kind == .number) = true :=
    beq_iff_eq.mpr (congrArg Sign.kind ht)
  have hothers := writes_many (fun p' hp' => hpolicy p' (List.mem_cons_of_mem p hp')) ts₃ [] hothers
  rw [List.map_id', List.append_nil] at hothers
  exact Policy.reader_of_groups (writes_sentence hnumeral ts₁ _ hversion)
    (hpolicy p List.mem_cons_self ts₂ ts₃ hfirst) hothers

theorem read_of_isNumeral (h : s.Writable) (hversion : IsNumeral s.version.toList)
    (inline : Rule → Bool) (file : String) : read (s.text inline) file = .ok s := by
  obtain ⟨ts, last, hts, hscan⟩ := scan_linesText (isLine_of_mem_lines h hversion)
  have hread : read (s.text inline) file = _ := Source.read_of_scan hscan
  rw [hread, reader_of_signs h hts]

/-- A policy set that is read has a numeral for its version, and rules as they are read. -/
theorem known_of_read {source file : String} (h : read source file = .ok s) :
    IsNumeral s.version.toList ∧ ∀ r ∈ s.rules, Policy.IsKnown r :=
  Policy.yields_reader.of_read h

theorem sound_of_read {source file : String} (h : read source file = .ok s) :
    IsNumeral s.version.toList ∧ ∀ r ∈ s.rules, Policy.IsSound r :=
  (known_of_read h).imp_right fun hrules r hr => (hrules r hr).sound

/-- **Policy files round-trip.**  A policy set that can be written is read as it was, with approvals
on the lines of their exceptions or not, exactly if its version is a numeral; and the predicates
that are read are chains. -/
theorem read_text_iff (file : String) :
    (∀ (inline : Rule → Bool) (s : PolicySet), s.Writable →
      (read (s.text inline) file = .ok s ↔ IsNumeral s.version.toList)) ∧
      ∀ source s, read source file = .ok s →
        ∀ r ∈ s.rules, r.when.IsChain Predicate.IsLiteral :=
  ⟨fun inline _ h => ⟨fun hread => (sound_of_read hread).1,
    fun hversion => read_of_isNumeral h hversion inline file⟩, fun _ _ h => (sound_of_read h).2⟩

/-- A rule whose predicate has reserved words in a path and the signs of the language in a text, and
whose approval stands on the line of its exception. -/
def guarded : PolicySet where
  version := "2.0"
  policies := [⟨"Default", [{
    code := "Guarded", confidence := "low", severity := "warn",
    when := .both (.both (.compare .equal (.field "policy.when.null") .null)
      (.compare .unequal (.number (.whole 7)) (.text "\"a\" \\ // \x7b \x7d"))) (.field "task"),
    message := "\n", exceptTag := some "t", approver := some "lead" }]⟩]

theorem read_guarded : guarded.Writable ∧
    read (guarded.text fun _ => true) "guarded.intent" = .ok guarded ∧
      ∀ r ∈ guarded.rules, r.when.IsChain Predicate.IsLiteral := by
  have hseven : Number.IsCount (.whole 7) :=
    ⟨7, Nat.lt_of_lt_of_le (by decide) (Nat.pow_le_pow_right (by decide) Nat.one_le_ofNat), rfl⟩
  have hpath : Predicate.IsPath "policy.when.null" :=
    ⟨"policy", ["when", "null"], by decide, by decide, by decide⟩
  have htask : Predicate.IsPath "task" := ⟨"task", [], by decide, by decide, by decide⟩
  have hwritable : guarded.Writable := by
    refine ⟨by decide, by decide,
      List.forall_mem_singleton.mpr ⟨by decide, by decide, by decide, ?_⟩⟩
    exact .both (.both (.comparison (.equal (.field hpath) .null))
      (.unequal (.number hseven) (.text _))) (.operand (.field htask))
  have hversion : IsNumeral (['2'] ++ '.' :: ['0']) := .fraction (by decide) (by decide)
  obtain ⟨hread, hchain⟩ := read_text_iff "guarded.intent"
  have hguarded := (hread (fun _ => true) guarded hwritable).mpr hversion
  exact ⟨hwritable, hguarded, hchain _ guarded hguarded⟩

/-- A policy set with a version of three numbers. -/
def threefold : PolicySet := ⟨"1.2.3", [⟨"P", []⟩]⟩

/-- A version of three numbers is no numeral, and is not read. -/
theorem read_threefold : threefold.Writable ∧
    threefold.text (fun _ => false) = "intent 1.2.3\npolicy P \x7b\n\x7d\n" ∧
      read (threefold.text fun _ => false) ≠ .ok threefold := by
  have hwritable : threefold.Writable := ⟨by decide, by decide, nofun⟩
  exact ⟨hwritable, by decide +kernel, by decide +kernel⟩

end PolicySet
end ChangeGate
