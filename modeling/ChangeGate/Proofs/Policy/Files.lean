import ChangeGate.Proofs.Policy.Clauses

/-! # Policy files

A policy block holds violation blocks that make rules, and a policy file a version and policy
blocks.

`reader_of_groups`: what is written so is read.  `yields_reader`: what is read has a numeral for its
version, chains for its predicates, and known severities and levels of confidence. -/

namespace ChangeGate.Policy

open Source Grammar

namespace Grammar

/-- A violation block that makes a rule. -/
inductive Making : Phrase Rule
  | mk {ts rest : List Token} {b : Violation} {r : Rule} (h : Block ts b rest)
      (hnodup : b.clauses.Nodup) (hr : b.Makes r) : Making ts r rest

/-- A policy block. -/
inductive Group : Phrase Policy
  | mk {k : Token} {ts before body after rest : List Token} {name : String} {rules : List Rule}
      (hk : k.isKeyword "policy" = true) (hname : Literal .name ts name before)
      (hopen : Opening before body) (hbody : Many Making body rules after)
      (hclose : Closing after rest) : Group (k :: ts) ⟨name, rules⟩ rest

end Grammar

/-! ### What is known of what is read -/

/-- The predicate of a rule is one that is read. -/
def IsSound (r : Rule) : Prop := Predicate.IsChain Predicate.IsLiteral r.when

/-- A rule as it is read: its predicate is one that is read, and its severity and its level of
confidence are known ones. -/
structure IsKnown (r : Rule) : Prop where
  sound : IsSound r
  severity : r.severity ∈ severityNames
  confidence : r.confidence ∈ confidenceNames

theorem Draft.Sound.rule? {d : Draft} (hd : d.Sound) {level : String}
    (hlevel : level ∈ confidenceNames) {r : Rule} (h : d.rule? level = .ok r) : IsKnown r := by
  obtain ⟨-, hconfidence, htells⟩ := Draft.rule?_eq_ok_iff.mp h
  refine ⟨hd.when r.when ?_, hd.severity r.severity ?_, hconfidence ▸ hlevel⟩
  · simpa [Draft.item?, Item.clause] using (htells (.when r.when)).mpr rfl
  · simpa [Draft.item?, Item.clause] using (htells (.severity r.severity)).mpr rfl

/-- What a violation block holds behind its first word. -/
def violationBehind (opening : Token) : Reader Rule := do
  let code ← takeName
  let _ ← takeKeyword "confidence"
  let level ← takeIf (fun t => t.kind == .keyword && confidenceNames.contains t.text)
    (.badConfidence code)
  openBlock
  let draft ← repeated (atKind .closeBrace) Draft.clauseLine { code }
  closeBlock
  match draft.rule? level.text with
  | .ok rule => return rule
  | .error clause => throw (.problem (.missingClause code clause) (some opening))

theorem yields_violationBehind (opening : Token) :
    Yields Token.Spelled IsKnown (violationBehind opening) := by
  refine (Yields.literal .name).bind fun code => (Yields.takeIf _ _).bind fun _ =>
    (Yields.takeIf _ _).bind fun level => Yields.openBlock.bind fun _ =>
    (Yields.repeated Draft.yields_clauseLine _).bind fun d => Yields.closeBlock.bind fun _ => ?_
  cases hr : d.rule? level.text with
  | ok r =>
      refine .pure fun _ hd _ hlevel _ _ => (hd (Draft.sound_new code)).rule? ?_ hr
      exact List.contains_iff_mem.mp (Bool.and_eq_true _ _ ▸ hlevel.2).2
  | error c => exact .throw _

/-- Read the violation block that is next, or refuse the next token. -/
def ruleOf (name : String) : Reader Rule := do
  if atKeyword "violation" (← get) then violationBlock
  else refuse (.expectedViolation name)

theorem yields_ruleOf (name : String) : Yields Token.Spelled IsKnown (ruleOf name) := by
  have hblock : Yields Token.Spelled IsKnown violationBlock :=
    (Yields.takeIf _ _).bind fun t => (yields_violationBehind t).weaken fun _ h _ => h
  exact Yields.get.bind fun _ => .ite (hblock.weaken fun _ h _ => h) (.refuse _)

/-- What a policy block holds behind its first word. -/
def policyBehind : Reader Policy := do
  let name ← takeName
  openBlock
  let rules ← items (atKind .closeBrace) (ruleOf name) []
  closeBlock
  return { name, rules }

theorem policyBlock_eq :
    policyBlock = takeIf (·.isKeyword "policy") .expectedPolicy >>= fun _ => policyBehind := rfl

theorem yields_policyBehind :
    Yields Token.Spelled (fun p => ∀ r ∈ p.rules, IsKnown r) policyBehind :=
  (Yields.literal .name).bind fun name => Yields.openBlock.bind fun _ =>
    (Yields.items (yields_ruleOf name) []).bind fun _ => Yields.closeBlock.bind fun _ =>
    .pure fun _ h _ _ => h nofun

theorem yields_policyBlock :
    Yields Token.Spelled (fun p => ∀ r ∈ p.rules, IsKnown r) policyBlock :=
  (Yields.takeIf _ _).bind fun _ => yields_policyBehind.weaken fun _ h _ => h

/-- What is read has a numeral for its version, and rules as they are read. -/
theorem yields_reader : Yields Token.Spelled
    (fun s => Token.IsNumeral s.version.toList ∧ ∀ r ∈ s.rules, IsKnown r) PolicySet.reader := by
  refine Yields.skipLineEnds.bind fun _ => (Yields.takeIf _ _).bind fun _ =>
    (Yields.take .number).bind fun version => Yields.endStatement.bind fun _ =>
    yields_policyBlock.bind fun first => (Yields.items yields_policyBlock _).bind fun policies =>
    .pure ?_
  rintro hpolicies hfirst - ⟨hspelled, hversion⟩ - -
  refine ⟨hspelled.numeral hversion, fun r hr => ?_⟩
  obtain ⟨p, hp, hr⟩ := List.mem_flatMap.mp hr
  exact hpolicies (by simpa using hfirst) p hp r hr

/-! ### What is written is read -/

variable {ts rest : List Token}

theorem accepts_ruleOf (name : String) : Accepts OffLineEnd (ruleOf name) Making := by
  rintro ts r rest ⟨h, hnodup, hr⟩ hrest
  have hread := violationBlock_of_makes h hrest hnodup hr
  have hkeyword : atKeyword "violation" ts = true := by
    obtain ⟨hv, -⟩ := h
    exact hv
  show (if atKeyword "violation" ts then violationBlock else _ : Reader Rule) ts = _
  rw [if_pos hkeyword, hread]

theorem opens_ruleOf (name : String) : Opens (fun t => t.kind = .keyword) (ruleOf name) := by
  have hblock : Opens (fun t => t.isKeyword "violation" = true) violationBlock :=
    Opens.takeIf.bind fun t => (yields_violationBehind t).weaken fun _ _ => trivial
  intro ts r rest h
  change (if atKeyword "violation" ts then violationBlock else refuse _ : Reader Rule) ts = _ at h
  split at h
  · exact (hblock.mono fun t ht => (isKeyword_iff.mp ht).1) ts r rest h
  · cases h

theorem accepts_policyBlock : Accepts OffLineEnd policyBlock Group := by
  rintro _ _ rest ⟨hk, hname, hopen, hbody, hclose⟩ hrest
  have hend := closeBlock_of_closing hclose hrest
  obtain ⟨hclosed, hoff⟩ := hclose.brace
  have hrules (name : String) := items_of_many (accepts_ruleOf name) (opens_ruleOf name)
    offLineEnd_of_keyword not_atKind_of_keyword hbody hclosed hoff []
  have hstep := Steps.item (accepts_ruleOf default) (opens_ruleOf default) offLineEnd_of_keyword
  have hopened := openBlock_of_opening hopen (follow_of_many hstep hbody hoff)
  rw [policyBlock_eq, bind_of_ok _ (takeIf_of_ok hk _), policyBehind,
    bind_of_ok _ (takeName_of_literal hname), bind_of_ok _ hopened, bind_of_ok _ (hrules _),
    bind_of_ok _ hend]
  rfl

theorem opens_policyBlock : Opens (fun t => t.isKeyword "policy" = true) policyBlock :=
  Opens.takeIf.bind fun _ => yields_policyBehind.weaken fun _ _ => trivial

/-- The phrases of a policy file are read. -/
theorem reader_of_groups {version : String} {afterVersion others : List Token} {p : Policy}
    {ps : List Policy} (hversion : Sentence "intent" (·.kind == .number) ts version afterVersion)
    (hfirst : Group afterVersion p others) (hothers : Many Group others ps []) :
    PolicySet.reader ts = .ok (⟨version, p :: ps⟩, []) := by
  have hoff {ts rest : List Token} {p : Policy} (h : policyBlock ts = .ok (p, rest)) :
      OffLineEnd ts := by
    obtain ⟨t, ts', rfl, ht, -⟩ := opens_policyBlock _ _ _ h
    exact offLineEnd_of_isKeyword t ts' ht
  have hmany : OffLineEnd others := follow_of_many
    (.item accepts_policyBlock opens_policyBlock offLineEnd_of_isKeyword) hothers offLineEnd_nil
  have hpolicies : items List.isEmpty policyBlock [p] others = .ok ([p] ++ ps, []) :=
    items_of_many accepts_policyBlock opens_policyBlock offLineEnd_of_isKeyword (fun _ _ _ => rfl)
      hothers rfl offLineEnd_nil [p]
  have hpolicy := accepts_policyBlock hfirst hmany
  obtain @⟨k, t, mid, _, hk, ht, hend⟩ := hversion
  have hskip := skipLineEnds_append [] (by simp) (offLineEnd_of_isKeyword k (t :: mid) hk)
  rw [List.nil_append] at hskip
  rw [PolicySet.reader, bind_of_ok _ hskip, bind_of_ok _ (takeKeyword_of_isKeyword hk _),
    take, bind_of_ok _ (takeIf_of_ok ht _),
    bind_of_ok _ (endStatement_of_ending hend (hoff hpolicy)), bind_of_ok _ hpolicy,
    bind_of_ok _ hpolicies]
  rfl

end ChangeGate.Policy
