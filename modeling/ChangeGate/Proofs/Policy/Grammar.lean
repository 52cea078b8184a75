import ChangeGate.Policy.Reader
import ChangeGate.Proofs.Predicate.Grammar

/-! # The grammar of violation blocks

A violation block holds lines of clauses.  Each line holds one clause, or an exception and the
approval that it requires.

`clauseLine_of_line`: a line is read as its clauses, added one after the other to those before, and
the first one that has been given is refused.  `yields_clauseLine`: a predicate that is read is a
chain, and a severity that is read is a known one. -/

namespace ChangeGate.Policy

open Source Predicate.Grammar

/-! ### The grammar -/

/-- What a clause of a violation block says. -/
inductive Item
  | when (p : Predicate)
  | severity (name : String)
  | message (text : String)
  | suggest (text : String)
  | autoFix (text : String)
  | exceptWhen (tag : String)
  | requiresApproval (role : String)
  deriving DecidableEq, Repr

/-- The clause that says something. -/
def Item.clause : Item → Clause
  | .when _ => .when
  | .severity _ => .severity
  | .message _ => .message
  | .suggest _ => .suggest
  | .autoFix _ => .autoFix
  | .exceptWhen _ => .exceptWhen
  | .requiresApproval _ => .requiresApproval

/-- What a violation block holds: its first word, its code and its level of confidence, and its
clauses, each with the word that opens it. -/
structure Violation where
  opening : Token
  code : String
  level : String
  given : List (Token × Item)

namespace Violation

/-- What the clauses say. -/
def items (b : Violation) : List Item := b.given.map (·.2)

/-- The clauses in order. -/
def clauses (b : Violation) : List Clause := b.items.map Item.clause

end Violation

namespace Grammar

/-- What stands behind the word of a clause. -/
inductive Content : Phrase Item
  | when {ts rest : List Token} {p : Predicate} (h : Conjunction ts p rest) :
      Content ts (.when p) rest
  | severity {t : Token} {rest : List Token} (ht : t.kind = .keyword)
      (hname : t.text ∈ severityNames) : Content (t :: rest) (.severity t.text) rest
  | message {ts rest : List Token} {s : String} (h : Literal .text ts s rest) :
      Content ts (.message s) rest
  | suggest {ts rest : List Token} {s : String} (h : Literal .text ts s rest) :
      Content ts (.suggest s) rest
  | autoFix {ts rest : List Token} {s : String} (h : Literal .text ts s rest) :
      Content ts (.autoFix s) rest
  | exceptWhen {t : Token} {ts rest : List Token} {s : String} (ht : t.isKeyword "tagged" = true)
      (h : Literal .text ts s rest) : Content (t :: ts) (.exceptWhen s) rest
  | requiresApproval {ts rest : List Token} {s : String} (h : Literal .text ts s rest) :
      Content ts (.requiresApproval s) rest

/-- A clause: its word and what it says. -/
inductive Given : Phrase (Token × Item)
  | mk {k : Token} {ts rest : List Token} {item : Item} (hk : k.isKeyword item.clause.word = true)
      (h : Content ts item rest) : Given (k :: ts) (k, item) rest

/-- The clauses of one line: a clause, or an exception and the approval that it requires. -/
inductive Line : Phrase (List (Token × Item))
  | one {ts mid rest : List Token} {g : Token × Item} (h : Given ts g mid)
      (hend : Ending mid rest) : Line ts [g] rest
  | approved {ts mid after rest : List Token} {g g' : Token × Item} (h : Given ts g mid)
      (hg : g.2.clause = .exceptWhen) (h' : Given mid g' after)
      (hg' : g'.2.clause = .requiresApproval) (hend : Ending after rest) : Line ts [g, g'] rest

/-- A violation block. -/
inductive Block : Phrase Violation
  | mk {v f l : Token} {ts before body after rest : List Token} {code : String}
      {lines : List (List (Token × Item))} (hv : v.isKeyword "violation" = true)
      (hcode : Literal .name ts code (f :: l :: before)) (hf : f.isKeyword "confidence" = true)
      (hl : l.kind = .keyword) (hlevel : l.text ∈ confidenceNames) (hopen : Opening before body)
      (hbody : Many Line body lines after) (hclose : Closing after rest) :
      Block (v :: ts) ⟨v, code, l.text, lines.flatten⟩ rest

end Grammar

open Grammar

/-! ### Single clauses -/

/-- What a clause says behind its word. -/
def Item.reader (code : String) : Clause → Reader Item
  | .when => return .when (← Predicate.reader)
  | .severity => do
    let t ← takeIf (fun t => t.kind == .keyword && severityNames.contains t.text)
      (.badSeverity code)
    return .severity t.text
  | .message => return .message (← takeText)
  | .suggest => return .suggest (← takeText)
  | .autoFix => return .autoFix (← takeText)
  | .exceptWhen => do
    let _ ← takeKeyword "tagged"
    return .exceptWhen (← takeText)
  | .requiresApproval => return .requiresApproval (← takeText)

namespace Draft

/-- A draft with what a clause says. -/
def add (d : Draft) : Item → Draft
  | .when p => { d with when? := some p }
  | .severity name => { d with severity? := some name }
  | .message text => { d with message? := some text }
  | .suggest text => { d with suggest? := some text }
  | .autoFix text => { d with autoFix? := some text }
  | .exceptWhen tag => { d with exceptTag? := some tag }
  | .requiresApproval role => { d with approver? := some role }

/-- What a clause of a draft says, if it has been given. -/
def item? (d : Draft) : Clause → Option Item
  | .when => d.when?.map .when
  | .severity => d.severity?.map .severity
  | .message => d.message?.map .message
  | .suggest => d.suggest?.map .suggest
  | .autoFix => d.autoFix?.map .autoFix
  | .exceptWhen => d.exceptTag?.map .exceptWhen
  | .requiresApproval => d.approver?.map .requiresApproval

/-- A clause is added to a draft that has none such. -/
def add? (d : Draft) (g : Token × Item) : Except Refusal Draft :=
  if d.has g.2.clause then .error (.problem (.repeatedClause d.code g.2.clause) (some g.1))
  else .ok (d.add g.2)

/-- Read the clause that the next word opens. -/
def give (d : Draft) (clause : Clause) : Reader Draft := do
  d.claim clause
  return d.add (← Item.reader d.code clause)

/-- The clauses in the order in which the next word is compared with theirs. -/
def tried : List Clause :=
  [.when, .severity, .message, .suggest, .autoFix, .exceptWhen, .requiresApproval]

/-- Read an exception, and the approval that stands on its line. -/
def excuse (d : Draft) : Reader Draft := do
  let d ← d.give .exceptWhen
  if atKeyword "requires_approval" (← get) then d.give .requiresApproval
  else return d

/-- Read the clause that is found, or refuse the next token. -/
def giveFound (d : Draft) : Option Clause → Reader Draft
  | none => refuse (.strayInViolation d.code)
  | some clause => if clause = .exceptWhen then d.excuse else d.give clause

variable {d : Draft} {item : Item} {g g' : Token × Item} {ts mid rest : List Token}

/-- The words of the clauses are tried one after the other. -/
theorem clause_eq (d : Draft) (ts : List Token) :
    d.clause ts = d.giveFound (tried.find? fun c => atKeyword c.word ts) ts := by
  rw [tried]
  simp only [List.find?_cons, List.find?_nil, Clause.word]
  show (if atKeyword "when" ts then _ else if atKeyword "severity" ts then _ else
    if atKeyword "message" ts then _ else if atKeyword "suggest" ts then _ else
    if atKeyword "auto_fix" ts then _ else if atKeyword "except_when" ts then _ else
    if atKeyword "requires_approval" ts then _ else _ : Reader Draft) ts = _
  cases atKeyword "when" ts
  case true => simp [giveFound, give, Item.reader, add]
  cases atKeyword "severity" ts
  case true => simp [giveFound, give, Item.reader, add]
  cases atKeyword "message" ts
  case true => simp [giveFound, give, Item.reader, add]
  cases atKeyword "suggest" ts
  case true => simp [giveFound, give, Item.reader, add]
  cases atKeyword "auto_fix" ts
  case true => simp [giveFound, give, Item.reader, add]
  cases atKeyword "except_when" ts
  case true => simp [giveFound, excuse, give, Item.reader, add]
  cases atKeyword "requires_approval" ts
  case true => simp [giveFound, give, Item.reader, add]
  rfl

theorem word_injective : Function.Injective Clause.word := by
  intro c c' h
  cases c <;> cases c' <;> first | rfl | exact absurd h (by decide)

theorem find?_tried {k : Token} {c : Clause} (hk : k.isKeyword c.word = true) (ts : List Token) :
    tried.find? (fun c' => atKeyword c'.word (k :: ts)) = some c := by
  obtain ⟨hkind, htext⟩ := isKeyword_iff.mp hk
  have hword : (fun c' : Clause => atKeyword c'.word (k :: ts)) = fun c' => decide (c = c') := by
    funext c'
    show k.isKeyword c'.word = _
    rw [Bool.eq_iff_iff, isKeyword_iff, decide_eq_true_eq, htext]
    exact ⟨fun h => word_injective h.2, fun h => ⟨hkind, h ▸ rfl⟩⟩
  rw [hword]
  cases c <;> rfl

/-- What a clause says is read if nothing behind it goes on with it. -/
theorem accepts_item (code : String) (h : Content ts item rest)
    (hrest : Predicate.Off Predicate.connectives rest) :
    Item.reader code item.clause ts = .ok (item, rest) := by
  cases h with
  | when h =>
      rw [Item.clause, Item.reader, bind_of_ok _ (Predicate.accepts_reader h hrest)]
      rfl
  | severity ht hname =>
      rw [Item.clause, Item.reader, bind_of_ok _ (takeIf_of_ok (by simp [ht, hname]) _)]
      rfl
  | exceptWhen ht h =>
      rw [Item.clause, Item.reader, bind_of_ok _ (takeKeyword_of_isKeyword ht _),
        bind_of_ok _ (takeText_of_literal h)]
      rfl
  | message h | suggest h | autoFix h | requiresApproval h =>
      rw [Item.clause, Item.reader, bind_of_ok _ (takeText_of_literal h)]
      rfl

theorem claim_of_isKeyword {k : Token} {c : Clause} (hk : k.isKeyword c.word = true) (d : Draft)
    (ts : List Token) : d.claim c (k :: ts) =
      if d.has c then .error (.problem (.repeatedClause d.code c) (some k)) else .ok ((), ts) := by
  rw [claim]
  split
  · rfl
  · rw [bind_of_ok _ (takeKeyword_of_isKeyword hk _)]
    rfl

theorem give_of_given (h : Given ts g rest)
    (hrest : Predicate.Off Predicate.connectives rest) (d : Draft) :
    d.give g.2.clause ts = (d.add? g).map (·, rest) := by
  obtain @⟨k, ts, _, item, hk, h⟩ := h
  have hclaim := claim_of_isKeyword hk d ts
  rw [give, add?]
  split
  · rename_i hhas
    exact bind_of_error _ (hclaim.trans (if_pos hhas))
  · rename_i hhas
    rw [bind_of_ok _ (hclaim.trans (if_neg hhas)), bind_of_ok _ (accepts_item d.code h hrest)]
    rfl

/-- A clause is read that is followed by no approval on its line. -/
theorem clause_of_given (h : Given ts g rest) (hrest : Predicate.Off Predicate.connectives rest)
    (happroval : atKeyword "requires_approval" rest = false) (d : Draft) :
    d.clause ts = (d.add? g).map (·, rest) := by
  have hgive := give_of_given h hrest d
  have hfind : tried.find? (fun c => atKeyword c.word ts) = some g.2.clause := by
    obtain ⟨hk, -⟩ := h
    exact find?_tried hk _
  rw [clause_eq, hfind]
  by_cases hg : g.2.clause = .exceptWhen
  · rw [hg] at hgive
    rw [hg, giveFound, if_pos rfl, excuse]
    cases hadd : d.add? g with
    | error e =>
        rw [hadd] at hgive
        exact bind_of_error _ hgive
    | ok d' =>
        rw [hadd] at hgive
        rw [bind_of_ok _ hgive]
        show (if atKeyword "requires_approval" rest then _ else _ : Reader Draft) rest = _
        rw [happroval]
        rfl
  · rw [giveFound, if_neg hg, hgive]

/-- An exception is read with the approval on its line. -/
theorem clause_of_approved (h : Given ts g mid) (hg : g.2.clause = .exceptWhen)
    (h' : Given mid g' rest) (hg' : g'.2.clause = .requiresApproval)
    (hrest : Predicate.Off Predicate.connectives rest) (d : Draft) :
    d.clause ts = ([g, g'].foldlM add? d).map (·, rest) := by
  have hkeyword : atKeyword "requires_approval" mid = true := by
    obtain ⟨hk, -⟩ := h'
    rwa [hg'] at hk
  have hmid : Predicate.Off Predicate.connectives mid := by
    obtain ⟨hk, -⟩ := h'
    exact Predicate.off_cons (by simp [(isKeyword_iff.mp hk).1, Predicate.connectives]) _
  have hgive := give_of_given h hmid d
  have hfind : tried.find? (fun c => atKeyword c.word ts) = some .exceptWhen := by
    obtain ⟨hk, -⟩ := h
    rw [hg] at hk
    exact find?_tried hk _
  rw [hg] at hgive
  rw [clause_eq, hfind, giveFound, if_pos rfl, excuse, List.foldlM_cons]
  cases hadd : d.add? g with
  | error e =>
      rw [hadd] at hgive
      exact bind_of_error _ hgive
  | ok d' =>
      have hgive' := give_of_given h' hrest d'
      rw [hg'] at hgive'
      rw [hadd] at hgive
      rw [bind_of_ok _ hgive]
      show (if atKeyword "requires_approval" mid then _ else _ : Reader Draft) mid = _
      rw [if_pos hkeyword, hgive']
      show _ = Except.map _ ([g'].foldlM add? d')
      simp only [List.foldlM_cons, List.foldlM_nil, bind_pure]

/-! ### Lines -/

theorem off_of_ending (h : Ending ts rest) : Predicate.Off Predicate.connectives ts ∧
    ∀ word, atKeyword word ts = false := by
  have hoff {t : Token} (ht : t.kind = .lineEnd ∨ t.kind = .closeBrace) (ts : List Token) :
      Predicate.Off Predicate.connectives (t :: ts) ∧ ∀ word, atKeyword word (t :: ts) = false := by
    refine ⟨Predicate.off_cons ?_ ts, fun word => ?_⟩
    · rcases ht with ht | ht <;> simp [ht, Predicate.connectives]
    · show t.isKeyword word = false
      rcases ht with ht | ht <;> simp [Token.isKeyword, ht]
  cases h with
  | line ht => exact hoff (.inl ht) _
  | brace ht => exact hoff (.inr ht) _
  | source => exact ⟨fun _ _ => rfl, fun _ => rfl⟩

/-- The clauses of a line are added one after the other. -/
theorem clauseLine_of_line {gs : List (Token × Item)} (h : Line ts gs rest)
    (hrest : OffLineEnd rest) (d : Draft) :
    d.clauseLine ts = (gs.foldlM add? d).map (·, rest) := by
  have hclause : ∃ mid, Ending mid rest ∧ d.clause ts = (gs.foldlM add? d).map (·, mid) := by
    cases h with
    | one h hend =>
        obtain ⟨hoff, happroval⟩ := off_of_ending hend
        refine ⟨_, hend, ?_⟩
        rw [clause_of_given h hoff (happroval _)]
        simp only [List.foldlM_cons, List.foldlM_nil, bind_pure]
    | approved h hg h' hg' hend =>
        exact ⟨_, hend, clause_of_approved h hg h' hg' (off_of_ending hend).1 d⟩
  obtain ⟨mid, hend, hclause⟩ := hclause
  rw [clauseLine]
  cases hadd : gs.foldlM add? d with
  | error e =>
      rw [hadd] at hclause
      exact bind_of_error _ hclause
  | ok d' =>
      rw [hadd] at hclause
      rw [bind_of_ok _ hclause, bind_of_ok _ (endStatement_of_ending hend hrest)]
      rfl

/-! ### What is known of what is read -/

end Draft

/-- What is known of a clause that is read: a predicate is a chain, and a severity is a known one. -/
def Item.IsKnown : Item → Prop
  | .when p => p.IsChain Predicate.IsLiteral
  | .severity name => name ∈ severityNames
  | .message _ | .suggest _ | .autoFix _ | .exceptWhen _ | .requiresApproval _ => True

namespace Draft

variable {d : Draft} {item : Item} {ts rest : List Token}

/-- The predicate and the severity of a draft, if it has them, are ones that are read. -/
structure Sound (d : Draft) : Prop where
  when : ∀ p, d.when? = some p → p.IsChain Predicate.IsLiteral
  severity : ∀ name, d.severity? = some name → name ∈ severityNames

theorem sound_new (code : String) : Sound { code } := ⟨nofun, nofun⟩

theorem Sound.add (hd : d.Sound) (hitem : item.IsKnown) : (d.add item).Sound := by
  cases item with
  | when p =>
      refine ⟨?_, hd.severity⟩
      rintro _ ⟨⟩
      exact hitem
  | severity name =>
      refine ⟨hd.when, ?_⟩
      rintro _ ⟨⟩
      exact hitem
  | _ => exact ⟨hd.when, hd.severity⟩

theorem yields_item (code : String) (c : Clause) :
    Yields Token.Spelled Item.IsKnown (Item.reader code c) := by
  cases c with
  | when => exact Predicate.yields_reader.bind fun p => .pure fun hp => hp
  | severity =>
      refine (Yields.takeIf _ _).bind fun t => .pure fun ht => ?_
      have hname := (Bool.and_eq_true _ _ ▸ ht.2).2
      exact List.contains_iff_mem.mp hname
  | exceptWhen =>
      exact (Yields.takeIf _ _).bind fun _ => (Yields.literal .text).bind fun _ =>
        .pure fun _ _ => trivial
  | _ => exact (Yields.literal .text).bind fun _ => .pure fun _ => trivial

theorem yields_claim (d : Draft) (c : Clause) {good : Token → Prop} :
    Yields good (fun _ => True) (d.claim c) :=
  .ite (.refuse _) ((Yields.takeIf _ _).bind fun _ => .pure fun _ => trivial)

theorem yields_give (d : Draft) (c : Clause) :
    Yields Token.Spelled (fun d' => d.Sound → d'.Sound) (d.give c) :=
  (yields_claim d c).bind fun _ => (yields_item d.code c).bind fun _ =>
    .pure fun hitem _ hd => hd.add hitem

theorem opens_give (d : Draft) (c : Clause) : Opens (fun t => t.kind = .keyword) (d.give c) := by
  have hclaim : Opens (fun t => t.kind = .keyword) (d.claim c) := by
    rw [claim]
    split
    · exact .refuse _
    · exact (Opens.takeIf.bind_pure).mono fun t ht => (isKeyword_iff.mp ht).1
  exact hclaim.bind fun _ => (yields_item d.code c).bind fun _ => .pure fun _ => trivial

theorem yields_excuse (d : Draft) :
    Yields Token.Spelled (fun d' => d.Sound → d'.Sound) d.excuse :=
  (yields_give d _).bind fun d' => Yields.get.bind fun _ => .ite
    ((yields_give d' _).weaken fun _ h _ h' hd => h (h' hd)) (.pure fun _ h hd => h hd)

theorem opens_excuse (d : Draft) : Opens (fun t => t.kind = .keyword) d.excuse :=
  (opens_give d _).bind fun d' => Yields.get.bind fun _ => .ite
    ((yields_give d' _).weaken fun _ _ _ => trivial) (.pure fun _ => trivial)

/-- A clause that is read is read as an exception or as a single clause. -/
theorem give_of_clause {d' : Draft} (h : d.clause ts = .ok (d', rest)) :
    d.excuse ts = .ok (d', rest) ∨ ∃ c, d.give c ts = .ok (d', rest) := by
  rw [clause_eq] at h
  cases hfound : tried.find? fun c => atKeyword c.word ts with
  | none =>
      rw [hfound] at h
      cases h
  | some c =>
      rw [hfound, giveFound] at h
      split at h
      · exact .inl h
      · exact .inr ⟨c, h⟩

theorem yields_clause (d : Draft) :
    Yields Token.Spelled (fun d' => d.Sound → d'.Sound) d.clause := by
  intro ts d' rest h
  rcases give_of_clause h with h | ⟨c, h⟩
  · exact yields_excuse d ts d' rest h
  · exact yields_give d c ts d' rest h

theorem yields_clauseLine (d : Draft) :
    Yields Token.Spelled (fun d' => d.Sound → d'.Sound) d.clauseLine :=
  (yields_clause d).bind fun _ => Yields.endStatement.bind fun _ => .pure fun _ h => h

theorem opens_clauseLine (d : Draft) : Opens (fun t => t.kind = .keyword) d.clauseLine := by
  have hclause : Opens (fun t => t.kind = .keyword) d.clause := by
    intro ts d' rest h
    rcases give_of_clause h with h | ⟨c, h⟩
    · exact opens_excuse d ts d' rest h
    · exact opens_give d c ts d' rest h
  have hend (d : Draft) : Yields Token.Spelled (fun _ => True) (do endStatement; return d) :=
    Yields.endStatement.bind fun _ => .pure fun _ => trivial
  exact hclause.bind hend

end Draft
end ChangeGate.Policy
