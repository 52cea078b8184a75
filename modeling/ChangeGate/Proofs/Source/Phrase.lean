import ChangeGate.Proofs.Source.Pinpoint
import ChangeGate.Proofs.Token.LineEnds

/-! # Phrases

A phrase of a grammar relates a list of tokens, what the tokens up to a rest say, and the rest; that
the rest is at hand lets a phrase look at the token behind it.  `Ending` is the end of a statement,
`Break` an optional line end and `Many` a sequence of phrases.

Readers pass over repeated line ends where a phrase has one: what is read is a phrase once the
tokens are tidy (`ending_of_endStatement`), and a phrase is read if no line end follows it
(`endStatement_of_ending`).  `Accepts` is the second half and `Reads` puts the two together; a
repetition keeps them (`many_of_repeated`, `repeated_of_many`). -/

namespace ChangeGate.Source

variable {α σ : Type}

/-- The tokens up to a rest say something. -/
abbrev Phrase (α : Type) := List Token → α → List Token → Prop

/-- A statement ends with a line end, or directly before a closing brace or the source's end. -/
inductive Ending : List Token → List Token → Prop
  | line {t : Token} {rest : List Token} (ht : t.kind = .lineEnd) : Ending (t :: rest) rest
  | brace {t : Token} {rest : List Token} (ht : t.kind = .closeBrace) :
      Ending (t :: rest) (t :: rest)
  | source : Ending [] []

/-- A line end that may be left out. -/
inductive Break : List Token → List Token → Prop
  | none {ts : List Token} : Break ts ts
  | line {t : Token} {rest : List Token} (ht : t.kind = .lineEnd) : Break (t :: rest) rest

/-- Phrases one behind the other. -/
inductive Many (P : Phrase α) : Phrase (List α)
  | nil {ts : List Token} : Many P ts [] ts
  | cons {ts mid rest : List Token} {x : α} {xs : List α} (first : P ts x mid)
      (others : Many P mid xs rest) : Many P ts (x :: xs) rest

/-- The tokens without line ends that do not count, behind another token. -/
abbrev tidy (ts : List Token) : List Token := Token.tidyFrom true ts

/-- A reader accepts the phrases that are followed as they may be. -/
def Accepts (follow : List Token → Prop) (r : Reader α) (P : Phrase α) : Prop :=
  ∀ ⦃ts x rest⦄, P ts x rest → follow rest → r ts = .ok (x, rest)

/-- What a reader accepts is a phrase once the tokens are tidy, and it accepts the phrases. -/
structure Reads (follow : List Token → Prop) (r : Reader α) (P : Phrase α) : Prop where
  sound : ∀ {ts x rest}, r ts = .ok (x, rest) → P (tidy ts) x (tidy rest)
  complete : Accepts follow r P

/-- A reader of statements that open with a reserved word: it pinpoints what is wrong with them, and
reads them. -/
structure Recognizes (word : String) (r : Reader α) (P : Phrase α) : Prop where
  pinpoints : Pinpoints OffLineEnd r
  opens : Opens (fun t => t.isKeyword word = true) r
  reads : Reads OffLineEnd r P

/-! ### Tokens -/

variable {ts rest : List Token}

theorem atKind_of_kind {kind : Token.Kind} {t : Token} (ht : t.kind = kind) (ts : List Token) :
    atKind kind (t :: ts) = true := beq_iff_eq.mpr ht

theorem not_atKind_of_kind {kind : Token.Kind} {t : Token} (ht : t.kind ≠ kind) (ts : List Token) :
    ¬ atKind kind (t :: ts) = true := fun h => ht (beq_iff_eq.mp h)

theorem tidy_cons {t : Token} (ht : t.kind ≠ .lineEnd) (ts : List Token) :
    tidy (t :: ts) = t :: tidy ts := Token.tidyFrom_cons_of_ne _ _ ht

/-- The text of a token of a kind. -/
inductive Literal (kind : Token.Kind) : Phrase String
  | mk {t : Token} {rest : List Token} (ht : t.kind = kind) : Literal kind (t :: rest) t.text rest

theorem pinpoints_literal (kind : Token.Kind) {follow : List Token → Prop} :
    Pinpoints follow (do return (← take kind).text) := .take_bind kind fun _ => .pure _

theorem accepts_literal (kind : Token.Kind) {follow : List Token → Prop} :
    Accepts follow (do return (← take kind).text) (Literal kind) := by
  rintro _ _ rest ⟨ht⟩ -
  rw [bind_of_ok _ (take_of_kind ht _)]
  rfl

theorem takeText_of_literal {s : String} (h : Literal .text ts s rest) :
    takeText ts = .ok (s, rest) := by
  have haccepts : Accepts (fun _ => True) takeText (Literal .text) := accepts_literal .text
  exact haccepts h trivial

theorem takeName_of_literal {s : String} (h : Literal .name ts s rest) :
    takeName ts = .ok (s, rest) := by
  have haccepts : Accepts (fun _ => True) takeName (Literal .name) := accepts_literal .name
  exact haccepts h trivial

theorem reads_literal {kind : Token.Kind} (hkind : kind ≠ .lineEnd) {follow : List Token → Prop} :
    Reads follow (do return (← take kind).text) (Literal kind) := by
  refine ⟨fun h => ?_, accepts_literal kind⟩
  obtain ⟨t, mid, htake, hpure⟩ := bind_eq_ok_iff.mp h
  obtain ⟨rfl, ht⟩ := take_eq_ok_iff.mp htake
  cases hpure
  rw [tidy_cons (ht ▸ hkind)]
  exact .mk ht

/-! ### Line ends -/

theorem tidyFrom_of_offLineEnd (h : OffLineEnd ts) : Token.tidyFrom false ts = tidy ts := by
  cases ts with
  | nil => rfl
  | cons t ts =>
      have ht := offLineEnd_cons_iff.mp h
      rw [tidy, Token.tidyFrom_cons_of_ne _ _ ht, Token.tidyFrom_cons_of_ne _ _ ht]

theorem tidyFrom_dropWhile (ts : List Token) :
    Token.tidyFrom false (ts.dropWhile (·.kind == .lineEnd)) = Token.tidyFrom false ts := by
  induction ts with
  | nil => rfl
  | cons t ts ih =>
      by_cases ht : t.kind = .lineEnd
      · rw [List.dropWhile_cons_of_pos (by simpa using ht), ih, Token.tidyFrom_false_cons _ ht]
      · rw [List.dropWhile_cons_of_neg (by simpa using ht)]

theorem skipLineEnds_eq_ok_iff {u : Unit} :
    skipLineEnds ts = .ok (u, rest) ↔ rest = ts.dropWhile (·.kind == .lineEnd) := by
  show Except.ok ((), ts.dropWhile (·.kind == .lineEnd)) = Except.ok (u, rest) ↔ _
  rw [Except.ok.injEq, Prod.mk.injEq, eq_comm (a := ts.dropWhile _)]
  exact and_iff_right rfl

theorem tidy_of_skipLineEnds {u : Unit} (h : skipLineEnds ts = .ok (u, rest)) :
    OffLineEnd rest ∧ Token.tidyFrom false ts = tidy rest := by
  obtain rfl := skipLineEnds_eq_ok_iff.mp h
  have hoff := offLineEnd_dropWhile ts
  exact ⟨hoff, by rw [← tidyFrom_of_offLineEnd hoff, tidyFrom_dropWhile]⟩

theorem break_of_skipLineEnds {u : Unit} (h : skipLineEnds ts = .ok (u, rest)) :
    Break (tidy ts) (tidy rest) := by
  obtain ⟨-, htidy⟩ := tidy_of_skipLineEnds h
  cases ts with
  | nil =>
      rw [← htidy]
      exact .none
  | cons t ts =>
      by_cases ht : t.kind = .lineEnd
      · rw [← htidy, tidy, Token.tidyFrom_true_cons _ ht, Token.tidyFrom_false_cons _ ht]
        exact .line ht
      · rw [← htidy, tidyFrom_of_offLineEnd (offLineEnd_cons_iff.mpr ht)]
        exact .none

theorem skipLineEnds_of_break (h : Break ts rest) (hoff : OffLineEnd rest) :
    skipLineEnds ts = .ok ((), rest) := by
  cases h with
  | none => exact skipLineEnds_append [] (by simp) hoff
  | line ht => exact skipLineEnds_append [_] (by simpa using ht) hoff

theorem ending_of_endStatement {u : Unit} (h : endStatement ts = .ok (u, rest)) :
    Ending (tidy ts) (tidy rest) := by
  cases ts with
  | nil =>
      cases h
      exact .source
  | cons t ts =>
      by_cases hline : t.kind = .lineEnd
      · rw [endStatement_of_lineEnd hline] at h
        rw [tidy, Token.tidyFrom_true_cons _ hline, (tidy_of_skipLineEnds h).2]
        exact .line hline
      · by_cases hbrace : t.kind = .closeBrace
        · rw [endStatement_of_closeBrace hbrace] at h
          cases h
          rw [tidy, Token.tidyFrom_cons_of_ne _ _ hline]
          exact .brace hbrace
        · rw [endStatement, if_neg hline, if_neg hbrace] at h
          cases h

theorem Ending.subset (h : Ending ts rest) : rest ⊆ ts := by
  cases h with
  | line ht => exact List.subset_cons_self _ _
  | brace ht => exact List.Subset.refl _
  | source => exact List.Subset.refl _

theorem endStatement_of_ending (h : Ending ts rest) (hoff : OffLineEnd rest) :
    endStatement ts = .ok ((), rest) := by
  cases h with
  | line ht =>
      rw [endStatement_of_lineEnd ht]
      exact skipLineEnds_append [] (by simp) hoff
  | brace ht => exact endStatement_of_closeBrace ht _
  | source => rfl

/-! ### Blocks -/

/-- A block is opened with line ends around its brace. -/
inductive Opening : List Token → List Token → Prop
  | mk {o : Token} {before inner body : List Token} (hbefore : Break before (o :: inner))
      (ho : o.kind = .openBrace) (hinner : Break inner body) : Opening before body

/-- A block is closed, and with it the statement that it is. -/
inductive Closing : List Token → List Token → Prop
  | mk {c : Token} {after rest : List Token} (hc : c.kind = .closeBrace)
      (hend : Ending after rest) : Closing (c :: after) rest

theorem opening_of_openBlock {u : Unit} (h : openBlock ts = .ok (u, rest)) :
    Opening (tidy ts) (tidy rest) := by
  obtain ⟨_, before, hskip, h₁⟩ := bind_eq_ok_iff.mp h
  obtain ⟨o, inner, htake, hskip'⟩ := bind_eq_ok_iff.mp h₁
  obtain ⟨rfl, ho⟩ := take_eq_ok_iff.mp htake
  have hbefore := break_of_skipLineEnds hskip
  rw [tidy_cons (by simp [ho])] at hbefore
  exact .mk hbefore ho (break_of_skipLineEnds hskip')

theorem openBlock_of_opening (h : Opening ts rest) (hrest : OffLineEnd rest) :
    openBlock ts = .ok ((), rest) := by
  obtain ⟨hbefore, ho, hinner⟩ := h
  have hopen := skipLineEnds_of_break hbefore (offLineEnd_cons_iff.mpr (by simp [ho]))
  rw [openBlock, bind_of_ok _ hopen,
    bind_of_ok _ (take_of_kind ho _), skipLineEnds_of_break hinner hrest]

/-- Where a block is closed stands its brace. -/
theorem Closing.brace (h : Closing ts rest) : atKind .closeBrace ts = true ∧ OffLineEnd ts := by
  obtain ⟨hc, -⟩ := h
  exact ⟨atKind_of_kind hc _, offLineEnd_cons_iff.mpr (by simp [hc])⟩

theorem not_atKind_of_keyword (t : Token) (ts : List Token) (ht : t.kind = .keyword) :
    atKind .closeBrace (t :: ts) = false := by simp [atKind, ht]

theorem offLineEnd_of_keyword (t : Token) (ts : List Token) (ht : t.kind = .keyword) :
    OffLineEnd (t :: ts) := offLineEnd_cons_iff.mpr (by simp [ht])

theorem closing_of_closeBlock {u : Unit} (h : closeBlock ts = .ok (u, rest)) :
    Closing (tidy ts) (tidy rest) := by
  obtain ⟨c, after, htake, hend⟩ := bind_eq_ok_iff.mp h
  obtain ⟨rfl, hc⟩ := take_eq_ok_iff.mp htake
  rw [tidy_cons (by simp [hc])]
  exact .mk hc (ending_of_endStatement hend)

theorem closeBlock_of_closing (h : Closing ts rest) (hrest : OffLineEnd rest) :
    closeBlock ts = .ok ((), rest) := by
  obtain ⟨hc, hend⟩ := h
  rw [closeBlock, bind_of_ok _ (take_of_kind hc _), endStatement_of_ending hend hrest]

/-! ### Statements of one word and one token -/

/-- A statement of a reserved word and the token that it is about. -/
def sentence (word : String) (ok : Token → Bool) (p : Problem) : Reader String := do
  let _ ← takeKeyword word
  let t ← takeIf ok p
  endStatement
  return t.text

/-- A statement of a reserved word and the token that it is about. -/
inductive Sentence (word : String) (ok : Token → Bool) : Phrase String
  | mk {k t : Token} {mid rest : List Token} (hk : k.isKeyword word = true) (ht : ok t = true)
      (hend : Ending mid rest) : Sentence word ok (k :: t :: mid) t.text rest

section

variable {word : String} {ok : Token → Bool} {p : Problem} {t : Token}

theorem isKeyword_iff : t.isKeyword word = true ↔ t.kind = .keyword ∧ t.text = word := by
  rw [Token.isKeyword, Bool.and_eq_true, beq_iff_eq, beq_iff_eq]

theorem kind_ne_lineEnd_of_isKeyword (h : t.isKeyword word = true) : t.kind ≠ .lineEnd := by
  rw [(isKeyword_iff.mp h).1]
  decide

theorem reads_sentence (hok : ∀ t, ok t = true → t.kind ≠ .lineEnd) :
    Reads OffLineEnd (sentence word ok p) (Sentence word ok) := by
  refine ⟨fun h => ?_, fun ts x rest h hrest => ?_⟩
  · obtain ⟨k, _, hword, h₁⟩ := bind_eq_ok_iff.mp h
    obtain ⟨t, _, htake, h₂⟩ := bind_eq_ok_iff.mp h₁
    obtain ⟨_, _, hend, hpure⟩ := bind_eq_ok_iff.mp h₂
    obtain ⟨rfl, hk⟩ := takeIf_eq_ok_iff.mp hword
    obtain ⟨rfl, ht⟩ := takeIf_eq_ok_iff.mp htake
    cases hpure
    rw [tidy_cons (kind_ne_lineEnd_of_isKeyword hk), tidy_cons (hok t ht)]
    exact .mk hk ht (ending_of_endStatement hend)
  · obtain ⟨hk, ht, hend⟩ := h
    rw [sentence, bind_of_ok _ (takeKeyword_of_isKeyword hk _), bind_of_ok _ (takeIf_of_ok ht _),
      bind_of_ok _ (endStatement_of_ending hend hrest)]
    rfl

theorem offLineEnd_of_isKeyword (t : Token) (ts : List Token) (h : t.isKeyword word = true) :
    OffLineEnd (t :: ts) := offLineEnd_cons_iff.mpr (kind_ne_lineEnd_of_isKeyword h)

theorem atKeyword_eq_false_of_isKeyword {word' : String} (h : t.isKeyword word = true)
    (hne : word ≠ word') : atKeyword word' (t :: ts) = false := by
  obtain ⟨-, rfl⟩ := isKeyword_iff.mp h
  show t.isKeyword word' = false
  rw [← Bool.not_eq_true, isKeyword_iff]
  exact fun h => hne h.2

/-- The reader of such a statement opens with its word, pinpoints what is wrong with it and reads
it. -/
theorem recognizes_sentence (ht : ok t = true) (hok : ∀ t, ok t = true → t.kind ≠ .lineEnd) :
    Recognizes word (sentence word ok p) (Sentence word ok) where
  pinpoints := .takeKeyword_bind word fun _ => .takeIf_bind ht fun _ =>
    Pinpoints.endStatement.bind_pure
  opens := Opens.takeIf_bind fun _ => .takeIf_bind ht fun _ => Pinpoints.endStatement.bind_pure
  reads := reads_sentence hok

end

/-! ### Repetition -/

section

variable {β : Type} {P : Phrase β} {ok : Token → Prop} {follow : List Token → Prop}
  {done : List Token → Bool} {step : σ → Reader σ} {add : σ → β → σ}

/-- A step that reads a phrase and adds what it says, or refuses that, and that may be followed by
another step. -/
structure Steps (follow : List Token → Prop) (ok : Token → Prop) (P : Phrase β)
    (add? : σ → β → Except Refusal σ) (step : σ → Reader σ) : Prop where
  reads : ∀ s {ts x rest}, P ts x rest → follow rest → step s ts = (add? s x).map (·, rest)
  opens : ∀ {ts x rest}, P ts x rest → follow rest →
    ∃ t ts', ts = t :: ts' ∧ ok t ∧ rest.length ≤ ts'.length
  follows : ∀ t ts, ok t → follow (t :: ts)

/-- Reading items one behind the other. -/
theorem Steps.item {item : Reader α} {Q : Phrase α} (haccepts : Accepts follow item Q)
    (hopens : Opens ok item) (hfollows : ∀ t ts, ok t → follow (t :: ts)) :
    Steps follow ok Q (fun xs x => .ok (xs ++ [x])) (fun xs => return xs ++ [← item]) where
  reads xs ts x rest hx hrest := by
    rw [bind_of_ok _ (haccepts hx hrest)]
    rfl
  opens hx hrest := hopens _ _ _ (haccepts hx hrest)
  follows := hfollows

/-- What a repetition has read is a sequence of the phrases that its step reads. -/
theorem many_of_repeated (hopens : ∀ s, Opens ok (step s))
    (hsound : ∀ s {ts s' rest}, step s ts = .ok (s', rest) →
      ∃ x, P (tidy ts) x (tidy rest) ∧ s' = add s x) {s s' : σ}
    (h : repeated done step s ts = .ok (s', rest)) :
    done rest = true ∧ ∃ xs, Many P (tidy ts) xs (tidy rest) ∧ s' = xs.foldl add s := by
  induction hlen : ts.length using Nat.strong_induction_on generalizing s ts with
  | _ n ih =>
      cases hts : done ts with
      | true =>
          rw [repeated, loop_of_done hts] at h
          cases h
          exact ⟨hts, [], .nil, rfl⟩
      | false =>
          cases hread : step s ts with
          | error e =>
              rw [repeated, loop_of_error hts hread] at h
              cases h
          | ok read =>
              obtain ⟨s₁, mid⟩ := read
              obtain ⟨t, ts', rfl, -, hle⟩ := hopens s _ _ _ hread
              have hlt : mid.length < (t :: ts').length := Nat.lt_succ_of_le hle
              rw [repeated, loop_of_shorter hts hread hlt] at h
              obtain ⟨x, hx, rfl⟩ := hsound s hread
              obtain ⟨hdone, xs, hmany, hs⟩ := ih _ (hlen ▸ hlt) h rfl
              exact ⟨hdone, x :: xs, .cons hx hmany, hs⟩

section

variable {add? : σ → β → Except Refusal σ} {xs : List β}

/-- A sequence of phrases may follow if what follows it may. -/
theorem follow_of_many (hstep : Steps follow ok P add? step) (h : Many P ts xs rest)
    (hrest : follow rest) : follow ts := by
  induction h with
  | nil => exact hrest
  | cons first _ ih =>
      obtain ⟨t, ts', rfl, ht, -⟩ := hstep.opens first (ih hrest)
      exact hstep.follows t ts' ht

/-- A repetition reads a sequence of the phrases that its step reads, up to the first one that it
refuses. -/
theorem repeated_of_many (hstep : Steps follow ok P add? step)
    (hon : ∀ t ts, ok t → done (t :: ts) = false) (h : Many P ts xs rest)
    (hdone : done rest = true) (hrest : follow rest) (s : σ) :
    repeated done step s ts = (xs.foldlM add? s).map (·, rest) := by
  induction h generalizing s with
  | nil => exact loop_of_done hdone
  | @cons _ _ _ x xs first others ih =>
      have hmid := follow_of_many hstep others hrest
      have hread := hstep.reads s first hmid
      obtain ⟨t, ts', rfl, ht, hle⟩ := hstep.opens first hmid
      rw [List.foldlM_cons]
      cases hadd : add? s x with
      | error e =>
          rw [hadd] at hread
          rw [repeated, loop_of_error (hon t ts' ht) hread]
          rfl
      | ok s' =>
          rw [hadd] at hread
          rw [repeated, loop_of_shorter (hon t ts' ht) hread (Nat.lt_succ_of_le hle)]
          exact ih hdone hrest s'

end

/-- A repetition of steps that refuse nothing reads a sequence of the phrases. -/
theorem repeated_eq_ok_of_many (hstep : Steps follow ok P (fun s x => .ok (add s x)) step)
    (hon : ∀ t ts, ok t → done (t :: ts) = false) {xs : List β} (h : Many P ts xs rest)
    (hdone : done rest = true) (hrest : follow rest) (s : σ) :
    repeated done step s ts = .ok (xs.foldl add s, rest) := by
  have hfold : xs.foldlM (fun s x => (.ok (add s x) : Except Refusal σ)) s =
      .ok (xs.foldl add s) := List.foldlM_pure
  rw [repeated_of_many hstep hon h hdone hrest s, hfold]
  rfl

theorem foldl_concat (xs ys : List α) : ys.foldl (fun xs x => xs ++ [x]) xs = xs ++ ys := by
  rw [List.foldl_append_eq_append (f := fun x => [x]), ← List.flatMap_def, List.flatMap_singleton']

theorem many_of_items {item : Reader α} {Q : Phrase α} (hreads : Reads follow item Q)
    (hopens : Opens ok item) {xs ys : List α} (h : items done item xs ts = .ok (ys, rest)) :
    done rest = true ∧ ∃ zs, Many Q (tidy ts) zs (tidy rest) ∧ ys = xs ++ zs := by
  have hsound (xs : List α) {ts : List Token} {ys : List α} {rest : List Token}
      (h : (do return xs ++ [← item] : Reader (List α)) ts = .ok (ys, rest)) :
      ∃ x, Q (tidy ts) x (tidy rest) ∧ ys = xs ++ [x] := by
    obtain ⟨x, mid, hread, hpure⟩ := bind_eq_ok_iff.mp h
    cases hpure
    exact ⟨x, hreads.sound hread, rfl⟩
  obtain ⟨hdone, zs, hmany, hys⟩ := many_of_repeated (fun _ => hopens.bind_pure) hsound h
  exact ⟨hdone, zs, hmany, hys.trans (foldl_concat _ _)⟩

theorem items_of_many {item : Reader α} {Q : Phrase α} (haccepts : Accepts follow item Q)
    (hopens : Opens ok item) (hfollows : ∀ t ts, ok t → follow (t :: ts))
    (hon : ∀ t ts, ok t → done (t :: ts) = false) {zs : List α} (h : Many Q ts zs rest)
    (hdone : done rest = true) (hrest : follow rest) (xs : List α) :
    items done item xs ts = .ok (xs ++ zs, rest) := by
  rw [← foldl_concat]
  exact repeated_eq_ok_of_many (.item haccepts hopens hfollows) hon h hdone hrest xs

/-! ### Statements one behind the other -/

namespace Recognizes

variable {word : String} {r : Reader α} {Q : Phrase α} {xs ys : List α}

theorem offLineEnd (hr : Recognizes word r Q) {x : α} (h : r ts = .ok (x, rest)) :
    OffLineEnd ts := by
  obtain ⟨t, ts', rfl, ht, -⟩ := hr.opens _ _ _ h
  exact offLineEnd_of_isKeyword t ts' ht

/-- Statements open with no line end if none follows them. -/
theorem offLineEnd_of_items (hr : Recognizes word r Q) (h : items done r xs ts = .ok (ys, rest))
    (hrest : OffLineEnd rest) : OffLineEnd ts := by
  obtain rfl | ⟨t, ts', rfl, ht⟩ := Opens.of_repeated (fun _ => hr.opens.bind_pure) h
  · exact hrest
  · exact offLineEnd_of_isKeyword t ts' ht

theorem many_of_items (hr : Recognizes word r Q) (h : items done r xs ts = .ok (ys, rest)) :
    done rest = true ∧ ∃ zs, Many Q (tidy ts) zs (tidy rest) ∧ ys = xs ++ zs :=
  Source.many_of_items hr.reads hr.opens h

theorem items_of_many (hr : Recognizes word r Q)
    (hon : ∀ t ts, t.isKeyword word = true → done (t :: ts) = false)
    (h : Many Q ts ys rest) (hdone : done rest = true) (hrest : OffLineEnd rest) (xs : List α) :
    items done r xs ts = .ok (xs ++ ys, rest) :=
  Source.items_of_many hr.reads.complete hr.opens offLineEnd_of_isKeyword hon h hdone hrest xs

end Recognizes

/-! ### Separators -/

/-- A phrase behind a separator. -/
inductive Behind (separator : Token.Kind) (P : Phrase α) : Phrase α
  | mk {t : Token} {ts rest : List Token} {x : α} (ht : t.kind = separator) (h : P ts x rest) :
      Behind separator P (t :: ts) x rest

/-- Phrases with separators between them. -/
inductive Separated (separator : Token.Kind) (P : Phrase α) : Phrase (List α)
  | mk {ts mid rest : List Token} {x : α} {xs : List α} (first : P ts x mid)
      (others : Many (Behind separator P) mid xs rest) : Separated separator P ts (x :: xs) rest

variable {separator : Token.Kind} {item : Reader α} {Q : Phrase α}

theorem accepts_behind (haccepts : Accepts follow item Q) :
    Accepts follow (do let _ ← take separator; item) (Behind separator Q) := by
  rintro _ x rest ⟨ht, hx⟩ hrest
  rw [bind_of_ok _ (take_of_kind ht _)]
  exact haccepts hx hrest

theorem reads_behind (hseparator : separator ≠ .lineEnd) (hreads : Reads follow item Q) :
    Reads follow (do let _ ← take separator; item) (Behind separator Q) := by
  refine ⟨fun h => ?_, accepts_behind hreads.complete⟩
  obtain ⟨t, mid, htake, hread⟩ := bind_eq_ok_iff.mp h
  obtain ⟨rfl, ht⟩ := take_eq_ok_iff.mp htake
  rw [tidy_cons (ht ▸ hseparator)]
  exact .mk ht (hreads.sound hread)

/-- Phrases behind separators are read if no separator follows. -/
theorem items_of_many_behind (haccepts : Accepts (fun _ => True) item Q)
    (hopens : Opens (fun t => (t.kind == separator) = true) (do let _ ← take separator; item))
    {ys : List α} (h : Many (Behind separator Q) ts ys rest)
    (hrest : atKind separator rest = false) (xs : List α) :
    items (fun ts => !atKind separator ts) (do let _ ← take separator; item) xs ts =
      .ok (xs ++ ys, rest) := by
  have hon (t : Token) (ts : List Token) (ht : (t.kind == separator) = true) :
      (!atKind separator (t :: ts)) = false := by simpa [atKind] using ht
  exact items_of_many (accepts_behind haccepts) hopens (fun _ _ _ => trivial) hon h
    (by simp [hrest]) trivial xs

/-- Items between separators are read if no separator follows. -/
theorem reads_separated (hseparator : separator ≠ .lineEnd)
    (hreads : Reads (fun _ => True) item Q) (hitem : Pinpoints (fun _ => True) item) :
    Reads (fun ts => atKind separator ts = false) (separated separator item)
      (Separated separator Q) := by
  have hopens : Opens (fun t => (t.kind == separator) = true) (do let _ ← take separator; item) :=
    Opens.takeIf_bind fun _ => hitem
  refine ⟨fun h => ?_, fun ts xs rest h hrest => ?_⟩
  · obtain ⟨x, mid, hfirst, hothers⟩ := bind_eq_ok_iff.mp h
    obtain ⟨-, xs, hmany, rfl⟩ := many_of_items (reads_behind hseparator hreads) hopens hothers
    exact .mk (hreads.sound hfirst) hmany
  · obtain ⟨hfirst, hothers⟩ := h
    rw [separated, bind_of_ok _ (hreads.complete hfirst trivial)]
    exact items_of_many_behind hreads.complete hopens hothers hrest [_]

end

end ChangeGate.Source
