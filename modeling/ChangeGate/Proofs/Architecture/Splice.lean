import ChangeGate.Proofs.Architecture.RoundTrip

/-! # Splicing system files

What some tokens say depends on their signs and on the kind of the token behind them, and not on
where they stand (`Moves`).  So the blocks of a derived system file can be taken out and put in.

`Derives.replace`: where a domain keyword stands in front of a name, a block of the file starts, and
another block can stand in its place.  `Derives.concat`: another block can stand behind the last
one. -/

namespace ChangeGate.Source

open Token (Sign sign)

variable {α : Type} {clear : Token → Prop} {t : Token} {ts mid rest rest' used used' : List Token}
  {P Q R : List Token → List Token → Prop}

/-- Two lists of tokens start with the same kind of token, or both are empty. -/
def SameHead (rest rest' : List Token) : Prop := rest.head?.map (·.kind) = rest'.head?.map (·.kind)

/-- The tokens up to a rest are clear, and other tokens of the same signs are related as they are to
a rest with the same head. -/
def Moves (clear : Token → Prop) (P : List Token → List Token → Prop) (ts rest : List Token) :
    Prop :=
  ∃ used, ts = used ++ rest ∧ (∀ t ∈ used, clear t) ∧
    ∀ used' rest', used'.map sign = used.map sign → SameHead rest rest' → P (used' ++ rest') rest'

/-- A phrase says the same wherever its tokens stand. -/
def Movable (clear : Token → Prop) (P : Phrase α) : Prop :=
  ∀ ⦃ts x rest⦄, P ts x rest → Moves clear (P · x ·) ts rest

theorem sameHead_append (hused : used'.map sign = used.map sign) (h : SameHead rest rest') :
    SameHead (used ++ rest) (used' ++ rest') := by
  cases used with
  | nil =>
      obtain rfl := List.map_eq_nil_iff.mp hused
      exact h
  | cons t used =>
      obtain ⟨t', used', rfl, ht, -⟩ := List.map_eq_cons_iff.mp hused
      exact congrArg some (congrArg Sign.kind ht).symm

theorem moves_nil (h : ∀ rest', SameHead rest rest' → P rest' rest') : Moves clear P rest rest := by
  refine ⟨[], rfl, by simp, fun used' rest' hused hhead => ?_⟩
  obtain rfl := List.map_eq_nil_iff.mp hused
  exact h rest' hhead

theorem Moves.cons (hP : Moves clear P mid rest) (ht : clear t)
    (h : ∀ ⦃t' mid rest⦄, t'.sign = t.sign → P mid rest → Q (t' :: mid) rest) :
    Moves clear Q (t :: mid) rest := by
  obtain ⟨used, rfl, hused, hmove⟩ := hP
  refine ⟨t :: used, rfl, List.forall_mem_cons.mpr ⟨ht, hused⟩,
    fun used' rest' hused' hhead => ?_⟩
  obtain ⟨t', used', rfl, ht', hused'⟩ := List.map_eq_cons_iff.mp hused'
  exact h ht' (hmove _ _ hused' hhead)

theorem Moves.append (hP : Moves clear P ts mid) (hQ : Moves clear Q mid rest)
    (h : ∀ ⦃ts mid rest⦄, P ts mid → Q mid rest → R ts rest) : Moves clear R ts rest := by
  obtain ⟨front, rfl, hfront, hmove⟩ := hP
  obtain ⟨used, rfl, hused, hmove'⟩ := hQ
  refine ⟨front ++ used, (List.append_assoc ..).symm,
    List.forall_mem_append.mpr ⟨hfront, hused⟩, fun used' rest' hused' hhead => ?_⟩
  rw [List.map_append] at hused'
  obtain ⟨front', used', rfl, hfront', hused'⟩ := List.map_eq_append_iff.mp hused'
  rw [List.append_assoc]
  exact h (hmove _ _ hfront' (sameHead_append hused' hhead)) (hmove' _ _ hused' hhead)

/-! ### Phrases that move -/

theorem kind_of_sign_eq {kind : Token.Kind} {t t' : Token} (h : t'.sign = t.sign)
    (ht : t.kind = kind) : t'.kind = kind := (congrArg Sign.kind h).trans ht

theorem text_of_sign_eq {t t' : Token} (h : t'.sign = t.sign) : t'.text = t.text :=
  congrArg Sign.text h

theorem isKeyword_of_sign_eq {t t' : Token} {word : String} (h : t'.sign = t.sign)
    (ht : t.isKeyword word = true) : t'.isKeyword word = true := by
  obtain ⟨hkind, htext⟩ := isKeyword_iff.mp ht
  exact isKeyword_iff.mpr ⟨kind_of_sign_eq h hkind, (text_of_sign_eq h).trans htext⟩

theorem moves_ending (hclear : ∀ t, t.kind = .lineEnd → clear t) (h : Ending ts rest) :
    Moves clear Ending ts rest := by
  cases h with
  | line ht =>
      have hrest : Moves clear Eq rest rest := moves_nil fun _ _ => rfl
      exact hrest.cons (hclear _ ht) fun t' mid rest ht' heq => heq ▸ .line (kind_of_sign_eq ht' ht)
  | brace ht =>
      refine moves_nil fun rest' hhead => ?_
      cases rest' with
      | nil => cases hhead
      | cons t' rest' => exact .brace ((Option.some.inj hhead).symm.trans ht)
  | source =>
      refine moves_nil fun rest' hhead => ?_
      cases rest' with
      | nil => exact .source
      | cons t' rest' => cases hhead

theorem moves_break (hclear : ∀ t, t.kind = .lineEnd → clear t) (h : Break ts rest) :
    Moves clear Break ts rest := by
  cases h with
  | none => exact moves_nil fun _ _ => .none
  | line ht =>
      have hrest : Moves clear Eq rest rest := moves_nil fun _ _ => rfl
      exact hrest.cons (hclear _ ht) fun t' mid rest ht' heq => heq ▸ .line (kind_of_sign_eq ht' ht)

theorem movable_literal {kind : Token.Kind} (hclear : ∀ t, t.kind = kind → clear t) :
    Movable clear (Literal kind) := by
  rintro _ _ rest ⟨ht⟩
  have hrest : Moves clear Eq rest rest := moves_nil fun _ _ => rfl
  refine hrest.cons (hclear _ ht) fun t' mid rest ht' heq => ?_
  rw [← text_of_sign_eq ht', heq]
  exact .mk (kind_of_sign_eq ht' ht)

theorem movable_sentence {word : String} {ok : Token → Bool}
    (hok : ∀ t t', t'.sign = t.sign → ok t = true → ok t' = true)
    (hclear : ∀ t, t.isKeyword word = true ∨ ok t = true ∨ t.kind = .lineEnd → clear t) :
    Movable clear (Sentence word ok) := by
  rintro _ _ rest @⟨k, t, mid, _, hk, ht, hend⟩
  have hend := moves_ending (fun t ht => hclear t (.inr (.inr ht))) hend
  have htext : Moves clear (fun ts rest => ∀ k', k'.sign = k.sign →
      Sentence word ok (k' :: ts) t.text rest) (t :: mid) rest := by
    refine hend.cons (hclear t (.inr (.inl ht))) fun t' mid rest ht' hend k' hk' => ?_
    rw [← text_of_sign_eq ht']
    exact .mk (isKeyword_of_sign_eq hk' hk) (hok t t' ht' ht) hend
  exact htext.cons (hclear k (.inl hk)) fun k' mid rest hk' h => h k' hk'

theorem movable_many {P : Phrase α} (hP : Movable clear P) : Movable clear (Many P) := by
  intro ts xs rest h
  induction h with
  | nil => exact moves_nil fun _ _ => .nil
  | cons first _ ih => exact (hP first).append ih fun _ _ _ => .cons

theorem movable_separated {separator : Token.Kind} {P : Phrase α} (hP : Movable clear P)
    (hclear : ∀ t, t.kind = separator → clear t) : Movable clear (Separated separator P) := by
  have hbehind : Movable clear (Behind separator P) := by
    rintro _ x rest ⟨ht, hx⟩
    exact (hP hx).cons (hclear _ ht) fun t' mid rest ht' hx => .mk (kind_of_sign_eq ht' ht) hx
  rintro _ _ rest ⟨first, others⟩
  exact (hP first).append (movable_many hbehind others) fun _ _ _ => .mk

theorem moves_opening (hclear : ∀ t, t.kind = .lineEnd ∨ t.kind = .openBrace → clear t)
    (h : Opening ts rest) : Moves clear Opening ts rest := by
  obtain ⟨hbefore, ho, hinner⟩ := h
  have hinner := moves_break (fun t ht => hclear t (.inl ht)) hinner
  have hbrace : Moves clear (fun ts rest => ∀ before, Break before ts → Opening before rest) _
      rest :=
    hinner.cons (hclear _ (.inr ho)) fun o' mid rest ho' hinner before hbefore =>
      .mk hbefore (kind_of_sign_eq ho' ho) hinner
  exact (moves_break (fun t ht => hclear t (.inl ht)) hbefore).append hbrace
    fun ts mid rest hbefore h => h ts hbefore

end ChangeGate.Source

namespace ChangeGate.Architecture

open Source Grammar
open Token (Sign sign signs)

variable {s : Architecture} {d : Domain} {ds : List Domain} {k n : Token}
  {ts rest front others : List Token}

/-! ### Where blocks start -/

/-- A token that opens no block. -/
def Inner (t : Token) : Prop := ¬ t.isKeyword "domain" = true

theorem inner_of_kind {kind : Token.Kind} {t : Token} (h : t.kind = kind) (hne : kind ≠ .keyword) :
    Inner t := fun hk => hne (h.symm.trans (isKeyword_iff.mp hk).1)

theorem inner_of_isKeyword {word : String} {t : Token} (h : t.isKeyword word = true)
    (hne : word ≠ "domain") : Inner t := fun hk =>
  hne ((isKeyword_iff.mp h).2.symm.trans (isKeyword_iff.mp hk).2)

/-- A token that opens a block stands behind tokens that open none. -/
theorem behind_of_inner (hfront : ∀ t ∈ front, Inner t) (hk : k.isKeyword "domain" = true)
    {before : List Token} (h : before ++ k :: rest = front ++ others) :
    ∃ mid, before = front ++ mid ∧ others = mid ++ k :: rest := by
  rcases List.append_eq_append_iff.mp h with ⟨more, rfl, hmore⟩ | ⟨more, rfl, rfl⟩
  · cases more with
    | nil => exact ⟨[], by simp, hmore.symm⟩
    | cons t more =>
        obtain ⟨rfl, -⟩ := List.cons.inj hmore
        exact absurd hk (hfront _ (by simp))
  · exact ⟨more, rfl, rfl⟩

/-! ### Blocks that move -/

theorem movable_sentence_of_kind {word : String} {kind : Token.Kind} (hword : word ≠ "domain")
    (hkind : kind ≠ .keyword) : Movable Inner (Sentence word (·.kind == kind)) := by
  refine movable_sentence (fun t t' h ht => ?_) fun t ht => ?_
  · rw [beq_iff_eq] at ht ⊢
    exact kind_of_sign_eq h ht
  · rcases ht with ht | ht | ht
    · exact inner_of_isKeyword ht hword
    · exact inner_of_kind (beq_iff_eq.mp ht) hkind
    · exact inner_of_kind ht (by decide)

theorem movable_paths : Movable Inner Paths := by
  rintro _ globs rest @⟨k, a, ts, mid, _, _, hk, ha, hglobs, hend⟩
  have hliteral : Movable Inner (Literal .text) :=
    movable_literal fun t ht => inner_of_kind ht (by decide)
  have hline (t : Token) (ht : t.kind = .lineEnd) : Inner t := inner_of_kind ht (by decide)
  have hbody : Moves Inner (fun ts rest => ∀ k' a', k'.sign = k.sign → a'.sign = a.sign →
      Paths (k' :: a' :: ts) globs rest) ts rest :=
    (movable_separated hliteral (fun t ht => inner_of_kind ht (by decide)) hglobs).append
      (moves_ending hline hend) fun _ _ _ hglobs hend k' a' hk' ha' =>
        .mk (isKeyword_of_sign_eq hk' hk) (isKeyword_of_sign_eq ha' ha) hglobs hend
  have hallow : Moves Inner (fun ts rest => ∀ k', k'.sign = k.sign → Paths (k' :: ts) globs rest)
      (a :: ts) rest :=
    hbody.cons (inner_of_isKeyword ha (by decide)) fun a' _ _ ha' h k' hk' => h k' a' hk' ha'
  exact hallow.cons (inner_of_isKeyword hk (by decide)) fun k' _ _ hk' h => h k' hk'

theorem movable_statement : Movable Inner Statement := by
  rintro ts _ rest (h | h)
  · obtain ⟨used, hsplit, hused, hmove⟩ := movable_paths h
    exact ⟨used, hsplit, hused, fun used' rest' h hhead => .paths (hmove used' rest' h hhead)⟩
  · have hdepends : Movable Inner (Sentence "depends_on" (·.kind == .name)) :=
      movable_sentence_of_kind (by decide) (by decide)
    obtain ⟨used, hsplit, hused, hmove⟩ := hdepends h
    exact ⟨used, hsplit, hused, fun used' rest' h hhead => .dependsOn (hmove used' rest' h hhead)⟩

theorem moves_body {name : String} {before body after : List Token}
    {xs : List (List String × List String)} (hname : Literal .name ts name before)
    (hopen : Opening before body) (hbody : Many Statement body xs after) :
    Moves Inner (fun ts after => ∀ k rest, k.isKeyword "domain" = true → Closing after rest →
      Block (k :: ts) ⟨name, xs.flatMap (·.1), xs.flatMap (·.2)⟩ rest) ts after := by
  have hliteral : Movable Inner (Literal .name) :=
    movable_literal fun t ht => inner_of_kind ht (by decide)
  have hopen := moves_opening
    (fun t (ht : t.kind = .lineEnd ∨ t.kind = .openBrace) => by
      rcases ht with ht | ht <;> exact inner_of_kind ht (by decide)) hopen
  have hblock := hopen.append (movable_many movable_statement hbody)
    (R := fun before after => ∀ ts k rest, Literal .name ts name before →
      k.isKeyword "domain" = true → Closing after rest →
      Block (k :: ts) ⟨name, xs.flatMap (·.1), xs.flatMap (·.2)⟩ rest)
    fun _ _ _ hopen hbody _ _ _ hname hk hclose => .mk hk hname hopen hbody hclose
  exact (hliteral hname).append hblock fun ts _ _ hname h k rest hk hclose =>
    h ts k rest hname hk hclose

/-- A block moves, and its first token is the only one that opens a block. -/
theorem moves_block (h : Block ts d rest) :
    ∃ k mid, ts = k :: mid ∧ k.isKeyword "domain" = true ∧
      Moves Inner (fun mid rest => ∀ k', k'.isKeyword "domain" = true → Block (k' :: mid) d rest)
        mid rest := by
  obtain ⟨hk, hname, hopen, hbody, hc, hend⟩ := h
  have hline (t : Token) (ht : t.kind = .lineEnd) : Inner t := inner_of_kind ht (by decide)
  have hclose : Moves Inner Closing _ rest := (moves_ending hline hend).cons
    (inner_of_kind hc (by decide)) fun _ _ _ hc' hend => .mk (kind_of_sign_eq hc' hc) hend
  exact ⟨_, _, rfl, hk, (moves_body hname hopen hbody).append hclose
    fun _ _ _ h hclose k' hk' => h k' _ hk' hclose⟩

/-- Behind its closing brace a block can go on in another way. -/
theorem block_reclose (h : Block ts d rest) :
    ∃ front c after, ts = front ++ c :: after ∧ Closing (c :: after) rest ∧
      ∀ after' rest', Closing (c :: after') rest' → Block (front ++ c :: after') d rest' := by
  obtain ⟨hk, hname, hopen, hbody, hc, hend⟩ := h
  obtain ⟨used, rfl, -, hmove⟩ := moves_body hname hopen hbody
  refine ⟨_ :: used, _, _, rfl, .mk hc hend, fun after' rest' hclose => ?_⟩
  exact hmove used (_ :: after') rfl (congrArg some rfl) _ rest' hk hclose

theorem sameHead_of_block {ts' rest' : List Token} {d' : Domain} (h : Block ts d rest)
    (h' : Block ts' d' rest') : SameHead ts ts' := by
  obtain ⟨k, _, rfl, hk, -⟩ := moves_block h
  obtain ⟨k', _, rfl, hk', -⟩ := moves_block h'
  exact congrArg some ((isKeyword_iff.mp hk).1.trans (isKeyword_iff.mp hk').1.symm)

theorem movable_block : Movable (fun _ => True) Block := by
  intro ts d rest h
  obtain ⟨k, mid, rfl, hk, used, rfl, -, hmove⟩ := moves_block h
  have hused : Moves (fun _ => True)
      (fun mid rest => ∀ k', k'.isKeyword "domain" = true → Block (k' :: mid) d rest)
      (used ++ rest) rest := ⟨used, rfl, fun _ _ => trivial, hmove⟩
  exact hused.cons trivial fun k' _ _ hk' h => h k' (isKeyword_of_sign_eq hk' hk)

/-- Where a block opens among blocks, another one can stand in its place. -/
theorem replace_of_many {before others : List Token}
    (h : Many Block (before ++ k :: others) ds []) (hk : k.isKeyword "domain" = true) :
    ∃ front d back rest, ds = front ++ d :: back ∧ Block (k :: others) d rest ∧
      ∀ ts d', Block ts d' rest → Many Block (before ++ ts) (front ++ d' :: back) [] := by
  generalize hts : before ++ k :: others = ts at h
  generalize hnil : ([] : List Token) = last at h
  induction h generalizing before with
  | nil => simp [← hnil] at hts
  | @cons ts mid last x xs first rest ih =>
      subst hnil
      obtain ⟨k', _, rfl, hk', used, rfl, hused, hmove⟩ := moves_block first
      cases before with
      | nil =>
          obtain ⟨rfl, rfl⟩ := List.cons.inj hts
          exact ⟨[], x, xs, mid, rfl, first, fun ts d' h => .cons h rest⟩
      | cons t before =>
          obtain ⟨rfl, htail⟩ := List.cons.inj hts
          obtain ⟨more, rfl, rfl⟩ := behind_of_inner hused hk htail
          obtain ⟨front, d, back, after, rfl, hblock, hreplace⟩ := ih rfl rfl
          refine ⟨x :: front, d, back, after, rfl, hblock, fun ts d' h => ?_⟩
          have hhead : SameHead (more ++ k :: others) (more ++ ts) :=
            sameHead_append rfl (sameHead_of_block hblock h)
          rw [List.cons_append, List.append_assoc]
          exact .cons (hmove used _ rfl hhead _ hk') (hreplace ts d' h)

/-- Behind the closing brace of the last block, another one can stand. -/
theorem concat_of_many (h : Many Block ts ds []) (hds : ds ≠ []) :
    ∃ front c after, ts = front ++ c :: after ∧ Closing (c :: after) [] ∧
      ∀ line block d, line.kind = .lineEnd → Block block d [] →
        Many Block (front ++ c :: line :: block) (ds ++ [d]) [] := by
  generalize hnil : ([] : List Token) = last at h
  induction h with
  | nil => exact absurd rfl hds
  | @cons ts mid last x xs first rest ih =>
      subst hnil
      cases xs with
      | nil =>
          cases rest
          obtain ⟨front, c, after, rfl, hclose, hreclose⟩ := block_reclose first
          refine ⟨front, c, after, rfl, hclose, fun line block d hline hblock => ?_⟩
          obtain ⟨hc, -⟩ := hclose
          exact .cons (hreclose _ _ (.mk hc (.line hline))) (.cons hblock .nil)
      | cons y ys =>
          obtain ⟨front, c, after, rfl, hclose, hconcat⟩ := ih (List.cons_ne_nil y ys) rfl
          obtain ⟨k, _, rfl, hk, used, rfl, -, hmove⟩ := moves_block first
          refine ⟨k :: (used ++ front), c, after, by simp, hclose,
            fun line block d hline hblock => ?_⟩
          have hhead : SameHead (front ++ c :: after) (front ++ c :: line :: block) :=
            sameHead_append rfl (congrArg some rfl)
          rw [List.cons_append, List.append_assoc]
          exact .cons (hmove used _ rfl hhead k hk) (hconcat line block d hline hblock)

/-! ### Whole files -/

theorem movable_version : Movable Inner (Sentence "intent" (·.kind == .number)) :=
  movable_sentence_of_kind (by decide) (by decide)

theorem movable_imports : Movable Inner (Many (Sentence "import" (·.kind == .text))) :=
  movable_many (movable_sentence_of_kind (by decide) (by decide))

/-- The name of the system may be the word that opens a block. -/
theorem movable_name : Movable (fun _ => True) (Sentence "system" Token.isNameLike) := by
  refine movable_sentence (fun t t' h ht => ?_) fun _ _ => trivial
  rw [Token.isNameLike, Bool.or_eq_true, beq_iff_eq, beq_iff_eq] at ht ⊢
  exact ht.imp (kind_of_sign_eq h) (kind_of_sign_eq h)

/-- The name of the system is no name behind the word that opens a block. -/
theorem behind_of_name {name : String} {before : List Token}
    (h : Sentence "system" Token.isNameLike (before ++ k :: n :: others) name rest)
    (hk : k.isKeyword "domain" = true) (hn : n.kind = .name) :
    ∃ mid, rest = mid ++ k :: n :: others := by
  generalize hts : before ++ k :: n :: others = ts at h
  obtain @⟨k', t, after, _, hk', -, hend⟩ := h
  match before with
  | [] =>
      obtain ⟨rfl, -⟩ := List.cons.inj hts
      exact absurd hk (inner_of_isKeyword hk' (by decide))
  | [_] =>
      -- No name ends a statement.
      obtain ⟨-, htail⟩ := List.cons.inj hts
      obtain ⟨-, rfl⟩ := List.cons.inj htail
      cases hend with
      | line ht => cases ht.symm.trans hn
      | brace ht => cases ht.symm.trans hn
  | _ :: _ :: before =>
      obtain ⟨-, htail⟩ := List.cons.inj hts
      obtain ⟨-, hafter⟩ := List.cons.inj htail
      obtain ⟨used, rfl, hused, -⟩ :=
        moves_ending (fun t ht => inner_of_kind ht (by decide)) hend
      obtain ⟨mid, -, hmid⟩ := behind_of_inner hused hk hafter
      exact ⟨mid, hmid⟩

/-- The blocks of a derived file can be exchanged, and none starts before them. -/
theorem derives_blocks (h : Derives ts s) :
    ∃ front blocks, ts = front ++ blocks ∧ Many Block blocks s.domains [] ∧
      (∀ before k n others, k.isKeyword "domain" = true → n.kind = .name →
        ts = before ++ k :: n :: others → ∃ mid, before = front ++ mid) ∧
      ∀ front' blocks' ds, front'.map sign = front.map sign → SameHead blocks blocks' →
        Many Block blocks' ds [] → ds ≠ [] →
        Derives (front' ++ blocks') { s with domains := ds } := by
  obtain @⟨_, _, blocks, _, version, name, imports, d, ds, hversion, hname, himports, hfirst,
    hothers⟩ := h
  have hmany : Many Block blocks (d :: ds) [] := .cons hfirst hothers
  have htrivial {P : List Token → List Token → Prop} {ts rest : List Token}
      (h : Moves Inner P ts rest) : Moves (fun _ => True) P ts rest := by
    obtain ⟨used, hsplit, -, hmove⟩ := h
    exact ⟨used, hsplit, fun _ _ => trivial, hmove⟩
  have hnamed := (movable_name hname).append (htrivial (movable_imports himports))
    (R := fun ts blocks => ∀ all d ds, Sentence "intent" (·.kind == .number) all version ts →
      Many Block blocks (d :: ds) [] → Derives all ⟨version, name, d :: ds, imports⟩)
    fun _ _ _ hname himports _ _ _ hversion hmany => by
      cases hmany with
      | cons hfirst hothers => exact .mk hversion hname himports hfirst hothers
  have hall := (htrivial (movable_version hversion)).append hnamed
    (R := fun ts blocks => ∀ d ds, Many Block blocks (d :: ds) [] →
      Derives ts ⟨version, name, d :: ds, imports⟩)
    fun _ _ _ hversion h d ds hmany => h _ d ds hversion hmany
  obtain ⟨front, rfl, -, hmove⟩ := hall
  refine ⟨front, blocks, rfl, hmany, fun before k n others hk hn hts => ?_,
    fun front' blocks' ds hfront hhead hmany hds => ?_⟩
  · obtain ⟨V, hV, hclear, -⟩ := movable_version hversion
    obtain ⟨_, -, rfl⟩ := behind_of_inner hclear hk (hts.symm.trans hV)
    obtain ⟨_, rfl⟩ := behind_of_name hname hk hn
    obtain ⟨I, hI, hclear, -⟩ := movable_imports himports
    obtain ⟨mid, -, rfl⟩ := behind_of_inner hclear hk hI
    rw [← List.append_assoc] at hts
    exact ⟨mid, (List.append_cancel_right hts).symm⟩
  · obtain ⟨d, ds, rfl⟩ := List.exists_cons_of_ne_nil hds
    exact hmove front' blocks' hfront hhead d ds hmany

/-- What is derived has no part in places. -/
theorem derives_of_sign_eq (h : Derives ts s) {ts' : List Token}
    (hsign : ts'.map sign = ts.map sign) : Derives ts' s := by
  obtain ⟨front, blocks, rfl, hmany, -, hexchange⟩ := derives_blocks h
  rw [List.map_append] at hsign
  obtain ⟨front', blocks', rfl, hfront, hblocks⟩ := List.map_eq_append_iff.mp hsign
  have hds : s.domains ≠ [] := by
    cases h
    exact List.cons_ne_nil _ _
  have hhead : SameHead blocks blocks' := by
    have hends : SameHead (blocks ++ []) (blocks' ++ []) := sameHead_append hblocks rfl
    rwa [List.append_nil, List.append_nil] at hends
  obtain ⟨used, hused, -, hmove⟩ := movable_many movable_block hmany
  rw [List.append_nil] at hused
  subst hused
  have hmany' := hmove blocks' [] hblocks rfl
  rw [List.append_nil] at hmany'
  exact hexchange front' blocks' s.domains hfront hhead hmany' hds

/-- **A block can be replaced.**  Where the word that opens a block stands in front of a name, a
block starts, and another one can stand in its place. -/
theorem Derives.replace {before others : List Token}
    (h : Derives (before ++ k :: n :: others) s) (hk : k.isKeyword "domain" = true)
    (hn : n.kind = .name) :
    ∃ front d back rest, s.domains = front ++ d :: back ∧ Block (k :: n :: others) d rest ∧
      ∀ ts d', Block ts d' rest →
        Derives (before ++ ts) { s with domains := front ++ d' :: back } := by
  obtain ⟨used, blocks, hsplit, hmany, hstarts, hexchange⟩ := derives_blocks h
  obtain ⟨mid, rfl⟩ := hstarts before k n others hk hn rfl
  rw [List.append_assoc] at hsplit
  obtain rfl := List.append_cancel_left hsplit
  obtain ⟨front, d, back, rest, hdomains, hblock, hreplace⟩ := replace_of_many hmany hk
  refine ⟨front, d, back, rest, hdomains, hblock, fun ts d' hts => ?_⟩
  rw [List.append_assoc]
  exact hexchange used _ _ rfl (sameHead_append rfl (sameHead_of_block hblock hts))
    (hreplace ts d' hts) (by simp)

/-- **A block can be added.**  Behind the closing brace of the last block and a line end, another
one can stand. -/
theorem Derives.concat (h : Derives ts s) :
    ∃ front c after, ts = front ++ c :: after ∧ Closing (c :: after) [] ∧
      ∀ line block d, line.kind = .lineEnd → Block block d [] →
        Derives (front ++ c :: line :: block) { s with domains := s.domains ++ [d] } := by
  have hds : s.domains ≠ [] := by
    cases h
    exact List.cons_ne_nil _ _
  obtain ⟨used, blocks, rfl, hmany, -, hexchange⟩ := derives_blocks h
  obtain ⟨front, c, after, rfl, hclose, hconcat⟩ := concat_of_many hmany hds
  refine ⟨used ++ front, c, after, by simp, hclose, fun line block d hline hblock => ?_⟩
  rw [List.append_assoc]
  exact hexchange used _ _ rfl (sameHead_append rfl (congrArg some rfl))
    (hconcat line block d hline hblock) (by simp)

/-! ### Globs in front of others -/

theorem exists_map_sign (ss : List Sign) : ∃ ts : List Token, ts.map sign = ss :=
  ⟨ss.map fun s => ⟨s.kind, s.text, .start⟩, by rw [List.map_map]; exact List.map_id _⟩

/-- What may stand between tokens: nothing, or a line end. -/
theorem break_iff {gap : List Token} (hgap : gap = [] ∨ ∃ t, gap = [t] ∧ t.kind = .lineEnd)
    (hrest : OffLineEnd rest) {body : List Token} (hbody : OffLineEnd body) :
    Break (gap ++ rest) body ↔ body = rest := by
  constructor
  · intro h
    rcases hgap with rfl | ⟨t, rfl, ht⟩
    · cases h with
      | none => rfl
      | line ht => exact absurd ht (offLineEnd_cons_iff.mp hrest)
    · cases h with
      | none => exact absurd ht (offLineEnd_cons_iff.mp hbody)
      | line => rfl
  · rintro rfl
    rcases hgap with rfl | ⟨t, rfl, ht⟩
    · exact .none
    · exact .line ht

/-- Behind the opening brace of a block there may be one more statement of globs. -/
theorem block_addGlobs {o line : Token} {gap gap' globsLine others : List Token}
    {globs : List String} (h : Block (k :: n :: (gap ++ o :: (gap' ++ others))) d rest)
    (hgap : gap = [] ∨ ∃ t, gap = [t] ∧ t.kind = .lineEnd) (ho : o.kind = .openBrace)
    (hgap' : gap' = [] ∨ ∃ t, gap' = [t] ∧ t.kind = .lineEnd) (hothers : OffLineEnd others)
    (hline : line.kind = .lineEnd) (hglobs : globsLine.map sign = signs (Domain.allowLines globs)) :
    d.name = n.text ∧ Block (k :: n :: (gap ++ o :: line :: (globsLine ++ others)))
      { d with allow := globs ++ d.allow } rest := by
  generalize hts : k :: n :: (gap ++ o :: (gap' ++ others)) = ts at h
  obtain ⟨hk, hname, ⟨hbefore, ho', hinner⟩, hbody, hclose⟩ := h
  obtain ⟨rfl, htail⟩ := List.cons.inj hts
  obtain ⟨hn⟩ := hname
  obtain ⟨rfl, rfl⟩ := List.cons.inj htail
  have hoff {t : Token} (ht : t.kind = .openBrace) (ts : List Token) : OffLineEnd (t :: ts) :=
    offLineEnd_cons_iff.mpr (by simp [ht])
  obtain ⟨rfl, rfl⟩ := List.cons.inj ((break_iff hgap (hoff ho _) (hoff ho' _)).mp hbefore)
  obtain rfl := (break_iff hgap' hothers
    (follow_of_many steps_statement hbody hclose.brace.2)).mp hinner
  refine ⟨rfl, ?_⟩
  have hopen {o : Token} (ho : o.kind = .openBrace) (body : List Token) :
      Opening (gap ++ o :: line :: body) body :=
    .mk ((break_iff hgap (hoff ho _) (hoff ho _)).mpr rfl) ho (.line hline)
  have hmany := (writes_allowLines globs globsLine _ hglobs).append hbody
  obtain ⟨hallow, hnone⟩ := flatMap_allowStatements globs
  have hblock := Block.mk hk (.mk hn) (hopen ho _) hmany hclose
  rwa [List.flatMap_append, List.flatMap_append, hallow, hnone, List.nil_append] at hblock

/-- Behind the opening brace of a block in a file there may be one more statement of globs. -/
theorem derives_addGlobs {before gap ss others : List Sign} {name : String} {globs : List String}
    (h : Derives ts s)
    (hts : ts.map sign =
      before ++ .reserved "domain" :: .name name :: (gap ++ .openBrace :: ss))
    (hgap : gap = [] ∨ gap = [.lineEnd]) (hss : ss = others ∨ ss = .lineEnd :: others)
    (hothers : ∀ s ∈ others.head?, s.kind ≠ .lineEnd) {ts' : List Token}
    (hts' : ts'.map sign = before ++ .reserved "domain" :: .name name ::
      (gap ++ .openBrace :: .lineEnd :: (signs (Domain.allowLines globs) ++ others))) :
    ∃ front d back, s.domains = front ++ d :: back ∧ d.name = name ∧ Derives ts'
      { s with domains := front ++ { d with allow := globs ++ d.allow } :: back } := by
  obtain ⟨before, _, rfl, rfl, h₁⟩ := List.map_eq_append_iff.mp hts
  obtain ⟨k, _, rfl, hk, h₂⟩ := List.map_eq_cons_iff.mp h₁
  obtain ⟨n, _, rfl, hn, h₃⟩ := List.map_eq_cons_iff.mp h₂
  obtain ⟨gap, _, rfl, rfl, h₄⟩ := List.map_eq_append_iff.mp h₃
  obtain ⟨o, behind, rfl, ho, rfl⟩ := List.map_eq_cons_iff.mp h₄
  obtain ⟨line, hline⟩ : ∃ t : Token, t.sign = .lineEnd := ⟨⟨.lineEnd, "\n", .start⟩, rfl⟩
  obtain ⟨globsLine, hglobs⟩ := exists_map_sign (signs (Domain.allowLines globs))
  have hlineEnd {gap : List Token} (h : gap.map sign = [] ∨ gap.map sign = [.lineEnd]) :
      gap = [] ∨ ∃ t, gap = [t] ∧ t.kind = .lineEnd := by
    refine h.imp List.map_eq_nil_iff.mp fun h => ?_
    obtain ⟨t, rfl, ht⟩ := List.map_eq_singleton_iff.mp h
    exact ⟨t, rfl, congrArg Sign.kind ht⟩
  obtain ⟨gap', rest, rfl, hgap', hrest⟩ : ∃ gap' rest, behind = gap' ++ rest ∧
      (gap' = [] ∨ ∃ t, gap' = [t] ∧ t.kind = .lineEnd) ∧ rest.map sign = others := by
    rcases hss with hss | hss
    · exact ⟨[], behind, rfl, .inl rfl, hss⟩
    · obtain ⟨t, rest, rfl, ht, hrest⟩ := List.map_eq_cons_iff.mp hss
      exact ⟨[t], rest, rfl, .inr ⟨t, rfl, congrArg Sign.kind ht⟩, hrest⟩
  have hoff : OffLineEnd rest := by
    cases rest with
    | nil => exact offLineEnd_nil
    | cons t rest =>
        subst hrest
        exact offLineEnd_cons_iff.mpr (hothers t.sign rfl)
  obtain ⟨front, d, back, after, hdomains, hblock, hreplace⟩ :=
    h.replace (isKeyword_of_sign hk) (congrArg Sign.kind hn)
  obtain ⟨hname, hblock'⟩ := block_addGlobs hblock (hlineEnd hgap) (congrArg Sign.kind ho) hgap'
    hoff (congrArg Sign.kind hline) hglobs
  refine ⟨front, d, back, hdomains, hname.trans (congrArg Sign.text hn),
    derives_of_sign_eq (hreplace _ _ hblock') ?_⟩
  rw [hts']
  simp [hk, hn, ho, hline, hglobs, hrest]

end ChangeGate.Architecture
