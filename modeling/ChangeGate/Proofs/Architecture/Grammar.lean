import ChangeGate.Architecture.Reader
import ChangeGate.Proofs.Source.Phrase

/-! # The grammar of system files

`Derives` is the grammar: a version, a name, imports and at least one domain block, each of them a
statement.  The reader of system files reads its phrases, and refuses a token only where another one
could have stood.

`read_grammar`: a system file that has tokens is read exactly if they are derived from the grammar,
as what the derivation says; otherwise it is refused at the first token that no derived list of
tokens has there, where the end of the source counts as a token. -/

namespace ChangeGate.Architecture

open Source

/-! ### The grammar -/

namespace Grammar

/-- A statement of globs. -/
inductive Paths : Phrase (List String)
  | mk {k a : Token} {ts mid rest : List Token} {globs : List String}
      (hk : k.isKeyword "paths" = true) (ha : a.isKeyword "allow" = true)
      (hglobs : Separated .comma (Literal .text) ts globs mid) (hend : Ending mid rest) :
      Paths (k :: a :: ts) globs rest

/-- A statement of a domain block: its globs, and the domains that it depends on. -/
inductive Statement : Phrase (List String × List String)
  | paths {ts rest : List Token} {globs : List String} (h : Paths ts globs rest) :
      Statement ts (globs, []) rest
  | dependsOn {ts rest : List Token} {target : String}
      (h : Sentence "depends_on" (·.kind == .name) ts target rest) :
      Statement ts ([], [target]) rest

/-- A domain block. -/
inductive Block : Phrase Domain
  | mk {k : Token} {ts before body after rest : List Token} {name : String}
      {xs : List (List String × List String)} (hk : k.isKeyword "domain" = true)
      (hname : Literal .name ts name before) (hopen : Opening before body)
      (hbody : Many Statement body xs after) (hclose : Closing after rest) :
      Block (k :: ts) ⟨name, xs.flatMap (·.1), xs.flatMap (·.2)⟩ rest

end Grammar

open Grammar

/-- The tokens of a system file are derived from the grammar: a version, a name that may be a
reserved word, imports and at least one domain block. -/
inductive Derives : List Token → Architecture → Prop
  | mk {ts afterVersion afterName afterImports others : List Token} {version name : String}
      {imports : List String} {d : Domain} {ds : List Domain}
      (hversion : Sentence "intent" (·.kind == .number) ts version afterVersion)
      (hname : Sentence "system" Token.isNameLike afterVersion name afterName)
      (himports : Many (Sentence "import" (·.kind == .text)) afterName imports afterImports)
      (hfirst : Block afterImports d others) (hothers : Many Block others ds []) :
      Derives ts ⟨version, name, d :: ds, imports⟩

/-! ### Statements -/

/-- What a statement adds to a domain. -/
def addStatement (d : Domain) (x : List String × List String) : Domain :=
  { d with allow := d.allow ++ x.1, dependsOn := d.dependsOn ++ x.2 }

/-- What a statement of globs says behind its first word. -/
def allowed (d : Domain) : Reader Domain := do
  let _ ← takeKeyword "allow"
  let globs ← separated .comma takeText
  endStatement
  return { d with allow := d.allow ++ globs }

/-- A statement of globs. -/
def pathsStatement (d : Domain) : Reader Domain := do
  let _ ← takeKeyword "paths"
  allowed d

/-- A statement of a dependency. -/
def dependsStatement (d : Domain) : Reader Domain := do
  let target ← sentence "depends_on" (·.kind == .name) (.expected .name)
  return { d with dependsOn := d.dependsOn ++ [target] }

variable {d : Domain} {ts rest : List Token}

theorem statement_eq (d : Domain) : statement d = fun ts =>
    if atKeyword "paths" ts then pathsStatement d ts
    else if atKeyword "depends_on" ts then dependsStatement d ts
    else refuse (.strayInDomain d.name) ts := by
  funext ts
  have hdepends : dependsStatement d = (do
      let _ ← takeKeyword "depends_on"
      let target ← takeName
      endStatement
      return { d with dependsOn := d.dependsOn ++ [target] }) := by
    simp [dependsStatement, sentence, takeName, take]
  rw [hdepends]
  show (if atKeyword "paths" ts then _ else _ : Reader Domain) ts = _
  split
  · rfl
  · show (if atKeyword "depends_on" ts then _ else _ : Reader Domain) ts = _
    split <;> rfl

theorem pinpoints_allowed (d : Domain) : Pinpoints OffLineEnd (allowed d) := by
  have hglobs : Pinpoints (fun ts => atKind .comma ts = false) (separated .comma takeText) :=
    .separated (pinpoints_literal .text)
  refine .takeKeyword_bind "allow" fun _ =>
    hglobs.bind (fun _ => Pinpoints.endStatement.bind_pure) fun _ ts y rest h _ => ?_
  obtain ⟨_, _, hend, -⟩ := bind_eq_ok_iff.mp h
  exact atKind_eq_false_of_endStatement (by decide) (by decide) hend

theorem reads_pathsStatement (d : Domain) : Reads OffLineEnd (pathsStatement d)
    fun ts d' rest => ∃ globs, Paths ts globs rest ∧ d' = addStatement d (globs, []) := by
  have hglobs : Reads (fun ts => atKind .comma ts = false) (separated .comma takeText)
      (Separated .comma (Literal .text)) :=
    reads_separated (by decide) (reads_literal (by decide)) (pinpoints_literal .text)
  refine ⟨fun h => ?_, ?_⟩
  · obtain ⟨k, _, hword, h₁⟩ := bind_eq_ok_iff.mp h
    obtain ⟨a, _, hword', h₂⟩ := bind_eq_ok_iff.mp h₁
    obtain ⟨globs, _, hread, h₃⟩ := bind_eq_ok_iff.mp h₂
    obtain ⟨_, _, hend, hpure⟩ := bind_eq_ok_iff.mp h₃
    obtain ⟨rfl, hk⟩ := takeIf_eq_ok_iff.mp hword
    obtain ⟨rfl, ha⟩ := takeIf_eq_ok_iff.mp hword'
    cases hpure
    refine ⟨globs, ?_, by rw [addStatement, List.append_nil]⟩
    rw [tidy_cons (kind_ne_lineEnd_of_isKeyword hk), tidy_cons (kind_ne_lineEnd_of_isKeyword ha)]
    exact .mk hk ha (hglobs.sound hread) (ending_of_endStatement hend)
  · rintro _ d' rest ⟨globs, ⟨hk, ha, hread, hend⟩, rfl⟩ hrest
    have hend := endStatement_of_ending hend hrest
    have hcomma : atKind .comma _ = false :=
      atKind_eq_false_of_endStatement (by decide) (by decide) hend
    rw [pathsStatement, bind_of_ok _ (takeKeyword_of_isKeyword hk _), allowed,
      bind_of_ok _ (takeKeyword_of_isKeyword ha _),
      bind_of_ok _ (hglobs.complete hread hcomma), bind_of_ok _ hend, addStatement, List.append_nil]
    rfl

/-- A statement of globs adds them to the domain. -/
theorem recognizes_pathsStatement (d : Domain) : Recognizes "paths" (pathsStatement d)
    fun ts d' rest => ∃ globs, Paths ts globs rest ∧ d' = addStatement d (globs, []) where
  pinpoints := .takeKeyword_bind "paths" fun _ => pinpoints_allowed d
  opens := Opens.takeIf_bind fun _ => pinpoints_allowed d
  reads := reads_pathsStatement d

/-- A statement of a dependency adds it to the domain. -/
theorem recognizes_dependsStatement (d : Domain) : Recognizes "depends_on" (dependsStatement d)
    fun ts d' rest => ∃ target, Sentence "depends_on" (·.kind == .name) ts target rest ∧
      d' = addStatement d ([], [target]) := by
  have htarget : Recognizes "depends_on"
      (sentence "depends_on" (·.kind == .name) (.expected .name)) _ :=
    recognizes_sentence (t := ⟨.name, "", .start⟩) rfl fun t ht => by simp_all
  refine ⟨htarget.pinpoints.bind_pure, htarget.opens.bind_pure, fun h => ?_, ?_⟩
  · obtain ⟨target, _, hread, hpure⟩ := bind_eq_ok_iff.mp h
    cases hpure
    exact ⟨target, htarget.reads.sound hread, by rw [addStatement, List.append_nil]⟩
  · rintro ts d' rest ⟨target, h, rfl⟩ hrest
    rw [dependsStatement, bind_of_ok _ (htarget.reads.complete h hrest), addStatement,
      List.append_nil]
    rfl

theorem pinpoints_statement (d : Domain) : Pinpoints OffLineEnd (statement d) := by
  have hpaths (ts : List Token) (d' : Domain) (rest : List Token)
      (h : pathsStatement d ts = .ok (d', rest)) : atKeyword "paths" ts = true := by
    obtain ⟨t, ts', rfl, ht, -⟩ := (recognizes_pathsStatement d).opens ts d' rest h
    exact ht
  have hdepends (ts : List Token) (d' : Domain) (rest : List Token)
      (h : dependsStatement d ts = .ok (d', rest)) :
      atKeyword "depends_on" ts = true ∧ atKeyword "paths" ts = false := by
    obtain ⟨t, ts', rfl, ht, -⟩ := (recognizes_dependsStatement d).opens ts d' rest h
    exact ⟨ht, atKeyword_eq_false_of_isKeyword ht (by decide)⟩
  rw [statement_eq]
  refine .choose (goesByNext_atKeyword _) (recognizes_pathsStatement d).pinpoints
    (.orRefuse (goesByNext_atKeyword _) (recognizes_dependsStatement d).pinpoints
      fun ts d' rest h => (hdepends ts d' rest h).1) hpaths fun ts d' rest h => ?_
  split at h
  · exact (hdepends ts d' rest h).2
  · cases h

theorem opens_statement (d : Domain) : Opens (fun t => t.kind = .keyword) (statement d) := by
  have hkind {word : String} (t : Token) (h : t.isKeyword word = true) : t.kind = .keyword :=
    (isKeyword_iff.mp h).1
  rw [statement_eq]
  exact .choose ((recognizes_pathsStatement d).opens.mono hkind)
    (.choose ((recognizes_dependsStatement d).opens.mono hkind) (.refuse _))

theorem reads_statement (d : Domain) : Reads OffLineEnd (statement d)
    fun ts d' rest => ∃ x, Statement ts x rest ∧ d' = addStatement d x := by
  rw [statement_eq]
  refine ⟨fun h => ?_, ?_⟩
  · split at h
    · obtain ⟨globs, hpaths, rfl⟩ := (recognizes_pathsStatement d).reads.sound h
      exact ⟨_, .paths hpaths, rfl⟩
    · split at h
      · obtain ⟨target, hdepends, rfl⟩ := (recognizes_dependsStatement d).reads.sound h
        exact ⟨_, .dependsOn hdepends, rfl⟩
      · cases h
  · rintro ts d' rest ⟨x, hx, rfl⟩ hrest
    cases hx with
    | paths h =>
        have hread := (recognizes_pathsStatement d).reads.complete ⟨_, h, rfl⟩ hrest
        obtain ⟨t, ts', rfl, ht, -⟩ := (recognizes_pathsStatement d).opens _ _ _ hread
        exact (if_pos ht).trans hread
    | dependsOn h =>
        have hread := (recognizes_dependsStatement d).reads.complete ⟨_, h, rfl⟩ hrest
        obtain ⟨t, ts', rfl, ht, -⟩ := (recognizes_dependsStatement d).opens _ _ _ hread
        have hpaths : ¬ atKeyword "paths" (t :: ts') = true := by
          rw [atKeyword_eq_false_of_isKeyword ht (by decide)]
          exact Bool.false_ne_true
        exact (if_neg hpaths).trans ((if_pos ht).trans hread)

/-! ### Domain blocks -/

theorem steps_statement : Steps OffLineEnd (fun t => t.kind = .keyword) Statement
    (fun d x => Except.ok (addStatement d x)) statement where
  reads d _ x _ hx hrest := (reads_statement d).complete ⟨x, hx, rfl⟩ hrest
  opens hx hrest := opens_statement default _ _ _ ((reads_statement _).complete ⟨_, hx, rfl⟩ hrest)
  follows := offLineEnd_of_keyword

theorem foldl_addStatement (xs : List (List String × List String)) (d : Domain) :
    xs.foldl addStatement d =
      ⟨d.name, d.allow ++ xs.flatMap (·.1), d.dependsOn ++ xs.flatMap (·.2)⟩ := by
  induction xs generalizing d with
  | nil => simp
  | cons x xs ih => simp [ih, addStatement]

/-- What a domain block says behind its first word. -/
def namedBlock : Reader Domain := do
  let name ← takeName
  openBlock
  let d ← repeated (atKind .closeBrace) statement ⟨name, [], []⟩
  closeBlock
  return d

theorem pinpoints_namedBlock : Pinpoints OffLineEnd namedBlock := by
  have hname : Pinpoints (fun _ => True) takeName := pinpoints_literal .name
  have hbody (d : Domain) : Pinpoints (fun ts => atKind .closeBrace ts = true)
      (repeated (atKind .closeBrace) statement d) := by
    refine .repeated (goesByNext_atKind _) pinpoints_statement opens_statement not_atKind_of_keyword
      (fun ts hts => ⟨hts, ?_⟩) d
    cases ts with
    | nil => cases hts
    | cons t ts => exact offLineEnd_cons_iff.mpr (by simp_all [atKind])
  have hclose {d : Domain} {ts rest : List Token} {d' : Domain}
      (h : (closeBlock >>= fun _ => pure d : Reader Domain) ts = .ok (d', rest)) :
      ∃ c after, ts = c :: after ∧ c.kind = .closeBrace := by
    obtain ⟨_, _, hclose, -⟩ := bind_eq_ok_iff.mp h
    obtain ⟨c, after, htake, -⟩ := bind_eq_ok_iff.mp hclose
    obtain ⟨rfl, hc⟩ := take_eq_ok_iff.mp htake
    exact ⟨c, after, rfl, hc⟩
  refine hname.bind (fun name => Pinpoints.openBlock.bind (fun _ => (hbody _).bind
    (fun d => Pinpoints.closeBlock.bind_pure) ?_) ?_) fun _ _ _ _ _ _ => trivial
  · intro d ts d' rest h _
    obtain ⟨c, after, rfl, hc⟩ := hclose h
    simp [atKind, hc]
  · intro _ ts d' rest h _
    obtain ⟨d, mid, hread, h'⟩ := bind_eq_ok_iff.mp h
    obtain rfl | ⟨t, ts', rfl, ht⟩ := Opens.of_repeated opens_statement hread
    · obtain ⟨c, after, rfl, hc⟩ := hclose h'
      exact offLineEnd_cons_iff.mpr (by simp [hc])
    · exact offLineEnd_cons_iff.mpr (by simp [ht])

theorem reads_domainBlock : Reads OffLineEnd domainBlock Block := by
  have hliteral : Reads (fun _ => True) takeName (Literal .name) := reads_literal (by decide)
  refine ⟨fun h => ?_, ?_⟩
  · obtain ⟨k, _, hword, h₁⟩ := bind_eq_ok_iff.mp h
    obtain ⟨name, _, hname, h₂⟩ := bind_eq_ok_iff.mp h₁
    obtain ⟨_, _, hopen, h₃⟩ := bind_eq_ok_iff.mp h₂
    obtain ⟨d, _, hbody, h₄⟩ := bind_eq_ok_iff.mp h₃
    obtain ⟨_, _, hclose, hpure⟩ := bind_eq_ok_iff.mp h₄
    obtain ⟨rfl, hk⟩ := takeIf_eq_ok_iff.mp hword
    obtain ⟨-, xs, hmany, rfl⟩ :=
      many_of_repeated opens_statement (fun d => (reads_statement d).sound) hbody
    cases hpure
    rw [tidy_cons (kind_ne_lineEnd_of_isKeyword hk), foldl_addStatement]
    exact .mk hk (hliteral.sound hname) (opening_of_openBlock hopen) hmany
      (closing_of_closeBlock hclose)
  · rintro _ _ rest ⟨hk, hname, hopen, hbody, hclose⟩ hrest
    have hend := closeBlock_of_closing hclose hrest
    obtain ⟨hclosed, hoff⟩ := hclose.brace
    have hread := repeated_eq_ok_of_many steps_statement not_atKind_of_keyword hbody hclosed hoff
    have hopened := openBlock_of_opening hopen (follow_of_many steps_statement hbody hoff)
    rw [domainBlock, bind_of_ok _ (takeIf_of_ok hk _),
      bind_of_ok _ (hliteral.complete hname trivial), bind_of_ok _ hopened, bind_of_ok _ (hread _),
      bind_of_ok _ hend, foldl_addStatement]
    rfl

/-- A domain block is read with all that its statements say. -/
theorem recognizes_domainBlock : Recognizes "domain" domainBlock Block where
  pinpoints := .takeIf_bind (t := ⟨.keyword, "domain", .start⟩) rfl fun _ => pinpoints_namedBlock
  opens := Opens.takeIf_bind fun _ => pinpoints_namedBlock
  reads := reads_domainBlock

/-! ### Lines -/

theorem recognizes_versionLine :
    Recognizes "intent" versionLine (Sentence "intent" (·.kind == .number)) :=
  recognizes_sentence (t := ⟨.number, "", .start⟩) rfl fun t ht => by simp_all

theorem recognizes_nameLine :
    Recognizes "system" nameLine (Sentence "system" Token.isNameLike) :=
  recognizes_sentence (t := ⟨.name, "", .start⟩) rfl fun t ht hkind => by
    rw [Token.isNameLike, hkind] at ht
    cases ht

theorem recognizes_importLine :
    Recognizes "import" importLine (Sentence "import" (·.kind == .text)) := by
  have himport : importLine = sentence "import" (·.kind == .text) (.expected .text) := by
    simp [importLine, sentence, takeText, take]
  rw [himport]
  exact recognizes_sentence (t := ⟨.text, "", .start⟩) rfl fun t ht => by simp_all

/-! ### Whole files -/

theorem pinpoints_reader : Pinpoints (· = []) reader := by
  have himports : Pinpoints (fun ts => OffLineEnd ts ∧ atKeyword "import" ts = false)
      (items (fun ts => !atKeyword "import" ts) importLine []) :=
    .items (goesByNext_atKeyword _).not recognizes_importLine.pinpoints recognizes_importLine.opens
      (fun t ts ht => by simpa [atKeyword] using ht) (fun ts hts => ⟨by simp [hts.2], hts.1⟩) []
  have hothers (first : Domain) : Pinpoints (· = []) (items List.isEmpty domainBlock [first]) :=
    .items goesByNext_isEmpty recognizes_domainBlock.pinpoints recognizes_domainBlock.opens
      (fun _ _ _ => rfl) (fun ts hts => by rw [hts]; exact ⟨rfl, offLineEnd_nil⟩) [first]
  refine Pinpoints.skipLineEnds.bind (fun _ => recognizes_versionLine.pinpoints.bind (fun version =>
    recognizes_nameLine.pinpoints.bind (fun name => himports.bind (fun imports =>
      recognizes_domainBlock.pinpoints.bind (fun first => (hothers first).bind_pure) ?_) ?_) ?_) ?_)
    ?_
  · intro first ts _ rest h hrest
    obtain ⟨_, mid, hread, hpure⟩ := bind_eq_ok_iff.mp h
    cases hpure
    exact recognizes_domainBlock.offLineEnd_of_items hread (hrest ▸ offLineEnd_nil)
  · intro imports ts _ _ h _
    obtain ⟨_, mid, hread, -⟩ := bind_eq_ok_iff.mp h
    obtain ⟨t, ts', rfl, ht, -⟩ := recognizes_domainBlock.opens _ _ _ hread
    exact ⟨offLineEnd_of_isKeyword t ts' ht, atKeyword_eq_false_of_isKeyword ht (by decide)⟩
  · intro name ts _ _ h _
    obtain ⟨_, mid, hread, h'⟩ := bind_eq_ok_iff.mp h
    obtain ⟨_, _, hread', -⟩ := bind_eq_ok_iff.mp h'
    exact recognizes_importLine.offLineEnd_of_items hread (recognizes_domainBlock.offLineEnd hread')
  · intro version ts _ _ h _
    obtain ⟨_, mid, hread, -⟩ := bind_eq_ok_iff.mp h
    exact recognizes_nameLine.offLineEnd hread
  · intro _ ts _ _ h _
    obtain ⟨_, mid, hread, -⟩ := bind_eq_ok_iff.mp h
    exact recognizes_versionLine.offLineEnd hread

/-- What is read from tidy tokens is derived from the grammar. -/
theorem derives_of_reader {s : Architecture} (h : reader ts = .ok (s, rest)) :
    Derives (Token.tidyFrom false ts) s := by
  obtain ⟨_, _, hskip, h₀⟩ := bind_eq_ok_iff.mp h
  obtain ⟨version, _, hversion, h₁⟩ := bind_eq_ok_iff.mp h₀
  obtain ⟨name, _, hname, h₂⟩ := bind_eq_ok_iff.mp h₁
  obtain ⟨imports, _, himports, h₃⟩ := bind_eq_ok_iff.mp h₂
  obtain ⟨first, _, hfirst, h₄⟩ := bind_eq_ok_iff.mp h₃
  obtain ⟨domains, _, hdomains, hpure⟩ := bind_eq_ok_iff.mp h₄
  obtain ⟨-, _, hmany, rfl⟩ := recognizes_importLine.many_of_items himports
  obtain ⟨hdone, ds, hmany', rfl⟩ := recognizes_domainBlock.many_of_items hdomains
  cases hpure
  obtain rfl := List.isEmpty_iff.mp hdone
  rw [(tidy_of_skipLineEnds hskip).2]
  exact .mk (recognizes_versionLine.reads.sound hversion) (recognizes_nameLine.reads.sound hname)
    hmany (recognizes_domainBlock.reads.sound hfirst) hmany'

/-- What is derived from the grammar is read. -/
theorem reader_of_derives {s : Architecture} (h : Derives ts s) : reader ts = .ok (s, []) := by
  obtain @⟨_, afterName, afterImports, others, _, _, imports, d, ds, hversion, hname, himports,
    hfirst, hothers⟩ := h
  -- From the back, as each phrase has to be followed by no line end.
  have h₄ : items List.isEmpty domainBlock [d] others = .ok ([d] ++ ds, []) :=
    recognizes_domainBlock.items_of_many (fun _ _ _ => rfl) hothers rfl offLineEnd_nil [d]
  have h₃ := recognizes_domainBlock.reads.complete hfirst
    (recognizes_domainBlock.offLineEnd_of_items h₄ offLineEnd_nil)
  have hoff := recognizes_domainBlock.offLineEnd h₃
  have hdone : (!atKeyword "import" afterImports) = true := by
    obtain ⟨t, ts', hts, ht, -⟩ := recognizes_domainBlock.opens _ _ _ h₃
    rw [hts, atKeyword_eq_false_of_isKeyword ht (by decide)]
    rfl
  have h₂ : items (fun ts => !atKeyword "import" ts) importLine [] afterName =
      .ok ([] ++ imports, afterImports) :=
    recognizes_importLine.items_of_many (fun t ts ht => by simpa [atKeyword] using ht) himports
      hdone hoff []
  have h₁ := recognizes_nameLine.reads.complete hname
    (recognizes_importLine.offLineEnd_of_items h₂ hoff)
  have h₀ := recognizes_versionLine.reads.complete hversion (recognizes_nameLine.offLineEnd h₁)
  have hskip := skipLineEnds_append [] (by simp) (recognizes_versionLine.offLineEnd h₀)
  rw [List.nil_append] at hskip
  rw [reader, bind_of_ok _ hskip, bind_of_ok _ h₀, bind_of_ok _ h₁, bind_of_ok _ h₂,
    bind_of_ok _ h₃, bind_of_ok _ h₄]
  rfl

/-- A source that has tokens is read as what they derive. -/
theorem read_eq_ok_iff_derives {source : String} {last : Place} {s : Architecture}
    (h : Token.scan source = .ok (ts, last)) (file : String) :
    read source file = .ok s ↔ Derives ts s := by
  have hread : read source file = _ := Source.read_of_scan h
  constructor
  · intro hs
    rw [hread] at hs
    split at hs
    · rename_i hreader
      cases hs
      have hderives := derives_of_reader hreader
      rwa [Token.tidyFrom_scan h] at hderives
    · cases hs
    · cases hs
  · intro hs
    rw [hread, reader_of_derives hs]

/-- Some derived list of tokens starts with `front` and goes on with a token, or ends there. -/
def CanGoOn (front : List Token) (next? : Option Token) : Prop :=
  ∃ rest s, Derives (front ++ rest) s ∧ rest.head? = next?

/-- The first token of a list that no derived list has there is the one behind `front`, or the end
of the source. -/
structure IsFirstStray (ts front rest : List Token) : Prop where
  split : ts = front ++ rest
  before : ∀ before t others, front = before ++ t :: others → CanGoOn before (some t)
  stray : ¬ CanGoOn front rest.head?

/-- **What a system file is read as.**  A source that has tokens is read exactly if these are
derived from the grammar, as what the derivation says.  If they are not, the source is refused at
the first token that cannot stand there. -/
theorem read_grammar {source : String} {ts : List Token} {last : Place}
    (h : Token.scan source = .ok (ts, last)) (file : String) :
    (∀ s, read source file = .ok s ↔ Derives ts s) ∧
      ((∀ s, ¬ Derives ts s) → ∃ front rest p, IsFirstStray ts front rest ∧
        let t := rest.head?.getD (.sourceEnd last)
        read source file = .error (.malformed ⟨file, t.place, .grammar p t⟩)) := by
  have htidy := Token.tidyFrom_scan h
  refine ⟨fun s => read_eq_ok_iff_derives h file, fun hnone => ?_⟩
  obtain ⟨front, rest, rfl, ⟨more, s, hfin⟩, ⟨s', htakes⟩ | ⟨p, hrefuses⟩⟩ := pinpoints_reader ts
  · have hd := derives_of_reader (htakes rest rfl)
    rw [htidy] at hd
    exact absurd hd (hnone s')
  · refine ⟨front, rest, p, ⟨rfl, ?_, ?_⟩, ?_⟩
    · rintro before t others rfl
      obtain ⟨rest', htidy'⟩ := Token.tidyFrom_append htidy (more ++ [])
      have hd := derives_of_reader (hfin [] rfl)
      rw [htidy', List.append_assoc] at hd
      exact ⟨_, s, hd, rfl⟩
    · rintro ⟨rest', s', hd, hhead⟩
      have hrefused := hrefuses rest' hhead
      rw [reader_of_derives hd] at hrefused
      cases hrefused
    · have hread : read source file = _ := Source.read_of_scan h
      rw [hread, hrefuses rest rfl]

/-- The tokens of a version and a name on one line. -/
def oneLine : List Token :=
  [⟨.keyword, "intent", ⟨1, 1⟩⟩, ⟨.number, "2.0", ⟨1, 8⟩⟩, ⟨.keyword, "system", ⟨1, 12⟩⟩,
    ⟨.name, "S", ⟨1, 19⟩⟩]

/-- A name on the line of the version is the first token that cannot stand there. -/
theorem read_grammar_oneLine :
    Token.scan "intent 2.0 system S" = .ok (oneLine, ⟨1, 20⟩) ∧ (∀ s, ¬ Derives oneLine s) ∧
      ∃ front rest, IsFirstStray oneLine front rest ∧
        rest.head?.getD (.sourceEnd ⟨1, 20⟩) = ⟨.keyword, "system", ⟨1, 12⟩⟩ := by
  have hscan : Token.scan "intent 2.0 system S" = .ok (oneLine, ⟨1, 20⟩) := by decide +kernel
  have hrefused : read "intent 2.0 system S" = .error (.malformed ⟨"system.intent", ⟨1, 12⟩,
      .grammar .expectedStatementEnd ⟨.keyword, "system", ⟨1, 12⟩⟩⟩) := by decide +kernel
  obtain ⟨hread, hstray⟩ := read_grammar hscan "system.intent"
  have hnone (s : Architecture) : ¬ Derives oneLine s := by
    rw [← hread s, hrefused]
    exact nofun
  obtain ⟨front, rest, p, hfirst, hplace⟩ := hstray hnone
  rw [hrefused, Except.error.injEq, Error.malformed.injEq, SyntaxError.mk.injEq,
    Defect.grammar.injEq] at hplace
  exact ⟨hscan, hnone, front, rest, hfirst, hplace.2.2.2.symm⟩

end ChangeGate.Architecture
