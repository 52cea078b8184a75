import ChangeGate.Proofs.Architecture.Grammar
import ChangeGate.Proofs.Source.Writing

/-! # Writing system files

`Architecture.text` writes an architecture as a system file, one statement on each line.  The globs
of a domain stand in one statement, and a domain without globs has none.

`read_text`: what is written is read as it was, whatever the texts in it hold. -/

namespace ChangeGate

open Source Token Architecture.Grammar

/-- The line of the globs of a domain. -/
def Domain.allowLines : List String → List (List Sign)
  | [] => []
  | glob :: globs => [.reserved "paths" :: .reserved "allow" ::
      ([.quoted glob] ++ globs.flatMap fun glob => .comma :: [.quoted glob])]

/-- The lines of a domain block. -/
def Domain.lines (d : Domain) : List (List Sign) :=
  blockLines [.reserved "domain", .name d.name] (allowLines d.allow ++
    d.dependsOn.map fun target => [.reserved "depends_on", .name target])

namespace Architecture

/-- The lines of a system file. -/
def lines (s : Architecture) : List (List Sign) :=
  [.reserved "intent", .numeral s.version] :: [.reserved "system", .word s.name] ::
    (s.imports.map (fun path => [.reserved "import", .quoted path]) ++
      s.domains.flatMap Domain.lines)

/-- A system file that declares an architecture. -/
def text (s : Architecture) : String := .ofList (linesText s.lines)

/-- The globs of a domain stand on one line, and each name that it depends on on its own. -/
example :
    text ⟨"1", "S", [⟨"a", ["a/**", "\\"], ["b", "c"]⟩], []⟩ =
      "intent 1\nsystem S\ndomain a \x7b\npaths allow \"a/**\", \"\\\\\"\n" ++
        "depends_on b\ndepends_on c\n\x7d\n" := by
  decide

/-- The architectures that can be written: the version is a numeral, the system has a word for its
name, the other names are no reserved words, and there is a domain. -/
structure Writable (s : Architecture) : Prop where
  version : IsNumeral s.version.toList
  name : IsWord s.name.toList
  domains : s.domains ≠ []
  names : ∀ d ∈ s.domains, IsName d.name ∧ ∀ target ∈ d.dependsOn, IsName target

variable {s : Architecture}

/-! ### What the lines say -/

/-- The statements of the globs of a domain. -/
def allowStatements : List String → List (List String × List String)
  | [] => []
  | glob :: globs => [(glob :: globs, [])]

theorem writes_allowLines (globs : List String) :
    Writes (Many Statement) (signs (Domain.allowLines globs)) (allowStatements globs) := by
  intro ts rest hts
  cases globs with
  | nil =>
      obtain rfl := List.map_eq_nil_iff.mp hts
      exact .nil
  | cons glob globs =>
      rw [Domain.allowLines, signs, List.flatMap_singleton] at hts
      obtain ⟨k, ts, rfl, hk, hts⟩ := List.map_eq_cons_iff.mp hts
      obtain ⟨a, ts, rfl, ha, hts⟩ := List.map_eq_cons_iff.mp hts
      obtain ⟨ts₁, ts₂, rfl, h₁, h₂⟩ := List.map_eq_append_iff.mp hts
      obtain ⟨e, rfl, he⟩ := List.map_eq_singleton_iff.mp h₂
      have hglobs :
          Separated .comma (Literal .text) (ts₁ ++ e :: rest) (glob :: globs) (e :: rest) :=
        writes_separated (fun glob _ => writes_literal .text glob) ts₁ (e :: rest) h₁
      have hpaths : Paths (k :: a :: (ts₁ ++ e :: rest)) (glob :: globs) rest :=
        .mk (isKeyword_of_sign hk) (isKeyword_of_sign ha) hglobs (ending_of_sign he rest)
      rw [List.cons_append, List.cons_append, List.append_assoc]
      exact .cons (.paths hpaths) .nil

theorem writes_dependsOn (target : String) : Writes Statement
    ([.reserved "depends_on", .name target] ++ [.lineEnd]) ([], [target]) := by
  intro ts rest hts
  have hname (t : Token) (ht : t.sign = .name target) : (t.kind == .name) = true :=
    beq_iff_eq.mpr (congrArg Sign.kind ht)
  exact .dependsOn (writes_sentence hname ts rest hts)

theorem flatMap_allowStatements (globs : List String) :
    (allowStatements globs).flatMap (·.1) = globs ∧ (allowStatements globs).flatMap (·.2) = [] := by
  cases globs <;> simp [allowStatements]

/-- The lines of a domain block say what the domain is. -/
theorem writes_domain (d : Domain) : Writes Block (signs d.lines) d := by
  intro ts rest hts
  obtain ⟨ts₁, before, ts₂, after, heq, h₁, hopen, h₂, hclose⟩ := split_of_blockLines hts rest
  obtain ⟨k, ts₁, rfl, hk, h₁⟩ := List.map_eq_cons_iff.mp h₁
  have hname := writes_literal .name d.name ts₁ before h₁
  rw [signs_append, signs_map] at h₂
  obtain ⟨us, vs, rfl, hus, hvs⟩ := List.map_eq_append_iff.mp h₂
  rw [List.append_assoc] at hopen
  have hbody := (writes_allowLines d.allow us _ hus).append
    (writes_many (fun target _ => writes_dependsOn target) vs after hvs)
  have hblock := Block.mk (isKeyword_of_sign hk) hname hopen hbody hclose
  obtain ⟨hallow, hnone⟩ := flatMap_allowStatements d.allow
  have hempty : d.dependsOn.flatMap (fun _ => ([] : List String)) = [] :=
    List.flatMap_eq_nil_iff.mpr fun _ _ => rfl
  rw [heq]
  simpa [List.flatMap_map, hallow, hnone, hempty] using hblock

/-- The lines of a system file say what the architecture is. -/
theorem derives_of_signs {ts : List Token} (h : ts.map sign = signs s.lines)
    (hdomains : s.domains ≠ []) : Derives ts s := by
  obtain ⟨version, name, domains, imports⟩ := s
  obtain ⟨d, ds, rfl⟩ := List.exists_cons_of_ne_nil hdomains
  rw [lines, signs_cons, signs_cons, signs_append, signs_map, signs_flatMap, List.flatMap_cons] at h
  obtain ⟨ts₁, ts, rfl, hversion, h⟩ := List.map_eq_append_iff.mp h
  obtain ⟨ts₂, ts, rfl, hname, h⟩ := List.map_eq_append_iff.mp h
  obtain ⟨ts₃, ts, rfl, himports, h⟩ := List.map_eq_append_iff.mp h
  obtain ⟨ts₄, ts₅, rfl, hfirst, hothers⟩ := List.map_eq_append_iff.mp h
  have hnumeral (t : Token) (ht : t.sign = .numeral version) : (t.kind == .number) = true :=
    beq_iff_eq.mpr (congrArg Sign.kind ht)
  have himport (path : String) : Writes (Sentence "import" (·.kind == .text))
      ([.reserved "import", .quoted path] ++ [.lineEnd]) path :=
    writes_sentence fun t ht => beq_iff_eq.mpr (congrArg Sign.kind ht)
  have himports := writes_many (fun path _ => himport path) ts₃ (ts₄ ++ ts₅) himports
  have hothers := writes_many (fun d _ => writes_domain d) ts₅ [] hothers
  rw [List.map_id', List.append_nil] at hothers
  rw [List.map_id'] at himports
  have hword (t : Token) (ht : t.sign = .word name) := (isNameLike_of_sign ht).1
  have hname := writes_sentence hword ts₂ (ts₃ ++ (ts₄ ++ ts₅)) hname
  rw [Sign.text_word] at hname
  exact .mk (writes_sentence hnumeral ts₁ _ hversion) hname himports
    (writes_domain d ts₄ ts₅ hfirst) hothers

/-! ### Reading what is written -/

theorem isLine_of_mem_allowLines {globs : List String} {line : List Sign}
    (h : line ∈ Domain.allowLines globs) : IsLine line := by
  cases globs with
  | nil => cases h
  | cons glob globs =>
      obtain rfl := List.mem_singleton.mp h
      refine ⟨List.cons_ne_nil _ _, fun s hs => ?_⟩
      simp only [List.mem_cons, List.mem_append, List.mem_flatMap, List.not_mem_nil, or_false] at hs
      rcases hs with rfl | rfl | rfl | ⟨_, _, rfl | rfl⟩
      · exact .reserved (by decide)
      · exact .reserved (by decide)
      · exact .quoted
      · exact .comma
      · exact .quoted

theorem isLine_of_mem_domain {d : Domain} (hname : IsName d.name)
    (htargets : ∀ target ∈ d.dependsOn, IsName target) {line : List Sign} (h : line ∈ d.lines) :
    IsLine line := by
  have hopening := isLine_pair (.reserved (by decide : "domain" ∈ keywords)) (.name hname)
  refine isLine_of_mem_blockLines hopening.writable (fun line hline => ?_) h
  rcases List.mem_append.mp hline with hline | hline
  · exact isLine_of_mem_allowLines hline
  · obtain ⟨target, htarget, rfl⟩ := List.mem_map.mp hline
    exact isLine_pair (.reserved (by decide)) (.name (htargets target htarget))

theorem Writable.isLine (h : s.Writable) : ∀ line ∈ s.lines, IsLine line := by
  intro line hline
  simp only [lines, List.mem_cons, List.mem_append, List.mem_map, List.mem_flatMap] at hline
  rcases hline with rfl | rfl | ⟨path, -, rfl⟩ | ⟨d, hd, hline⟩
  · exact isLine_pair (.reserved (by decide)) (.numeral h.version)
  · exact isLine_pair (.reserved (by decide)) (.word h.name)
  · exact isLine_pair (.reserved (by decide)) .quoted
  · obtain ⟨hname, htargets⟩ := h.names d hd
    exact isLine_of_mem_domain hname htargets hline

/-- **System files round-trip.**  An architecture that can be written is read as it was. -/
theorem read_text (h : s.Writable) (file : String) : read s.text file = .ok s := by
  obtain ⟨ts, last, hts, hscan⟩ := scan_linesText h.isLine
  have hread : read s.text file = _ := Source.read_of_scan hscan
  rw [hread, reader_of_derives (derives_of_signs hts h.domains)]

/-- A system that is named by a reserved word, with paths that hold what the language marks texts,
blocks and comments with. -/
def layered : Architecture where
  version := "2.0"
  name := "system"
  domains := [⟨"core", ["src/\x7b*\x7d // \"core\"", "\\\n"], []⟩, ⟨"app", [], ["core", "app"]⟩]
  imports := ["a \"b\" \\", ""]

theorem read_layered : layered.Writable ∧ read layered.text "layered.intent" = .ok layered := by
  have hversion : IsNumeral (['2'] ++ '.' :: ['0']) := .fraction (by decide) (by decide)
  have hwritable : layered.Writable := ⟨hversion, by decide, by decide, by decide⟩
  exact ⟨hwritable, read_text hwritable _⟩

end Architecture
end ChangeGate
