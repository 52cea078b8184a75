import ChangeGate.Proofs.Report.Markup
import ChangeGate.Proofs.Text.Lines

/-! # What a report shows

A violation is shown if its code is a name, its line has a number that can be printed, and its tag
and its approver make no tag together (`IsShowable.isSome_text`).  Its texts are then shown line by
line if they hold nothing that is changed on the way (`IsShowable.text_eq`).  Brackets are not
changed, although they look like markup.

A report is shown in full if all its violations are and the names in its header make no tag together
(`isSome_text_of_mem_blocks`), for what stands around them closes all that it opens. -/

namespace ChangeGate.Report

open Markup

variable {s : String} {v : Violation} {b : Bypass} {cs ds style : List Char}

/-! ### What lines say -/

/-- What is said of what was found where. -/
def foundSaid (v : Violation) : String :=
  "  " ++ String.singleton (sign v.severity) ++ " [" ++ v.code ++ "] " ++
    v.evidence.path ++ lineText v.evidence

/-- What the line of a message says. -/
def messageSaid (s : String) : String := "    " ++ s

/-- What the line of a suggestion says. -/
def suggestSaid (s : String) : String := "    → " ++ s

/-- What is said of an approver. -/
def approvalSaid (approver : Option String) : String :=
  ((given approver).map fun s => " (needs " ++ s ++ " approval)").getD ""

/-- What the line of an excuse says. -/
def excuseSaid (b : Bypass) : String :=
  "    " ++ String.singleton '⊘' ++ " Bypassed via tag \"" ++ b.tag ++ "\"" ++
    approvalSaid b.approver

/-- The text of a violation, line by line. -/
def violationSaid (v : Violation) : String := "\n".intercalate <|
  [foundSaid v] ++ (given (some v.message)).toList.map messageSaid ++
    (given v.suggest).toList.map suggestSaid ++ v.bypassed.toList.map excuseSaid

/-- A line says a text and leaves what follows alone, unless that starts with the end of a tag. -/
def Says (line said : String) : Prop :=
  ∀ ds, bracket? ds ≠ some ']' →
    saidBehind 0 (line.toList ++ ds) = said.toList ++ saidBehind 0 ds

theorem says_foundLine (hcode : Token.IsWord v.code.toList)
    (hpath : '\\' ∉ v.evidence.path.toList) : Says (foundLine v) (foundSaid v) := by
  intro ds hds
  have hfree := free_of_isWord hcode
  have hline : bracket? ((lineText v.evidence).toList ++ ds) ≠ some ']' :=
    bracket?_free_append (free_lineText v.evidence) hds
  rw [toList_foundLine_append, saidBehind_text (by decide), toList_icon_append,
    saidBehind_styled (isStyle_colour _).body (isFree_sign _), saidBehind_text (by decide),
    saidBehind_open isStyle_bold.body, saidBehind_slash, escapeChars_of_free hfree,
    saidBehind_quoted hfree, saidBehind_open isBody_slash, saidBehind_text (by decide),
    saidBehind_escapeChars hpath (parted_of_bracket? hline), saidBehind_text (free_lineText _)]
  simp [foundSaid]

theorem says_messageLine (hs : '\\' ∉ s.toList) : Says (messageLine s) (messageSaid s) := by
  intro ds hds
  rw [toList_messageLine_append, saidBehind_text (by decide), saidBehind_open isStyle_dim.body,
    saidBehind_escapeChars hs (parted_of_bracket? bracket?_cons_open),
    saidBehind_open isBody_slash]
  simp [messageSaid]

theorem says_suggestLine (hs : '\\' ∉ s.toList) : Says (suggestLine s) (suggestSaid s) := by
  intro ds hds
  rw [toList_suggestLine_append, saidBehind_text (by decide),
    saidBehind_styled isStyle_cyan.body (by decide), saidBehind_text (by decide),
    saidBehind_escapeChars hs (parted_of_bracket? hds)]
  simp [suggestSaid]

theorem toList_excuseSaid_append (b : Bypass) (ds : List Char) :
    (excuseSaid b).toList ++ ds = "    ".toList ++ (['⊘'] ++ (" Bypassed via tag \"".toList ++
      (b.tag.toList ++ '"' :: ((approvalSaid b.approver).toList ++ ds)))) := by
  unfold excuseSaid
  simp

theorem quote_approvalSaid {a : String} (h : a ≠ "") (ds : List Char) :
    '"' :: ((approvalSaid (some a)).toList ++ ds) =
      needs ++ (a.toList ++ (" approval)".toList ++ ds)) := by
  rw [approvalSaid, given_some h, Option.map_some, Option.getD_some, String.toList_append,
    String.toList_append, List.append_assoc, List.append_assoc]
  rfl

theorem approvalSaid_of_none {approver : Option String} (h : given approver = none) :
    approvalSaid approver = "" := by
  rw [approvalSaid, h]
  rfl

theorem says_excuseLine (h : ∀ approver ∈ b.approver, ¬ Joins b.tag approver)
    (htag : '\\' ∉ b.tag.toList) (happrover : ∀ approver ∈ b.approver, '\\' ∉ approver.toList) :
    Says (excuseLine b) (excuseSaid b) := by
  intro ds hds
  rw [toList_excuseLine_append, saidBehind_text (by decide),
    saidBehind_styled isStyle_yellow.body (by decide), saidBehind_text (by decide),
    toList_excuseSaid_append]
  rcases given_eq_none_or b.approver with hnone | ⟨a, ha, hne⟩
  · have hquote : bracket? ('"' :: ds) ≠ some ']' := @bracket?_free_append ['"'] ds rfl hds
    rw [approverText_of_none hnone, approvalSaid_of_none hnone, String.toList_empty,
      List.nil_append, List.nil_append, saidBehind_escapeChars htag (parted_of_bracket? hquote),
      saidBehind_cons (by decide) fun h => absurd h (by decide)]
  · have happroval : bracket? (" approval)".toList ++ ds) ≠ some ']' :=
      bracket?_free_append (by decide) hds
    rw [ha, quote_approverText hne, quote_approvalSaid hne,
      saidBehind_of_not_joins isBetween_needs happroval (h a ha) htag (happrover a ha),
      saidBehind_text (by decide)]

/-- Lines say their texts one below the other. -/
theorem saidBehind_intercalate {lines : List (String × String)}
    (h : ∀ line ∈ lines, bracket? line.1.toList ≠ some ']' ∧ Says line.1 line.2) :
    saidBehind 0 ("\n".intercalate (lines.map (·.1))).toList =
      ("\n".intercalate (lines.map (·.2))).toList := by
  have hbreak : "\n".toList = ['\n'] := rfl
  rw [String.toList_intercalate, String.toList_intercalate, List.map_map, List.map_map, hbreak]
  induction lines with
  | nil => exact saidBehind_nil
  | cons line lines ih =>
      obtain ⟨⟨-, hline⟩, hlines⟩ := List.forall_mem_cons.mp h
      cases lines with
      | nil =>
          have hnil := hline [] nofun
          rw [List.append_nil, saidBehind_nil, List.append_nil] at hnil
          simpa using hnil
      | cons line' lines =>
          -- A line says its text only in front of what ends no tag, so the next lines are asked for
          -- their first bracket.
          have hbehind : bracket? (['\n'] ++ ['\n'].intercalate
              ((line' :: lines).map (String.toList ∘ (·.1)))) ≠ some ']' := by
            refine bracket?_free_append rfl (bracket?_intercalate ?_)
            exact List.forall_mem_map.mpr fun l hl => (hlines l hl).1
          have hsaid := hline _ hbehind
          rw [@saidBehind_text ['\n'] _ rfl, ih hlines] at hsaid
          simpa [List.intercalate_cons_cons] using hsaid

/-! ### What a violation shows -/

/-- The lines of a violation, each with what it says. -/
def lines (v : Violation) : List (String × String) :=
  [(foundLine v, foundSaid v)] ++
    (given (some v.message)).toList.map (fun s => (messageLine s, messageSaid s)) ++
    (given v.suggest).toList.map (fun s => (suggestLine s, suggestSaid s)) ++
    v.bypassed.toList.map fun b => (excuseLine b, excuseSaid b)

theorem violation_eq_lines (v : Violation) :
    violation v = "\n".intercalate ((lines v).map (·.1)) := by
  simp [violation_eq, lines, Function.comp_def]

theorem violationSaid_eq_lines (v : Violation) :
    violationSaid v = "\n".intercalate ((lines v).map (·.2)) := by
  simp [violationSaid, lines, Function.comp_def]

/-- What a violation needs to be shown: its code is a name, its line has a number that can be
printed, and its tag and its approver make no tag together. -/
structure IsShowable (v : Violation) : Prop where
  code : Token.IsWord v.code.toList
  line : v.evidence.hasLongLine = false
  excuse : ∀ b ∈ v.bypassed, ∀ approver ∈ b.approver, ¬ Joins b.tag approver

theorem says_of_mem_lines (h : IsShowable v) (hslash : ∀ line ∈ lines v, '\\' ∉ line.2.toList)
    {line : String × String} (hline : line ∈ lines v) : Says line.1 line.2 := by
  have hsaid := hslash line hline
  simp only [lines, List.mem_append, List.mem_singleton, List.mem_map] at hline
  rcases hline with ((rfl | ⟨s, -, rfl⟩) | ⟨s, -, rfl⟩) | ⟨b, hb, rfl⟩
  · exact says_foundLine h.code fun hpath => hsaid (by simp [foundSaid, hpath])
  · exact says_messageLine fun hs => hsaid (by simp [messageSaid, hs])
  · exact says_suggestLine fun hs => hsaid (by simp [suggestSaid, hs])
  · refine says_excuseLine (h.excuse b (Option.mem_toList.mp hb)) ?_ ?_
    · exact fun htag => hsaid (by simp [excuseSaid, htag])
    · intro a ha hslash
      have hne : a ≠ "" := by
        rintro rfl
        exact List.not_mem_nil hslash
      refine hsaid ?_
      rw [excuseSaid, approvalSaid, Option.mem_def.mp ha, given_some hne]
      simp [hslash]

theorem violationBlock_text (h : v.evidence.hasLongLine = false) :
    (violationBlock v).text = (plain (violation v)).map (· ++ ['\n']) := by
  rw [violationBlock, h]
  rfl

/-- Excuses and messages may leave a tag open, but they close none that is not. -/
theorem IsShowable.isSome_plain (h : IsShowable v) : (plain (violation v)).isSome = true := by
  refine Harmless.isSome_plain ?_
  rw [tags_violation_eq h.code]
  refine .append (.append (.append ?_ ?_) ?_) ?_
  · exact .append (.pair (isStyle_colour v.severity)) (.pair isStyle_bold)
  · refine .flatMap fun s _ => ?_
    rw [tags_messageLine_eq]
    split
    · exact .opening isStyle_dim
    · exact .pair isStyle_dim
  · exact .flatMap fun s _ => .pair isStyle_cyan
  · refine .flatMap fun b hb => ?_
    rw [tags_excuseLine_of_not_joins (h.excuse b (Option.mem_toList.mp hb))]
    exact .pair isStyle_yellow

theorem IsShowable.isSome_text (h : IsShowable v) : (violationBlock v).text.isSome = true := by
  rw [violationBlock_text h.line, Option.isSome_map, h.isSome_plain]

/-- **What is shown of a violation** is what it says, if that has nothing that is changed on the
way. -/
theorem IsShowable.text_eq (h : IsShowable v) (hplain : isPlain (violationSaid v).toList = true) :
    (violationBlock v).text = some ((violationSaid v).toList ++ ['\n']) := by
  have hslash : ∀ line ∈ lines v, '\\' ∉ line.2.toList := by
    intro line hline hmem
    have hsaid : '\\' ∈ (violationSaid v).toList := by
      rw [violationSaid_eq_lines, String.toList_intercalate, List.map_map]
      exact (Text.infix_intercalate (List.mem_map_of_mem hline)).subset hmem
    exact absurd (of_mem_of_isPlain hplain hsaid) (by decide)
  have hsaid : saidBehind 0 (violation v).toList = (violationSaid v).toList := by
    rw [violation_eq_lines, violationSaid_eq_lines]
    refine saidBehind_intercalate fun line hline => ⟨?_, says_of_mem_lines h hslash hline⟩
    have hmem : line.1 ∈ (lines v).map (·.1) := List.mem_map_of_mem hline
    exact @bracket?_line v line.1 (by simpa [lines, Function.comp_def] using hmem)
  rw [violationBlock_text h.line, plain_eq h.isSome_plain (hsaid ▸ hplain), hsaid]
  rfl

/-! ### The header -/

variable {p : Plan} {vs : List Violation} {system : Option String} {domain : Option String}
  {source : TaskSource}

theorem isStyle_boldCyan : IsStyle "bold cyan".toList := by decide

theorem free_plural {word : String} (hword : word.toList.all isFree = true) (n : Int) :
    (plural n word).toList.all isFree = true := by
  simp only [plural, String.toList_append, List.all_append, free_toString, hword]
  split <;> rfl

/-- The text of the header for the name of the system. -/
def systemText (system : Option String) : String :=
  ((given system).map fun name => " • " ++ escape name).getD ""

/-- The text of the header for the domain of the task. -/
def domainText (domain : Option String) (source : TaskSource) : String :=
  ((given domain).map fun name => " • scope: " ++ escape name ++ (" (" ++ source.label ++ ")")).getD
    ""

theorem toList_header (p : Plan) (system : Option String) : (header p system).toList =
    styled "bold cyan".toList "▲ INTENT".toList (" ".toList ++
      '[' :: ("dim".toList ++ ']' :: ("v".toList ++ (escapeChars p.version.toList ++
        '[' :: (['/'] ++ ']' :: ((systemText system).toList ++
          ((domainText p.task.domain p.task.source).toList ++ (" ".toList ++ styled "dim".toList
            ("• ".toList ++ (plural p.modifyFiles "file").toList) [])))))))) := by
  unfold header systemText domainText
  cases given system <;> cases given p.task.domain <;> simp [styled, toList_escape]

theorem systemText_of_none (h : given system = none) : systemText system = "" := by
  rw [systemText, h]
  rfl

theorem toList_systemText_append {name : String} (h : name ≠ "") (ds : List Char) :
    (systemText (some name)).toList ++ ds = " • ".toList ++ (escapeChars name.toList ++ ds) := by
  rw [systemText, given_some h]
  simp [toList_escape]

/-- The text of the header for where the domain of the task is from. -/
def sourceText (source : TaskSource) : String := " (" ++ source.label ++ ")"

theorem free_sourceText (source : TaskSource) : (sourceText source).toList.all isFree = true := by
  cases source <;> decide

theorem domainText_of_none (h : given domain = none) : domainText domain source = "" := by
  rw [domainText, h]
  rfl

theorem toList_domainText_append {name : String} (h : name ≠ "") (ds : List Char) :
    (domainText (some name) source).toList ++ ds = " • scope: ".toList ++
      (escapeChars name.toList ++ ((sourceText source).toList ++ ds)) := by
  rw [domainText, given_some h, sourceText]
  simp [toList_escape]

theorem isBetween_scope : IsBetween " • scope: ".toList := ⟨by decide, by decide, by decide⟩

/-- The names of the header have no tags, if they make none together. -/
theorem tagsBehind_names (h : ∀ name ∈ system, ∀ name' ∈ domain, ¬ Joins name name')
    (hds : bracket? ds ≠ some ']') :
    tagsBehind 0 ((systemText system).toList ++ ((domainText domain source).toList ++
      (" ".toList ++ ds))) = tagsBehind 0 ds := by
  have hblank : bracket? (" ".toList ++ ds) ≠ some ']' := bracket?_free_append (by decide) hds
  have hsource : bracket? ((sourceText source).toList ++ (" ".toList ++ ds)) ≠ some ']' :=
    bracket?_free_append (free_sourceText source) hblank
  have hbehind (n : Nat) : tagsBehind n ((sourceText source).toList ++ (" ".toList ++ ds)) =
      tagsBehind 0 ds := by
    rw [tagsBehind_run_of_ne_nil (by cases source <;> decide) (free_sourceText source),
      tagsBehind_run (by decide)]
  -- The domain comes first: only with one is there anything that the name of the system can join.
  rcases given_eq_none_or domain with hdomain | ⟨name', rfl, hname'⟩
  · rw [domainText_of_none hdomain, String.toList_empty, List.nil_append]
    rcases given_eq_none_or system with hsystem | ⟨name, rfl, hname⟩
    · rw [systemText_of_none hsystem, String.toList_empty, List.nil_append,
        tagsBehind_run (by decide)]
    · rw [toList_systemText_append hname, tagsBehind_run (by decide),
        tagsBehind_escapeChars (apart_of_bracket? hblank),
        tagsBehind_run_of_ne_nil (by decide) (by decide)]
  · rw [toList_domainText_append hname']
    rcases given_eq_none_or system with hsystem | ⟨name, rfl, hname⟩
    · rw [systemText_of_none hsystem, String.toList_empty, List.nil_append,
        tagsBehind_run (by decide), tagsBehind_escapeChars (apart_of_bracket? hsource), hbehind]
    · rw [toList_systemText_append hname, tagsBehind_run (by decide),
        tagsBehind_of_not_joins isBetween_scope hsource (h name rfl name' rfl), hbehind]

/-- The tags of a header are those of the template, unless the version disables one. -/
theorem tags_header (h : ∀ name ∈ system, ∀ domain ∈ p.task.domain, ¬ Joins name domain) :
    tags (header p system) = ["bold cyan", "/"] ++
      ("dim" :: if Disables p.version then [] else ["/"]) ++ ["dim", "/"] := by
  have hfiles : ("• ".toList ++ (plural p.modifyFiles "file").toList).all isFree = true := by
    rw [List.all_append, free_plural (by decide)]
    rfl
  rw [tags_eq, toList_header, tagsBehind_styled isStyle_boldCyan.body (by decide),
    tagsBehind_run (by decide), tagsBehind_open isStyle_dim.body, tagsBehind_run (by decide),
    tagsBehind_escapeChars (apart_of_bracket? bracket?_cons_open), tagsBehind_tag isBody_slash,
    tagsBehind_names h bracket?_styled, tagsBehind_styled isStyle_dim.body hfiles, tagsBehind_nil]
  simp only [disables_iff]
  split <;> simp

theorem isSome_plain_header
    (h : ∀ name ∈ system, ∀ domain ∈ p.task.domain, ¬ Joins name domain) :
    (plain (header p system)).isSome = true := by
  refine Harmless.isSome_plain ?_
  rw [tags_header h]
  refine .append (.append (.pair isStyle_boldCyan) ?_) (.pair isStyle_dim)
  split
  · exact .opening isStyle_dim
  · exact .pair isStyle_dim

/-! ### What stands around the violations -/

/-- How many things a heading is over, and what they are. -/
def title (front : List Char) (n : Nat) (word : List Char) : List Char :=
  front ++ ((toString n).toList ++ (word ++ (if n = 1 then "" else "S").toList))

theorem free_title {front word : List Char} (hfront : front.all isFree = true)
    (hword : word.all isFree = true) (n : Nat) : (title front n word).all isFree = true := by
  have hn : (toString n).toList.all isFree = true := free_toString n
  have hend : (if n = 1 then "" else "S").toList.all isFree = true := by split <;> rfl
  rw [title, List.all_append, List.all_append, List.all_append, hfront, hn, hword, hend]
  rfl

theorem closed_title (hstyle : IsStyle style) {front word : List Char}
    (hfront : front.all isFree = true) (hword : word.all isFree = true) (n : Nat) :
    Closed ("  ".toList ++ styled style (title front n word) []) :=
  .append (.text (by decide)) (.styled hstyle (free_title hfront hword n))

theorem toList_heading_error {n : Nat} (h : s ∈ heading n .error) : s.toList = "  ".toList ++
    styled "bold red".toList (title "🚨 ".toList n " BLOCKING VIOLATION".toList) [] := by
  obtain rfl := Option.some.inj h
  simp [styled, title]

theorem toList_heading_warn {n : Nat} (h : s ∈ heading n .warn) : s.toList = "  ".toList ++
    styled "bold yellow".toList (title "⚠ ".toList n " WARNING".toList) [] := by
  obtain rfl := Option.some.inj h
  simp [styled, title]

theorem closed_heading {n : Nat} {severity : Severity} (h : s ∈ heading n severity) :
    Closed s.toList := by
  cases severity with
  | error =>
      rw [toList_heading_error h]
      exact closed_title (by decide) (by decide) (by decide) n
  | warn =>
      rw [toList_heading_warn h]
      exact closed_title (by decide) (by decide) (by decide) n
  | info => cases h

theorem isSolid_of_isDigit {c : Char} (h : c.isDigit = true) : isSolid c = true := by
  have hlow : 48 ≤ c.toNat := (Char.isDigit_iff_toNat.mp h).1
  have hhidden : isHidden c = false := by
    simp only [isHidden, Bool.or_eq_false_iff, beq_eq_false_iff_ne]
    omega
  have hne : c ≠ '\t' ∧ c ≠ '\\' ∧ c ≠ ':' := by
    refine ⟨?_, ?_, ?_⟩ <;> rintro rfl <;> cases h
  simp [isSolid, hhidden, hne]

theorem solid_nat (n : Nat) : (toString n).toList.all isSolid = true := by
  rw [List.all_eq_true]
  intro c hc
  rcases @Text.eq_or_isDigit_of_mem_toString c n hc with rfl | hdigit
  · decide
  · exact isSolid_of_isDigit hdigit

/-- The heading over blocking violations is shown as it is without its style. -/
theorem text_heading_error {n : Nat} (h : s ∈ heading n .error) :
    (Block.markup s).text = some ("  🚨 " ++ toString n ++ " BLOCKING VIOLATION" ++
      (if n = 1 then "" else "S") ++ "\n").toList := by
  have hfree : (title "🚨 ".toList n " BLOCKING VIOLATION".toList).all isFree = true :=
    free_title (by decide) (by decide) n
  have hsaid : saidBehind 0 s.toList =
      "  ".toList ++ title "🚨 ".toList n " BLOCKING VIOLATION".toList := by
    rw [toList_heading_error h, saidBehind_text (by decide),
      saidBehind_styled (by decide : IsStyle "bold red".toList).body hfree, saidBehind_nil,
      List.append_nil]
  have hsolid : ("  ".toList ++ title "🚨 ".toList n " BLOCKING VIOLATION".toList).all isSolid =
      true := by
    have hend : (if n = 1 then "" else "S").toList.all isSolid = true := by split <;> decide
    simp only [title, List.all_append, solid_nat, hend]
    decide
  rw [Block.text, plain_eq (closed_heading h).isSome_plain (hsaid ▸ isPlain_of_solid hsolid), hsaid]
  simp [title]

theorem closed_statusWord (status : Status) : Closed (statusWord status).toList := by
  have hword : ∃ style word, IsStyle style ∧ word.all isFree = true ∧
      (statusWord status).toList = styled style word [] := by
    cases status
    · exact ⟨"bold green".toList, "PASS".toList, by decide, by decide, by decide⟩
    · exact ⟨"bold yellow".toList, "WARN".toList, by decide, by decide, by decide⟩
    · exact ⟨"bold red".toList, "BLOCKED".toList, by decide, by decide, by decide⟩
  obtain ⟨style, word, hstyle, hfree, hword⟩ := hword
  rw [hword]
  exact .styled hstyle hfree

theorem closed_summary (p : Plan) (vs : List Violation) : Closed (summary p vs).toList := by
  have herror : Closed ("[red]" ++ plural (count .error vs) "error" ++ "[/]").toList := by
    have hclosed := Closed.styled (by decide : IsStyle "red".toList)
      (free_plural (by decide : "error".toList.all isFree = true) (count .error vs))
    simpa [styled] using hclosed
  have hwarn : Closed ("[yellow]" ++ plural (count .warn vs) "warning" ++ "[/]").toList := by
    have hclosed := Closed.styled (by decide : IsStyle "yellow".toList)
      (free_plural (by decide : "warning".toList.all isFree = true) (count .warn vs))
    simpa [styled] using hclosed
  have hinfo : Closed ("[blue]" ++ toString (count .info vs) ++ " info[/]").toList := by
    have hn : (toString (count .info vs)).toList.all isFree = true := free_toString (count .info vs)
    have hrun : ((toString (count .info vs)).toList ++ " info".toList).all isFree = true := by
      rw [List.all_append, hn]
      rfl
    have hclosed := Closed.styled (by decide : IsStyle "blue".toList) hrun
    simpa [styled] using hclosed
  -- Which counts there are does not matter, only that each of them is closed.
  obtain ⟨counts, hcounts, hsummary⟩ : ∃ counts : List String,
      (∀ part ∈ counts, Closed part.toList) ∧ summary p vs = statusWord p.status ++ "  " ++
        if counts.isEmpty then "[green]clean[/]" else ", ".intercalate counts := by
    refine ⟨_, fun part hpart => ?_, rfl⟩
    simp only [List.mem_append, List.mem_ite_nil_left, List.mem_singleton] at hpart
    rcases hpart with (⟨-, rfl⟩ | ⟨-, rfl⟩) | ⟨-, rfl⟩
    · exact herror
    · exact hwarn
    · exact hinfo
  rw [hsummary, String.toList_append, String.toList_append]
  refine .append (.append (closed_statusWord p.status) (.text (by decide))) ?_
  split
  · exact .styled (by decide : IsStyle "green".toList)
      (by decide : "clean".toList.all isFree = true)
  · exact .intercalate (.text (by decide)) hcounts

theorem closed_nextSteps (h : s ∈ nextSteps p vs) : Closed s.toList := by
  unfold nextSteps at h
  split at h
  · cases h
  · simp only [List.mem_append, List.mem_ite_nil_left, List.mem_ite_nil_right,
      List.mem_singleton] at h
    rcases h with ⟨-, rfl⟩ | ⟨-, rfl⟩
    · have hclosed : Closed ("Add ".toList ++
          (styled "bold".toList "INTENT-SCOPE: <Domain>".toList [] ++ " to the PR body".toList)) :=
        .append (.text (by decide)) (.append (.styled isStyle_bold (by decide)) (.text (by decide)))
      simpa [styled] using hclosed
    · have hword : "blocking violation".toList.all isFree = true := by decide
      simp only [String.toList_append]
      exact .append (.append (.text (by decide)) (.text (free_plural hword _))) (.text (by decide))

theorem isSome_text_markup (h : (plain s).isSome = true) : (Block.markup s).text.isSome = true := by
  rw [Block.text, Option.isSome_map, h]

theorem isSome_text_of_mem_group (hvs : ∀ v ∈ vs, IsShowable v) {severity : Severity} {b : Block}
    (hb : b ∈ group vs severity) : b.text.isSome = true := by
  unfold group at hb
  dsimp only at hb
  split at hb
  · cases hb
  · simp only [List.mem_append, List.mem_flatMap, List.mem_map, List.mem_cons, Option.mem_toList,
      List.not_mem_nil, or_false] at hb
    rcases hb with (⟨s, hs, rfl | rfl⟩ | ⟨v, hv, rfl⟩) | rfl
    · exact isSome_text_markup (closed_heading hs).isSome_plain
    · rfl
    · exact (hvs v (List.mem_of_mem_filter hv)).isSome_text
    · rfl

/-- **A report is shown in full** if its violations are and the names in its header make no tag
together. -/
theorem isSome_text_of_mem_blocks
    (hheader : ∀ name ∈ system, ∀ domain ∈ p.task.domain, ¬ Joins name domain)
    (hvs : ∀ v ∈ vs, IsShowable v) {b : Block} (hb : b ∈ blocks p vs system) :
    b.text.isSome = true := by
  unfold blocks at hb
  simp only [List.mem_append, List.mem_cons, List.not_mem_nil, or_false] at hb
  rcases hb with ((((rfl | rfl | rfl) | hb) | rfl) | hb) | rfl
  · rfl
  · exact isSome_text_markup (isSome_plain_header hheader)
  · rfl
  · split at hb
    · obtain rfl := List.mem_singleton.mp hb
      have hclosed : Closed ("  ".toList ++
          (styled "green".toList "✔".toList [] ++ " No violations.".toList)) :=
        .append (.text (by decide)) (.append (.styled (by decide) (by decide)) (.text (by decide)))
      exact isSome_text_markup (Closed.isSome_plain (by simpa [styled] using hclosed))
    · obtain ⟨severity, -, hgroup⟩ := List.mem_flatMap.mp hb
      exact isSome_text_of_mem_group hvs hgroup
  · rw [Block.text, Option.isSome_map, (closed_summary p vs).isSome_plain]
  · split at hb
    · cases hb
    · rcases List.mem_cons.mp hb with rfl | hb
      · have hclosed : Closed ("  ".toList ++ styled "bold".toList "Next steps:".toList []) :=
          .append (.text (by decide)) (.styled isStyle_bold (by decide))
        exact isSome_text_markup (Closed.isSome_plain (by simpa [styled] using hclosed))
      · obtain ⟨s, hs, rfl⟩ := List.mem_map.mp hb
        have hclosed : Closed ("  ".toList ++
            (styled "cyan".toList "→".toList [] ++ (" ".toList ++ s.toList))) :=
          .append (.text (by decide)) (.append (.styled isStyle_cyan (by decide))
            (.append (.text (by decide)) (closed_nextSteps hs)))
        exact isSome_text_markup (Closed.isSome_plain (by simpa [styled] using hclosed))
  · rfl

end ChangeGate.Report
