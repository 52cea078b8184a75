import ChangeGate.Proofs.Scope.Priority

/-! # A description line by line

What a description says is said on one line of it, or by a header that runs on (`said_on_lines`).
A header that has its line to itself does the latter: it takes the next line with anything on it for
its own (`said_on_lines_bare`). -/

namespace ChangeGate.Scope

open Text (behind? lineStarts splitAt)

variable {body gap listed row said : List Char} {before after : List (List Char)} {s : Sources}

/-! ### Tags -/

/-- The tags that are listed: what stands between the commas, trimmed, unless it is empty. -/
def tagsOf (listed : List Char) : List String :=
  (((Text.commaPieces listed).map Text.trim).filter (!·.isEmpty)).map String.ofList

theorem tags_eq (body : String) : tags body = ((tagList? body.toList).map tagsOf).getD [] := by
  unfold tags
  cases tagList? body.toList <;> rfl

theorem trim_gap_append (hgap : IsGap gap) (cs : List Char) :
    Text.trim (gap ++ cs) = Text.trim cs := by
  rw [Text.trim, List.dropWhile_append_of_pos hgap, ← Text.trim]

theorem tagsOf_gap_append (hgap : IsGap gap) (listed : List Char) :
    tagsOf (gap ++ listed) = tagsOf listed := by
  have hcomma : ',' ∉ gap := fun hmem => absurd (hgap _ hmem) (by decide)
  obtain ⟨piece, pieces, hpieces⟩ := List.exists_cons_of_ne_nil (Text.splitAt_ne_nil ',' listed)
  rw [tagsOf, tagsOf, Text.commaPieces, Text.commaPieces, Text.splitAt_front hcomma hpieces,
    hpieces, List.map_cons, List.map_cons, trim_gap_append hgap]

/-! ### Lines -/

theorem lineStarts_of_mem (hrow : row ∈ splitAt '\n' body) : lineStarts row = [row] := by
  rw [lineStarts, Text.behindLineFeeds_of_not_mem (Text.not_mem_of_mem_splitAt hrow)]

namespace Header

variable {h : Header} {read? : List Char → Option (List Char)} {words bare : List Char}

/-- A header with nothing but blanks behind its words says nothing. -/
theorem not_startsWith_of_bare
    (hopens : ∀ head, h.Opens head ↔ ∃ gap, IsGap gap ∧ head = words ++ gap)
    (hbare : h.Opens bare) : ¬ h.StartsWith bare said := by
  rintro ⟨head, rest, hsplit, hhead, hgives⟩
  obtain ⟨gap, hgap, rfl⟩ := (hopens bare).mp hbare
  obtain ⟨gap', -, rfl⟩ := (hopens head).mp hhead
  rw [List.append_assoc] at hsplit
  obtain rfl := List.append_cancel_left hsplit
  obtain ⟨c, hc, hsolid⟩ := h.solid hgives
  rw [hgap c (List.mem_append_right _ (List.mem_of_mem_head? hc))] at hsolid
  cases hsolid

/-- Where no header runs on, a line that says nothing may be left out. -/
theorem findSome?_others (hread : h.IsReadBy read?) (hruns : ∀ said, ¬ h.RunsOn body said)
    (hlines : splitAt '\n' body = before ++ bare :: after)
    (hbare : ∀ said, ¬ h.StartsWith bare said) :
    (lineStarts body).findSome? read? =
      (before ++ after).findSome? fun row => (lineStarts row).findSome? read? := by
  have hnone : read? bare = none :=
    Option.eq_none_iff_forall_ne_some.mpr fun said hsaid => hbare said ((hread _ _).mp hsaid)
  have hrow : ∀ row ∈ before ++ after, (lineStarts row).findSome? read? = read? row := by
    intro row hrow
    have hmem : row ∈ splitAt '\n' body := by
      rw [hlines, List.mem_append, List.mem_cons]
      exact (List.mem_append.mp hrow).imp_right .inr
    rw [lineStarts_of_mem hmem, List.findSome?_singleton]
  rw [findSome?_lines hread hruns, hlines, Text.findSome?_congr hrow, List.findSome?_append,
    List.findSome?_append, List.findSome?_cons, hnone]

/-- What is found at the starts of the lines is said there. -/
theorem said_of_findSome? (hread : h.IsReadBy read?)
    (hfound : (lineStarts body).findSome? read? = some said) :
    h.OnLine body said ∨ h.RunsOn body said := by
  obtain ⟨line, hline, hsaid⟩ := List.exists_of_findSome?_eq_some hfound
  exact onLine_or_runsOn hline ((hread _ _).mp hsaid)

/-- Where nothing is found, nothing is said, be it on one line or on several. -/
theorem not_said_of_findSome? (hread : h.IsReadBy read?)
    (hnone : (lineStarts body).findSome? read? = none) :
    ¬ h.OnLine body said ∧ ¬ h.RunsOn body said := by
  have hline (line : List Char) (hline : line ∈ lineStarts body) : ¬ h.StartsWith line said := by
    rw [← hread, List.findSome?_eq_none_iff.mp hnone line hline]
    exact nofun
  constructor
  · rintro ⟨row, hrow, hgives⟩
    rw [Text.splitAt_lineFeed] at hrow
    obtain ⟨line, hmem, rfl⟩ := List.mem_map.mp hrow
    exact hline line hmem hgives.of_row
  · rintro ⟨line, hmem, head, rest, hsplit, hhead, -, hgives⟩
    exact hline line hmem ⟨head, rest, hsplit, hhead, hgives⟩

end Header

/-! ### What a description says -/

/-- **A description is read line by line, but for headers that run on.**  The domain of a scope
header stands on its line, and so does that of a scope command; the tags are those that are listed
behind a tag header on its line; or the header runs on.  Where none does, a line with nothing but a
header and blanks has no say. -/
theorem said_on_lines (s : Sources) :
    (∀ d, s.task.source = .scopeHeader → s.task.domain = some d →
      scopeHeader.OnLine s.body.toList d.toList ∨ scopeHeader.RunsOn s.body.toList d.toList) ∧
    (∀ d, s.task.source = .slashCommand → s.task.domain = some d →
      scopeCommand.OnLine s.body.toList d.toList ∨ scopeCommand.RunsOn s.body.toList d.toList) ∧
    ((tags s.body = [] ∧ ∀ listed, ¬ tagHeader.OnLine s.body.toList listed) ∨
      (∃ row ∈ splitAt '\n' s.body.toList, ∃ behind, row = "INTENT-TAGS:".toList ++ behind ∧
        tags s.body = tagsOf behind) ∨
      ∃ listed, tagHeader.RunsOn s.body.toList listed ∧ tags s.body = tagsOf listed) ∧
    ∀ before bare after, splitAt '\n' s.body.toList = before ++ bare :: after →
      (scopeHeader.Opens bare → (∀ d, ¬ scopeHeader.RunsOn s.body.toList d) →
        headerDomain? s.body.toList = (before ++ after).findSome? headerDomain?) ∧
      (tagHeader.Opens bare → (∀ listed, ¬ tagHeader.RunsOn s.body.toList listed) →
        tagList? s.body.toList = (before ++ after).findSome? tagList?) := by
  refine ⟨fun d hsource hdomain => ?_, fun d hsource hdomain => ?_, ?_,
    fun before bare after hlines => ⟨fun hbare hruns => ?_, fun hbare hruns => ?_⟩⟩
  · obtain ⟨hnames, -⟩ := task_eq_iff.mp ⟨hsource, hdomain⟩
    cases hnames with
    | header hfound =>
        rw [headerDomain?_eq] at hfound
        exact Header.said_of_findSome? isReadBy_headerAt? hfound
  · obtain ⟨hnames, -⟩ := task_eq_iff.mp ⟨hsource, hdomain⟩
    cases hnames with
    | command hfound =>
        rw [commandDomain?_eq] at hfound
        exact Header.said_of_findSome? isReadBy_commandAt? hfound
  · rw [tags_eq, tagList?_eq]
    cases hfound : (lineStarts s.body.toList).findSome? listAt? with
    | none =>
        exact .inl ⟨rfl, fun _ => (Header.not_said_of_findSome? isReadBy_listAt? hfound).1⟩
    | some listed =>
        refine .inr ((Header.said_of_findSome? isReadBy_listAt? hfound).imp ?_ fun hruns =>
          ⟨listed, hruns, rfl⟩)
        rintro ⟨row, hrow, head, rest, rfl, ⟨gap, hgap, rfl⟩, hgives⟩
        refine ⟨_, hrow, gap ++ rest, List.append_assoc _ _ _, ?_⟩
        -- The line ends where the list does.
        have hrest : rest.takeWhile (· != '\n') = rest :=
          List.takeWhile_eq_self_iff.mpr fun c hc => by
            rw [bne_iff_ne]
            rintro rfl
            exact Text.not_mem_of_mem_splitAt hrow (List.mem_append_right _ hc)
        rw [hgives.line, hrest, tagsOf_gap_append hgap]
        rfl
  · exact Header.findSome?_others isReadBy_headerAt? hruns hlines fun _ =>
      Header.not_startsWith_of_bare (fun _ => Iff.rfl) hbare
  · exact Header.findSome?_others isReadBy_listAt? hruns hlines fun _ =>
      Header.not_startsWith_of_bare (fun _ => Iff.rfl) hbare

/-- A description whose last header has nothing behind it. -/
def commanded : String :=
  "Renames the client.\n/intent  scope Billing\nINTENT-TAGS: a, ,b\nINTENT-SCOPE: \n"

/-- The command is read, and the empty header has no say. -/
theorem said_on_lines_commanded :
    { body := commanded : Sources }.task = ⟨some "Billing", ["a", "b"], .slashCommand⟩ ∧
    (scopeCommand.OnLine commanded.toList "Billing".toList ∨
      scopeCommand.RunsOn commanded.toList "Billing".toList) ∧
    scopeHeader.Opens "INTENT-SCOPE: ".toList ∧
    (∀ d, ¬ scopeHeader.RunsOn commanded.toList d) ∧
    headerDomain? commanded.toList = (["Renames the client.".toList,
      "/intent  scope Billing".toList, "INTENT-TAGS: a, ,b".toList] ++
      ["".toList]).findSome? headerDomain? := by
  have htask : { body := commanded : Sources }.task =
      ⟨some "Billing", ["a", "b"], .slashCommand⟩ := by decide +kernel
  have hopens : scopeHeader.Opens "INTENT-SCOPE: ".toList :=
    ⟨[' '], List.forall_mem_singleton.mpr (by decide), by decide⟩
  have hnone : headerDomain? commanded.toList = none := by decide +kernel
  have hruns : ∀ d, ¬ scopeHeader.RunsOn commanded.toList d := fun _ =>
    (Header.not_said_of_findSome? isReadBy_headerAt? hnone).2
  have hlines : splitAt '\n' commanded.toList = ["Renames the client.".toList,
      "/intent  scope Billing".toList, "INTENT-TAGS: a, ,b".toList] ++
      "INTENT-SCOPE: ".toList :: ["".toList] := by decide +kernel
  exact ⟨htask, (said_on_lines { body := commanded }).2.1 _ (by rw [htask]) (by rw [htask]), hopens,
    hruns, ((said_on_lines { body := commanded }).2.2.2 _ _ _ hlines).1 hopens hruns⟩

/-- A header that has its line to itself takes the next line for its own: the first word of it is
the domain, and all of it is listed. -/
theorem said_on_lines_bare :
    { body := "INTENT-SCOPE:\nplease review\n" : Sources }.task =
        ⟨some "please", [], .scopeHeader⟩ ∧
      (∀ row ∈ splitAt '\n' "INTENT-SCOPE:\nplease review\n".toList, ∀ gap rest,
        row ≠ "INTENT-SCOPE:".toList ++ (gap ++ ("please".toList ++ rest))) ∧
      tags "INTENT-TAGS: \nfast, please" = ["fast", "please"] ∧
      ∀ row ∈ splitAt '\n' "INTENT-TAGS: \nfast, please".toList, ∀ behind,
        row = "INTENT-TAGS:".toList ++ behind → tagsOf behind = [] := by
  have hscope : splitAt '\n' "INTENT-SCOPE:\nplease review\n".toList =
      ["INTENT-SCOPE:".toList, "please review".toList, []] := by decide +kernel
  have htags : splitAt '\n' "INTENT-TAGS: \nfast, please".toList =
      ["INTENT-TAGS:".toList ++ [' '], "fast, please".toList] := by decide +kernel
  refine ⟨by decide +kernel, ?_, by decide +kernel, ?_⟩
  · rw [hscope]
    intro row hrow gap rest heq
    rw [← Text.behind?_eq_some_iff] at heq
    have hbehind : ∀ row ∈ ["INTENT-SCOPE:".toList, "please review".toList, []],
        (behind? "INTENT-SCOPE:".toList row).getD [] = [] := by decide +kernel
    have hnil := hbehind row hrow
    rw [heq, Option.getD_some, List.append_eq_nil_iff, List.append_eq_nil_iff] at hnil
    exact absurd hnil.2.1 (by decide)
  · rw [htags]
    intro row hrow listed heq
    rw [← Text.behind?_eq_some_iff] at heq
    have hbehind : ∀ row ∈ ["INTENT-TAGS:".toList ++ [' '], "fast, please".toList],
        tagsOf ((behind? "INTENT-TAGS:".toList row).getD []) = [] := by decide +kernel
    have hnil := hbehind row hrow
    rwa [heq, Option.getD_some] at hnil

end ChangeGate.Scope
