import ChangeGate.Proofs.Change.Breakdown
import ChangeGate.Proofs.Change.Listing
import ChangeGate.Proofs.Text.Stored
import ChangeGate.Proofs.Workspace.Calls

/-! # What a log falls back on

A comparison of revisions is one call, and a second one if the first fails (`asks_comparison`).  A
log without a diff is read from the list of the environment, and without that from a comparison that
prints paths (`FallsBack`).

`log_fallsBack`: every log falls back in this way if the revisions can be passed to the version
control program or nothing has to be asked of it, and breaks down before the first call otherwise.
No log is taken for empty because a call failed. -/

namespace ChangeGate

/-! ### Comparing revisions -/

namespace Workspace

variable {w w' : Workspace} {calls : List (List String)}

/-- What a comparison prints that begins with one of the next calls: the answer to this call or, if
it fails, to the one after it. -/
def compared? (w : Workspace) (n : Nat) : Option (List Char) := (w.answer? n).or (w.answer? (n + 1))

/-- The calls of such a comparison: the revisions are compared from where they parted, and only if
that fails as they are. -/
def comparisonCalls (w : Workspace) (n : Nat) (base head : String) (options : List String) :
    List (List String) :=
  ("diff" :: options ++ [base ++ "..." ++ head]) ::
    if (w.answer? n).isSome then [] else ["diff" :: options ++ [base, head]]

theorem After.compared? (h : w.After calls w') (n : Nat) :
    w'.compared? n = w.compared? (calls.length + n) := by
  rw [Workspace.compared?, Workspace.compared?, h.answer?, h.answer?, Nat.add_assoc]

theorem After.comparisonCalls (h : w.After calls w') (n : Nat) (base head : String)
    (options : List String) :
    w'.comparisonCalls n base head options =
      w.comparisonCalls (calls.length + n) base head options := by
  rw [Workspace.comparisonCalls, Workspace.comparisonCalls, h.answer?]

theorem length_comparisonCalls_le (w : Workspace) (n : Nat) (base head : String)
    (options : List String) : (w.comparisonCalls n base head options).length ≤ 2 := by
  rw [comparisonCalls]
  split <;> simp

end Workspace

namespace Change

open Procedure (Asks)

variable {domains : List Domain} {base head : String} {given : Option String} {unified : Int}
  {w : Workspace}

/-- Revisions that can be passed to the version control program. -/
def Passable (base head : String) : Prop :=
  Files.nameFault? base = none ∧ Files.nameFault? head = none

/-- Where the revisions parted can be passed as they can. -/
theorem nameFault?_parting_eq_none_iff :
    Files.nameFault? (base ++ "..." ++ head) = none ↔ Passable base head := by
  have hdots : Files.nameFault? "..." = none := Files.nameFault?_eq_none (by decide)
  rw [Files.nameFault?_append_eq_none_iff, Files.nameFault?_append_eq_none_iff,
    and_iff_left hdots, Passable]

theorem asks_comparison (htext : w.AnswersText) (hpass : Passable base head) {options : List String}
    (hoptions : ∀ o ∈ options, Files.nameFault? o = none) :
    (comparison base head options).Asks w (w.comparisonCalls 0 base head options)
      (w.compared? 0) := by
  have hcall {revisions : List String} (h : ∀ a ∈ revisions, Files.nameFault? a = none) :
      ∀ a ∈ "diff" :: options ++ revisions, Files.nameFault? a = none := by
    have hdiff : Files.nameFault? "diff" = none := Files.nameFault?_eq_none (by decide)
    exact List.forall_mem_append.mpr ⟨List.forall_mem_cons.mpr ⟨hdiff, hoptions⟩, h⟩
  have hfirst := Procedure.asks_git htext (hcall (List.forall_mem_singleton.mpr
    (nameFault?_parting_eq_none_iff.mpr hpass)))
  rw [Workspace.comparisonCalls, Workspace.compared?]
  cases hanswer : w.answer? 0 with
  | some cs =>
      rw [hanswer] at hfirst
      exact hfirst.tryCatch_of_some _
  | none =>
      rw [hanswer] at hfirst
      refine hfirst.tryCatch_of_none fun arguments trouble w' hw' => ?_
      have hsecond := Procedure.asks_git (hw'.answersText htext)
        (hcall (List.forall_mem_cons.mpr ⟨hpass.1, List.forall_mem_singleton.mpr hpass.2⟩))
      rw [hw'.answer?] at hsecond
      exact hsecond

/-- Revisions that cannot be passed are not compared. -/
theorem outcome_comparison_of_not_passable (hpass : ¬ Passable base head) (options : List String) :
    ∃ b, (comparison base head options).outcome w = (.error (.breakdown b), w) := by
  have hmem : base ++ "..." ++ head ∈ "diff" :: options ++ [base ++ "..." ++ head] :=
    List.mem_append_right _ (List.mem_singleton_self _)
  obtain ⟨kind, hcall⟩ := Procedure.outcome_git_of_fault w hmem
    (nameFault?_parting_eq_none_iff.not.mpr hpass)
  refine ⟨.ofFault .root kind, ?_⟩
  rw [comparison, Procedure.outcome_tryCatch, hcall]
  rfl

/-! ### The diff -/

/-- The diff that a log is read from: the one that is given, or else what a comparison prints. -/
def diff? (given : Option String) (w : Workspace) : Option (List Char) :=
  match given with
  | some text => some text.toList
  | none => w.compared? 0

/-- The calls for the diff. -/
def diffCalls (base head : String) (given : Option String) (unified : Int) (w : Workspace) :
    List (List String) :=
  match given with
  | some _ => []
  | none => w.comparisonCalls 0 base head ["--unified=" ++ toString unified, "--no-color"]

/-- The number of lines around a change can be written. -/
def IsWritable (unified : Int) : Prop := Text.isLong unified = false

theorem unifiedOption_eq (h : IsWritable unified) :
    unifiedOption unified = pure ("--unified=" ++ toString unified) :=
  if_neg (Bool.not_eq_true _ ▸ h)

theorem asks_givenPaths? : givenPaths?.Asks w []
    (some ((w.setting? "CHANGED_FILES").map fun listed => listedPaths listed.toList)) :=
  ⟨rfl, .refl w⟩

theorem asks_fullDiff? (htext : w.AnswersText) (hpass : Passable base head)
    (hunified : IsWritable unified) :
    (fullDiff? base head unified).Asks w (diffCalls base head none unified w)
      (some (w.compared? 0)) := by
  have hcompare := (asks_comparison htext hpass (nameFault?_diffOptions unified)).map some
  rw [fullDiff?, unifiedOption_eq hunified, pure_bind, diffCalls]
  cases hdiff : w.compared? 0 with
  | some cs =>
      rw [hdiff] at hcompare
      exact hcompare.tryCatch_of_some _
  | none =>
      rw [hdiff] at hcompare
      rw [← List.append_nil (w.comparisonCalls _ _ _ _)]
      refine hcompare.tryCatch_of_none fun arguments trouble w' hw' => ?_
      refine asks_givenPaths?.bind fun w'' hw'' => (?_ : Asks _ w'' [] _)
      split
      · exact (Asks.warn _).bind fun v _ => (.pure : Asks _ v [] _)
      · exact .pure

theorem length_diffCalls_le : (diffCalls base head given unified w).length ≤ 2 := by
  cases given with
  | some text => exact Nat.zero_le _
  | none => exact w.length_comparisonCalls_le _ _ _ _

/-- Asking for a diff breaks down where revisions cannot be passed. -/
theorem outcome_fullDiff?_of_not_passable (hpass : ¬ Passable base head)
    (hunified : IsWritable unified) :
    ∃ b, (fullDiff? base head unified).outcome w = (.error (.breakdown b), w) := by
  obtain ⟨b, hb⟩ := outcome_comparison_of_not_passable (w := w) hpass
    ["--unified=" ++ toString unified, "--no-color"]
  refine ⟨b, ?_⟩
  rw [fullDiff?, unifiedOption_eq hunified, pure_bind, Procedure.outcome_tryCatch,
    Procedure.outcome_map, hb]
  rfl

/-! ### The list -/

/-- The changes on the lines of a text. -/
def listedActions (domains : List Domain) (cs : List Char) : List Action :=
  (listedPaths cs).map (ofPath domains)

theorem fromDiff_of_empty {diff : Option (List Char)} (h : diff.getD [] = []) :
    fromDiff domains base head diff =
      (fun paths => paths.map (ofPath domains)) <$> changedPaths base head := by
  rw [map_eq_pure_bind]
  match diff, h with
  | none, _ => rfl
  | some [], _ => rfl

theorem asks_changedPaths (htext : w.AnswersText) (hpass : Passable base head)
    (hnone : w.setting? "CHANGED_FILES" = none) :
    (changedPaths base head).Asks w (w.comparisonCalls 0 base head ["--name-only"])
      ((w.compared? 0).map listedPaths) := by
  have hgiven := asks_givenPaths? (w := w)
  rw [hnone] at hgiven
  refine hgiven.bind fun w' hw' => ?_
  have hcompare := asks_comparison (hw'.answersText htext) hpass nameFault?_listOption
  rw [hw'.comparisonCalls, hw'.compared?] at hcompare
  have hlisted := hcompare.map listedPaths
  rwa [map_eq_pure_bind] at hlisted

theorem outcome_changedPaths_of_not_passable (hpass : ¬ Passable base head)
    (hnone : w.setting? "CHANGED_FILES" = none) :
    ∃ b, (changedPaths base head).outcome w = (.error (.breakdown b), w) := by
  obtain ⟨b, hb⟩ := outcome_comparison_of_not_passable (w := w) hpass ["--name-only"]
  refine ⟨b, ?_⟩
  have hgiven := asks_givenPaths? (w := w)
  rw [hnone] at hgiven
  rw [changedPaths, Procedure.outcome_bind, hgiven.outcome_eq]
  show ((comparison base head ["--name-only"]) >>= _).outcome w = _
  rw [Procedure.outcome_bind, hb]

/-! ### Whole logs -/

/-- What a diff is read as. -/
def readDiff (domains : List Domain) (cs : List Char) : Except Failure (List Action) :=
  match Diff.parse (String.ofList cs) with
  | some files => .ok (files.map (ofFile domains))
  | none => .error (.breakdown .longNumeral)

theorem exists_of_readDiff {cs : List Char} (h : ¬ Diff.HasLongNumeral cs) :
    ∃ files, Diff.parse (String.ofList cs) = some files ∧
      readDiff domains cs = .ok (files.map (ofFile domains)) := by
  cases hparse : Diff.parse (String.ofList cs) with
  | none =>
      have hlong := Diff.hasLongNumeral_of_parse hparse
      rw [String.toList_ofList] at hlong
      exact absurd hlong h
  | some files => exact ⟨files, rfl, by rw [readDiff, hparse]⟩

/-- Reading a diff, no one complains about the version control program. -/
theorem not_complains_readDiff (cs : List Char) :
    ¬ ∃ arguments trouble, readDiff domains cs = .error (.complaint (.git arguments trouble)) := by
  rintro ⟨_, _, h⟩
  unfold readDiff at h
  split at h
  · cases h
  · cases h

theorem outcome_ofDiff (cs : List Char) :
    (ofDiff domains cs).outcome w = (readDiff domains cs, w) := by
  unfold ofDiff readDiff
  cases Diff.parse (String.ofList cs) <;> rfl

/-- A log asks for the diff unless it is given, and goes on from what it has then. -/
theorem exists_after_diff (domains : List Domain) (htext : w.AnswersText)
    (hunified : given = none → IsWritable unified) (hpass : given = none → Passable base head) :
    ∃ w', w.After (diffCalls base head given unified w) w' ∧ (given.isSome → w' = w) ∧
      (log domains base head given unified).outcome w =
        (fromDiff domains base head (diff? given w)).outcome w' := by
  cases given with
  | some text => exact ⟨w, .refl w, fun _ => rfl, rfl⟩
  | none =>
      have hdiff := asks_fullDiff? htext (hpass rfl) (hunified rfl)
      refine ⟨_, hdiff.after, nofun, ?_⟩
      rw [log_none]
      exact Procedure.outcome_bind_of_ok hdiff.outcome_eq _

theorem log_of_diff (domains : List Domain) (htext : w.AnswersText)
    (hunified : given = none → IsWritable unified) (hpass : given = none → Passable base head)
    {c : Char} {cs : List Char} (hdiff : diff? given w = some (c :: cs)) :
    ∃ w', w.After (diffCalls base head given unified w) w' ∧ (given.isSome → w' = w) ∧
      (log domains base head given unified).outcome w = (readDiff domains (c :: cs), w') := by
  obtain ⟨w', hafter, hsame, hlog⟩ := exists_after_diff domains htext hunified hpass
  rw [hdiff] at hlog
  exact ⟨w', hafter, hsame, hlog.trans (outcome_ofDiff _)⟩

theorem log_of_setting (domains : List Domain) (htext : w.AnswersText)
    (hunified : given = none → IsWritable unified) (hpass : given = none → Passable base head)
    (hempty : (diff? given w).getD [] = []) {listed : String}
    (hlisted : w.setting? "CHANGED_FILES" = some listed) :
    (log domains base head given unified).Asks w (diffCalls base head given unified w)
      (some (listedActions domains listed.toList)) := by
  obtain ⟨w', hafter, -, hlog⟩ := exists_after_diff domains htext hunified hpass
  have hlisted' := (hafter.ground.setting? "CHANGED_FILES").trans hlisted
  rw [fromDiff_of_empty hempty, Procedure.outcome_map,
    outcome_changedPaths base head hlisted'] at hlog
  exact .of_outcome hlog rfl hafter

theorem log_of_listing (domains : List Domain) (htext : w.AnswersText)
    (hunified : given = none → IsWritable unified) (hpass : Passable base head)
    (hempty : (diff? given w).getD [] = []) (hnone : w.setting? "CHANGED_FILES" = none) :
    (log domains base head given unified).Asks w
      (diffCalls base head given unified w ++
        w.comparisonCalls (diffCalls base head given unified w).length base head ["--name-only"])
      ((w.compared? (diffCalls base head given unified w).length).map (listedActions domains)) := by
  obtain ⟨w', hafter, -, hlog⟩ := exists_after_diff domains htext hunified fun _ => hpass
  have hnone' := (hafter.ground.setting? "CHANGED_FILES").trans hnone
  have hlist := (asks_changedPaths (hafter.answersText htext) hpass hnone').map
    fun paths => paths.map (ofPath domains)
  rw [hafter.comparisonCalls, hafter.compared?, Option.map_map] at hlist
  rw [fromDiff_of_empty hempty] at hlog
  exact .of_outcome hlog hlist.result (hafter.trans hlist.after)

/-- How a log falls back on other sources. -/
structure FallsBack (domains : List Domain) (base head : String) (given : Option String)
    (unified : Int) (w : Workspace) : Prop where
  /-- With a diff that is given nothing happens to the workspace; no call is made. -/
  unasked : ∀ text, given = some text → text ≠ "" →
    ((log domains base head given unified).outcome w).2 = w
  /-- A diff is read as it is.  No list is asked for, and the environment does not matter. -/
  ofDiff : ∀ c cs, diff? given w = some (c :: cs) →
    ((log domains base head given unified).outcome w).1 = readDiff domains (c :: cs) ∧
    ((log domains base head given unified).outcome w).2.gitCalls =
      w.gitCalls ++ w.noted (diffCalls base head given unified w) ∧
    ∀ environment, ((log domains base head given unified).outcome { w with environment }).1 =
      ((log domains base head given unified).outcome w).1
  /-- A diff can be read if none of its numerals is too long. -/
  read : ∀ c cs, diff? given w = some (c :: cs) → ¬ Diff.HasLongNumeral (c :: cs) →
    ∃ files, Diff.parse (String.ofList (c :: cs)) = some files ∧
      ((log domains base head given unified).outcome w).1 = .ok (files.map (ofFile domains))
  /-- Without a diff the changes are those of the list that the environment gives. -/
  ofSetting : (diff? given w).getD [] = [] → ∀ listed, w.setting? "CHANGED_FILES" = some listed →
    ((log domains base head given unified).outcome w).1 =
      .ok (listedActions domains listed.toList) ∧
    ((log domains base head given unified).outcome w).2.gitCalls =
      w.gitCalls ++ w.noted (diffCalls base head given unified w)
  /-- Without either they are those of the list that a comparison prints. -/
  ofListing : (diff? given w).getD [] = [] → w.setting? "CHANGED_FILES" = none →
    (∀ out, w.compared? (diffCalls base head given unified w).length = some out →
      ((log domains base head given unified).outcome w).1 = .ok (listedActions domains out)) ∧
    ((log domains base head given unified).outcome w).2.gitCalls =
      w.gitCalls ++ w.noted (diffCalls base head given unified w ++
        w.comparisonCalls (diffCalls base head given unified w).length base head ["--name-only"])
  /-- The log complains about the program exactly where there is no source at all. -/
  complains_iff : (∃ arguments trouble, ((log domains base head given unified).outcome w).1 =
      .error (.complaint (.git arguments trouble))) ↔
    (diff? given w).getD [] = [] ∧ w.setting? "CHANGED_FILES" = none ∧
      w.answer? (diffCalls base head given unified w).length = none ∧
      w.answer? ((diffCalls base head given unified w).length + 1) = none
  /-- No more than four calls are made. -/
  calls : ∃ calls, ((log domains base head given unified).outcome w).2.gitCalls =
    w.gitCalls ++ calls ∧ calls.length ≤ 4

theorem fallsBack_of_diff (htext : w.AnswersText) (hunified : given = none → IsWritable unified)
    (hpass : given = none → Passable base head) {c : Char} {cs : List Char}
    (hdiff : diff? given w = some (c :: cs)) : FallsBack domains base head given unified w := by
  obtain ⟨w', hafter, hsame, hlog⟩ := log_of_diff domains htext hunified hpass hdiff
  have hnonempty : (diff? given w).getD [] ≠ [] := by
    rw [hdiff]
    exact List.cons_ne_nil c cs
  have hunique {c' : Char} {cs' : List Char} (hdiff' : diff? given w = some (c' :: cs')) :
      c = c' ∧ cs = cs' := by
    simpa [hdiff] using hdiff'
  refine {
    unasked := fun text hgiven _ => ?unasked
    ofDiff := fun c' cs' hdiff' => ?ofDiff
    read := fun c' cs' hdiff' hshort => ?read
    ofSetting := fun hempty => absurd hempty hnonempty
    ofListing := fun hempty => absurd hempty hnonempty
    complains_iff := ?complains_iff
    calls := ?calls }
  case unasked => rw [hlog, hsame (hgiven ▸ rfl)]
  case ofDiff =>
    obtain ⟨rfl, rfl⟩ := hunique hdiff'
    rw [hlog]
    refine ⟨rfl, hafter.gitCalls, fun environment => ?_⟩
    obtain ⟨_, -, -, hother⟩ := log_of_diff domains (w := { w with environment })
      htext hunified hpass hdiff
    rw [hother]
  case read =>
    obtain ⟨rfl, rfl⟩ := hunique hdiff'
    rw [hlog]
    exact exists_of_readDiff hshort
  case complains_iff =>
    rw [hlog]
    exact iff_of_false (not_complains_readDiff _) fun h => hnonempty h.1
  case calls =>
    rw [hlog]
    exact ⟨_, hafter.gitCalls, (w.length_noted_le _).trans (length_diffCalls_le.trans (by decide))⟩

theorem ne_some_cons_of_empty (hempty : (diff? given w).getD [] = []) (c : Char)
    (cs : List Char) : diff? given w ≠ some (c :: cs) := by
  intro hdiff
  rw [hdiff] at hempty
  cases hempty

/-- A diff that is given and counts as none is empty. -/
theorem eq_empty_of_given {text : String} (hgiven : given = some text)
    (hempty : (diff? given w).getD [] = []) : text = "" := by
  subst hgiven
  exact String.toList_eq_nil_iff.mp hempty

theorem fallsBack_of_setting (htext : w.AnswersText) (hunified : given = none → IsWritable unified)
    (hpass : given = none → Passable base head) (hempty : (diff? given w).getD [] = [])
    {listed : String} (hlisted : w.setting? "CHANGED_FILES" = some listed) :
    FallsBack domains base head given unified w := by
  have hlog := log_of_setting domains htext hunified hpass hempty hlisted
  have hcons := ne_some_cons_of_empty hempty
  refine {
    unasked := fun text hgiven hne => absurd (eq_empty_of_given hgiven hempty) hne
    ofDiff := fun c cs hdiff => absurd hdiff (hcons c cs)
    read := fun c cs hdiff => absurd hdiff (hcons c cs)
    ofSetting := fun _ listed' hlisted' => ?ofSetting
    ofListing := fun _ hnone => ?ofListing
    complains_iff := ?complains_iff
    calls := ?calls }
  case ofSetting =>
    obtain rfl : listed = listed' := Option.some_inj.mp (hlisted.symm.trans hlisted')
    exact ⟨hlog.result, hlog.after.gitCalls⟩
  case ofListing =>
    rw [hlisted] at hnone
    cases hnone
  case complains_iff =>
    rw [hlog.result.complains_iff, hlisted]
    exact iff_of_false (Option.some_ne_none _) fun h => Option.some_ne_none _ h.2.1
  case calls =>
    exact ⟨_, hlog.after.gitCalls,
      (w.length_noted_le _).trans (length_diffCalls_le.trans (by decide))⟩

theorem fallsBack_of_listing (htext : w.AnswersText) (hunified : given = none → IsWritable unified)
    (hpass : Passable base head) (hempty : (diff? given w).getD [] = [])
    (hnone : w.setting? "CHANGED_FILES" = none) : FallsBack domains base head given unified w := by
  have hlog := log_of_listing domains htext hunified hpass hempty hnone
  have hcons := ne_some_cons_of_empty hempty
  refine {
    unasked := fun text hgiven hne => absurd (eq_empty_of_given hgiven hempty) hne
    ofDiff := fun c cs hdiff => absurd hdiff (hcons c cs)
    read := fun c cs hdiff => absurd hdiff (hcons c cs)
    ofSetting := fun _ listed hlisted => ?ofSetting
    ofListing := fun _ _ => ⟨fun out hout => ?ofListing, hlog.after.gitCalls⟩
    complains_iff := ?complains_iff
    calls := ?calls }
  case ofSetting =>
    rw [hnone] at hlisted
    cases hlisted
  case ofListing =>
    have hresult := hlog.result
    rwa [hout] at hresult
  case complains_iff =>
    rw [hlog.result.complains_iff, Option.map_eq_none_iff, Workspace.compared?,
      Option.or_eq_none_iff, and_iff_right hempty, and_iff_right hnone]
  case calls =>
    refine ⟨_, hlog.after.gitCalls, (w.length_noted_le _).trans ?_⟩
    rw [List.length_append]
    exact Nat.add_le_add length_diffCalls_le (w.length_comparisonCalls_le _ _ _ _)

/-- The log has to ask the version control program: for the diff, or for the list of paths. -/
def MustAsk (given : Option String) (w : Workspace) : Prop :=
  given = none ∨ given = some "" ∧ w.setting? "CHANGED_FILES" = none

/-- A log that does not have to ask, or can, falls back in order. -/
theorem fallsBack_of_passable (htext : w.AnswersText) (hunified : given = none → IsWritable unified)
    (hpass : MustAsk given w → Passable base head) :
    FallsBack domains base head given unified w := by
  have hpassDiff : given = none → Passable base head := fun hgiven => hpass (.inl hgiven)
  by_cases hempty : (diff? given w).getD [] = []
  · cases hsetting : w.setting? "CHANGED_FILES" with
    | some listed => exact fallsBack_of_setting htext hunified hpassDiff hempty hsetting
    | none =>
        have hask : MustAsk given w := by
          cases hgiven : given with
          | none => exact .inl rfl
          | some text =>
              rw [eq_empty_of_given hgiven hempty]
              exact .inr ⟨rfl, hsetting⟩
        exact fallsBack_of_listing htext hunified (hpass hask) hempty hsetting
  · obtain ⟨c, cs, hdiff⟩ : ∃ c cs, diff? given w = some (c :: cs) := by
      match hdiff : diff? given w with
      | none => exact absurd (hdiff ▸ rfl) hempty
      | some [] => exact absurd (hdiff ▸ rfl) hempty
      | some (c :: cs) => exact ⟨c, cs, rfl⟩
    exact fallsBack_of_diff htext hunified hpassDiff hdiff

/-- A log that has to ask, and cannot, breaks down. -/
theorem outcome_log_of_not_passable (hunified : given = none → IsWritable unified)
    (hask : MustAsk given w) (hpass : ¬ Passable base head) :
    ∃ b, (log domains base head given unified).outcome w = (.error (.breakdown b), w) := by
  rcases hask with rfl | ⟨rfl, hnone⟩
  · obtain ⟨b, hb⟩ := outcome_fullDiff?_of_not_passable (w := w) hpass (hunified rfl)
    refine ⟨b, ?_⟩
    rw [log_none, Procedure.outcome_bind, hb]
  · obtain ⟨b, hb⟩ := outcome_changedPaths_of_not_passable hpass hnone
    refine ⟨b, ?_⟩
    rw [log_some, fromDiff_of_empty rfl, Procedure.outcome_map, hb]
    rfl

/-- **A log falls back on one source after the other, and fails only without any.**  This is so for
all revisions that can be passed to the version control program, and for any that need not be; with
others the log breaks down before the first call. -/
theorem log_fallsBack (domains : List Domain) (base head : String) (given : Option String)
    (unified : Int) (w : Workspace) (htext : w.AnswersText)
    (hunified : given = none → IsWritable unified) :
    ((MustAsk given w → Passable base head) → FallsBack domains base head given unified w) ∧
    (MustAsk given w → ¬ Passable base head →
      ∃ b, (log domains base head given unified).outcome w = (.error (.breakdown b), w)) :=
  ⟨fallsBack_of_passable htext hunified, outcome_log_of_not_passable hunified⟩

/-- A workspace whose program compares revisions only as they are, and then without a diff. -/
def unparted : Workspace where
  git := some fun
    | 1 => {}
    | 3 => { out := Text.encodeUtf8 "a.py\n\n b.py \n".toList }
    | _ => { code := 128 }

/-- All four calls are made, and the changes are those of the last one. -/
theorem log_fallsBack_unparted :
    unparted.AnswersText ∧ IsWritable 3 ∧ Passable "main" "HEAD" ∧
    ((log [] "main" "HEAD" none 3).outcome unparted).1 =
      .ok [ofPath [] "a.py", ofPath [] "b.py"] ∧
    ((log [] "main" "HEAD" none 3).outcome unparted).2.gitCalls =
      [["diff", "--unified=3", "--no-color", "main...HEAD"],
        ["diff", "--unified=3", "--no-color", "main", "HEAD"],
        ["diff", "--name-only", "main...HEAD"], ["diff", "--name-only", "main", "HEAD"]] := by
  have htext : unparted.AnswersText := by
    rintro _ ⟨⟩ n
    dsimp only
    split
    · exact ⟨⟨[], rfl⟩, [], rfl⟩
    · exact ⟨⟨_, Text.decodeUtf8_encodeUtf8 _⟩, [], rfl⟩
    · exact ⟨⟨[], rfl⟩, [], rfl⟩
  have hwritable : IsWritable 3 := by
    unfold IsWritable
    decide
  have hpass : Passable "main" "HEAD" := ⟨Files.nameFault?_eq_none (by decide),
    Files.nameFault?_eq_none (by decide)⟩
  obtain ⟨hresult, hcalls⟩ := ((log_fallsBack [] "main" "HEAD" none 3 unparted htext
    fun _ => hwritable).1 fun _ => hpass).ofListing (by decide) rfl
  have hprinted : unparted.compared? 2 = some "a.py\n\n b.py \n".toList := by decide
  have hlisted : listedActions [] "a.py\n\n b.py \n".toList =
      [ofPath [] "a.py", ofPath [] "b.py"] := by decide
  exact ⟨htext, hwritable, hpass, (hresult _ hprinted).trans (congrArg _ hlisted), hcalls⟩

/-- A workspace without a program that lists a changed file. -/
def unversioned : Workspace where
  environment := [("CHANGED_FILES", "a.py")]

/-- There is no diff, and the environment gives a list; yet the log breaks down, as a revision with
a null character cannot be asked for. -/
theorem log_nullRevision :
    unversioned.AnswersText ∧ IsWritable 3 ∧ diff? none unversioned = none ∧
    unversioned.setting? "CHANGED_FILES" = some "a.py" ∧
    ((log [] "main\x00" "HEAD" none 3).outcome unversioned).1 =
      .error (.breakdown .nullCharacter) := by
  refine ⟨nofun, ?_, rfl, rfl, ?_⟩
  · unfold IsWritable
    decide
  · decide

end Change
end ChangeGate
