import ChangeGate.Plan
import ChangeGate.Proofs.Json.Grammar
import ChangeGate.Proofs.Text.Numeral
import ChangeGate.Verdict.Evaluate

/-! # What the text of a plan says

A plan has a text unless a violation starts at a line whose number is too long to be printed
(`json?_of_eq_none_iff`).  The text is a JSON document, and of one value only: all that the plan
holds is in it under the documented names and in their order, so that plans with the same text are
the same plan (`isDocument_json?`). -/

namespace ChangeGate

open Json.Grammar (AllWhole IsDocument isDocument_pretty)

/-! ### Evidence -/

/-- Whether a value is null. -/
def Json.isNull : Json → Bool
  | .null => true
  | _ => false

/-- A whole number or null. -/
def Json.intOrNull : Option Int → Json
  | some n => .int n
  | none => .null

/-- The facts of evidence, known or not. -/
def Evidence.facts (e : Evidence) : List (String × Json) :=
  [("path", .text e.path), ("file_domain", .textOrNull e.fileDomain),
    ("task_domain", .textOrNull e.taskDomain), ("first_hunk_line", .intOrNull e.firstLine)]

namespace Plan

theorem evidenceJson_eq (e : Evidence) :
    evidenceJson e = .object (e.facts.filter (!·.2.isNull)) := by
  obtain ⟨path, fileDomain, taskDomain, firstLine⟩ := e
  cases fileDomain <;> cases taskDomain <;> cases firstLine <;> rfl

/-! ### Whole numbers -/

theorem numbers_texts (ss : List String) : (texts ss).numbers = [] := by
  rw [texts, Json.numbers]
  induction ss with
  | nil => rfl
  | cons s ss ih => rw [List.map_cons, Json.itemNumbers, ih, Json.numbers, List.append_nil]

theorem numbers_textOrNull (s : Option String) : (Json.textOrNull s).numbers = [] := by
  cases s <;> rfl

theorem allWhole_int (n : Int) : AllWhole (Json.int n).numbers := by
  rintro m hm
  exact ⟨n, List.mem_singleton.mp hm⟩

theorem allWhole_evidenceJson (e : Evidence) : AllWhole (evidenceJson e).numbers := by
  obtain ⟨path, fileDomain, taskDomain, firstLine⟩ := e
  cases fileDomain <;> cases taskDomain <;> cases firstLine <;>
    simp [evidenceJson, AllWhole, Json.numbers, Json.memberNumbers, Json.int]

theorem numbers_bypassJson (b : Bypass) : (bypassJson b).numbers = [] := by
  simp [bypassJson, Json.numbers, Json.memberNumbers, numbers_textOrNull]

theorem allWhole_entryJson (v : PlanEntry) : AllWhole (entryJson v).numbers := by
  have hbypassed : ((v.bypassed.map bypassJson).getD .null).numbers = [] := by
    cases v.bypassed with
    | none => rfl
    | some b => exact numbers_bypassJson b
  have hnumbers : (entryJson v).numbers = (evidenceJson v.evidence).numbers := by
    simp [entryJson, Json.numbers, Json.memberNumbers, numbers_texts, hbypassed]
  rw [hnumbers]
  exact allWhole_evidenceJson v.evidence

theorem allWhole_toJson (p : Plan) : AllWhole p.toJson.numbers := by
  have hentries (vs : List PlanEntry) : AllWhole (Json.itemNumbers (vs.map entryJson)) := by
    induction vs with
    | nil => exact nofun
    | cons v vs ih =>
        rw [List.map_cons, Json.itemNumbers, AllWhole, List.forall_mem_append]
        exact ⟨allWhole_entryJson v, ih⟩
  have hnumbers : p.toJson.numbers = (Json.int p.modifyFiles).numbers ++
      ((Json.int p.importCrossDomain).numbers ++
        Json.itemNumbers (p.violations.map entryJson)) := by
    simp [toJson, Json.numbers, Json.memberNumbers, numbers_texts, numbers_textOrNull]
  rw [hnumbers, AllWhole, List.forall_mem_append, List.forall_mem_append]
  exact ⟨allWhole_int _, allWhole_int _, hentries _⟩

/-! ### One plan at most -/

theorem textOrNull_injective : Function.Injective Json.textOrNull := by
  intro s s' h
  cases s <;> cases s' <;> cases h <;> rfl

theorem texts_injective : Function.Injective texts := by
  intro ss ss' h
  exact (List.map_inj_right fun _ _ => Json.text.inj).mp (Json.list.inj h)

/-- The fact of a name. -/
def fact? (name : String) : Json → Json
  | .object members => ((members.find? (·.1 == name)).map (·.2)).getD .null
  | _ => .null

/-- Each fact stands under its name, or it is not known. -/
theorem fact?_evidenceJson (e : Evidence) :
    fact? "path" (evidenceJson e) = .text e.path ∧
      fact? "file_domain" (evidenceJson e) = .textOrNull e.fileDomain ∧
      fact? "task_domain" (evidenceJson e) = .textOrNull e.taskDomain ∧
      fact? "first_hunk_line" (evidenceJson e) = .intOrNull e.firstLine := by
  obtain ⟨path, fileDomain, taskDomain, firstLine⟩ := e
  cases fileDomain <;> cases taskDomain <;> cases firstLine <;> exact ⟨rfl, rfl, rfl, rfl⟩

theorem evidenceJson_injective : Function.Injective evidenceJson := by
  intro e e' h
  obtain ⟨hpath, hfile, htask, hline⟩ := fact?_evidenceJson e
  obtain ⟨hpath', hfile', htask', hline'⟩ := fact?_evidenceJson e'
  rw [h] at hpath hfile htask hline
  have hintOrNull {n n' : Option Int} (h : Json.intOrNull n = Json.intOrNull n') : n = n' := by
    cases n <;> cases n' <;> cases h <;> rfl
  obtain ⟨path, fileDomain, taskDomain, firstLine⟩ := e
  obtain ⟨path', fileDomain', taskDomain', firstLine'⟩ := e'
  obtain rfl : path' = path := Json.text.inj (hpath'.symm.trans hpath)
  obtain rfl : fileDomain' = fileDomain := textOrNull_injective (hfile'.symm.trans hfile)
  obtain rfl : taskDomain' = taskDomain := textOrNull_injective (htask'.symm.trans htask)
  obtain rfl : firstLine' = firstLine := hintOrNull (hline'.symm.trans hline)
  rfl

theorem bypassJson_injective : Function.Injective bypassJson := by
  rintro ⟨tag, approver, approved⟩ ⟨tag', approver', approved'⟩ h
  simp only [bypassJson, Json.object.injEq, List.cons.injEq, Prod.mk.injEq, Json.text.injEq,
    Json.bool.injEq, true_and, and_true] at h
  obtain ⟨rfl, happrover, rfl⟩ := h
  rw [textOrNull_injective happrover]

theorem entryJson_injective : Function.Injective entryJson := by
  rintro ⟨code, severity, confidence, evidence, ⟨actions, interfaces⟩, bypassed⟩
    ⟨code', severity', confidence', evidence', ⟨actions', interfaces'⟩, bypassed'⟩ h
  simp only [entryJson, Json.object.injEq, List.cons.injEq, Prod.mk.injEq, Json.text.injEq,
    true_and, and_true] at h
  obtain ⟨rfl, rfl, rfl, hevidence, ⟨hactions, hinterfaces⟩, hbypassed⟩ := h
  obtain rfl := evidenceJson_injective hevidence
  obtain rfl := texts_injective hactions
  obtain rfl := texts_injective hinterfaces
  have hsame : bypassed = bypassed' := by
    cases bypassed with
    | none =>
        cases bypassed' with
        | none => rfl
        | some b' => cases hbypassed
    | some b =>
        cases bypassed' with
        | none => cases hbypassed
        | some b' => rw [bypassJson_injective hbypassed]
  rw [hsame]

theorem toJson_injective : Function.Injective toJson := by
  rintro ⟨version, status, ⟨domain, tags, source⟩, modify, import', violations⟩
    ⟨version', status', ⟨domain', tags', source'⟩, modify', import'', violations'⟩ h
  simp only [toJson, Json.object.injEq, List.cons.injEq, Prod.mk.injEq, Json.text.injEq,
    Json.list.injEq, Json.int, Json.number.injEq, Number.whole.injEq, true_and, and_true] at h
  obtain ⟨rfl, hstatus, ⟨hdomain, htags, hsource⟩, ⟨rfl, rfl⟩, hviolations⟩ := h
  obtain rfl := textOrNull_injective hdomain
  obtain rfl := texts_injective htags
  obtain rfl : status = status' := by
    cases status <;> cases status' <;> first | rfl | exact absurd hstatus (by decide)
  obtain rfl : source = source' := by
    cases source <;> cases source' <;> first | rfl | exact absurd hsource (by decide)
  rw [(List.map_inj_right fun _ _ h => entryJson_injective h).mp hviolations]

theorem isDocument_text_toJson (p : Plan) : IsDocument p.text.toList p.toJson :=
  isDocument_pretty (allWhole_toJson p)

/-! ### Numbers that are too long -/

theorem eq_text_of_json? {p : Plan} {text : String} (h : p.json? = some text) : text = p.text := by
  unfold json? at h
  split at h
  · cases h
  · exact (Option.some.inj h).symm

/-- Plans with the same text are the same plan. -/
theorem eq_of_json?_eq {p q : Plan} {text : String} (hp : p.json? = some text)
    (hq : q.json? = some text) : q = p := by
  have htext : p.text = q.text := (eq_text_of_json? hp).symm.trans (eq_text_of_json? hq)
  exact toJson_injective ((isDocument_text_toJson q).unique (htext ▸ isDocument_text_toJson p))

theorem json?_of_eq_none_iff {version : Option String} {status : Status} {t : Task}
    {as : List Action} {vs : List Violation} : (of version status t as vs).json? = none ↔
      ∃ v ∈ vs, ∃ n ∈ v.evidence.firstLine, 10 ^ Text.longestNumeral ≤ n.natAbs := by
  have hlong (e : Evidence) : e.hasLongLine = true ↔
      ∃ n ∈ e.firstLine, 10 ^ Text.longestNumeral ≤ n.natAbs := by
    simp only [Evidence.hasLongLine, Option.any_eq_true, Text.isLong_iff, Option.mem_def]
  have hany : (of version status t as vs).json? = none ↔
      vs.any (·.evidence.hasLongLine) = true := by
    rw [json?, of, List.any_map]
    exact ite_eq_left_iff.trans (by simp [entry, Function.comp_def])
  rw [hany, List.any_eq_true]
  simp only [hlong]

/-- Every action is of one of the two kinds. -/
theorem modifyFiles_add_importCrossDomain (version : Option String) (status : Status) (t : Task)
    (as : List Action) (vs : List Violation) :
    (of version status t as vs).modifyFiles + (of version status t as vs).importCrossDomain =
      as.length := by
  have hlength : (as.filter (·.kind = .modifyFile)).length +
      (as.filter (·.kind = .importCrossDomain)).length = as.length := by
    induction as with
    | nil => rfl
    | cons a as ih =>
        cases hkind : a.kind <;> simp [hkind] <;> omega
  rw [← hlength, Int.natCast_add]
  rfl

/-- **The text of a plan loses nothing.**  A plan has one unless a violation starts at a line whose
number has too many digits.  The text is a JSON document of one value only, an object that holds the
version, the status, the task, the numbers of actions and the violations in their order, each with
what is known of its evidence; the two numbers are those of all actions, and no other plan has the
same text. -/
theorem isDocument_json? (version : Option String) (status : Status) (t : Task) (as : List Action)
    (vs : List Violation) :
    let p := of version status t as vs
    (p.json? = none ↔
      ∃ v ∈ vs, ∃ n ∈ v.evidence.firstLine, 10 ^ Text.longestNumeral ≤ n.natAbs) ∧
    (∀ text ∈ p.json?, (∀ j, IsDocument text.toList j ↔ j = .object [
      ("intent_version", .text p.version), ("status", .text status.label),
      ("task", .object [
        ("domain", .textOrNull t.domain), ("tags", .list (t.tags.map .text)),
        ("source", .text t.source.label)]),
      ("actions_summary", .object [
        ("modify_files", .int p.modifyFiles), ("import_cross_domain", .int p.importCrossDomain)]),
      ("violations", .list (vs.map fun v => .object [
        ("code", .text v.code), ("severity", .text v.severity.label),
        ("confidence", .text v.confidence.label),
        ("evidence", .object (v.evidence.facts.filter (!·.2.isNull))),
        ("remediation", .object [
          ("actions", .list (v.remediation.actions.map .text)),
          ("approved_interfaces", .list (v.remediation.approvedInterfaces.map .text))]),
        ("bypassed", (v.bypassed.map fun b => Json.object [
          ("tag", .text b.tag), ("approval_required", .textOrNull b.approver),
          ("approved", .bool b.approved)]).getD .null)]))]) ∧
      ∀ q : Plan, q.json? = some text ↔ q = p) ∧
    p.modifyFiles + p.importCrossDomain = as.length := by
  intro p
  have hentry (v : Violation) : (entryJson ∘ entry) v = .object [
      ("code", .text v.code), ("severity", .text v.severity.label),
      ("confidence", .text v.confidence.label),
      ("evidence", .object (v.evidence.facts.filter (!·.2.isNull))),
      ("remediation", .object [
        ("actions", .list (v.remediation.actions.map .text)),
        ("approved_interfaces", .list (v.remediation.approvedInterfaces.map .text))]),
      ("bypassed", (v.bypassed.map fun b => Json.object [
        ("tag", .text b.tag), ("approval_required", .textOrNull b.approver),
        ("approved", .bool b.approved)]).getD .null)] := by
    rw [Function.comp_apply, entryJson, entry, evidenceJson_eq]
    rfl
  have hviolations : p.violations.map entryJson = vs.map (entryJson ∘ entry) := List.map_map
  have hdocument := isDocument_text_toJson p
  rw [toJson, hviolations, List.map_congr_left fun v _ => hentry v] at hdocument
  refine ⟨json?_of_eq_none_iff, fun text htext => ⟨fun j => ?_, fun q => ?_⟩,
    modifyFiles_add_importCrossDomain version status t as vs⟩
  · rw [eq_text_of_json? htext]
    exact ⟨fun h => h.unique hdocument, fun h => h ▸ hdocument⟩
  · exact ⟨eq_of_json?_eq htext, fun h => h ▸ htext⟩

/-- A change that starts at the first line whose number is too long. -/
def farDown : Action where
  path := "a.py"
  hunks := [⟨1, 1, (10 ^ Text.longestNumeral : Nat), 1⟩]

/-- A violation that is seen at that change. -/
def touch : Violation where
  code := "Touch"
  severity := .error
  confidence := .high
  message := "m"
  evidence := Rule.evidence farDown {}

/-- Its plan has no text, although it has one as soon as the line is left out. -/
theorem json?_touch :
    (of none .blocked {} [farDown] [touch]).json? = none ∧
    (of none .blocked {} [farDown] [{ touch with evidence := { path := "a.py" } }]).json?.isSome :=
  ⟨json?_of_eq_none_iff.mpr ⟨touch, List.mem_singleton_self _, _, rfl, (Int.natAbs_natCast _).ge⟩,
    rfl⟩

end Plan

end ChangeGate
