import ChangeGate.Proofs.Json.Texts
import ChangeGate.Review

/-! # When a plan can be written

A plan is written exactly if the texts in it have bytes: its version, the domain and the tags of the
task, and what its violations say (`hasHalf_planText`). -/

namespace ChangeGate

open Json (any_memberTexts_cons any_memberTexts_toList memberTexts_nil texts_textOrNull)
open Text (hasHalf hasHalf_append hasHalf_of_isAscii)

/-- What a violation of a plan says. -/
def PlanEntry.texts (v : PlanEntry) : List String :=
  [v.code, v.severity, v.confidence, v.evidence.path] ++ v.evidence.fileDomain.toList ++
    v.evidence.taskDomain.toList ++ v.remediation.actions ++ v.remediation.approvedInterfaces ++
    v.bypassed.toList.flatMap fun b => b.tag :: b.approver.toList

namespace Plan

/-- What a plan says. -/
def said (p : Plan) : List String :=
  p.version :: (p.task.domain.toList ++ p.task.tags ++ p.violations.flatMap (·.texts))

theorem texts_texts (ss : List String) : (texts ss).texts = ss := by
  rw [texts, Json.texts, Json.itemTexts_map]
  exact List.flatMap_singleton' ss

theorem any_texts_entryJson (v : PlanEntry) :
    (entryJson v).texts.any (hasHalf ·.toList) = v.texts.any (hasHalf ·.toList) := by
  have hline : (v.evidence.firstLine.toList.any fun n => (Json.int n).texts.any (hasHalf ·.toList)) =
      false := by
    cases v.evidence.firstLine <;> rfl
  have hbypass : ((v.bypassed.map bypassJson).getD .null).texts.any (hasHalf ·.toList) =
      (v.bypassed.toList.flatMap fun b => b.tag :: b.approver.toList).any (hasHalf ·.toList) := by
    cases v.bypassed with
    | none => rfl
    | some b =>
        simp (disch := decide) only [Option.map_some, Option.getD_some, bypassJson,
          Json.texts, any_memberTexts_cons, texts_textOrNull, List.any_cons, List.any_nil,
          memberTexts_nil, Option.toList_some, List.flatMap_singleton, Bool.or_false]
  simp (disch := decide) only [entryJson, evidenceJson, Json.texts,
    Json.memberTexts_append, List.any_append, any_memberTexts_cons, any_memberTexts_toList,
    memberTexts_nil, texts_texts, hline, hbypass, PlanEntry.texts, List.any_cons, List.any_nil,
    Bool.or_false, Bool.or_assoc]

theorem hasHalf_planText (p : Plan) :
    hasHalf (Review.planText p).toList = p.said.any (hasHalf ·.toList) := by
  have hlineFeed : hasHalf "\n".toList = false := by decide
  have hstatus : hasHalf p.status.label.toList = false := by cases p.status <;> decide
  have hsource : hasHalf p.task.source.label.toList = false := by
    cases p.task.source <;> decide
  have hviolations : (Json.itemTexts (p.violations.map entryJson)).any (hasHalf ·.toList) =
      (p.violations.flatMap (·.texts)).any (hasHalf ·.toList) := by
    rw [Json.itemTexts_map, List.any_flatMap, List.any_flatMap]
    simp only [any_texts_entryJson]
  rw [Review.planText, String.toList_append, hasHalf_append, hlineFeed, Bool.or_false, text,
    Json.hasHalf_pretty]
  simp (disch := decide) only [toJson, Json.texts, any_memberTexts_cons, texts_textOrNull,
    texts_texts, memberTexts_nil, hstatus, hsource, hviolations, said, Json.int, List.any_cons,
    List.any_nil, List.any_append, Bool.or_false, Bool.false_or, Bool.or_assoc]

end Plan

end ChangeGate
