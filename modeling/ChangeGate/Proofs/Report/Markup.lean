import ChangeGate.Proofs.Markup.Shown
import ChangeGate.Proofs.Text.Ascii
import ChangeGate.Proofs.Token.Lexeme
import ChangeGate.Report

/-! # Tags of a violation

The lines of a violation are put together from texts of the template and escaped texts of a user.
Each line keeps its tags to itself (`tags_intercalate`), so it is enough to look at one line after
the other (`tags_violation_eq`).

Escaped texts have no tags, but they are escaped one by one, and two things can go wrong where they
meet others.  The tag behind a message is disabled by three or another odd number of backslashes
(`tags_messageLine_eq`).  On the line of an excuse a bracket that the tag leaves open is closed by
the first bracket of the approver (`Joins`, `tags_excuseLine_of_joins`).  In all other cases the
tags are those of the template (`tags_violation`). -/

namespace ChangeGate

namespace Report

open Markup

variable {s : String} {v : Violation} {b : Bypass} {cs ds : List Char}

theorem given_some (h : s ≠ "") : given (some s) = some s := by
  simpa [given, String.isEmpty_iff] using h

/-! ### Lines -/

/-- The text for the line of a finding. -/
def lineText (e : Evidence) : String :=
  ((e.firstLine.filter (· ≠ 0)).map fun n => ":" ++ toString n).getD ""

/-- The line that says what was found where. -/
def foundLine (v : Violation) : String :=
  "  " ++ icon v.severity ++ " [bold]\\[" ++ escape v.code ++ "][/] " ++
    (escape v.evidence.path ++ lineText v.evidence)

/-- The line of a message. -/
def messageLine (s : String) : String := "    [dim]" ++ escape s ++ "[/]"

/-- The line of a suggestion. -/
def suggestLine (s : String) : String := "    [cyan]→[/] " ++ escape s

/-- The text for an approver. -/
def approverText (approver : Option String) : String :=
  ((given approver).map fun s => " (needs " ++ escape s ++ " approval)").getD ""

/-- The line of an excuse. -/
def excuseLine (b : Bypass) : String :=
  "    [yellow]⊘[/] Bypassed via tag \"" ++ escape b.tag ++ "\"" ++ approverText b.approver

theorem violation_eq (v : Violation) : violation v = "\n".intercalate
    ([foundLine v] ++ (given (some v.message)).toList.map messageLine ++
      (given v.suggest).toList.map suggestLine ++ v.bypassed.toList.map excuseLine) := rfl

/-! ### Texts of the template -/

/-- The colour of a severity. -/
def colour : Severity → String
  | .error => "red"
  | .warn => "yellow"
  | .info => "blue"

/-- The sign of a severity. -/
def sign : Severity → Char
  | .error => '✖'
  | .warn => '⚠'
  | .info => 'ℹ'

theorem isStyle_colour (severity : Severity) : IsStyle (colour severity).toList := by
  cases severity <;> decide

theorem isFree_sign (severity : Severity) : [sign severity].all isFree = true := by
  cases severity <;> decide

theorem toList_icon_append (severity : Severity) :
    (icon severity).toList ++ ds = styled (colour severity).toList [sign severity] ds := by
  cases severity <;> simp [icon, colour, sign, styled]

theorem tagsBehind_icon (severity : Severity) :
    tagsBehind 0 ((icon severity).toList ++ ds) =
      [(colour severity).toList, ['/']] ++ tagsBehind 0 ds := by
  rw [toList_icon_append, tagsBehind_styled (isStyle_colour severity).body (isFree_sign severity)]

/-! ### Texts without brackets and backslashes -/

theorem free_of_isWord (h : Token.IsWord cs) : cs.all isFree = true := by
  obtain ⟨hc, hcs⟩ := h
  have hfree (c : Char) (hc : Token.continuesName c = true) : isFree c = true := by
    refine isFree_iff.mpr ⟨Bool.eq_false_iff.mpr fun hbracket => ?_, ?_⟩
    · rcases isBracket_iff.mp hbracket with rfl | rfl <;> cases hc
    · rintro rfl
      cases hc
  rw [List.all_cons, hfree _ (by rw [Token.continuesName, hc, Bool.true_or]), Bool.true_and,
    List.all_eq_true]
  exact fun c hc => hfree c (hcs c hc)

theorem free_toString (n : Int) : (toString n).toList.all isFree = true := by
  rw [List.all_eq_true]
  intro c hc
  rcases Text.eq_or_isDigit_of_mem_toString hc with rfl | hdigit
  · rfl
  · refine isFree_iff.mpr ⟨Bool.eq_false_iff.mpr fun hbracket => ?_, ?_⟩
    · rcases isBracket_iff.mp hbracket with rfl | rfl <;> cases hdigit
    · rintro rfl
      cases hdigit

theorem free_lineText (e : Evidence) : (lineText e).toList.all isFree = true := by
  unfold lineText
  cases e.firstLine.filter (· ≠ 0) with
  | none => rfl
  | some n =>
      rw [Option.map_some, Option.getD_some, String.toList_append, List.all_append, free_toString]
      rfl

/-! ### Lines and what follows -/

theorem toList_foundLine_append (v : Violation) (ds : List Char) :
    (foundLine v).toList ++ ds = "  ".toList ++ ((icon v.severity).toList ++ (" ".toList ++
      '[' :: ("bold".toList ++ ']' :: '\\' :: '[' :: (escapeChars v.code.toList ++ ']' ::
        ('[' :: (['/'] ++ ']' :: (" ".toList ++
          (escapeChars v.evidence.path.toList ++ ((lineText v.evidence).toList ++ ds))))))))) := by
  simp [foundLine, toList_escape]

theorem toList_messageLine_append (s : String) (ds : List Char) :
    (messageLine s).toList ++ ds = "    ".toList ++
      '[' :: ("dim".toList ++ ']' :: (escapeChars s.toList ++ '[' :: (['/'] ++ ']' :: ds))) := by
  simp [messageLine, toList_escape]

theorem toList_suggestLine_append (s : String) (ds : List Char) :
    (suggestLine s).toList ++ ds = "    ".toList ++
      styled "cyan".toList ['→'] (" ".toList ++ (escapeChars s.toList ++ ds)) := by
  unfold suggestLine
  simp [styled, toList_escape]

theorem toList_excuseLine_append (b : Bypass) (ds : List Char) :
    (excuseLine b).toList ++ ds = "    ".toList ++
      styled "yellow".toList ['⊘'] (" Bypassed via tag \"".toList ++
        (escapeChars b.tag.toList ++ '"' :: ((approverText b.approver).toList ++ ds))) := by
  unfold excuseLine
  simp [styled, toList_escape]

/-! ### The tags of a line -/

theorem isStyle_bold : IsStyle "bold".toList := by decide

theorem isStyle_dim : IsStyle "dim".toList := by decide

theorem isStyle_cyan : IsStyle "cyan".toList := by decide

theorem isStyle_yellow : IsStyle "yellow".toList := isStyle_colour .warn

theorem tags_foundLine (hcode : Token.IsWord v.code.toList) :
    tags (foundLine v) = [colour v.severity, "/", "bold", "/"] := by
  have hcodeFree : bracket? (escapeChars v.code.toList) = none := by
    rw [bracket?_escapeChars, bracket?_of_free (free_of_isWord hcode)]
  have hfree : bracket? ((lineText v.evidence).toList ++ []) = none := by
    rw [List.append_nil, bracket?_of_free (free_lineText v.evidence)]
  rw [tags_eq, ← List.append_nil (foundLine v).toList, toList_foundLine_append,
    tagsBehind_run (by decide), tagsBehind_icon, tagsBehind_run (by decide),
    tagsBehind_open isStyle_bold.body, tagsBehind_slash, tagsBehind_quoted hcodeFree,
    tagsBehind_open isBody_slash, tagsBehind_run (by decide),
    tagsBehind_escapeChars (apart_of_bracket? (by rw [hfree]; exact nofun)),
    tagsBehind_eq_nil hfree]
  simp

theorem tags_messageLine (s : String) : tags (messageLine s) =
    "dim" :: if trailing 0 (escapeChars s.toList) % 2 = 1 then [] else ["/"] := by
  rw [tags_eq, ← List.append_nil (messageLine s).toList, toList_messageLine_append,
    tagsBehind_run (by decide), tagsBehind_open isStyle_dim.body,
    tagsBehind_escapeChars (apart_of_bracket? (by decide)), tagsBehind_tag isBody_slash]
  split <;> simp

theorem tags_suggestLine (s : String) : tags (suggestLine s) = ["cyan", "/"] := by
  rw [tags_eq, ← List.append_nil (suggestLine s).toList, toList_suggestLine_append,
    tagsBehind_run (by decide), tagsBehind_styled isStyle_cyan.body (by decide),
    tagsBehind_run (by decide), tagsBehind_escapeChars (apart_of_bracket? (by decide)),
    tagsBehind_nil]
  simp

/-! ### Two texts of a user -/

/-- Whether a tag and an approver make a tag of the markup together. -/
def Joins (tag approver : String) : Prop :=
  bracket? approver.toList = some ']' ∧
  ∃ front body, tag.toList = front ++ '[' :: body ∧ IsBody body ∧ trailing 0 front % 2 = 0

/-- What stands between two texts starts no tag, and neither has it brackets or backslashes. -/
structure IsBetween (between : List Char) : Prop where
  free : between.all isFree = true
  starts : starts between = false
  ne_nil : between ≠ []

section between

variable {between rest : List Char} (hbetween : IsBetween between)
  (hrest : bracket? rest ≠ some ']')

include hbetween

theorem IsBetween.bracket?_append :
    bracket? (between ++ (escapeChars ds ++ rest)) = (bracket? ds).or (bracket? rest) := by
  rw [Markup.bracket?_append, bracket?_of_free hbetween.free, Markup.bracket?_append,
    bracket?_escapeChars, Option.none_or]

include hrest

theorem IsBetween.bracket?_ne {s' : String} (h : bracket? s'.toList ≠ some ']') :
    bracket? (between ++ (escapeChars s'.toList ++ rest)) ≠ some ']' := by
  rw [hbetween.bracket?_append]
  cases hfirst : bracket? s'.toList with
  | none => exact hrest
  | some b => exact fun hb => h (hfirst.trans hb)

/-- A tag that dangles from one text is closed by the first bracket of the next one. -/
theorem exists_tagsBehind_dangling (hbody : IsBody cs) (h : bracket? ds = some ']')
    (front : List Char) : ∃ tag,
      tagsBehind 0 (escapeChars (front ++ '[' :: cs) ++ (between ++ (escapeChars ds ++ rest))) =
        (if trailing 0 front % 2 = 1 then [] else [tag]) ++
          tagsBehind (trailing 0 (escapeChars ds)) rest := by
  obtain ⟨-, w, ds, rfl, hw⟩ := bracket?_eq_some_iff.mp h
  have hfree : bracket? (between ++ w) = none := by
    rw [Markup.bracket?_append, bracket?_of_free hbetween.free, hw]
    rfl
  have htext : between ++ (escapeChars (w ++ ']' :: ds) ++ rest) =
      between ++ w ++ ']' :: (escapeChars ds ++ rest) := by
    rw [escapeChars_append_close hw]
    simp
  refine ⟨escapeChars cs ++ (between ++ w), ?_⟩
  rw [htext, tagsBehind_escapeChars_of_dangles hbody hfree,
    tagsBehind_escapeChars (apart_of_bracket? hrest), escapeChars_append_close hw,
    trailing_append_cons (by decide)]

/-- Texts that do not join have no tags. -/
theorem tagsBehind_of_not_joins {s s' : String} (h : ¬ Joins s s') :
    tagsBehind 0 (escapeChars s.toList ++ (between ++ (escapeChars s'.toList ++ rest))) =
      tagsBehind (trailing 0 (escapeChars s'.toList)) rest := by
  have hbehind (n : Nat) : tagsBehind n (between ++ (escapeChars s'.toList ++ rest)) =
      tagsBehind (trailing 0 (escapeChars s'.toList)) rest := by
    rw [tagsBehind_run_of_ne_nil hbetween.ne_nil hbetween.free,
      tagsBehind_escapeChars (apart_of_bracket? hrest)]
  by_cases hclose : bracket? s'.toList = some ']'
  · by_cases hdangles : Dangles s.toList
    · obtain ⟨front, body, hs, hbody⟩ := hdangles
      obtain ⟨tag, hjoined⟩ := exists_tagsBehind_dangling hbetween hrest hbody hclose front
      have hodd : trailing 0 front % 2 = 1 := by
        by_contra heven
        exact h ⟨hclose, front, body, hs, hbody, by omega⟩
      rw [hs, hjoined, if_pos hodd, List.nil_append]
    · have hstarts : starts (between ++ (escapeChars s'.toList ++ rest)) = false := by
        rw [starts_append hbetween.ne_nil, hbetween.starts]
      rw [tagsBehind_escapeChars_of_not_dangles hdangles hstarts, hbehind]
  · rw [tagsBehind_escapeChars (apart_of_bracket? (hbetween.bracket?_ne hrest hclose)), hbehind]

/-- Without backslashes, texts that do not join are said one after the other. -/
theorem saidBehind_of_not_joins {s s' : String} (h : ¬ Joins s s') (hs : '\\' ∉ s.toList)
    (hs' : '\\' ∉ s'.toList) :
    saidBehind 0 (escapeChars s.toList ++ (between ++ (escapeChars s'.toList ++ rest))) =
      s.toList ++ (between ++ (s'.toList ++ saidBehind 0 rest)) := by
  have hparted : Parted s.toList (between ++ (escapeChars s'.toList ++ rest)) := by
    by_cases hclose : bracket? s'.toList = some ']'
    · have hstarts : starts (between ++ (escapeChars s'.toList ++ rest)) = false := by
        rw [starts_append hbetween.ne_nil, hbetween.starts]
      refine parted_of_not_dangles ?_ hstarts
      rintro ⟨front, body, hdangles, hbody⟩
      have hfront : '\\' ∉ front := fun hmem => hs (hdangles ▸ List.mem_append_left _ hmem)
      exact h ⟨hclose, front, body, hdangles, hbody, by rw [trailing_eq_zero hfront]⟩
    · exact parted_of_bracket? (hbetween.bracket?_ne hrest hclose)
  rw [saidBehind_escapeChars hs hparted, saidBehind_text hbetween.free,
    saidBehind_escapeChars hs' (parted_of_bracket? hrest)]

end between

/-! ### A tag and an approver -/

/-- What stands between a tag and its approver. -/
def needs : List Char := '"' :: " (needs ".toList

theorem isBetween_needs : IsBetween needs := ⟨by decide, by decide, by decide⟩

theorem quote_approverText {a : String} (h : a ≠ "") (ds : List Char) :
    '"' :: ((approverText (some a)).toList ++ ds) =
      needs ++ (escapeChars a.toList ++ (" approval)".toList ++ ds)) := by
  rw [approverText, given_some h, Option.map_some, Option.getD_some, String.toList_append,
    String.toList_append, toList_escape, List.append_assoc, List.append_assoc]
  rfl

theorem given_eq_none_or (s : Option String) : given s = none ∨ ∃ a, s = some a ∧ a ≠ "" := by
  cases s with
  | none => exact .inl rfl
  | some a =>
      by_cases ha : a = ""
      · subst ha
        exact .inl (by decide)
      · exact .inr ⟨a, rfl, ha⟩

theorem approverText_of_none {approver : Option String} (h : given approver = none) :
    approverText approver = "" := by
  rw [approverText, h]
  rfl

theorem bracket?_approval : bracket? (" approval)".toList ++ []) ≠ some ']' := by decide

theorem tagsBehind_approval (slashes : Nat) : tagsBehind slashes (" approval)".toList ++ []) = [] :=
  tagsBehind_eq_nil (by decide)

/-- The tags of an excuse are those of the template and those that its texts make. -/
theorem tags_excuseLine (b : Bypass) : tags (excuseLine b) = ["yellow", "/"] ++
    (tagsBehind 0 (escapeChars b.tag.toList ++ '"' :: ((approverText b.approver).toList ++ []))).map
      String.ofList := by
  rw [tags_eq, ← List.append_nil (excuseLine b).toList, toList_excuseLine_append,
    tagsBehind_run (by decide), tagsBehind_styled isStyle_yellow.body (by decide),
    tagsBehind_run (by decide)]
  simp

theorem tags_excuseLine_of_joins {approver : String} (happrover : approver ∈ b.approver)
    (h : Joins b.tag approver) : ∃ tag, tags (excuseLine b) = ["yellow", "/", tag] := by
  obtain ⟨hclose, front, body, htag, hbody, heven⟩ := h
  have hne : approver ≠ "" := by
    rintro rfl
    cases hclose
  obtain ⟨tag, hjoined⟩ :=
    exists_tagsBehind_dangling isBetween_needs bracket?_approval hbody hclose front
  rw [if_neg (by omega), tagsBehind_approval] at hjoined
  refine ⟨String.ofList tag, ?_⟩
  rw [tags_excuseLine, Option.mem_def.mp happrover, quote_approverText hne, htag, hjoined]
  rfl

theorem tags_excuseLine_of_not_joins (h : ∀ approver ∈ b.approver, ¬ Joins b.tag approver) :
    tags (excuseLine b) = ["yellow", "/"] := by
  have hnone : tagsBehind 0 (escapeChars b.tag.toList ++
      '"' :: ((approverText b.approver).toList ++ [])) = [] := by
    rcases given_eq_none_or b.approver with hnone | ⟨a, ha, hne⟩
    · rw [approverText_of_none hnone, tagsBehind_escapeChars (apart_of_bracket? (by decide)),
        tagsBehind_eq_nil (by decide)]
    · rw [ha, quote_approverText hne,
        tagsBehind_of_not_joins isBetween_needs bracket?_approval (h a ha), tagsBehind_approval]
  rw [tags_excuseLine, hnone]
  rfl

/-! ### The tags of a violation -/

/-- The tags that the template of a violation writes. -/
def templateTags (v : Violation) : List String :=
  [colour v.severity, "/", "bold", "/"] ++
    (given (some v.message)).toList.flatMap (fun _ => ["dim", "/"]) ++
    (given v.suggest).toList.flatMap (fun _ => ["cyan", "/"]) ++
    v.bypassed.toList.flatMap fun _ => ["yellow", "/"]

/-- Whether a text disables the tag behind it: it ends in an odd number of backslashes, and not in
a single one. -/
def Disables (s : String) : Prop := trailing 0 s.toList % 2 = 1 ∧ trailing 0 s.toList ≠ 1

instance (s : String) : Decidable (Disables s) := inferInstanceAs (Decidable (_ ∧ _))

theorem bracket?_line {line : String}
    (h : line ∈ [foundLine v] ++ (given (some v.message)).toList.map messageLine ++
      (given v.suggest).toList.map suggestLine ++ v.bypassed.toList.map excuseLine) :
    bracket? line.toList ≠ some ']' := by
  simp only [List.mem_append, List.mem_singleton, List.mem_map] at h
  rw [← List.append_nil line.toList]
  rcases h with ((rfl | ⟨s, -, rfl⟩) | ⟨s, -, rfl⟩) | ⟨b, -, rfl⟩
  · rw [toList_foundLine_append, toList_icon_append]
    exact bracket?_open (by decide)
  · rw [toList_messageLine_append]
    exact bracket?_open (by decide)
  · rw [toList_suggestLine_append]
    exact bracket?_open (by decide)
  · rw [toList_excuseLine_append]
    exact bracket?_open (by decide)

theorem tags_violation_eq (hcode : Token.IsWord v.code.toList) : tags (violation v) =
    [colour v.severity, "/", "bold", "/"] ++
      (given (some v.message)).toList.flatMap (fun s => tags (messageLine s)) ++
      (given v.suggest).toList.flatMap (fun _ => ["cyan", "/"]) ++
      v.bypassed.toList.flatMap fun b => tags (excuseLine b) := by
  rw [violation_eq, tags_intercalate fun line => bracket?_line]
  simp [List.flatMap_map, tags_foundLine hcode, tags_suggestLine]

theorem disables_iff : Disables s ↔ trailing 0 (escapeChars s.toList) % 2 = 1 := by
  rw [trailing_escapeChars, Disables]
  split <;> simp [*]

theorem tags_messageLine_eq (s : String) :
    tags (messageLine s) = "dim" :: if Disables s then [] else ["/"] := by
  rw [tags_messageLine]
  simp only [disables_iff]

/-- Behind the message no line starts with a tag that closes. -/
theorem not_closes (v : Violation) (rest : List String) :
    (given v.suggest).toList.flatMap (fun _ => ["cyan", "/"]) ++
      v.bypassed.toList.flatMap (fun b => tags (excuseLine b)) ≠ "/" :: rest := by
  cases given v.suggest with
  | some s => simp
  | none =>
      cases v.bypassed with
      | none => simp
      | some b => simp [tags_excuseLine]

/-- **The tags of a violation are those of the template** unless the message ends in backslashes
that disable the one behind it, or a tag that excuses and its approver make another one. -/
theorem tags_violation (v : Violation) (hcode : Token.IsWord v.code.toList) :
    tags (violation v) = templateTags v ↔
      ¬ Disables v.message ∧
      ∀ b ∈ v.bypassed, ∀ approver ∈ b.approver, ¬ Joins b.tag approver := by
  have hmessage (h : ¬ Disables v.message) :
      (given (some v.message)).toList.flatMap (fun s => tags (messageLine s)) =
        (given (some v.message)).toList.flatMap fun _ => ["dim", "/"] := by
    by_cases hne : v.message = ""
    · rw [hne]
      rfl
    · rw [given_some hne, Option.toList_some, List.flatMap_singleton, List.flatMap_singleton,
        tags_messageLine_eq, if_neg h]
  rw [tags_violation_eq hcode, templateTags]
  constructor
  · intro h
    have hable : ¬ Disables v.message := by
      intro hdisables
      have hne : v.message ≠ "" := by
        intro hmessage
        rw [hmessage] at hdisables
        exact absurd hdisables (by decide)
      rw [given_some hne, Option.toList_some, List.flatMap_singleton, List.flatMap_singleton,
        tags_messageLine_eq, if_pos hdisables] at h
      simp only [List.append_assoc] at h
      exact not_closes v _ (List.cons.inj (List.append_cancel_left h)).2
    refine ⟨hable, fun b hb approver happrover hjoins => ?_⟩
    obtain ⟨tag, htag⟩ := tags_excuseLine_of_joins happrover hjoins
    rw [hmessage hable, Option.mem_def.mp hb, Option.toList_some, List.flatMap_singleton,
      List.flatMap_singleton, htag] at h
    have hlast := List.append_cancel_left h
    exact absurd hlast (by simp)
  · rintro ⟨hable, hapart⟩
    have hexcuse : v.bypassed.toList.flatMap (fun b => tags (excuseLine b)) =
        v.bypassed.toList.flatMap fun _ => ["yellow", "/"] :=
      List.flatMap_congr fun b hb =>
        tags_excuseLine_of_not_joins (hapart b (Option.mem_toList.mp hb))
    rw [hmessage hable, hexcuse]

/-- A violation whose texts hold brackets and end in backslashes. -/
def bracketed : Violation :=
  { code := "Touch", severity := .error, confidence := .high, message := "see [red] and [x\\"
    suggest := some "[/] or [b\\\\\\", evidence := { path := "a[b].py", firstLine := some 3 }
    bypassed := some { tag := "[/b", approver := some "lead [x]" } }

theorem tags_violation_bracketed : Token.IsWord bracketed.code.toList ∧
    tags (violation bracketed) =
      ["red", "/", "bold", "/", "dim", "/", "cyan", "/", "yellow", "/"] := by
  have hword : Token.IsWord bracketed.code.toList := by decide
  have happrover : ¬ Joins "[/b" "lead [x]" := fun h => absurd h.1 (by decide)
  refine ⟨hword, (tags_violation bracketed hword).mpr ⟨by decide, ?_⟩⟩
  rintro b ⟨⟩ approver ⟨⟩
  exact happrover

/-- A violation whose message ends in backslashes, with an excuse that looks like a tag. -/
def disguised : Violation :=
  { code := "Touch", severity := .warn, confidence := .high, message := "m\\\\\\"
    evidence := { path := "a.py" }, bypassed := some { tag := "[/b", approver := some "]" } }

/-- The message takes a tag of the template away, and the excuse adds one. -/
theorem tags_disguised : Token.IsWord disguised.code.toList ∧
    templateTags disguised = ["yellow", "/", "bold", "/", "dim", "/", "yellow", "/"] ∧
    tags (violation disguised) =
      ["yellow", "/", "bold", "/", "dim", "yellow", "/", "/b\" (needs "] := by
  decide +kernel

end Report

end ChangeGate
