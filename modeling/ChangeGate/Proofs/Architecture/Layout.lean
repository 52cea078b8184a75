import ChangeGate.Proofs.Architecture.RoundTrip
import ChangeGate.Proofs.Token.Joining

/-! # System files with a layout of their own

A system file may be laid out in other ways than `Architecture.text` writes it: with empty lines
between its blocks and with blanks in front of its lines.  Whatever the layout, it is read as what
derives from its signs (`read_of_derives`), and a file whose lines are those of a system is read as
the system (`read_of_laidOut`).

`laidOut_block` is the layout of a block that lists plain globs. -/

namespace ChangeGate.Architecture

open Token

variable {s : Architecture} {file : String}

/-! ### Reading what a text spells -/

theorem spells_of_scan {source : List Char} {ts : List Token} {last : Place}
    (h : scan (.ofList source) = .ok (ts, last)) :
    ∃ breaks, Spells false source (ts.map sign) breaks [] := by
  rw [scan, String.toList_ofList] at h
  exact spells_of_scanFrom h

/-- What is read has the tokens that derive it. -/
theorem derives_of_read {source : List Char} (h : read (.ofList source) file = .ok s) :
    ∃ ts breaks, Derives ts s ∧ Spells false source (ts.map sign) breaks [] := by
  obtain ⟨ts, last, -, hscan, -⟩ := Source.scan_of_read h
  obtain ⟨breaks, hspells⟩ := spells_of_scan hscan
  exact ⟨ts, breaks, (read_eq_ok_iff_derives hscan file).mp h, hspells⟩

/-- A source is read as what derives from any tokens with its signs. -/
theorem read_of_derives {source : List Char} {ss : List Sign} {breaks : Bool}
    (h : Spells false source ss breaks []) (hderives : ∀ ts, ts.map sign = ss → Derives ts s)
    (file : String) : read (.ofList source) file = .ok s := by
  obtain ⟨ts, last, hts, hscan⟩ := h.scanFrom_eq_ok .start
  have hscan' : scan (.ofList source) = .ok (ts, last) := by
    rw [scan, String.toList_ofList]
    exact hscan
  exact (read_eq_ok_iff_derives hscan' file).mpr (hderives ts hts)

/-- The lines of a system are read as it, with blanks in front of them or not. -/
theorem read_of_laidOut {source : List Char} (h : LaidOut s.lines source) (hne : s.domains ≠ [])
    (file : String) : read (.ofList source) file = .ok s := by
  have hspells := h.spells []
  rw [List.append_nil] at hspells
  exact read_of_derives hspells (fun ts hts => derives_of_signs hts hne) file

/-! ### Blocks of plain globs -/

/-- Globs that are written as they are. -/
def Plain (globs : List String) : Prop := ∀ g ∈ globs, '"' ∉ g.toList ∧ '\\' ∉ g.toList

theorem written_of_plain {g : String} (h : '"' ∉ g.toList ∧ '\\' ∉ g.toList) :
    (Sign.quoted g).written = ("\"" ++ g ++ "\"").toList := by
  have hescaped : escaped g.toList = g.toList := by
    rw [escaped]
    conv_rhs => rw [← List.flatMap_singleton' g.toList]
    refine List.flatMap_congr fun c hc => if_neg ?_
    rintro (rfl | rfl)
    · exact h.1 hc
    · exact h.2 hc
  rw [Sign.written, if_pos rfl, hescaped]
  simp

/-- Globs between quotes, with commas between them. -/
def globsText (globs : List String) : List Char :=
  (", ".intercalate (globs.map fun g => "\"" ++ g ++ "\"")).toList

theorem lineText_globs {glob : String} {globs : List String} (h : Plain (glob :: globs)) :
    lineText ([.quoted glob] ++ globs.flatMap fun glob => .comma :: [.quoted glob]) =
      globsText (glob :: globs) := by
  induction globs generalizing glob with
  | nil =>
      rw [List.flatMap_nil, List.append_nil, lineText, written_of_plain (h glob (by simp)),
        globsText]
      rfl
  | cons glob' globs ih =>
      obtain ⟨hglob, hglobs⟩ := List.forall_mem_cons.mp h
      have hlisted : globsText (glob :: glob' :: globs) =
          ("\"" ++ glob ++ "\"").toList ++ (", ".toList ++ globsText (glob' :: globs)) := by
        simp [globsText, String.toList_intercalate]
      rw [hlisted, ← ih hglobs, ← written_of_plain hglob]
      rfl

/-- The line of globs. -/
def globsLine (globs : List String) : List Char :=
  "  paths allow ".toList ++ (globsText globs ++ ['\n'])

/-- The block of a domain that has globs. -/
def blockText (name : String) (globs : List String) : List Char :=
  ("domain ".toList ++ (name.toList ++ " \x7b\n".toList)) ++ (globsLine globs ++ "\x7d\n".toList)

variable {globs : List String} {name : String}

theorem laidOut_globsLine (hne : globs ≠ []) (h : Plain globs) :
    LaidOut (Domain.allowLines globs) (globsLine globs) := by
  obtain ⟨glob, globs, rfl⟩ := List.exists_cons_of_ne_nil hne
  have hline : globsLine (glob :: globs) = [' ', ' '] ++ (lineText (.reserved "paths" ::
      .reserved "allow" :: ([.quoted glob] ++
        globs.flatMap fun glob => .comma :: [.quoted glob])) ++ ['\n']) := by
    unfold globsLine
    rw [← lineText_globs h, String.toList_ofList]
    rfl
  have hmem : _ ∈ Domain.allowLines (glob :: globs) := List.mem_singleton.mpr rfl
  rw [hline]
  exact .cons (by simp [isSpace]) (isLine_of_mem_allowLines hmem) .nil

theorem laidOut_block (hname : IsName name) (hne : globs ≠ []) (h : Plain globs) :
    LaidOut (Domain.lines ⟨name, globs, []⟩) (blockText name globs) := by
  have hnil : ∀ c ∈ ([] : List Char), isSpace c = true ∨ c = '\n' := nofun
  have hopening : LaidOut [[.reserved "domain", .name name, .openBrace]]
      ("domain ".toList ++ (name.toList ++ " \x7b\n".toList)) := by
    have hline : IsLine [.reserved "domain", .name name, .openBrace] := by
      refine ⟨List.cons_ne_nil _ _, ?_⟩
      simp only [List.forall_mem_cons, List.not_mem_nil, false_imp_iff, implies_true, and_true]
      exact ⟨.reserved (by decide), .name hname, .openBrace⟩
    have htext : "domain ".toList ++ (name.toList ++ " \x7b\n".toList) =
        [] ++ (lineText [.reserved "domain", .name name, .openBrace] ++ '\n' :: []) := by
      repeat rw [String.toList_ofList]
      simp [lineText, Sign.written, Sign.touches]
    rw [htext]
    exact .cons hnil hline .nil
  have hclosing : LaidOut [[.closeBrace]] "\x7d\n".toList := by
    have hline : IsLine [.closeBrace] := ⟨List.cons_ne_nil _ _, by simpa using .closeBrace⟩
    exact .cons hnil hline .nil
  have hlines : Domain.lines ⟨name, globs, []⟩ =
      [[.reserved "domain", .name name, .openBrace]] ++
        (Domain.allowLines globs ++ [[.closeBrace]]) := by
    simp [Domain.lines, blockLines]
  rw [hlines]
  exact hopening.append ((laidOut_globsLine hne h).append hclosing)

end ChangeGate.Architecture
