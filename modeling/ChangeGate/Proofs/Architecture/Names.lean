import ChangeGate.Architecture.Reader
import ChangeGate.Proofs.Predicate.Shape

/-! # The names of a system that is read

The domains of a system that is read are called by words (`isWord_of_read`): a block names its
domain by a name of the source, and its statements leave that as it is. -/

namespace ChangeGate.Architecture

open Source
open Token (IsWord Spelled)

/-- A statement leaves the name of its domain. -/
theorem yields_statement (d : Domain) :
    Yields Spelled (fun d' => IsWord d.name.toList → IsWord d'.name.toList) (statement d) := by
  have hglobs : Yields Spelled (fun _ => True) (separated .comma takeText) :=
    (Yields.literal .text).bind fun glob =>
      (Yields.items (Q := fun _ => True)
        ((Yields.take .comma).bind fun _ => (Yields.literal .text).weaken fun _ _ _ => trivial)
        [glob]).weaken fun _ _ _ => trivial
  refine Yields.get.bind fun ts => .ite ?_ (.ite ?_ (.refuse _))
  · exact (Yields.takeIf _ _).bind fun _ => (Yields.takeIf _ _).bind fun _ =>
      hglobs.bind fun _ => Yields.endStatement.bind fun _ => .pure fun _ _ _ _ _ h => h
  · exact (Yields.takeIf _ _).bind fun _ => (Yields.literal .name).bind fun _ =>
      Yields.endStatement.bind fun _ => .pure fun _ _ _ _ h => h

theorem yields_domainBlock : Yields Spelled (fun d => IsWord d.name.toList) domainBlock := by
  refine (Yields.takeIf _ _).bind fun _ => (Yields.literal .name).bind fun name =>
    Yields.openBlock.bind fun _ => (Yields.repeated yields_statement _).bind fun d =>
    Yields.closeBlock.bind fun _ => .pure ?_
  rintro - hd - ⟨t, hspelled, hkind, rfl⟩ -
  exact hd (hspelled.word (by simp [Token.isNameLike, hkind]))

theorem yields_reader :
    Yields Spelled (fun s => ∀ d ∈ s.domains, IsWord d.name.toList) reader := by
  have hversion : Yields Spelled (fun _ => True) versionLine :=
    (Yields.takeIf _ _).bind fun _ => (Yields.take .number).bind fun _ =>
      Yields.endStatement.bind fun _ => .pure fun _ _ _ => trivial
  have hname : Yields Spelled (fun _ => True) nameLine :=
    (Yields.takeIf _ _).bind fun _ => (Yields.takeIf _ _).bind fun _ =>
      Yields.endStatement.bind fun _ => .pure fun _ _ _ => trivial
  have himport : Yields Spelled (fun _ => True) importLine :=
    (Yields.takeIf _ _).bind fun _ => (Yields.literal .text).bind fun _ =>
      Yields.endStatement.bind fun _ => .pure fun _ _ _ => trivial
  refine Yields.skipLineEnds.bind fun _ => hversion.bind fun _ => hname.bind fun _ =>
    (Yields.items himport []).bind fun _ => yields_domainBlock.bind fun first =>
    (Yields.items yields_domainBlock [first]).bind fun domains => .pure ?_
  intro hdomains hfirst _ _ _ _
  exact hdomains (List.forall_mem_singleton.mpr hfirst)

/-- **The domains of a system that is read are called by words.** -/
theorem isWord_of_read {s : Architecture} {source file : String} (h : read source file = .ok s) :
    ∀ d ∈ s.domains, IsWord d.name.toList :=
  yields_reader.of_read h

end ChangeGate.Architecture
