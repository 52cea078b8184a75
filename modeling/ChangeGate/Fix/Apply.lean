import ChangeGate.Fix.Globs
import ChangeGate.Review

/-! # Fixing files without a domain

Every violation of the rule on files without a domain gives a glob, and the globs are added to the
system file. -/

namespace ChangeGate.Fix

/-- What a fix came to. -/
structure Report where
  globs : List String
  isApplied : Bool
  systemPath : Path
  deriving DecidableEq, Repr, Inhabited

/-- The codes of violations that can be fixed. -/
def fixableCodes : List String := ["UnknownDomainFile"]

/-- The globs for the violations that can be fixed, each once. -/
def globsFor (vs : List Violation) : List String :=
  ((vs.filter (fixableCodes.contains ·.code)).map (suggestGlob ·.evidence.path)).eraseDups

/-- Add globs to the system file. -/
def patch (path : Path) (globs : List String) : Procedure Unit := do
  let content ← Procedure.readText path
  Procedure.writeText path (insert (String.ofList content) globs)

/-- Review a change set and add globs for its files without a domain, or only list them. -/
def run (root : Path) (s : Settings) (r : Review.Request) (dry : Bool) : Procedure Report := do
  let review ← Review.run root s r
  let globs := globsFor review.violations
  let systemPath := root.under (.ofText s.systemFile)
  if globs.isEmpty || dry then return ⟨globs, false, systemPath⟩
  patch systemPath globs
  return ⟨globs, true, systemPath⟩

end ChangeGate.Fix
