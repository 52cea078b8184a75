import ChangeGate.Architecture.Basic
import ChangeGate.Starter.Name

/-! # Starter files

A starter architecture has one domain for every top-level directory, and a starter policy has one
rule on crossing domains and one on files without a domain. -/

namespace ChangeGate.Starter

/-- Directories that hold no code of the repository. -/
def noise : List String :=
  ["node_modules", ".git", ".github", "dist", "build", "coverage",
   ".vscode", ".idea", ".cursor", "__pycache__", ".next", ".nuxt",
   "vendor", "target", "out", ".venv", "venv", "env", ".tox",
   ".mypy_cache", ".pytest_cache", ".ruff_cache",
   "policies", "contracts"]

/-- Whether a directory gives a domain. -/
def isKept (skip : List String) (directory : String) : Bool :=
  directory.toList.head? != some '.' && !noise.contains directory && !skip.contains directory

/-- The glob of a directory. -/
def globOf (directory : String) : String := directory ++ "/**"

/-- The domains with those of one more directory; directories of one name share a domain. -/
def addDirectory (ds : List Domain) (directory : String) : List Domain :=
  let name := nameOf directory
  if ds.any (·.name == name) then
    ds.map fun d => if d.name = name then { d with allow := d.allow ++ [globOf directory] } else d
  else ds ++ [⟨name, [globOf directory], []⟩]

/-- The domain of a repository without directories. -/
def core : Domain := ⟨"Core", ["**"], []⟩

/-- The domains of a repository with the given top-level directories. -/
def domains (skip directories : List String) : List Domain :=
  let kept := (directories.mergeSort (· ≤ ·)).filter (isKept skip)
  if kept.isEmpty then [core] else kept.foldl addDirectory []

/-- The block of a domain. -/
def block (d : Domain) : String :=
  "domain " ++ d.name ++ " \x7b\n  paths allow " ++
    ", ".intercalate (d.allow.map fun g => "\"" ++ g ++ "\"") ++ "\n\x7d"

/-- The text of a starter architecture. -/
def architecture (name : String) (ds : List Domain) (policy : String) : String :=
  "intent 2.0\n\nsystem " ++ name ++ "\n\nimport \"" ++ policy ++ "\"\n\n" ++
    "\n\n".intercalate (ds.map block) ++ "\n"

/-- The lines of the starter policy. -/
def policyLines : List String :=
  ["intent 2.0",
   "",
   "policy Default \x7b",
   "",
   "  violation CrossDomainTouch confidence high \x7b",
   "    when action.kind == \"ModifyFile\" && file.domain != null && file.domain != task.domain",
   "    severity error",
   "    message \"PR touches \x7bfile.domain\x7d but task is scoped to \x7btask.domain\x7d: " ++
     "\x7bfile.path\x7d\"",
   "    suggest \"Split into separate PR, or tag intentional-cross-domain with approval.\"",
   "    except_when tagged \"intentional-cross-domain\" requires_approval \"tech-lead\"",
   "  \x7d",
   "",
   "  violation UnknownDomainFile confidence high \x7b",
   "    when action.kind == \"ModifyFile\" && file.domain == null",
   "    severity error",
   "    message \"File \x7bfile.path\x7d is not mapped to any domain.\"",
   "    suggest \"Map this file to a domain in system.intent via paths allow.\"",
   "  \x7d",
   "\x7d",
   ""]

/-- The text of the starter policy. -/
def policy : String := "\n".intercalate policyLines

end ChangeGate.Starter
