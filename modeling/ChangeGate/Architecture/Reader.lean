import ChangeGate.Source.Reading
import ChangeGate.Architecture.Basic

/-! # Reading a system file

    system    := 'intent' NUMBER end 'system' word end inclusion* domain+
    inclusion := 'import' STRING end
    domain    := 'domain' NAME '{' statement* '}' end
    statement := 'paths' 'allow' STRING (',' STRING)* end | 'depends_on' NAME end

The name of the system may be a reserved word.  An `end` is a line end, or nothing before a
closing brace and at the end of the source; line ends may stand around an opening brace. -/

namespace ChangeGate.Architecture

open Source

/-- The version line. -/
def versionLine : Reader String := do
  let _ ← takeKeyword "intent"
  let version ← take .number
  endStatement
  return version.text

/-- The line that names the system. -/
def nameLine : Reader String := do
  let _ ← takeKeyword "system"
  let name ← takeIf Token.isNameLike .expectedName
  endStatement
  return name.text

/-- An import line. -/
def importLine : Reader String := do
  let _ ← takeKeyword "import"
  let path ← takeText
  endStatement
  return path

/-- One statement of a domain block, added to the domain read so far. -/
def statement (d : Domain) : Reader Domain := do
  let ts ← get
  if atKeyword "paths" ts then
    let _ ← takeKeyword "paths"
    let _ ← takeKeyword "allow"
    let globs ← separated .comma takeText
    endStatement
    return { d with allow := d.allow ++ globs }
  else if atKeyword "depends_on" ts then
    let _ ← takeKeyword "depends_on"
    let target ← takeName
    endStatement
    return { d with dependsOn := d.dependsOn ++ [target] }
  else refuse (.strayInDomain d.name)

/-- A domain block. -/
def domainBlock : Reader Domain := do
  let _ ← takeIf (·.isKeyword "domain") .expectedDomain
  let name ← takeName
  openBlock
  let d ← repeated (atKind .closeBrace) statement ⟨name, [], []⟩
  closeBlock
  return d

/-- The tokens of a system file. -/
def reader : Reader Architecture := do
  skipLineEnds
  let version ← versionLine
  let name ← nameLine
  let imports ← items (fun ts => !atKeyword "import" ts) importLine []
  let first ← domainBlock
  let domains ← items List.isEmpty domainBlock [first]
  return { version, name, domains, imports }

/-- Read a system file. -/
def read (source : String) (file : String := "system.intent") : Except Error Architecture :=
  Source.read reader source file

end ChangeGate.Architecture
