/-! # Tokens of YAML -/

namespace ChangeGate.Yaml

/-- A directive in front of a document. -/
inductive Directive
  | version (major : Nat)
  | tag (handle uri : List Char)
  | other
  deriving DecidableEq, Repr

/-- The tokens of a YAML text. -/
inductive Token
  | directive (d : Directive)
  | documentStart | documentEnd
  | blockSequence | blockMapping | blockEnd
  | flowSequence | flowSequenceEnd
  | flowMapping | flowMappingEnd
  | blockEntry | flowEntry
  | key | value
  | alias (name : List Char)
  | anchor (name : List Char)
  | tag (handle : Option (List Char)) (suffix : List Char)
  | scalar (text : List Char) (plain : Bool)
  deriving DecidableEq, Repr

end ChangeGate.Yaml
