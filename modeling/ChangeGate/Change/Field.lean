import ChangeGate.Change.Basic

/-! # Fields of a change

Predicates and message templates read a change through dotted paths.  `Field.ofPath?` names the
known paths, `Field.read` gives what stands there. -/

namespace ChangeGate

/-- What a field can hold. -/
inductive FieldValue
  | text (s : String)
  | texts (ss : List String)
  deriving DecidableEq, Repr

/-- The fields of a change. -/
inductive Field
  | actionKind | actionPath | actionFileDomain
  | fileDomain | filePath
  | taskDomain | taskTags
  | sourceDomain | sourcePath
  | targetDomain | targetImport
  deriving DecidableEq, Repr

namespace Field

/-- The path of a field. -/
def path : Field → String
  | .actionKind => "action.kind"
  | .actionPath => "action.path"
  | .actionFileDomain => "action.fileDomain"
  | .fileDomain => "file.domain"
  | .filePath => "file.path"
  | .taskDomain => "task.domain"
  | .taskTags => "task.tags"
  | .sourceDomain => "source.domain"
  | .sourcePath => "source.path"
  | .targetDomain => "target.domain"
  | .targetImport => "target.import"

/-- All fields. -/
def every : List Field :=
  [.actionKind, .actionPath, .actionFileDomain, .fileDomain, .filePath, .taskDomain, .taskTags,
   .sourceDomain, .sourcePath, .targetDomain, .targetImport]

/-- The field at a path. -/
def ofPath? (path : String) : Option Field := every.find? (·.path == path)

/-- What a field of an action under a task holds. -/
def read (a : Action) (t : Task) : Field → Option FieldValue
  | .actionKind => some (.text a.kind.label)
  | .actionPath | .filePath => some (.text a.path)
  | .actionFileDomain | .fileDomain => a.fileDomain.map .text
  | .taskDomain => t.domain.map .text
  | .taskTags => some (.texts t.tags)
  | .sourceDomain => a.sourceDomain.map .text
  | .sourcePath => a.sourcePath.map .text
  | .targetDomain => a.targetDomain.map .text
  | .targetImport => a.targetImport.map .text

theorem mem_every (f : Field) : f ∈ every := by cases f <;> simp [every]

theorem ofPath?_eq_none_iff {path : String} : ofPath? path = none ↔ ∀ f : Field, f.path ≠ path := by
  simp [ofPath?, List.find?_eq_none, mem_every]

end Field

end ChangeGate
