import ChangeGate.Change.Basic
import ChangeGate.Data.Schema

/-! # Changes as data

The shapes of hunks, actions and tasks; fields that are not named here are passed over. -/

namespace ChangeGate

open Schema

/-- The shape of a hunk. -/
def Hunk.shape : Shape Hunk := record fun e =>
  Hunk.mk <$> required "old_start" int e <*> required "old_lines" int e
    <*> required "new_start" int e <*> required "new_lines" int e

/-- All kinds of action. -/
def ActionKind.every : List ActionKind := [.modifyFile, .importCrossDomain]

/-- The shape of an action. -/
def Action.shape : Shape Action := record fun e =>
  Action.mk <$> withDefault "kind" (oneOf ActionKind.every ActionKind.label) .modifyFile e
    <*> required "path" text e
    <*> withDefault "file_domain" (optional text) none e
    <*> withDefault "hunks" (list Hunk.shape) [] e
    <*> withDefault "source_domain" (optional text) none e
    <*> withDefault "source_path" (optional text) none e
    <*> withDefault "target_domain" (optional text) none e
    <*> withDefault "target_import" (optional text) none e

/-- All sources of a task. -/
def TaskSource.every : List TaskSource :=
  [.scopeOverride, .scopeHeader, .domainLabel, .slashCommand, .inferred, .unknown]

/-- The shape of a task. -/
def Task.shape : Shape Task := record fun e =>
  Task.mk <$> withDefault "domain" (optional text) none e
    <*> withDefault "tags" (list text) [] e
    <*> withDefault "source" (oneOf TaskSource.every TaskSource.label) .unknown e

end ChangeGate
