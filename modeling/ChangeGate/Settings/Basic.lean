import ChangeGate.Data.Schema

/-! # Settings

The settings say where the files of the gate are, which revisions are compared and which tags
every task has.  Every setting has a value of its own. -/

namespace ChangeGate

/-- The settings of a repository. -/
structure Settings where
  systemFile : String := "system.intent"
  policyDirectory : String := "policies"
  planFile : String := "intent.plan.json"
  base : String := "HEAD~1"
  head : String := "HEAD"
  unified : Int := 3
  defaultTags : List String := []
  deriving DecidableEq, Repr, Inhabited

namespace Settings

open Schema

/-- The settings of files, revisions and tags put together. -/
def together (files : String × String × String) (revisions : String × String × Int)
    (tags : List String) : Settings where
  systemFile := files.1
  policyDirectory := files.2.1
  planFile := files.2.2
  base := revisions.1
  head := revisions.2.1
  unified := revisions.2.2
  defaultTags := tags

/-- Where the files are. -/
def filesShape : Shape (String × String × String) := record fun es =>
  (·, ·, ·) <$> withDefault "system_file" text ({} : Settings).systemFile es
    <*> withDefault "policy_dir" text ({} : Settings).policyDirectory es
    <*> withDefault "plan_file" text ({} : Settings).planFile es

/-- A number that is not negative. -/
def natural : Shape Int := fun d => (int d).ensure (0 ≤ ·) .tooSmall

/-- Which revisions are compared, and with how many lines around a change. -/
def revisionsShape : Shape (String × String × Int) := record fun es =>
  (·, ·, ·) <$> withDefault "base" text ({} : Settings).base es
    <*> withDefault "head" text ({} : Settings).head es
    <*> withDefault "unified" natural ({} : Settings).unified es

/-- Which tags every task has. -/
def tagsShape : Shape (List String) := record fun es => withDefault "default_tags" (list text) [] es

/-- The settings that data writes. -/
def shape : Shape Settings := record fun es =>
  let d : Settings := {}
  together <$> withDefault "paths" filesShape (d.systemFile, d.policyDirectory, d.planFile) es
    <*> withDefault "diff" revisionsShape (d.base, d.head, d.unified) es
    <*> withDefault "scope" tagsShape d.defaultTags es

end Settings

end ChangeGate
