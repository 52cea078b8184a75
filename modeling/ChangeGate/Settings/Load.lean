import ChangeGate.Settings.Basic
import ChangeGate.Workspace.Basic
import ChangeGate.Yaml.Value

/-! # Loading settings

The settings of a repository stand in `.intent/config.yaml`; without that file every setting has
its own value.  The environment can name other revisions to compare. -/

namespace ChangeGate.Settings

/-- Where the settings of a repository stand. -/
def file (root : Path) : Path := (root.child ".intent").child "config.yaml"

/-! ### The revisions of the environment -/

/-- The two halves of an entry that is written as a sequence. -/
def entryHalves : Data → Except Breakdown (List Data)
  | .pair x y => .ok [x, y]
  | .list items | .set items => .ok items
  | .map entries => .ok (entries.map (·.1))
  | .text s => .ok (s.toList.map fun c => .text (String.singleton c))
  | .bytes bytes => .ok (bytes.map fun b => .int b.toNat)
  | _ => .error .diffEntry

/-- The entries that a sequence of pairs writes, added to those read before. -/
def pairEntries (es : List (Data × Data)) : List Data → Except Breakdown (List (Data × Data))
  | [] => .ok es
  | d :: ds => do
    match ← entryHalves d with
    | [k, v] =>
      if k.isKey then pairEntries (Data.insert k v es) ds else throw .diffEntry
    | _ => throw .diffEntryLength

/-- The entries of the part of the settings that names revisions.  Nothing stands for no entries,
and a sequence of pairs for the entries it lists. -/
def revisionEntries (d : Data) : Except Breakdown (List (Data × Data)) :=
  if d.isVoid then .ok []
  else
    match d with
    | .map entries => .ok entries
    | .list items | .set items => pairEntries [] items
    | .text s => pairEntries [] (s.toList.map fun c => .text (String.singleton c))
    | _ => .error .diffEntry

/-- The entries with a revision of the environment put in, if there is one. -/
def overridden (key : String) (revision : Option String) (es : List (Data × Data)) :
    List (Data × Data) :=
  match revision with
  | some r => Data.put key (.text r) es
  | none => es

/-- The settings' entries with the revisions of the environment. -/
def withRevisions (base head : Option String) (es : List (Data × Data)) :
    Except Breakdown (List (Data × Data)) := do
  let diff ← revisionEntries ((Data.find? "diff" es).getD .null)
  let diff := overridden "head" head (overridden "base" base diff)
  return if diff.isEmpty then es else Data.put "diff" (.map diff) es

/-! ### Loading -/

/-- How many levels of the settings are looked at: a revision may stand in a pair in a list in a
list under its name. -/
def levels : Nat := 5

/-- The entries of a settings file. -/
def entries (path : Path) : Procedure (List (Data × Data)) := do
  match Yaml.read levels (← Procedure.readText path) with
  | .error .malformed => Procedure.complain (.malformedSettings path.text)
  | .error flaw => Procedure.breakDown (.settingsText flaw)
  | .ok d =>
    if d.isVoid then return []
    else
      match d with
      | .map es => return es
      | _ => Procedure.complain (.settingsNoMap path.text)

/-- The settings of the repository at a root. -/
def load (root : Path) : Procedure Settings := do
  let path := file root
  let es ← if ← Procedure.isThere path then entries path else pure []
  let w ← get
  match withRevisions (w.setting? "DIFF_BASE") (w.setting? "DIFF_HEAD") es with
  | .error b => Procedure.breakDown b
  | .ok es =>
    if es.any (·.1.text?.isNone) then Procedure.breakDown .settingsKey
    else
      match shape (.map es) with
      | .good s => return s
      | .bad issues => Procedure.complain (.invalidSettings path.text issues)

end ChangeGate.Settings
