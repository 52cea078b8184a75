import ChangeGate.Change.Basic
import ChangeGate.Text.Blank
import ChangeGate.Text.Search

/-! # The scope of a change set

The domain that a change set is meant for comes from the first source that names one: an explicit
scope, a scope header in the description, a label, a command in the description, or the domain of
most changed files.  Tags come from the settings and from a tag header in the description. -/

namespace ChangeGate.Scope

/-! ### Headers -/

/-- Take at least one blank off the front of a text. -/
def behindBlanks? : List Char → Option (List Char)
  | c :: r => if Text.isBlank c then some (r.dropWhile Text.isBlank) else none
  | [] => none

/-- The characters up to the next blank, if there are any. -/
def wordAt? (cs : List Char) : Option (List Char) :=
  match cs.takeWhile (!Text.isBlank ·) with
  | [] => none
  | word => some word

/-- The domain of a scope header. -/
def headerDomain? (body : List Char) : Option (List Char) :=
  (Text.lineStarts body).findSome? fun cs => do
    wordAt? ((← Text.behind? "INTENT-SCOPE:".toList cs).dropWhile Text.isBlank)

/-- The domain of a scope command. -/
def commandDomain? (body : List Char) : Option (List Char) :=
  (Text.lineStarts body).findSome? fun cs => do
    let cs ← behindBlanks? (← Text.behind? "/intent".toList cs)
    wordAt? (← behindBlanks? (← Text.behind? "scope".toList cs))

/-- What a tag header lists: the rest of the line on which its first character that is not blank
stands. -/
def tagList? (body : List Char) : Option (List Char) :=
  (Text.lineStarts body).findSome? fun cs => do
    match (← Text.behind? "INTENT-TAGS:".toList cs).dropWhile Text.isBlank with
    | [] => none
    | listed => some (listed.takeWhile (· != '\n'))

/-- The tags of a description. -/
def tags (body : String) : List String :=
  match tagList? body.toList with
  | none => []
  | some listed =>
    ((Text.commaPieces listed).map Text.trim).filter (!·.isEmpty) |>.map String.ofList

/-- The domain of a label `domain:D`; a line end behind the name is passed over. -/
def labelDomain? (label : String) : Option String := do
  let cs ← Text.behind? "domain:".toList label.toList
  let word ← wordAt? cs
  let rest := cs.drop word.length
  if rest.isEmpty || rest == ['\n'] then some (String.ofList word) else none

/-! ### The domain of most files -/

/-- The domains of changed files, one for every file that has one. -/
def votes (actions : List Action) : List String :=
  (actions.filterMap (·.fileDomain)).filter (!·.isEmpty)

/-- Of two domains the one with more votes, and of equal ones the one whose name comes first. -/
def preferred (votes : List String) (x y : String) : String :=
  if votes.count x < votes.count y || votes.count x == votes.count y && y < x then y else x

/-- The domain of most changed files. -/
def majority? (actions : List Action) : Option String :=
  match votes actions with
  | [] => none
  | first :: others => some (others.foldl (preferred (first :: others)) first)

/-! ### The task -/

/-- Where a scope can come from. -/
structure Sources where
  explicit : Option String := none
  body : String := ""
  labels : List String := []
  actions : List Action := []
  defaultTags : List String := []

namespace Sources

/-- The domains that the sources name, from the first source to the last. -/
def candidates (s : Sources) : List (Option String × TaskSource) :=
  [(s.explicit.filter (!·.isEmpty), .scopeOverride),
   ((headerDomain? s.body.toList).map String.ofList, .scopeHeader),
   (s.labels.findSome? labelDomain?, .domainLabel),
   ((commandDomain? s.body.toList).map String.ofList, .slashCommand),
   (majority? s.actions, .inferred)]

/-- The tags: the default ones and then those of the description, each once. -/
def allTags (s : Sources) : List String := (s.defaultTags ++ tags s.body).eraseDups

/-- The task that the sources describe. -/
def task (s : Sources) : Task :=
  match s.candidates.find? (·.1.isSome) with
  | some (domain, source) => ⟨domain, s.allTags, source⟩
  | none => ⟨none, s.allTags, .unknown⟩

end Sources

end ChangeGate.Scope
