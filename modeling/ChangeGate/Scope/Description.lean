import ChangeGate.Json.Reader
import ChangeGate.Workspace.Basic

/-! # The description of a change set

The description is the body of the pull request that an event file holds, or a text of the
environment if there is no such file or it is no JSON. -/

namespace ChangeGate.Scope

/-- The value of a member, or null. -/
def memberOrNull (name : String) (members : List (String × Json)) : Json :=
  (Json.member? name members).getD .null

/-- The text that a value is; what counts as absent is the empty text. -/
def bodyText (j : Json) : Except Breakdown String :=
  if j.isVoid then .ok ""
  else
    match j with
    | .text s => .ok s
    | _ => .error .descriptionShape

/-- The body of the pull request of an event. -/
def eventBody : Json → Except Breakdown String
  | .object members =>
    let request := memberOrNull "pull_request" members
    if request.isVoid then .ok ""
    else
      match request with
      | .object members => bodyText (memberOrNull "body" members)
      | _ => .error .eventShape
  | _ => .error .eventShape

/-- The body that an event file holds; nothing if the file is no JSON. -/
def fileBody? (path : Path) : Procedure (Option String) := do
  match Json.read (← Procedure.readText path) with
  | .error .malformed => return none
  | .error .longNumeral => Procedure.breakDown .longNumeral
  | .error .tooDeep => Procedure.breakDown .deepJson
  | .ok event =>
    match eventBody event with
    | .ok body => return some body
    | .error b => Procedure.breakDown b

/-- The body of the event that the environment names, if there is one. -/
def eventBody? : Procedure (Option String) := do
  match (← get).setting? "GITHUB_EVENT_PATH" with
  | none => return none
  | some path =>
    if !(← Procedure.isFile (.ofText path)) then return none
    match ← fileBody? (.ofText path) with
    | some body => return some body
    | none =>
      Procedure.warn ("[SCOPE] Could not read event payload " ++ path)
      return none

/-- The description of the change set. -/
def description : Procedure String := do
  match ← eventBody? with
  | some body => return body
  | none => return ((← get).valueOf? "PR_BODY").getD ""

end ChangeGate.Scope
