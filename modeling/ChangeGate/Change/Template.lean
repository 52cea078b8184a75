import ChangeGate.Change.Field
import ChangeGate.Text.Blank

/-! # Message templates

A template names fields between braces.  Each name makes way for what the field holds; a name
without a field, or a field that holds nothing, shows between angle brackets. -/

namespace ChangeGate.Template

/-- The name behind an opening brace, and the text behind its closing brace. -/
def name? (cs : List Char) : Option (List Char × List Char) :=
  match cs.takeWhile (· != '\x7d'), cs.dropWhile (· != '\x7d') with
  | c :: name, _ :: rest => some (c :: name, rest)
  | _, _ => none

theorem name?_rest_lt {cs name rest : List Char} (h : name? cs = some (name, rest)) :
    rest.length < cs.length := by
  unfold name? at h
  split at h
  · rename_i hd
    cases h
    have := (List.dropWhile_sublist (l := cs) (· != '\x7d')).length_le
    rw [hd] at this
    simp only [List.length_cons] at this
    omega
  · cases h

/-- What a name stands for. -/
def value (a : Action) (t : Task) (name : List Char) : List Char :=
  let key := Text.trim name
  match (Field.ofPath? (String.ofList key)).bind (·.read a t) with
  | some (.text s) => s.toList
  | some (.texts ss) => (",".intercalate ss).toList
  | none => '<' :: key ++ ['>']

/-- Fill the names of a template in. -/
def fill (value : List Char → List Char) : List Char → List Char
  | [] => []
  | c :: r =>
    if c = '\x7b' then
      match h : name? r with
      | some (name, rest) =>
        have := name?_rest_lt h
        value name ++ fill value rest
      | none => c :: fill value r
    else c :: fill value r
  termination_by cs => cs.length

/-- The text of a template for an action under a task. -/
def render (template : String) (a : Action) (t : Task) : String :=
  String.ofList (fill (value a t) template.toList)

end ChangeGate.Template
