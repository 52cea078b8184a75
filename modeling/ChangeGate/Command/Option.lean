/-! # Options on a command line

An option has a long name, may have a letter, and may take a value.  A value is written behind an
equals sign or as the next argument; letters without values can stand together.  Options end at
the first argument that is none, or at a double dash. -/

namespace ChangeGate.Command

/-- An option that a command knows. -/
structure Switch where
  name : String
  letter : Option Char := none
  takesValue : Bool := false
  deriving DecidableEq, Repr

/-- An option that was given, with its value or an empty text. -/
structure Given where
  name : String
  value : String := ""
  deriving DecidableEq, Repr

/-- Whether an argument is an option. -/
def isOption (argument : String) : Bool :=
  match argument.toList with
  | '-' :: _ :: _ => true
  | _ => false

/-- The name of an option and the value behind its equals sign. -/
def splitValue (argument : String) : String × Option String :=
  let cs := argument.toList
  let name := String.ofList (cs.takeWhile (· != '='))
  match cs.dropWhile (· != '=') with
  | [] => (name, none)
  | _ :: value => (name, some (String.ofList value))

/-- The options that letters stand for. -/
def letters? (known : List Switch) (cs : List Char) : Option (List Given) :=
  cs.mapM fun c => (known.find? (·.letter == some c)).map fun s => ⟨s.name, ""⟩

/-- The options that an argument gives, and the arguments behind it and its value. -/
def option? (known : List Switch) (argument : String) (rest : List String) :
    Option (List Given × List String) :=
  let (name, value) := splitValue argument
  match known.find? (·.name == name) with
  | some s =>
    match s.takesValue, value, rest with
    | true, some v, _ => some ([⟨s.name, v⟩], rest)
    | true, none, v :: rest => some ([⟨s.name, v⟩], rest)
    | false, none, _ => some ([⟨s.name, ""⟩], rest)
    | _, _, _ => none
  | none =>
    match argument.toList with
    | '-' :: c :: cs => if c = '-' then none else (letters? known (c :: cs)).map (·, rest)
    | _ => none

theorem option?_rest_le {known : List Switch} {argument : String} {rest rest' : List String}
    {gs : List Given} (h : option? known argument rest = some (gs, rest')) :
    rest'.length ≤ rest.length := by
  unfold option? at h
  simp only at h
  split at h
  · split at h <;> simp_all
  · split at h
    · split at h
      · cases h
      · simp only [Option.map_eq_some_iff, Prod.mk.injEq] at h
        obtain ⟨_, _, _, rfl⟩ := h
        omega
    · cases h

/-- The options at the front of some arguments, and the arguments behind them. -/
def options? (known : List Switch) : List String → Option (List Given × List String)
  | [] => some ([], [])
  | argument :: rest =>
    if argument = "--" then some ([], rest)
    else if isOption argument then
      match h : option? known argument rest with
      | none => none
      | some (gs, rest') =>
        have := option?_rest_le h
        (options? known rest').map fun (more, last) => (gs ++ more, last)
    else some ([], argument :: rest)
  termination_by arguments => arguments.length

/-- The value that was given last under a name. -/
def valueOf? (gs : List Given) (name : String) : Option String :=
  (gs.reverse.find? (·.name == name)).map (·.value)

/-- Whether an option was given. -/
def wasGiven (gs : List Given) (name : String) : Bool := gs.any (·.name == name)

end ChangeGate.Command
