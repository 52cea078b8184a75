import ChangeGate.Architecture.Basic

/-! # Checking a system

Problems are collected and never hide one another: those of the header first, then those of every
domain in order. -/

namespace ChangeGate.Architecture

/-- What can be wrong with a system. -/
inductive Issue
  | noVersion
  | noName
  | noDomain
  | repeatedDomain (name : String)
  | noGlobs (domain : String)
  | unknownTarget (domain target : String)
  deriving DecidableEq, Repr

/-- The wording of an issue. -/
def Issue.message : Issue → String
  | .noVersion => "Missing 'intent' version declaration."
  | .noName => "Missing 'system' name declaration."
  | .noDomain => "At least one domain must be declared."
  | .repeatedDomain name => "Duplicate domain name: '" ++ name ++ "'."
  | .noGlobs domain => "Domain '" ++ domain ++ "' has no 'paths allow' globs."
  | .unknownTarget domain target =>
    "Domain '" ++ domain ++ "' depends on unknown domain '" ++ target ++ "'."

/-- The issues of one domain, given the names that stand before it and all names. -/
def domainIssues (seen known : List String) (d : Domain) : List Issue :=
  (if seen.contains d.name then [.repeatedDomain d.name] else []) ++
  (if d.allow.isEmpty then [.noGlobs d.name] else []) ++
  (d.dependsOn.filter fun target => !known.contains target).map (.unknownTarget d.name)

/-- The issues of the domains that follow those with the names `seen`. -/
def domainsIssues (known seen : List String) : List Domain → List Issue
  | [] => []
  | d :: ds => domainIssues seen known d ++ domainsIssues known (d.name :: seen) ds

/-- The issues of the header. -/
def headerIssues (s : Architecture) : List Issue :=
  (if s.version.isEmpty then [.noVersion] else []) ++
  (if s.name.isEmpty then [.noName] else []) ++
  (if s.domains.isEmpty then [.noDomain] else [])

/-- All issues of a system. -/
def issues (s : Architecture) : List Issue :=
  s.headerIssues ++ domainsIssues (s.domains.map (·.name)) [] s.domains

/-- The wordings of all issues. -/
def problems (s : Architecture) : List String := s.issues.map Issue.message

end ChangeGate.Architecture
