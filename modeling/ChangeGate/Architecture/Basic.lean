/-! # Architectures

The architecture of a system names its parts: each domain owns the files that its globs match and
may depend on other domains. -/

namespace ChangeGate

/-- A part of the system: the globs of its files and the domains it depends on. -/
structure Domain where
  name : String
  allow : List String
  dependsOn : List String := []
  deriving DecidableEq, Repr, Inhabited

/-- The parts of a system, as a system file declares them. -/
structure Architecture where
  version : String
  name : String
  domains : List Domain
  imports : List String := []
  deriving DecidableEq, Repr, Inhabited

namespace Architecture

/-- The first domain of a name. -/
def domain? (s : Architecture) (name : String) : Option Domain := s.domains.find? (·.name == name)

end Architecture

end ChangeGate
