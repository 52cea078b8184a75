import ChangeGate.Token.Scan

/-! # What can be wrong with a source

A source is refused for its characters, for its grammar, or because it writes a whole number of
too many digits.  The first two are syntax errors and point at a place of a file. -/

namespace ChangeGate.Source

/-- The clauses of a violation block. -/
inductive Clause
  | when | severity | message | suggest | autoFix | exceptWhen | requiresApproval
  deriving DecidableEq, Repr

/-- The word that opens a clause. -/
def Clause.word : Clause → String
  | .when => "when"
  | .severity => "severity"
  | .message => "message"
  | .suggest => "suggest"
  | .autoFix => "auto_fix"
  | .exceptWhen => "except_when"
  | .requiresApproval => "requires_approval"

/-- What the grammar finds wrong at a token. -/
inductive Problem
  | expected (kind : Token.Kind)
  | expectedKeyword (word : String)
  | expectedName
  | expectedStatementEnd
  | expectedDomain
  | strayInDomain (domain : String)
  | expectedPolicy
  | expectedViolation (policy : String)
  | badConfidence (code : String)
  | badSeverity (code : String)
  | strayInViolation (code : String)
  | repeatedClause (code : String) (clause : Clause)
  | missingClause (code : String) (clause : Clause)
  | expectedField
  | expectedFieldPart
  deriving DecidableEq, Repr

/-- The wording of a problem. -/
def Problem.wording : Problem → String
  | .expected kind => "Expected " ++ kind.label
  | .expectedKeyword word => "Expected KEYWORD '" ++ word ++ "'"
  | .expectedName => "Expected identifier"
  | .expectedStatementEnd => "Expected end of statement"
  | .expectedDomain => "Expected 'domain' declaration"
  | .strayInDomain domain => "Unexpected token in domain '" ++ domain ++ "'"
  | .expectedPolicy => "Expected 'policy' declaration"
  | .expectedViolation policy => "Expected 'violation' in policy '" ++ policy ++ "'"
  | .badConfidence code => "Invalid confidence level for '" ++ code ++ "'"
  | .badSeverity code => "Invalid severity for '" ++ code ++ "'"
  | .strayInViolation code => "Unexpected token in violation '" ++ code ++ "'"
  | .repeatedClause code clause =>
    "Violation '" ++ code ++ "' has more than one '" ++ clause.word ++ "'"
  | .missingClause code .when => "Violation '" ++ code ++ "' missing 'when' clause"
  | .missingClause code clause => "Violation '" ++ code ++ "' missing '" ++ clause.word ++ "'"
  | .expectedField => "Expected identifier in field reference"
  | .expectedFieldPart => "Expected identifier after '.'"

/-- A missing clause is named, and so is the violation that misses it. -/
theorem Problem.infix_wording_missingClause (code : String) (clause : Clause) :
    ("'" ++ code ++ "' missing '" ++ clause.word ++ "'").toList <:+:
      (Problem.missingClause code clause).wording.toList := by
  have hwording : (Problem.missingClause code clause).wording =
      if clause = .when then "Violation '" ++ code ++ "' missing 'when' clause"
      else "Violation '" ++ code ++ "' missing '" ++ clause.word ++ "'" := by
    cases clause <;> rfl
  have hfront : "Violation '" = "Violation " ++ "'" := by decide
  rw [hwording]
  split
  · rename_i hwhen
    have hback : "' missing 'when' clause" = "' missing '" ++ "when" ++ "'" ++ " clause" := by
      decide
    refine ⟨"Violation ".toList, " clause".toList, ?_⟩
    rw [hwhen, hfront, hback]
    simp only [Clause.word, String.toList_append, List.append_assoc]
  · refine ⟨"Violation ".toList, [], ?_⟩
    rw [hfront]
    simp only [String.toList_append, List.append_assoc, List.append_nil]

/-! ### Syntax errors -/

/-- What makes a source no text of its language. -/
inductive Defect
  | lexical (flaw : Token.Flaw)
  | grammar (problem : Problem) (got : Token)
  deriving DecidableEq, Repr

/-- A defect at a place of a file. -/
structure SyntaxError where
  file : String
  place : Place
  defect : Defect
  deriving DecidableEq, Repr

namespace SyntaxError

/-- What is wrong, without the place. -/
def detail (e : SyntaxError) : String :=
  match e.defect with
  | .lexical flaw => flaw.message
  | .grammar problem got => problem.wording ++ " (got " ++ got.describe ++ ")"

/-- The error as one line. -/
def message (e : SyntaxError) : String :=
  e.file ++ ":" ++ toString e.place.line ++ ":" ++ toString e.place.column ++ ": " ++ e.detail

end SyntaxError

/-- Why a source cannot be read. -/
inductive Error
  | malformed (e : SyntaxError)
  | longNumeral
  deriving DecidableEq, Repr

end ChangeGate.Source
