import ChangeGate.Place

/-! # Tokens

The words, marks and literals of system and policy files.  A line end is a token too, since it
ends a statement. -/

namespace ChangeGate

namespace Token

/-- The kinds of token. -/
inductive Kind
  | keyword | name | text | number
  | openBrace | closeBrace | openParen | closeParen
  | comma | colon | dot | arrow | question | equal | unequal | both
  | lineEnd | sourceEnd
  deriving DecidableEq, Repr, Inhabited

/-- The name of a kind in messages. -/
def Kind.label : Kind → String
  | .keyword => "KEYWORD"
  | .name => "IDENT"
  | .text => "STRING"
  | .number => "NUMBER"
  | .openBrace => "LBRACE"
  | .closeBrace => "RBRACE"
  | .openParen => "LPAREN"
  | .closeParen => "RPAREN"
  | .comma => "COMMA"
  | .colon => "COLON"
  | .dot => "DOT"
  | .arrow => "ARROW"
  | .question => "QUESTION"
  | .equal => "EQ"
  | .unequal => "NEQ"
  | .both => "AND"
  | .lineEnd => "NEWLINE"
  | .sourceEnd => "EOF"

/-- The reserved words. -/
def keywords : List String :=
  ["intent", "system", "domain", "import", "paths", "allow", "depends_on",
   "policy", "violation", "confidence", "when", "severity", "message",
   "suggest", "except_when", "tagged", "requires_approval", "auto_fix",
   "type", "contract", "stability", "fields", "operations",
   "null", "high", "medium", "low", "error", "warn", "info",
   "stable", "unstable", "experimental"]

end Token

/-- A token: its kind, its text and the place of its first character. -/
structure Token where
  kind : Token.Kind
  text : String
  place : Place
  deriving DecidableEq, Repr, Inhabited

namespace Token

/-- The token that closes every token list. -/
def sourceEnd (p : Place) : Token := ⟨.sourceEnd, "", p⟩

/-- Whether a token is the given reserved word. -/
def isKeyword (t : Token) (word : String) : Bool := t.kind == .keyword && t.text == word

/-- Whether a token can stand as a name where reserved words are names too. -/
def isNameLike (t : Token) : Bool := t.kind == .name || t.kind == .keyword

/-- A token in a message. -/
def describe (t : Token) : String :=
  match t.kind with
  | .lineEnd => "NEWLINE"
  | .sourceEnd => "end of input"
  | k => k.label ++ " '" ++ t.text ++ "'"

end Token

end ChangeGate
