import FilterLang.Text.Alphanumeric
import FilterLang.Text.Blank

/-!
Tokens of filters and orderings, and what can be wrong with a text before there are any. Scanning
yields lexemes, which hold the rest of the text from their first character on; the position of a
lexeme is the size of what came before.
-/

namespace FilterLang

inductive Token.Kind
  /-- The name of a field. -/
  | identifier
  /-- A value or an indexer's key, without its escapes. -/
  | literal
  | operator
  | and
  | or
  | openParen
  | closeParen
  | indexerOpen
  | indexerClose
  | caseInsensitive
  /-- `?` in an ordering. -/
  | hasValue
  /-- `!` in an ordering. -/
  | isNull
  | ascending
  | descending
  /-- `,` in an ordering. -/
  | comma
deriving DecidableEq, Repr

structure Token where
  kind : Token.Kind
  text : Text
  position : Nat
deriving DecidableEq, Repr

def Token.description (token : Token) : Text :=
  match token.kind with
  | .identifier => "field '" ++ token.text ++ "'"
  | .literal => "value '" ++ token.text ++ "'"
  | .operator => "operator '" ++ token.text ++ "'"
  | _ => "'" ++ token.text ++ "'"

inductive LexicalCause
  | unexpectedCharacter (c : Char)
  | unterminatedIndexer
  | unregisteredOperator
  | unknownOperator
  | unescapedParenthesis
  /-- After a field comes a `/` that is not a case marker before an operator. -/
  | strayMarker (field : Text)
deriving DecidableEq, Repr

def LexicalCause.message : LexicalCause → Text
  | unexpectedCharacter c => "unexpected character '" ++ [c] ++ "'"
  | unterminatedIndexer => "unterminated indexer"
  | unregisteredOperator => "unregistered custom operator"
  | unknownOperator => "unknown operator"
  | unescapedParenthesis => "unescaped '(' in value"
  | strayMarker field => "expected '/i' followed by an operator after field '" ++ field ++ "'"

structure Lexeme where
  kind : Token.Kind
  text : Text
  /-- The text from the first character of the lexeme on. -/
  start : Text
deriving DecidableEq, Repr

/-- A place where scanning fails, as the text from there on. -/
structure Lexeme.Fault where
  cause : LexicalCause
  start : Text
deriving DecidableEq, Repr

def Text.offset (whole rest : Text) : Nat := Text.size whole - Text.size rest

def Lexeme.place (whole : Text) (l : Lexeme) : Token := ⟨l.kind, l.text, Text.offset whole l.start⟩

namespace Token

def isFieldChar (c : Char) : Bool := Text.isAlphanumeric c || c == '_' || c == '.'

def isOperatorStart (c : Char) : Bool := ['=', '!', '<', '>', '^', '$', '*', '#'].contains c

def isDelimiter (c : Char) : Bool := [',', '|', ')'].contains c

def isEscapable (c : Char) : Bool :=
  [',', '|', '(', ')', '=', '!', '<', '>', '^', '$', '*', '/', '\\'].contains c

def escape (t : Text) : Text := t.flatMap fun c => if isEscapable c then ['\\', c] else [c]

end Token

@[simp] theorem Text.offset_append (s t : Text) : Text.offset (s ++ t) t = Text.size s := by
  simp [Text.offset]

end FilterLang
