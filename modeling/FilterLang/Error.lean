import FilterLang.Expr.Fault
import FilterLang.Operator.Registry
import FilterLang.Path.Reading
import FilterLang.Value.Coercion

/-!
Why a request fails. Every failure is a cause; its wording is in one function.
-/

namespace FilterLang

inductive MappingCause
  | invalidPath (path : Text) (fault : Path.Fault)
  | needsIndexer (field : Text)
  | takesNoIndexer (field : Text)
  | invalidIndexer (field : Text) (error : CoercionError)
  | orderByCollection (field : Text)
deriving DecidableEq

inductive Refusal
  | comparison (symbol field : Text)
  | collection (field : Text)
deriving DecidableEq

inductive ConfigurationCause
  | badSymbol (error : Registry.BadSymbol)
  | unreadableSettings
  | unreadableSchema
deriving DecidableEq

inductive Error
  | lexical (offset : Nat) (cause : LexicalCause)
  | syntactic (fault : SyntaxFault)
  | mappingNotFound (field : Text)
  | mapping (cause : MappingCause)
  | unknownOperator (symbol : Text)
  | invalidExpression (refusal : Refusal)
  | configuration (cause : ConfigurationCause)
  | missingFile
  | malformedRequest
  | invalidIdentifier (name : Text)
  | database (message : Text)
  /-- No failure that is reported: the program stops. -/
  | stopped
deriving DecidableEq

def MappingCause.message : MappingCause → Text
  | invalidPath path fault => "Invalid path '" ++ path ++ "': " ++ fault.message
  | needsIndexer field => "Field '" ++ field ++ "' requires an indexer"
  | takesNoIndexer field => "Field '" ++ field ++ "' does not support an indexer"
  | invalidIndexer field error => "Invalid indexer for '" ++ field ++ "': " ++ error.message
  | orderByCollection field => "Cannot order by collection field '" ++ field ++ "'"

def Refusal.message : Refusal → Text
  | comparison symbol field => "cannot build '" ++ symbol ++ "' comparison for '" ++ field ++ "'"
  | collection field => "cannot build nested query for '" ++ field ++ "'"

def ConfigurationCause.message : ConfigurationCause → Text
  | badSymbol error => error.message
  | unreadableSettings => "Failed to parse config"
  | unreadableSchema => "Failed to parse mapping schema"

/-- Missing files and malformed requests are reported by their kind alone, and a stop not at all. -/
def Error.message? : Error → Option Text
  | lexical offset cause =>
    some ("Lexical error at offset " ++ Text.decimal offset ++ ": " ++ cause.message)
  | syntactic fault =>
    some ("Syntax error at position " ++ Text.decimal fault.position ++ ": " ++ fault.cause.message)
  | mappingNotFound field => some ("Mapping '" ++ field ++ "' not found")
  | mapping cause => some ("Mapping error: " ++ cause.message)
  | unknownOperator symbol => some ("Unknown operator '" ++ symbol ++ "'")
  | invalidExpression refusal => some ("Invalid expression: " ++ refusal.message)
  | configuration cause => some ("Configuration error: " ++ cause.message)
  | missingFile => none
  | malformedRequest => none
  | invalidIdentifier name => some ("Invalid identifier: " ++ name)
  | database message => some ("DuckDB error: " ++ message)
  | stopped => none

end FilterLang
