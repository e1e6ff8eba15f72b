import FilterLang.Token.Basic

/-!
What can be wrong with the tokens of a filter or of an ordering.
-/

namespace FilterLang

inductive Wanted
  | term
  | closeParen
  | indexerKey
  | closeBracket
  | value
deriving DecidableEq, Repr

inductive SyntaxCause
  | unbalancedClose
  | unexpected (found : Token)
  | expected (wanted : Wanted) (found : Option Token)
  | tooDeep (limit : Nat)
  | operatorWithoutField (symbol : Text)
  | expectedOperator (field : Text) (found : Option Token)
  | expectedFieldName (found : Text)
  | emptyEntry
  | malformedIndexer
  | unexpectedInEntry (found field : Text)
deriving DecidableEq, Repr

def Wanted.description : Wanted → Text
  | term => "a field or '('"
  | closeParen => "')'"
  | indexerKey => "indexer key"
  | closeBracket => "']'"
  | value => "value"

def SyntaxCause.message : SyntaxCause → Text
  | unbalancedClose => "unbalanced ')'"
  | unexpected found => "unexpected " ++ found.description
  | expected wanted (some found) =>
    "expected " ++ wanted.description ++ ", found " ++ found.description
  | expected wanted none => "expected " ++ wanted.description ++ ", found end of input"
  | tooDeep limit => "filter nests deeper than " ++ Text.decimal limit ++ " levels"
  | operatorWithoutField symbol => "operator '" ++ symbol ++ "' without a preceding field"
  | expectedOperator field (some found) =>
    "expected operator after field '" ++ field ++ "', found " ++ found.description
  | expectedOperator field none => "expected operator after field '" ++ field ++ "'"
  | expectedFieldName found => "expected a field name, found '" ++ found ++ "'"
  | emptyEntry => "empty ordering entry"
  | malformedIndexer => "malformed indexer"
  | unexpectedInEntry found field =>
    "unexpected '" ++ found ++ "' in ordering entry for '" ++ field ++ "'"

structure SyntaxFault where
  position : Nat
  cause : SyntaxCause
deriving DecidableEq, Repr

end FilterLang
