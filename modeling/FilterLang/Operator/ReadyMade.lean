import FilterLang.Operator.Basic

/-!
Ready-made custom operators. Their SQL is a template with places for the column and the literal.
-/

namespace FilterLang.CustomOperator

inductive Rule
  /-- The same kind of value with the same content; null is the same as null. -/
  | same
  /-- Two texts that are equal but for the case of ASCII letters. -/
  | sameTextIgnoringCase
  | literalIsText
  | fieldIsNull
  /-- Both have a text, and the field's has more bytes. -/
  | longer
  | never
  | always
deriving DecidableEq, Repr

def Rule.holds : Rule → Value → Value → Bool
  | same, field, literal => field.same literal
  | sameTextIgnoringCase, .text a, .text b => Text.sameIgnoringAsciiCase a b
  | sameTextIgnoringCase, _, _ => false
  | literalIsText, _, literal => literal.asText?.isSome
  | fieldIsNull, field, _ => field.isNull
  | longer, field, literal =>
    match field.text?, literal.text? with
    | some a, some b => Text.size b < Text.size a
    | _, _ => false
  | never, _, _ => false
  | always, _, _ => true

def fillTemplate (column literal : Text) : Text → Text
  | '\x7b' :: 'c' :: '\x7d' :: t => column ++ fillTemplate column literal t
  | '\x7b' :: 'l' :: '\x7d' :: t => literal ++ fillTemplate column literal t
  | c :: t => c :: fillTemplate column literal t
  | [] => []

def ofRule (identity : Nat) (symbol : Text) (rule : Rule) (template : Option Text) :
    CustomOperator where
  identity := identity
  symbol := symbol
  holds := rule.holds
  sql? column literal := template.map (fillTemplate column literal)

end FilterLang.CustomOperator
