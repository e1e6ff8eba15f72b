import FilterLang.Mapper.Field
import FilterLang.Operator.Basic

/-!
What a leaf asks once its field, its operator and its literal are settled: a comparison of the
value at a path, on its own or for some element of the collections on the way.
-/

namespace FilterLang

structure Comparison where
  /-- From the record, or from the innermost element, to the value. -/
  path : Path
  type : FieldType
  operator : Operator
  /-- The literal, as text where it was not coerced. -/
  value : Value
  /-- Both sides are compared in lower case. -/
  ignoresCase : Bool
  /-- Null and the empty text are one and the same absent state. -/
  matchesAbsent : Bool

def Comparison.outcomeOnNull (c : Comparison) : Bool :=
  match c.operator with
  | .equality false => c.matchesAbsent || c.value.isNull
  | .equality true => !c.matchesAbsent && !c.value.isNull
  | .ordering _ => false
  | .textual _ negated => negated
  | .custom _ => false

/-- A condition on an element, under the collections that it is reached through. -/
inductive Scope
  /-- Some element of the collection satisfies the body. -/
  | any (collection : Path) (guarded : Bool) (body : Scope)
  | compare (c : Comparison)
  /-- The literal cannot be read, so no element satisfies it. -/
  | never

structure Nested where
  field : Field
  rawValue : Text
  operator : Operator
  scope : Scope

inductive NullCheck
  | hasValue
  | isNull
deriving DecidableEq, Repr

/-- What stands before a comparison on a path that may break off. -/
inductive Guard
  /-- The map must hold the key. -/
  | hasKey (map : Path) (key : Value)
  /-- The hop must have a value. -/
  | hasValue (path : Path)
  /-- The comparison already holds where the hop is null. -/
  | orNull (path : Path)

inductive Plan
  | always
  | never (path : Path)
  | nested (n : Nested)
  /-- The guards are put in front one after the other, the first one innermost. -/
  | compare (c : Comparison) (guards : List Guard)

end FilterLang
