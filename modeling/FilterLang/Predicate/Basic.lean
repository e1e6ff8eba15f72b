import FilterLang.Json.Basic
import FilterLang.Run
import FilterLang.Value.Node

/-!
Predicates over records. A missing member and a null read alike, and what cannot be reached does
not hold.
-/

namespace FilterLang

inductive Predicate
  | always
  | never
  | and (left right : Predicate)
  | or (left right : Predicate)
  | compare (c : Comparison)
  /-- Some element of the collection satisfies the body. -/
  | any (collection : Path) (guarded : Bool) (body : Predicate)
  | hasKey (map : Path) (key : Value)
  | nullCheck (path : Path) (check : NullCheck)

def Segment.step? (node : Json) : Segment → Option Json
  | .member name => node.get? name
  | .key (some k) => k.text?.bind fun name => node.get? name
  | .key none => none
  | .each => none

def Path.walk? (node : Json) : Path → Option Json
  | [] => some node
  | s :: rest => (s.step? node).bind fun next => walk? next rest

/-- The node at the end of a path, if there is one and it is not null. -/
def Path.resolve? (node : Json) (p : Path) : Option Json :=
  (p.walk? node).filter fun found => !found.isNull

variable [Run]

/-- The value at a path. `drawn` is the identifier that a malformed text is read as. -/
def Path.readValue (drawn : Uuid) (record : Json) (p : Path) (type : FieldType) : Value :=
  Value.ofNode drawn type (p.resolve? record)

namespace Comparison

def equalValues (field literal : Value) : Bool :=
  (field.isNull && literal.isNull) || field.order? literal == some .eq

def textsRelated (relation : TextRelation) (field literal : Value) : Bool :=
  match field.asText?, literal.asText? with
  | some t, some part => relation.holds t part
  | _, _ => false

/-- The field's value as the operator sees it: as text for a text operator, and folded if asked. -/
def viewed (c : Comparison) (field : Value) : Value :=
  let seen :=
    if c.operator.isTextual then
      (field.text?.map Value.text).getD .null
    else field
  if c.ignoresCase then seen.foldCase else seen

def isAbsent (field : Value) : Bool :=
  match field.asText? with
  | some t => t.isEmpty
  | none => true

def related (c : Comparison) (seen : Value) : Bool :=
  match c.operator with
  | .equality negated => equalValues seen c.value != negated
  | .ordering bound => (seen.order? c.value).any bound.accepts
  | .textual relation negated => textsRelated relation seen c.value != negated
  | .custom own => own.holds seen c.value

def holdsOf (c : Comparison) (field : Value) : Bool :=
  if c.matchesAbsent then
    match c.operator with
    | .equality true => !isAbsent field
    | _ => isAbsent field
  else c.related (c.viewed field)

def holds (c : Comparison) (record : Json) : Bool :=
  c.holdsOf (c.path.readValue (Run.compared c record) record c.type)

end Comparison

def NullCheck.holds (check : NullCheck) (present : Bool) : Bool :=
  match check with
  | hasValue => present
  | isNull => !present

def Path.holdsKey (map : Path) (key : Value) (record : Json) : Bool :=
  match map.resolve? record, key.text? with
  | some node, some name => (node.get? name).isSome
  | _, _ => false

/-- The elements of the collection at a path; what is no array has none. -/
def Path.elements (collection : Path) (record : Json) : List Json :=
  match collection.resolve? record with
  | some (.array items) => items
  | _ => []

def Predicate.holds : Predicate → Json → Bool
  | always, _ => true
  | never, _ => false
  | and left right, record => left.holds record && right.holds record
  | or left right, record => left.holds record || right.holds record
  | compare c, record => c.holds record
  | any collection _ body, record => (collection.elements record).any body.holds
  | hasKey map key, record => map.holdsKey key record
  | nullCheck path check, record => check.holds (path.resolve? record).isSome

end FilterLang
