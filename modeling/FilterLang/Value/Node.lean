import FilterLang.Json.Basic
import FilterLang.Value.Coercion

/-!
Reading a node of a record as a value of the declared type. A missing node, JSON null and a node
that cannot be read as that type are all null.
-/

namespace FilterLang.Value

def ofNumber (type : FieldType) (n : Json.Number) : Value :=
  match type, n with
  | .text, n => text n.text
  | .int, .whole i => ((wordOfInt? i).map int).getD null
  | .float, .whole i => float (Double.ofInt i)
  | .float, .real x => float x
  | _, _ => null

variable [Zone]

/-- `drawn` is the identifier that a malformed text of type uuid is read as. -/
def ofNode (drawn : Uuid) (type : FieldType) : Option Json → Value
  | some (.string t) => (coerce drawn none type t).toOption.getD null
  | some (.number n) => ofNumber type n
  | some (.bool b) =>
    match type with
    | .text => text (if b then "true" else "false")
    | .bool => bool b
    | _ => null
  | _ => null

@[simp] theorem ofNode_none (drawn : Uuid) (type : FieldType) : ofNode drawn type none = null :=
  rfl

@[simp] theorem ofNode_null (drawn : Uuid) (type : FieldType) :
    ofNode drawn type (some .null) = null := rfl

end FilterLang.Value
