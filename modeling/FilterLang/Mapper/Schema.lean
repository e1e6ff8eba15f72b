import FilterLang.Mapper.Basic
import FilterLang.Toml.Reading

/-!
Mapping schemas: TOML documents with an array of fields. A field is a table, or an array of its
members in order.
-/

namespace FilterLang.Mapper

structure SchemaField where
  name : Text
  path : Text
  type : FieldType
  nullable : Bool
  keyType : Option FieldType

namespace SchemaField

def typeOf? (value : Toml) : Option FieldType := value.asWordOfChoice?.bind FieldType.ofName?

def optional? {α : Type} (read? : Toml → Option α) : Option Toml → Option (Option α)
  | none => some none
  | some value => (read? value).map some

def ofDocument? (document : Toml) : Option SchemaField :=
  match document with
  | .table _ => do
    return {
      name := ← (← document.get? "name").asText?
      path := ← (← document.get? "path").asText?
      type := ← typeOf? (← document.get? "type")
      nullable := (← optional? Toml.asBool? (document.get? "nullable")).getD false
      keyType := ← optional? typeOf? (document.get? "key_type") }
  | .array (name :: path :: type :: nullable :: keyType :: _) => do
    return {
      name := ← name.asText?
      path := ← path.asText?
      type := ← typeOf? type
      nullable := ← nullable.asBool?
      keyType := some (← typeOf? keyType) }
  | _ => none

def field (f : SchemaField) : Except Error Field := do
  return {
    name := f.name
    path := ← readPath f.path
    type := f.type
    nullable := f.nullable
    keyType := f.keyType.getD .text }

end SchemaField

def schemaOf? (document : Toml) : Option (List SchemaField) :=
  match document.get? "fields" with
  | none => some []
  | some (.array fields) => fields.mapM SchemaField.ofDocument?
  | some _ => none

def readSchema (t : Text) : Except Error (List SchemaField) :=
  match (Toml.read? t).bind schemaOf? with
  | some fields => .ok fields
  | none => .error (.configuration .unreadableSchema)

def addSchema (m : Mapper) (t : Text) : Except Error Mapper := do
  (← readSchema t).foldlM (fun m f => f.field.map m.add) m

end FilterLang.Mapper
