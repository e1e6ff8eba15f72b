import FilterLang.Path.Basic
import FilterLang.Text.Quoted

/-!
Fields: the public name under which filters and orderings speak of a path, with the type of what
stands there.
-/

namespace FilterLang

structure Field where
  name : Text
  path : Path
  type : FieldType
  /-- Whether an empty literal means null and not the empty value of the type. -/
  nullable : Bool := false
  /-- The type of the keys of the map on the path. -/
  keyType : FieldType := .text
  /-- Reads literals in place of the coercion to the type. -/
  convertor : Option (Text → Value) := none

namespace Field

def isNested (f : Field) : Bool := f.path.isNested

def typeWord : FieldType → Text
  | .text => "Text"
  | .int => "Int"
  | .float => "Float"
  | .bool => "Bool"
  | .uuid => "Uuid"
  | .dateTime => "DateTime"
  | .date => "Date"

def boolWord (b : Bool) : Text := if b then "true" else "false"

def description (f : Field) : Text :=
  "FieldMap \x7b name: " ++ f.name.quoted ++ ", path: " ++ f.path.text.quoted ++
    ", field_type: " ++ typeWord f.type ++ ", nullable: " ++ boolWord f.nullable ++
    ", key_type: " ++ typeWord f.keyType ++ ", convertor: " ++ boolWord f.convertor.isSome ++ " \x7d"

end Field

namespace Convertor

def upper (t : Text) : Value := .text (Text.upperAscii t)

def stripHash (t : Text) : Value := .text (t.dropWhile (· = '#'))

def length (t : Text) : Value := .int (Int64.ofNat t.length)

def yesNo (t : Text) : Value :=
  if t = "yes".toList then .bool true else if t = "no".toList then .bool false else .text t

def alwaysNull (_ : Text) : Value := .null

end Convertor

end FilterLang
