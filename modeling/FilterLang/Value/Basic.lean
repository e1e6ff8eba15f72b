import FilterLang.Calendar.DateTime
import FilterLang.Number.Written
import FilterLang.Text.Lowercase
import FilterLang.Uuid.Basic

/-!
Typed values: what a literal stands for, and what a node of a record holds. Values of one kind
compare; nulls and mixed kinds do not, but for a whole number beside a double.
-/

namespace FilterLang

inductive FieldType
  | text
  | int
  | float
  | bool
  | uuid
  | dateTime
  | date
deriving DecidableEq, Repr

inductive Value
  | null
  | bool (b : Bool)
  | int (n : Int64)
  | float (x : Double)
  | text (t : Text)
  | uuid (u : Uuid)
  | dateTime (t : DateTime)
  | date (d : Date)
deriving DecidableEq

namespace FieldType

def name : FieldType → Text
  | text => "text"
  | int => "int"
  | float => "float"
  | bool => "bool"
  | uuid => "uuid"
  | dateTime => "date_time"
  | date => "date"

def all : List FieldType := [text, int, float, bool, uuid, dateTime, date]

def ofName? (name : Text) : Option FieldType := all.find? fun type => type.name = name

theorem ofName?_name (type : FieldType) : ofName? type.name = some type := by
  cases type <;> decide

/-- What a field that is never null holds where a filter gives no text. -/
def emptyValue : FieldType → Value
  | text => .text []
  | int => .int 0
  | float => .float Double.zero
  | bool => .bool false
  | uuid => .uuid Uuid.nil
  | dateTime => .dateTime (DateTime.midnight Date.first)
  | date => .date Date.first

end FieldType

namespace Value

def type? : Value → Option FieldType
  | null => none
  | bool _ => some .bool
  | int _ => some .int
  | float _ => some .float
  | text _ => some .text
  | uuid _ => some .uuid
  | dateTime _ => some .dateTime
  | date _ => some .date

def isNull : Value → Bool
  | null => true
  | _ => false

def asText? : Value → Option Text
  | text t => some t
  | _ => none

def text? : Value → Option Text
  | null => none
  | bool b => some (if b then "true" else "false")
  | int n => some (Text.decimalInt n.toInt)
  | float x => some (Double.Form.plain.write x)
  | text t => some t
  | uuid u => some u.text
  | dateTime t => some t.text
  | date d => some d.text

/-- The text tells the value from the others of its kind. -/
def Tells : Value → Prop
  | dateTime t => t.Tells
  | _ => True

def shown (v : Value) : Text := v.text?.getD "null"

def order? : Value → Value → Option Ordering
  | bool a, bool b => some (compare a.toNat b.toNat)
  | int a, int b => some (compare a.toInt b.toInt)
  | float a, float b => a.order? b
  | int a, float b => (Double.ofInt a.toInt).order? b
  | float a, int b => a.order? (Double.ofInt b.toInt)
  | text a, text b => some (a.order b)
  | uuid a, uuid b => some (a.order b)
  | dateTime a, dateTime b => some (a.order b)
  | date a, date b => some (a.order b)
  | _, _ => none

/-- For sorting: nulls come first, and values that do not compare tie. -/
def sortOrder (a b : Value) : Ordering :=
  match a.isNull, b.isNull with
  | true, true => .eq
  | true, false => .lt
  | false, true => .gt
  | false, false => (a.order? b).getD .eq

/-- Sameness of kind and content, where doubles are compared as numbers. -/
def same : Value → Value → Bool
  | float a, float b => a.same b
  | a, b => a == b

def foldCase : Value → Value
  | text t => text t.lowercase
  | v => v

theorem text?_eq_none_iff {v : Value} : v.text? = none ↔ v = null := by
  cases v <;> simp [text?]

theorem FieldType.type?_emptyValue (type : FieldType) : type.emptyValue.type? = some type := by
  cases type <;> rfl

end Value

end FilterLang
