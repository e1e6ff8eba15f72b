import FilterLang.Path.Basic
import FilterLang.Sql.Quoting

/-!
Values as SQL literals, and paths as column expressions: members are columns and the fields of
structures, bound keys are looked up in maps.
-/

namespace FilterLang.Sql

def literal : Value → Text
  | .null => "NULL"
  | .bool b => if b then "TRUE" else "FALSE"
  | .int n => Text.decimalInt n.toInt
  | .float x =>
    if x.isFinite then Double.Form.sql.write x
    else '\'' :: Double.Form.plain.write x ++ "'::DOUBLE"
  | .text t => string t
  | .uuid u => '\'' :: u.text ++ "'::UUID"
  | .dateTime t => "TIMESTAMP '" ++ t.textWith ' ' ++ ['\'']
  | .date d => "DATE '" ++ d.text ++ ['\'']

def hop (base : Option Text) (s : Segment) : Text :=
  match s, base with
  | .member name, none => identifier name
  | .member name, some base => base ++ '.' :: identifier name
  | .key (some k), some base => "map_extract(" ++ base ++ ", " ++ literal k ++ ")[1]"
  | _, base => base.getD []

def column (root : Option Text) (p : Path) : Text :=
  (p.foldl (fun base s => some (hop base s)) root).getD []

theorem column_cons (root : Option Text) (s : Segment) (p : Path) :
    column root (s :: p) = column (some (hop root s)) p := rfl

end FilterLang.Sql
