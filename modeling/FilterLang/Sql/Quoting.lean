import FilterLang.Text.Basic

/-!
Quoting in SQL. Identifiers stand between double quotes and strings between single ones, and a
quote of the same sort inside is written twice.
-/

namespace FilterLang.Sql

def doubled (quote : Char) : Text → Text
  | [] => []
  | c :: t => if c = quote then quote :: quote :: doubled quote t else c :: doubled quote t

def enclosed (quote : Char) (t : Text) : Text := quote :: doubled quote t ++ [quote]

def identifier (name : Text) : Text := enclosed '"' name

def string (t : Text) : Text := enclosed '\'' t

end FilterLang.Sql
