import FilterLang.Error
import FilterLang.Mapper.Field
import FilterLang.Settings.Basic

/-!
Mappers: fields by name, with the options and the operators that compiling with them uses. No two
fields have names that match.
-/

namespace FilterLang

structure Mapper where
  fields : List Field := []
  settings : Settings := {}
  registry : Registry := {}

namespace Mapper

def namesMatch (settings : Settings) (a b : Text) : Bool :=
  if settings.caseSensitiveMapping then a == b else Text.sameIgnoringAsciiCase a b

def get? (m : Mapper) (name : Text) : Option Field :=
  m.fields.find? fun f => namesMatch m.settings f.name name

def contains (m : Mapper) (name : Text) : Bool := (m.get? name).isSome

def erase (m : Mapper) (name : Text) : Mapper :=
  { m with fields := m.fields.filter fun f => !namesMatch m.settings f.name name }

/-- A field whose name matches is replaced; the new one comes last. -/
def add (m : Mapper) (f : Field) : Mapper :=
  { m with fields := (m.erase f.name).fields ++ [f] }

def remove (m : Mapper) (name : Text) : Mapper × Bool := (m.erase name, m.contains name)

def resolve (m : Mapper) (name : Text) : Except Error Field :=
  match m.get? name with
  | some f => .ok f
  | none => .error (.mappingNotFound name)

def readPath (t : Text) : Except Error Path :=
  (Path.read t).mapError fun fault => .mapping (.invalidPath t fault)

def addText (m : Mapper) (name path : Text) (type : FieldType) : Except Error Mapper := do
  return m.add { name := name, path := ← readPath path, type := type }

def register (m : Mapper) (own : CustomOperator) : Except Error Mapper :=
  match m.registry.register own with
  | .ok registry => .ok { m with registry := registry }
  | .error bad => .error (.configuration (.badSymbol bad))

@[simp] theorem get?_erase_self (m : Mapper) (name : Text) : (m.erase name).get? name = none := by
  simp [erase, get?]

end Mapper

end FilterLang
