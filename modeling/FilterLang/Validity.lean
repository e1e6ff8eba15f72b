import FilterLang.Expr.Reading
import FilterLang.Mapper.Basic
import FilterLang.Order.Entry

/-!
Whether a filter or an ordering is valid for a mapper, without compiling it.
-/

namespace FilterLang.Mapper

def acceptsLeaf (m : Mapper) (l : Leaf) : Bool :=
  match m.get? l.field.trim with
  | some f => l.indexer.isSome == f.path.hasKeySlot && (m.registry.resolve? l.symbol).isSome
  | none => false

def acceptsFilter (m : Mapper) (t : Text) : Bool :=
  Text.allBlank t ||
    match Expr.read m.registry m.settings.maxDepth.toNat t with
    | .ok e => e.leaves.all m.acceptsLeaf
    | .error _ => false

def acceptsEntry (m : Mapper) (entry : OrderEntry) : Bool :=
  match m.get? entry.field with
  | some f => !f.isNested && entry.indexer.isSome == f.path.hasKeySlot
  | none => false

def acceptsOrdering (m : Mapper) (t : Text) : Bool :=
  match OrderEntry.readAll t with
  | .ok entries => entries.all m.acceptsEntry
  | .error _ => false

end FilterLang.Mapper
