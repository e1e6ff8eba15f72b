import FilterLang.Mapper.Basic
import FilterLang.Order.Entry
import FilterLang.Predicate.Basic
import FilterLang.StableSort

/-!
Sort keys: entries settled against a mapper, and the order of records that they make.
-/

namespace FilterLang

structure SortKey where
  field : Text
  path : Path
  type : FieldType
  direction : Direction
  nullOrder : NullOrder
deriving DecidableEq

namespace SortKey

variable [Run]

def keyDraw (serial : Nat) : Uuid := Run.literal serial

def bindIndexer (serial : Nat) (f : Field) (indexer : Option Text) : Except Error Path :=
  match indexer, f.path.hasKeySlot with
  | none, false => .ok f.path
  | none, true => .error (.mapping (.needsIndexer f.name))
  | some _, false => .error (.mapping (.takesNoIndexer f.name))
  | some key, true =>
    match Value.coerce (keyDraw serial) none f.keyType key with
    | .ok key => .ok ((f.path.bindKey? key).getD f.path)
    | .error error => .error (.mapping (.invalidIndexer f.name error))

def ofEntry? (m : Mapper) (serial : Nat) (entry : OrderEntry) : Except Error (Option SortKey) :=
  match m.get? entry.field with
  | none =>
    if m.settings.ignoreUnmappedFields then .ok none
    else .error (.mappingNotFound entry.field)
  | some f =>
    if f.isNested then .error (.mapping (.orderByCollection f.name))
    else do
      let path ← bindIndexer serial f entry.indexer
      return some ⟨f.name, path, f.type, entry.direction, entry.nullOrder⟩

def ofEntries (m : Mapper) (serial : Nat) : List OrderEntry → Except Error (List SortKey)
  | [] => .ok []
  | entry :: entries => do
    let key ← ofEntry? m serial entry
    let keys ← ofEntries m (serial + 1) entries
    return key.toList ++ keys

def ofText (m : Mapper) (t : Text) : Except Error (List SortKey) := do
  ofEntries m 0 (← OrderEntry.readAll t)

/-- What a record is sorted by. `drawn` is the identifier that a malformed text is read as. -/
def valueOf (key : SortKey) (drawn : Uuid) (record : Json) : Value :=
  let value := key.path.readValue drawn record key.type
  match key.nullOrder with
  | .natural => value
  | .hasValue => .bool (!value.isNull)
  | .isNull => .bool value.isNull

def order (key : SortKey) (a b : Json) : Ordering :=
  let drawn := Run.sorted key.path a b
  let ordering := (key.valueOf drawn.1 a).sortOrder (key.valueOf drawn.2 b)
  match key.direction with
  | .ascending => ordering
  | .descending => ordering.swap

def orderAll : List SortKey → Json → Json → Ordering
  | [], _, _ => .eq
  | key :: keys, a, b => (key.order a b).then (orderAll keys a b)

/-- Items sorted by their records, if the sort does not stop. Without keys nothing is sorted. -/
def sort? {α : Type} (keys : List SortKey) (record : α → Json) (items : List α) : Option (List α) :=
  if keys.isEmpty then some items
  else Run.sort? (fun a b => orderAll keys (record a) (record b)) items

end SortKey

end FilterLang
