import FilterLang.Expr.Basic
import FilterLang.Mapper.Basic
import FilterLang.Run

/-!
Settling a leaf against a mapper: the field, the operator, the indexer's key, the literal, and the
guards. A leaf has two literals, the key's before the value's.
-/

namespace FilterLang.Mapper

variable [Run]

def keyDraw (serial : Nat) : Uuid := Run.literal (2 * serial)

def valueDraw (serial : Nat) : Uuid := Run.literal (2 * serial + 1)

def bindIndexer (serial : Nat) (f : Field) (indexer : Option Text) : Except Error (Option Path) :=
  match indexer, f.path.hasKeySlot with
  | none, false => .ok (some f.path)
  | none, true => .error (.mapping (.needsIndexer f.name))
  | some _, false => .error (.mapping (.takesNoIndexer f.name))
  | some key, true =>
    match Value.coerce (keyDraw serial) none f.keyType key with
    | .ok key => .ok (f.path.bindKey? key)
    | .error _ => .ok none

structure Literal where
  value : Value
  matchesAbsent : Bool
  ignoresCase : Bool

def rawLiteral (settings : Settings) (f : Field) (op : Operator) (t : Text) : Value :=
  let value := match f.convertor with
    | some convert => convert t
    | none => .text t
  if settings.allowNullSearch && op.isEquality && value == .text "null" then .null else value

/--
The value that is compared, or nothing if the text cannot be read. Text operators compare texts; an
empty literal under equality is null or the empty value; a custom operator gets what cannot be read
as text.
-/
def typedLiteral? (settings : Settings) (serial : Nat) (f : Field) (op : Operator) : Value → Option Value
  | .text t =>
    if f.type = .text || op.isTextual then some (.text t)
    else if t.isEmpty && op.isEquality then some (if f.nullable then .null else f.type.emptyValue)
    else
      match Value.coerce (valueDraw serial) settings.defaultDateTimeKind f.type t with
      | .ok v => some v
      | .error _ => if op.isCustom then some (.text t) else none
  | v => some v

/-- Reading the literal stops the program, whatever the operator does with what cannot be read. -/
def stops (m : Mapper) (f : Field) (op : Operator) (l : Leaf) : Bool :=
  match rawLiteral m.settings f op l.value with
  | .text t =>
    !op.isTextual && !(t.isEmpty && op.isEquality) &&
      Value.overflows m.settings.defaultDateTimeKind f.type t
  | _ => false

/-- `nested` says that the literal is compared inside a collection. -/
def literal? (m : Mapper) (serial : Nat) (f : Field) (op : Operator) (l : Leaf) (nested : Bool) :
    Option Literal :=
  let raw := rawLiteral m.settings f op l.value
  (typedLiteral? m.settings serial f op raw).map fun value =>
    let wanted := l.valueIgnoresCase || l.fieldIgnoresCase ||
      (m.settings.caseInsensitiveFiltering && !nested && f.type == .text)
    let ignoresCase := wanted && !op.isOrdering && !value.isNull
    { value := if ignoresCase then value.foldCase else value
      matchesAbsent := f.type == .text && op.isEquality && raw == .text []
      ignoresCase := ignoresCase }

def scopeOf (guarded : Bool) (innermost : Scope) : List Path → Scope
  | [] => innermost
  | collection :: more => .any collection guarded (scopeOf guarded innermost more)

def comparisonOf (path : Path) (f : Field) (op : Operator) (lit : Literal) : Comparison where
  path := path
  type := f.type
  operator := op
  value := lit.value
  ignoresCase := lit.ignoresCase
  matchesAbsent := lit.matchesAbsent

def nestedOf (m : Mapper) (serial : Nat) (f : Field) (path : Path) (op : Operator) (l : Leaf) :
    Nested where
  field := f
  rawValue := l.value
  operator := op
  scope :=
    let (collections, element) := path.hops
    let innermost := match m.literal? serial f op l true with
      | some lit => Scope.compare (comparisonOf element f op lit)
      | none => Scope.never
    scopeOf (!m.settings.disableCollectionNullChecks) innermost collections

def guardsOf (settings : Settings) (indexed : Bool) (c : Comparison) : List Guard :=
  if indexed then
    if settings.disableCollectionNullChecks then []
    else
      match c.path.splitKey? with
      | some (map, key) => [.hasKey map key]
      | none => []
  else if settings.avoidNullReference then
    c.path.guards.reverse.map (if c.outcomeOnNull then .orNull else .hasValue)
  else []

def planOf (m : Mapper) (serial : Nat) (f : Field) (op : Operator) (path : Path) (l : Leaf) : Plan :=
  if f.isNested then .nested (m.nestedOf serial f path op l)
  else
    match m.literal? serial f op l false with
    | none => .never path
    | some lit =>
      let c := comparisonOf path f op lit
      .compare c (guardsOf m.settings l.indexer.isSome c)

def fieldName (l : Leaf) : Text := l.field.trim

def plan (m : Mapper) (serial : Nat) (l : Leaf) : Except Error Plan :=
  match m.get? (fieldName l) with
  | none =>
    if m.settings.ignoreUnmappedFields then .ok .always
    else .error (.mappingNotFound (fieldName l))
  | some f =>
    match m.registry.resolve? l.symbol with
    | none => .error (.unknownOperator l.symbol)
    | some op => do
      match ← bindIndexer serial f l.indexer with
      | none => return .never f.path
      | some path =>
        if m.stops f op l then throw .stopped
        else return m.planOf serial f op path l

end FilterLang.Mapper
