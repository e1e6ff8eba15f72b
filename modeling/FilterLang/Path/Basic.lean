import FilterLang.Value.Basic

/-!
Accessor paths: the hops from a record, or from an element of a collection, to a value. A path that
runs through collections falls into the collections it meets and the path from the last element.
-/

namespace FilterLang

inductive Segment
  | member (name : Text)
  /-- Each element of the collection reached so far. -/
  | each
  /-- The entry of a map, without a key until an indexer gives one. -/
  | key (bound : Option Value)
deriving DecidableEq

abbrev Path := List Segment

namespace Segment

def isEach : Segment → Bool
  | each => true
  | _ => false

def isKey : Segment → Bool
  | key _ => true
  | _ => false

def same : Segment → Segment → Bool
  | key (some a), key (some b) => a.same b
  | a, b => a == b

def text : Segment → Text
  | member name => '.' :: name
  | each => "[*]"
  | key none => "[]"
  | key (some k) => '[' :: k.shown ++ [']']

end Segment

namespace Path

def isNested (p : Path) : Bool := p.any Segment.isEach

def hasKeySlot (p : Path) : Bool := p.any Segment.isKey

def bindKey? (k : Value) : Path → Option Path
  | [] => none
  | .key _ :: rest => some (.key (some k) :: rest)
  | s :: rest => (bindKey? k rest).map (s :: ·)

def splitEach? : Path → Option (Path × Path)
  | [] => none
  | .each :: rest => some ([], rest)
  | s :: rest => (splitEach? rest).map fun (before, after) => (s :: before, after)

/-- The path to the map of the first bound key, and that key. -/
def splitKey? : Path → Option (Path × Value)
  | [] => none
  | .key (some k) :: _ => some ([], k)
  | s :: rest => (splitKey? rest).map fun (before, k) => (s :: before, k)

def extendHops (s : Segment) : List Path × Path → List Path × Path
  | ([], last) => ([], s :: last)
  | (first :: more, last) => ((s :: first) :: more, last)

/-- The collections on the way, each from an element of the one before, and the path from there. -/
def hops : Path → List Path × Path
  | [] => ([], [])
  | .each :: rest => ([] :: (hops rest).1, (hops rest).2)
  | s :: rest => extendHops s (hops rest)

/-- The intermediate hops, any of which may be null: every proper beginning but the empty one. -/
def guards : Path → List Path
  | [] => []
  | [_] => []
  | s :: rest => [s] :: (guards rest).map (s :: ·)

def same : Path → Path → Bool
  | [], [] => true
  | a :: p, b :: q => a.same b && same p q
  | _, _ => false

def text : Path → Text
  | [] => []
  | .member name :: rest => name ++ rest.flatMap Segment.text
  | s :: rest => s.text ++ rest.flatMap Segment.text

@[simp] theorem isNested_nil : isNested [] = false := rfl

@[simp] theorem isNested_cons (s : Segment) (p : Path) :
    isNested (s :: p) = (s.isEach || isNested p) := rfl

theorem bindKey?_isSome (k : Value) (p : Path) : (bindKey? k p).isSome = p.hasKeySlot := by
  induction p with
  | nil => rfl
  | cons s p ih => cases s <;> simp_all [bindKey?, hasKeySlot, Segment.isKey]

@[simp] theorem extendHops_eq_nil_iff (s : Segment) (parts : List Path × Path) :
    (extendHops s parts).1 = [] ↔ parts.1 = [] := by
  rcases parts with ⟨_ | _, _⟩ <;> simp [extendHops]

theorem hops_eq_nil_iff (p : Path) : (hops p).1 = [] ↔ p.isNested = false := by
  induction p with
  | nil => simp [hops]
  | cons s p ih => cases s <;> simp [hops, Segment.isEach, ih]

end Path

end FilterLang
