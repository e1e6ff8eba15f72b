import Mathlib
import FilterLang.Proofs.Predicate.Elements
import FilterLang.Proofs.Predicate.Nulls

/-!
Entries of maps. A leaf with an indexer asks of some element on the way to the map that the map holds the key
and that the comparison holds of the entry. Of a map without the key only a leaf on a field inside
collections can hold, and only where no collection comes after the map: it reads the missing entry as null.
-/

namespace FilterLang

open Mapper

namespace Path

theorem hasKeySlot_cons (s : Segment) (p : Path) :
    hasKeySlot (s :: p) = (s.isKey || p.hasKeySlot) := rfl

theorem exists_slot_of_hasKeySlot {p : Path} (h : p.hasKeySlot = true) :
    ∃ (before : Path) (slot : Option Value) (after : Path),
      p = before ++ .key slot :: after ∧ before.hasKeySlot = false := by
  induction p with
  | nil => cases h
  | cons s p ih =>
      cases hs : s.isKey with
      | true =>
          cases s with
          | key slot => exact ⟨[], slot, p, rfl, rfl⟩
          | member name => cases hs
          | each => cases hs
      | false =>
          rw [hasKeySlot_cons, hs, Bool.false_or] at h
          obtain ⟨before, slot, after, rfl, hbefore⟩ := ih h
          refine ⟨s :: before, slot, after, rfl, ?_⟩
          rw [hasKeySlot_cons, hs, Bool.false_or, hbefore]

theorem bindKey?_cons {s : Segment} (h : s.isKey = false) (k : Value) (p : Path) :
    bindKey? k (s :: p) = (bindKey? k p).map (s :: ·) := by
  cases s with
  | key bound => cases h
  | member name => rfl
  | each => rfl

theorem splitKey?_cons {s : Segment} (h : s.isKey = false) (p : Path) :
    splitKey? (s :: p) = (splitKey? p).map fun (before, k) => (s :: before, k) := by
  cases s with
  | key bound => cases h
  | member name => rfl
  | each => rfl

theorem bindKey?_append {before : Path} (h : before.hasKeySlot = false) (k : Value) (slot : Option Value)
    (after : Path) :
    bindKey? k (before ++ .key slot :: after) = some (before ++ .key (some k) :: after) := by
  induction before with
  | nil => rfl
  | cons s before ih =>
      rw [hasKeySlot_cons, Bool.or_eq_false_iff] at h
      rw [List.cons_append, bindKey?_cons h.1, ih h.2]
      rfl

theorem splitKey?_append {before : Path} (h : before.hasKeySlot = false) (k : Value) (after : Path) :
    splitKey? (before ++ .key (some k) :: after) = some (before, k) := by
  induction before with
  | nil => rfl
  | cons s before ih =>
      rw [hasKeySlot_cons, Bool.or_eq_false_iff] at h
      rw [List.cons_append, splitKey?_cons h.1, ih h.2]
      rfl

theorem resolve?_eq_none_of_not_holdsKey {map : Path} {k : Value} {node : Json}
    (h : map.holdsKey k node = false) (after : Path) :
    (map ++ .key (some k) :: after).resolve? node = none := by
  cases hmap : map.resolve? node with
  | none => exact resolve?_append_of_none (List.cons_ne_nil _ _) hmap
  | some entries =>
      have hwalk : map.walk? node = some entries := (Option.filter_eq_some_iff.1 hmap).1
      have hentry : (Segment.key (some k)).step? entries = none := by
        unfold holdsKey at h
        rw [hmap] at h
        cases hname : k.text? with
        | none => simp [Segment.step?, hname]
        | some name => simpa [Segment.step?, hname] using h
      rw [resolve?, walk?_append, hwalk, Option.bind_some, walk?, hentry]
      rfl

theorem elements_of_broken {collection : Path} {node : Json} (h : collection.resolve? node = none) :
    collection.elements node = [] := by
  rw [elements, h]

end Path

namespace Mapper

variable [Run]

/-- The comparison of a leaf with its literal at the end of a path, from some innermost element of the path's
collections on. -/
def holdsAt (m : Mapper) (serial : Nat) (f : Field) (op : Operator) (l : Leaf) (path : Path) :
    Json → Bool :=
  holdsAlong (fun element => (m.literal? serial f op l f.isNested).any fun lit =>
    (comparisonOf path.hops.2 f op lit).holds element) path.hops.1

/-- Whether the comparison of a leaf with its literal holds of null. -/
def holdsOfNull (m : Mapper) (serial : Nat) (f : Field) (op : Operator) (l : Leaf) : Bool :=
  (m.literal? serial f op l f.isNested).any fun lit => (comparisonOf f.path f op lit).holdsOf .null

variable {m : Mapper} {serial : Nat} {f : Field} {op : Operator} {l : Leaf}

theorem holdsAt_of_splitEach? {p collection rest : Path} (h : p.splitEach? = some (collection, rest))
    (record : Json) :
    m.holdsAt serial f op l p record =
      (collection.elements record).any (m.holdsAt serial f op l rest) := by
  unfold holdsAt
  rw [Path.hops_of_splitEach? h]
  rfl

theorem holdsAt_append (p q : Path) (record : Json) :
    m.holdsAt serial f op l (p ++ q) record =
      (Path.innermost p.hops.1 record).any (m.holdsAt serial f op l (p.hops.2 ++ q)) := by
  induction hcollections : p.hops.1 generalizing p record with
  | nil =>
      have hflat := (Path.hops_eq_nil_iff p).1 hcollections
      rw [Path.hops_of_flat hflat]
      simp [Path.innermost]
  | cons collection more ih =>
      have hnested : p.isNested = true := by
        rw [← Bool.not_eq_false, ← Path.hops_eq_nil_iff, hcollections]
        exact List.cons_ne_nil _ _
      obtain ⟨first, rest, hsplit⟩ := Path.exists_splitEach? hnested
      have hhops := Path.hops_of_splitEach? hsplit
      rw [hhops] at hcollections
      cases hcollections
      have hrest : m.holdsAt serial f op l (rest ++ q) = fun element =>
          (Path.innermost rest.hops.1 element).any (m.holdsAt serial f op l (rest.hops.2 ++ q)) := by
        funext element
        exact ih rest element rfl
      rw [holdsAt_of_splitEach? (Path.splitEach?_append hsplit q), hhops, Path.innermost,
        List.any_flatMap, hrest]

/-- Where the map does not hold the key, the comparison can hold only of null, and of an element of nothing
not at all. -/
theorem holdsKey_or_holdsOfNull {map : Path} (hflat : map.isNested = false) {k : Value} {after : Path}
    {node : Json} (h : m.holdsAt serial f op l (map ++ .key (some k) :: after) node = true) :
    map.holdsKey k node = true ∨ after.isNested = false ∧ m.holdsOfNull serial f op l = true := by
  cases hkey : map.holdsKey k node with
  | true => exact .inl rfl
  | false =>
      refine .inr ?_
      cases hsplit : after.splitEach? with
      | some parts =>
          obtain ⟨collection, rest⟩ := parts
          have hwhole : Path.splitEach? (map ++ .key (some k) :: after) =
              some (map ++ .key (some k) :: collection, rest) := by
            rw [Path.splitEach?_flat_append hflat, Path.splitEach?_cons rfl, hsplit]
            rfl
          rw [holdsAt_of_splitEach? hwhole,
            Path.elements_of_broken (Path.resolve?_eq_none_of_not_holdsKey hkey collection)] at h
          cases h
      | none =>
          have hafter : after.isNested = false := Path.splitEach?_eq_none_iff.1 hsplit
          have hwhole : Path.isNested (map ++ .key (some k) :: after) = false := by
            rw [Path.isNested_append, hflat, Path.isNested_cons, hafter]
            rfl
          refine ⟨hafter, ?_⟩
          unfold holdsAt at h
          simp only [Path.hops_of_flat hwhole, holdsAlong, Comparison.holds, comparisonOf, Path.readValue,
            Path.resolve?_eq_none_of_not_holdsKey hkey after, Value.ofNode_none] at h
          exact h

end Mapper

/-- The leaf is on a field with a map on its way and has a key for it, and its literal stops nothing. -/
structure Leaf.AsksEntry [Run] (m : Mapper) (f : Field) (op : Operator) (key : Text) (l : Leaf) : Prop where
  field : m.get? (fieldName l) = some f
  operator : m.registry.resolve? l.symbol = some op
  slotted : f.path.hasKeySlot = true
  indexer : l.indexer = some key
  goes : m.stops f op l = false

namespace Leaf.AsksEntry

variable [Run] {m : Mapper} {serial : Nat} {f : Field} {op : Operator} {key : Text} {l : Leaf}

theorem bound_none (h : l.AsksEntry m f op key) {error : CoercionError}
    (hkey : Value.coerce (keyDraw serial) none f.keyType key = .error error) :
    bindIndexer serial f l.indexer = .ok none := by
  simp only [bindIndexer, h.indexer, h.slotted, hkey]

theorem bound_some (h : l.AsksEntry m f op key) {k : Value}
    (hkey : Value.coerce (keyDraw serial) none f.keyType key = .ok k) {before after : Path}
    {slot : Option Value} (hpath : f.path = before ++ .key slot :: after)
    (hbefore : before.hasKeySlot = false) :
    bindIndexer serial f l.indexer = .ok (some (before ++ .key (some k) :: after)) := by
  simp only [bindIndexer, h.indexer, h.slotted, hkey]
  rw [hpath, Path.bindKey?_append hbefore]

theorem meaning_holds (h : l.AsksEntry m f op key) (hchecks : m.settings.disableCollectionNullChecks = false)
    {k : Value} (hkey : Value.coerce (keyDraw serial) none f.keyType key = .ok k) {before after : Path}
    {slot : Option Value} (hpath : f.path = before ++ .key slot :: after)
    (hbefore : before.hasKeySlot = false) (record : Json) :
    (l.meaning m serial).holds record = ((f.isNested || before.holdsKey k record) &&
      m.holdsAt serial f op l (before ++ .key (some k) :: after) record) := by
  have hbound := h.bound_some hkey hpath hbefore
  have hnested : Path.isNested (before ++ .key (some k) :: after) = f.isNested :=
    isNested_bindIndexer hbound
  unfold Leaf.meaning
  simp only [h.field, h.operator, hbound, meaningOf]
  cases hsplit : Path.splitEach? (before ++ .key (some k) :: after) with
  | some parts =>
      have hfield : f.isNested = true := hnested.symm.trans (Path.isNested_of_splitEach? hsplit)
      rw [holdsAt_of_splitEach? hsplit]
      unfold holdsAt
      rw [hfield]
      rfl
  | none =>
      have hflat : Path.isNested (before ++ .key (some k) :: after) = false :=
        Path.splitEach?_eq_none_iff.1 hsplit
      unfold holdsAt
      rw [← hnested, Path.hops_of_flat hflat, hflat]
      simp only [Meaning.holds, holdsAlong, h.indexer, guardedHolds, hchecks, comparisonOf,
        Path.splitKey?_append hbefore]
      cases m.literal? serial f op l false <;> simp

theorem holds_iff (h : l.AsksEntry m f op key) (hchecks : m.settings.disableCollectionNullChecks = false)
    {k : Value} (hkey : Value.coerce (keyDraw serial) none f.keyType key = .ok k) {before after : Path}
    {slot : Option Value} (hpath : f.path = before ++ .key slot :: after)
    (hbefore : before.hasKeySlot = false) (record : Json) :
    (l.meaning m serial).holds record = true ↔
      ∃ element ∈ Path.innermost before.hops.1 record,
        m.holdsAt serial f op l (before.hops.2 ++ .key (some k) :: after) element = true ∧
        (before.hops.2.holdsKey k element = true ∨
          before.isNested = true ∧ after.isNested = false ∧ m.holdsOfNull serial f op l = true) := by
  have hnested : f.isNested = (before.isNested || after.isNested) := by
    rw [Field.isNested, hpath, Path.isNested_append]
    rfl
  rw [h.meaning_holds hchecks hkey hpath hbefore]
  cases hfront : before.isNested with
  | true =>
      -- no guard is in front, and what an element asks for says itself whether its map holds the key
      rw [hnested, hfront, Bool.true_or, Bool.true_or, Bool.true_and, holdsAt_append, List.any_eq_true]
      refine exists_congr fun element => and_congr_right fun _ => ?_
      refine ⟨fun hholds => ⟨hholds, ?_⟩, And.left⟩
      exact (holdsKey_or_holdsOfNull (Path.isNested_hops_last before) hholds).imp id (And.intro rfl)
  | false =>
      rw [Path.hops_of_flat hfront, Path.innermost]
      simp only [List.mem_singleton, exists_eq_left, Bool.false_eq_true, false_and, or_false,
        Bool.and_eq_true, Bool.or_eq_true]
      constructor
      · rintro ⟨hfield | hheld, hholds⟩
        · rw [hnested, hfront, Bool.false_or] at hfield
          refine ⟨hholds, (holdsKey_or_holdsOfNull hfront hholds).resolve_right fun hnull => ?_⟩
          rw [hfield] at hnull
          cases hnull.1
        · exact ⟨hholds, hheld⟩
      · rintro ⟨hholds, hheld⟩
        exact ⟨.inr hheld, hholds⟩

end Leaf.AsksEntry

namespace Predicate

section Fields

variable [Run] {m : Mapper} {f : Field} {op : Operator} {key : Text} {l : Leaf}

/--
While keys are checked, a leaf with a key compiles. It never holds if the key cannot be read. Otherwise it
holds of a record exactly if from some element on the way to the map, or from the record where there is no
collection on that way, the comparison holds, and the map there holds the key; or else, where there is such a
collection and none after the map, the comparison holds of null.
-/
theorem ofExpr_entry (h : l.AsksEntry m f op key)
    (hchecks : m.settings.disableCollectionNullChecks = false) :
    ∃ p, ofExpr m (.leaf l) = .ok p ∧
      (∀ t, Expr.read m.registry m.settings.maxDepth.toNat t = .ok (.leaf l) → ofText m t = .ok p) ∧
      (∀ error, Value.coerce (keyDraw 0) none f.keyType key = .error error →
        ∀ record, p.holds record = false) ∧
      ∀ k, Value.coerce (keyDraw 0) none f.keyType key = .ok k →
        ∀ (before : Path) (slot : Option Value) (after : Path),
          f.path = before ++ .key slot :: after → before.hasKeySlot = false →
          ∀ record, p.holds record = true ↔
            ∃ element ∈ Path.innermost before.hops.1 record,
              m.holdsAt 0 f op l (before.hops.2 ++ .key (some k) :: after) element = true ∧
              (before.hops.2.holdsKey k element = true ∨
                before.isNested = true ∧ after.isNested = false ∧ m.holdsOfNull 0 f op l = true) := by
  cases hkey : Value.coerce (keyDraw 0) none f.keyType key with
  | error fault =>
      obtain ⟨p, hp, hmeans⟩ := exists_of_plan (plan_of_no_key h.field h.operator (h.bound_none hkey))
      refine ⟨p, hp, fun _ => ofText_of_ofExpr hp, fun _ _ record => ?_, fun k hk => ?_⟩
      · rw [hmeans, Leaf.meaning]
        simp only [h.field, h.operator, h.bound_none hkey]
        rfl
      · cases hk
  | ok k =>
      obtain ⟨_, _, _, hslot, hfirst⟩ := Path.exists_slot_of_hasKeySlot h.slotted
      obtain ⟨p, hp, hmeans⟩ :=
        exists_of_plan (plan_of_bound h.field h.operator (h.bound_some hkey hslot hfirst) h.goes)
      refine ⟨p, hp, fun _ => ofText_of_ofExpr hp, fun error herror => ?_, fun k' hk' => ?_⟩
      · cases herror
      · cases hk'
        intro before slot after hpath hbefore record
        rw [hmeans, h.holds_iff hchecks hkey hpath hbefore]

end Fields

open scoped Run.Counting

def ownProp : Field where
  name := "own"
  path := [.member "props", .key none]
  type := .text

def childProp : Field where
  name := "prop"
  path := [.member "children", .each, .member "props", .key none]
  type := .text

def families : Mapper where
  fields := [ownProp, childProp]

def notRed (field : Text) : Leaf :=
  ⟨field, some "color", false, 0, "!=", Text.size field + 7, "red", false⟩

theorem ofExpr_entry_families :
    ∃ p, ofExpr families (.leaf (notRed "own")) = .ok p ∧
      p.holds (.object [("props", .object [])]) = false ∧
      p.holds (.object [("props", .object [("color", .string "green")])]) = true := by
  obtain ⟨p, hp, -, -, hentry⟩ := ofExpr_entry (m := families) (l := notRed "own")
    ⟨rfl, rfl, rfl, rfl, rfl⟩ rfl
  have hholds := hentry (.text "color") rfl [.member "props"] none [] rfl rfl
  refine ⟨p, hp, Bool.eq_false_iff.2 fun h => ?_, (hholds _).2 (by decide)⟩
  exact absurd ((hholds _).1 h) (by decide)

def plainChild : Json := .object [("children", .array [.object [("props", .object [])]])]

/-- Of a child without properties the color is another one than red, and yet no child holds one. -/
theorem ofText_entry_missing :
    ∃ p, ofText families "prop[color]!=red" = .ok p ∧ p.holds plainChild = true ∧
      ¬ ∃ element ∈ Path.innermost [[.member "children"]] plainChild,
        families.holdsAt 0 childProp (.equality true) (notRed "prop")
          [.member "props", .key (some (.text "color"))] element = true ∧
        Path.holdsKey [.member "props"] (.text "color") element = true := by
  have hread : Expr.read families.registry families.settings.maxDepth.toNat "prop[color]!=red" =
      .ok (.leaf (notRed "prop")) := by cbv
  refine ⟨_, ofText_of_read (Expr.allBlank_of_read hread) hread, rfl, ?_⟩
  decide

end Predicate

end FilterLang
