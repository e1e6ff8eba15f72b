import FilterLang.Proofs.Path.Reached
import FilterLang.Proofs.Predicate.Compiling
import FilterLang.Run.Counting

/-!
Elements of collections within collections. A condition on a field that runs through collections asks for an
innermost element, reached by one choice of an element at each of them. Two such conditions on one field,
joined by `and` in parentheses, choose the outermost element together; from there each chooses by itself.
-/

namespace FilterLang

open Mapper

namespace Path

/-- The innermost elements: one for each choice of an element at each of the collections. -/
def innermost : List Path → Json → List Json
  | [], node => [node]
  | collection :: more, node => (collection.elements node).flatMap (innermost more)

theorem same_self {p : Path} (hkeys : p.hasKeySlot = false) : p.same p = true :=
  (same_iff_eq (show FieldType.text ≠ .float by decide)
    (boundTo_of_count_eq_zero (count_of_not_hasKeySlot hkeys))).2 rfl

theorem hasKeySlot_of_splitEach? {p before after : Path} (hkeys : p.hasKeySlot = false)
    (h : splitEach? p = some (before, after)) : before.hasKeySlot = false := by
  obtain ⟨rfl, _⟩ := append_of_splitEach? h
  rw [hasKeySlot, List.any_append, Bool.or_eq_false_iff] at hkeys
  exact hkeys.1

end Path

namespace Mapper

theorem holdsAlong_eq (condition : Json → Bool) (collections : List Path) (record : Json) :
    holdsAlong condition collections record = (Path.innermost collections record).any condition := by
  induction collections generalizing record with
  | nil => simp [holdsAlong, Path.innermost]
  | cons collection more ih =>
      have hmore : holdsAlong condition more = fun element => (Path.innermost more element).any condition := by
        funext element
        exact ih element
      rw [holdsAlong, Path.innermost, List.any_flatMap, hmore]

theorem holdsAlong_iff {condition : Json → Bool} {collections : List Path} {record : Json} :
    holdsAlong condition collections record = true ↔
      ∃ x ∈ Path.innermost collections record, condition x = true := by
  rw [holdsAlong_eq, List.any_eq_true]

variable [Run]

/-- Whether the comparison of a leaf holds of an innermost element of its field's collections. -/
def elementHolds (m : Mapper) (serial : Nat) (f : Field) (op : Operator) (l : Leaf) (element : Json) :
    Bool :=
  (m.literal? serial f op l true).any fun lit => (comparisonOf f.path.hops.2 f op lit).holds element

end Mapper

/-- The leaf is on a field that runs through collections and through no map, and its literal stops nothing. -/
structure Leaf.AsksElement [Run] (m : Mapper) (f : Field) (op : Operator) (l : Leaf) : Prop where
  field : m.get? (fieldName l) = some f
  operator : m.registry.resolve? l.symbol = some op
  nested : f.isNested = true
  keyless : f.path.hasKeySlot = false
  indexer : l.indexer = none
  goes : m.stops f op l = false

namespace Leaf.AsksElement

variable [Run] {m : Mapper} {f : Field} {op : Operator} {l : Leaf}

theorem bound (h : l.AsksElement m f op) (serial : Nat) :
    bindIndexer serial f l.indexer = .ok (some f.path) := by
  simp only [bindIndexer, h.indexer, h.keyless]

theorem not_fault (h : l.AsksElement m f op) : m.fault? l = none := by
  unfold Mapper.fault?
  rw [plan_of_bound h.field h.operator (h.bound 0) h.goes]

theorem exists_splitEach? (h : l.AsksElement m f op) :
    ∃ collection rest, f.path.splitEach? = some (collection, rest) := Path.exists_splitEach? h.nested

/-- It asks for an element of the first collection, from which some choice leads to an innermost one. -/
theorem meaning_eq (h : l.AsksElement m f op) {collection rest : Path}
    (hsplit : f.path.splitEach? = some (collection, rest)) (serial : Nat) :
    l.meaning m serial =
      .existential collection (holdsAlong (m.elementHolds serial f op l) rest.hops.1) := by
  have hlast : rest.hops.2 = f.path.hops.2 := by rw [Path.hops_of_splitEach? hsplit]
  unfold Leaf.meaning
  simp only [h.field, h.operator, h.bound serial, meaningOf, hsplit, hlast]
  rfl

end Leaf.AsksElement

namespace Predicate

section Fields

variable [Run] {m : Mapper} {f : Field} {op op' : Operator} {l l' : Leaf}

/--
Two conditions on one field that runs through collections, joined by `and` in parentheses, compile to a
predicate that asks for an element of the first collection from which each of them is met by an innermost
element. Where there is no other collection on the way this is one element that meets both.
-/
theorem ofExpr_both_conditions (h : l.AsksElement m f op) (h' : l'.AsksElement m f op') :
    ∃ collection more p, f.path.hops.1 = collection :: more ∧
      ofExpr m (.paren (.binary (.leaf l) .and (.leaf l'))) = .ok p ∧
      (∀ t, Expr.read m.registry m.settings.maxDepth.toNat t =
        .ok (.paren (.binary (.leaf l) .and (.leaf l'))) → ofText m t = .ok p) ∧
      (∀ record, p.holds record = true ↔
        ∃ element ∈ collection.elements record,
          (∃ x ∈ Path.innermost more element, m.elementHolds 0 f op l x = true) ∧
          ∃ y ∈ Path.innermost more element, m.elementHolds 1 f op' l' y = true) ∧
      (more = [] → ∀ record, p.holds record = true ↔
        ∃ x ∈ Path.innermost f.path.hops.1 record,
          m.elementHolds 0 f op l x = true ∧ m.elementHolds 1 f op' l' x = true) := by
  obtain ⟨collection, rest, hsplit⟩ := h.exists_splitEach?
  have hhops : f.path.hops.1 = collection :: rest.hops.1 := by rw [Path.hops_of_splitEach? hsplit]
  have hsame := Path.same_self (Path.hasKeySlot_of_splitEach? h.keyless hsplit)
  have hleaves : ∀ leaf ∈ (Expr.paren (.binary (.leaf l) .and (.leaf l'))).leaves,
      m.fault? leaf = none := by simp [Expr.leaves, h.not_fault, h'.not_fault]
  obtain ⟨compiled, hbuilt, hmeans⟩ := built_means hleaves false 0
  have hholds : ∀ record, compiled.query.holds record = true ↔
      ∃ element ∈ collection.elements record,
        (∃ x ∈ Path.innermost rest.hops.1 element, m.elementHolds 0 f op l x = true) ∧
        ∃ y ∈ Path.innermost rest.hops.1 element, m.elementHolds 1 f op' l' y = true := by
    intro record
    have hmeaning : (Expr.paren (.binary (.leaf l) .and (.leaf l'))).meaning m 0 =
        .existential collection fun element =>
          holdsAlong (m.elementHolds 0 f op l) rest.hops.1 element &&
            holdsAlong (m.elementHolds 1 f op' l') rest.hops.1 element := by
      show Meaning.fused .and (l.meaning m 0) (l'.meaning m 1) = _
      rw [h.meaning_eq hsplit, h'.meaning_eq hsplit, Meaning.fused, hsame]
      rfl
    rw [hmeans.holds_eq]
    simp only [Bool.false_eq_true, ↓reduceIte, hmeaning, Meaning.holds, List.any_eq_true,
      Bool.and_eq_true, holdsAlong_iff]
  have hcompiled : ofExpr m (.paren (.binary (.leaf l) .and (.leaf l'))) = .ok compiled.query := by
    rw [ofExpr_eq, hbuilt]
    rfl
  refine ⟨collection, rest.hops.1, compiled.query, hhops, hcompiled, fun t hread => ?_, hholds,
    fun hlast record => ?_⟩
  · rw [ofText_of_read (Expr.allBlank_of_read hread) hread, hcompiled]
  · have halone : Path.innermost f.path.hops.1 record = collection.elements record := by
      rw [hhops, hlast, Path.innermost]
      exact List.flatMap_singleton' _
    rw [hholds, hlast, halone]
    simp only [Path.innermost, List.mem_singleton, exists_eq_left]

end Fields

open scoped Run.Counting

def memberName : Field where
  name := "member"
  path := [.member "groups", .each, .member "members", .each, .member "name"]
  type := .text

def leaderName : Field := { memberName with name := "leader", path := [.member "leaders", .each] }

def clubs : Mapper where
  fields := [memberName, leaderName]

def named (field part : Text) : Leaf := ⟨field, none, false, 0, "=*", 0, part, false⟩

theorem ofExpr_both_conditions_leaders :
    ∃ p, ofExpr clubs (.paren (.binary (.leaf (named "leader" "J")) .and (.leaf (named "leader" "S")))) =
        .ok p ∧
      p.holds (.object [("leaders", .array [.string "Jane", .string "Sam"])]) = false := by
  have h : ∀ part : Text,
      (named "leader" part).AsksElement clubs leaderName (.textual .contains false) :=
    fun _ => ⟨rfl, rfl, rfl, rfl, rfl, rfl⟩
  obtain ⟨collection, more, p, hhops, hcompiled, -, -, halone⟩ :=
    ofExpr_both_conditions (h "J") (h "S")
  refine ⟨p, hcompiled, Bool.eq_false_iff.2 fun hholds => ?_⟩
  cases hhops
  exact absurd ((halone rfl _).1 hholds) (by decide)

def oneGroup : Json :=
  .object [("groups", .array [.object [("members", .array [
    .object [("name", .string "Jane")], .object [("name", .string "Sam")]])]])]

/-- Two members of one group, neither of whom meets both conditions, meet them together. -/
theorem ofExpr_both_conditions_apart :
    ∃ p, ofExpr clubs (.paren (.binary (.leaf (named "member" "J")) .and (.leaf (named "member" "S")))) =
        .ok p ∧
      p.holds oneGroup = true ∧
      ¬ ∃ x ∈ Path.innermost memberName.path.hops.1 oneGroup,
        clubs.elementHolds 0 memberName (.textual .contains false) (named "member" "J") x = true ∧
        clubs.elementHolds 1 memberName (.textual .contains false) (named "member" "S") x = true := by
  refine ⟨_, rfl, rfl, ?_⟩
  decide

end Predicate

end FilterLang
