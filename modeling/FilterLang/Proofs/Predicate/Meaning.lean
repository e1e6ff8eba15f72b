import FilterLang.Predicate.Target
import FilterLang.Proofs.Query.Building
import FilterLang.Proofs.Query.Planning

/-!
What a filter means, said without compiling it: every part of the tree either holds of a record or
not, or asks for some element of a collection, and two parts directly in parentheses that ask for
elements of one collection ask for one element together. Compiling to predicates agrees with that.
-/

namespace FilterLang

inductive Meaning
  | plain (holds : Json → Bool)
  /-- Some element of the collection fulfils the condition. -/
  | existential (collection : Path) (holds : Json → Bool)

def Connective.apply : Connective → Bool → Bool → Bool
  | and, a, b => a && b
  | or, a, b => a || b

namespace Meaning

def holds : Meaning → Json → Bool
  | plain condition, record => condition record
  | existential collection condition, record => (collection.elements record).any condition

def both (connective : Connective) (left right : Meaning) : Meaning :=
  plain fun record => connective.apply (left.holds record) (right.holds record)

/-- One element for both sides, if they are about the elements of one collection. -/
def fused (connective : Connective) : Meaning → Meaning → Meaning
  | existential collection f, existential collection' g =>
    if collection.same collection' then
      existential collection fun element => connective.apply (f element) (g element)
    else both connective (existential collection f) (existential collection' g)
  | left, right => both connective left right

end Meaning

namespace Mapper

variable [Run]

/-- A comparison behind what guards it: the key that the map must hold, or the hops that must have a
value, where a comparison that holds of null holds without them. -/
def guardedHolds (settings : Settings) (indexed : Bool) (c : Comparison) (record : Json) : Bool :=
  if indexed then
    (settings.disableCollectionNullChecks ||
      c.path.splitKey?.all fun (map, key) => map.holdsKey key record) && c.holds record
  else if settings.avoidNullReference then
    if c.outcomeOnNull then
      (c.path.guards.any fun hop => (hop.resolve? record).isNone) || c.holds record
    else (c.path.guards.all fun hop => (hop.resolve? record).isSome) && c.holds record
  else c.holds record

/-- Some element of the first collection, of the next one from there, and so on. -/
def holdsAlong (condition : Json → Bool) : List Path → Json → Bool
  | [], record => condition record
  | collection :: more, record => (collection.elements record).any (holdsAlong condition more)

/-- What a leaf says once its field, its operator and its path are settled. -/
def meaningOf (m : Mapper) (serial : Nat) (f : Field) (op : Operator) (path : Path) (l : Leaf) :
    Meaning :=
  match path.splitEach? with
  | none => .plain fun record => (m.literal? serial f op l false).any fun lit =>
      guardedHolds m.settings l.indexer.isSome (comparisonOf path f op lit) record
  | some (collection, rest) => .existential collection
      (holdsAlong (fun element => (m.literal? serial f op l true).any fun lit =>
        (comparisonOf rest.hops.2 f op lit).holds element) rest.hops.1)

end Mapper

open Mapper

variable [Run]

/-- An unmapped leaf holds, where it is no error, and one whose key cannot be read does not. -/
def Leaf.meaning (m : Mapper) (serial : Nat) (l : Leaf) : Meaning :=
  match m.get? (fieldName l) with
  | none => .plain fun _ => true
  | some f =>
    match m.registry.resolve? l.symbol, bindIndexer serial f l.indexer with
    | some op, .ok (some path) => m.meaningOf serial f op path l
    | _, _ => .plain fun _ => false

/-- The meaning of a tree whose first leaf has the serial number. -/
def Expr.meaning (m : Mapper) (serial : Nat) : Expr → Meaning
  | leaf l => l.meaning m serial
  | paren (binary left connective right) =>
    .fused connective (left.meaning m serial) (right.meaning m (serial + left.leafCount))
  | paren inner => inner.meaning m serial
  | binary left connective right =>
    .both connective (left.meaning m serial) (right.meaning m (serial + left.leafCount))

theorem Expr.meaning_congr {m m' : Mapper} {e : Expr} (serial : Nat)
    (h : ∀ l ∈ e.leaves, ∀ serial, l.meaning m serial = l.meaning m' serial) :
    e.meaning m serial = e.meaning m' serial := by
  fun_induction e.meaning m serial with
  | case1 serial l => exact h l List.mem_cons_self serial
  | case2 serial left connective right ihLeft ihRight =>
      rw [meaning, ihLeft fun l hl => h l (List.mem_append_left _ hl),
        ihRight fun l hl => h l (List.mem_append_right _ hl)]
  | case3 serial inner hinner ih =>
      rw [meaning, ih h]
      exact hinner
  | case4 serial left connective right ihLeft ihRight =>
      rw [meaning, ihLeft fun l hl => h l (List.mem_append_left _ hl),
        ihRight fun l hl => h l (List.mem_append_right _ hl)]

namespace Predicate

/-- What a compiled part has to be to mean the same. -/
inductive Means : Compiled Predicate → Meaning → Prop
  | plain {p : Predicate} {condition : Json → Bool} (h : ∀ record, p.holds record = condition record) :
      Means ⟨p, false⟩ (.plain condition)
  | existential {collection : Path} {guarded : Bool} {body : Predicate} {condition : Json → Bool}
      (h : ∀ element, body.holds element = condition element) :
      Means ⟨any collection guarded body, true⟩ (.existential collection condition)

theorem Means.holds_eq {compiled : Compiled Predicate} {meaning : Meaning}
    (h : Means compiled meaning) (record : Json) :
    compiled.query.holds record = meaning.holds record := by
  cases h with
  | plain h => exact h record
  | @existential collection _ body condition h =>
      have hcondition : body.holds = condition := by
        funext element
        exact h element
      rw [holds, hcondition]
      rfl

theorem holds_combine (connective : Connective) (left right : Predicate) (record : Json) :
    (combine connective left right).holds record =
      connective.apply (left.holds record) (right.holds record) := by
  cases connective <;> rfl

theorem both_means {connective : Connective} {left right : Compiled Predicate}
    {meaning meaning' : Meaning} (hleft : Means left meaning) (hright : Means right meaning') :
    Means ⟨combine connective left.query right.query, false⟩ (.both connective meaning meaning') := by
  apply Means.plain
  intro record
  rw [holds_combine, hleft.holds_eq, hright.holds_eq]

theorem join_means (inParens : Bool) (connective : Connective) {left right : Compiled Predicate}
    {meaning meaning' : Meaning} (hleft : Means left meaning) (hright : Means right meaning') :
    Means (target.join inParens connective left right)
      (if inParens then .fused connective meaning meaning' else .both connective meaning meaning') := by
  have hboth := @both_means _ connective _ _ _ _ hleft hright
  cases inParens with
  | false => exact hboth
  | true =>
      cases hleft with
      | plain _ =>
          rw [Target.join_unmerged (merge?_of_not_nested rfl)]
          exact hboth
      | @existential collection guarded body condition hleft =>
          cases hright with
          | plain _ =>
              rw [Target.join_unmerged (merge?_of_not_nested rfl)]
              exact hboth
          | @existential collection' guarded' body' condition' hright =>
              have hmerge :=
                merge?_any connective collection collection' guarded guarded' body body'
              simp only [↓reduceIte, Meaning.fused]
              cases hsame : collection.same collection' with
              | false =>
                  rw [hsame] at hmerge
                  rw [Target.join_unmerged hmerge]
                  exact hboth
              | true =>
                  rw [hsame] at hmerge
                  rw [Target.join_merged hmerge]
                  apply Means.existential
                  intro element
                  rw [holds_combine, hleft, hright]

theorem holds_foldl_hasValue (hops : List Path) (p : Predicate) (record : Json) :
    ((hops.map Guard.hasValue).foldl target.guardedBy p).holds record =
      ((hops.all fun hop => (hop.resolve? record).isSome) && p.holds record) := by
  induction hops generalizing p with
  | nil => rfl
  | cons hop hops ih =>
      have hguard : (target.guardedBy p (.hasValue hop)).holds record =
          ((hop.resolve? record).isSome && p.holds record) := rfl
      rw [List.map_cons, List.foldl_cons, ih, hguard, List.all_cons, Bool.and_left_comm,
        Bool.and_assoc]

theorem holds_foldl_orNull (hops : List Path) (p : Predicate) (record : Json) :
    ((hops.map Guard.orNull).foldl target.guardedBy p).holds record =
      ((hops.any fun hop => (hop.resolve? record).isNone) || p.holds record) := by
  induction hops generalizing p with
  | nil => rfl
  | cons hop hops ih =>
      have hguard : (target.guardedBy p (.orNull hop)).holds record =
          ((hop.resolve? record).isNone || p.holds record) := by
        show (!(hop.resolve? record).isSome || p.holds record) = _
        rw [Option.not_isSome]
      rw [List.map_cons, List.foldl_cons, ih, hguard, List.any_cons, Bool.or_left_comm,
        Bool.or_assoc]

theorem holds_guarded (settings : Settings) (indexed : Bool) (c : Comparison) (record : Json) :
    ((guardsOf settings indexed c).foldl target.guardedBy (compare c)).holds record =
      guardedHolds settings indexed c record := by
  unfold guardsOf guardedHolds
  cases indexed with
  | true =>
      cases settings.disableCollectionNullChecks with
      | true => rfl
      | false => cases c.path.splitKey? <;> rfl
  | false =>
      cases settings.avoidNullReference with
      | false => rfl
      | true =>
          cases c.outcomeOnNull with
          | true =>
              simp only [Bool.false_eq_true, ↓reduceIte]
              rw [holds_foldl_orNull, List.any_reverse]
              rfl
          | false =>
              simp only [Bool.false_eq_true, ↓reduceIte]
              rw [holds_foldl_hasValue, List.all_reverse]
              rfl

theorem holds_ofScope_scopeOf (guarded : Bool) (innermost : Scope) (collections : List Path)
    (record : Json) :
    (ofScope (scopeOf guarded innermost collections)).holds record =
      holdsAlong (ofScope innermost).holds collections record := by
  induction collections generalizing record with
  | nil => rfl
  | cons collection more ih =>
      have hmore : (ofScope (scopeOf guarded innermost more)).holds =
          holdsAlong (ofScope innermost).holds more := by
        funext element
        exact ih element
      rw [scopeOf, ofScope, holds, hmore]
      rfl

theorem planOf_means (m : Mapper) (serial : Nat) (f : Field) (op : Operator) {path : Path}
    (l : Leaf) (hnested : path.isNested = f.isNested) :
    ∃ compiled, target.realized (fieldName l) (m.planOf serial f op path l) = .ok compiled ∧
      Means compiled (m.meaningOf serial f op path l) := by
  unfold meaningOf
  cases hsplit : path.splitEach? with
  | none =>
      rw [planOf_flat hnested hsplit]
      cases m.literal? serial f op l false with
      | none => exact ⟨⟨never, false⟩, rfl, .plain fun _ => rfl⟩
      | some lit =>
          refine ⟨_, Target.realized_compare target _ _ _, .plain ?_⟩
          intro record
          exact holds_guarded m.settings l.indexer.isSome (comparisonOf path f op lit) record
  | some parts =>
      obtain ⟨collection, rest⟩ := parts
      rw [planOf_nested hnested hsplit]
      refine ⟨⟨ofScope (m.nestedOf serial f path op l).scope, true⟩, rfl, ?_⟩
      rw [scope_nestedOf hsplit]
      apply Means.existential
      intro element
      rw [holds_ofScope_scopeOf, innermostOf]
      cases m.literal? serial f op l true <;> rfl

theorem plan_means {m : Mapper} {serial : Nat} {l : Leaf} {plan : Plan}
    (h : m.plan serial l = .ok plan) :
    ∃ compiled, target.realized (fieldName l) plan = .ok compiled ∧
      Means compiled (l.meaning m serial) := by
  unfold Leaf.meaning
  rcases plan_cases h with ⟨hfield, rfl⟩ | ⟨f, op, hfield, hoperator, hbound⟩
  · rw [hfield]
    exact ⟨⟨always, false⟩, rfl, .plain fun _ => rfl⟩
  · simp only [hfield, hoperator]
    rcases hbound with ⟨hbound, rfl⟩ | ⟨path, hbound, _, rfl⟩
    · rw [hbound]
      exact ⟨⟨never, false⟩, rfl, .plain fun _ => rfl⟩
    · rw [hbound]
      exact planOf_means m serial f op l (isNested_bindIndexer hbound)

/-- The meaning that a tree has where it stands: a connective directly in parentheses fuses. -/
theorem built_means {m : Mapper} {e : Expr} (h : ∀ l ∈ e.leaves, m.fault? l = none)
    (inParens : Bool) (serial : Nat) :
    ∃ compiled, target.built m inParens serial e = .ok compiled ∧
      Means compiled (if inParens then (Expr.paren e).meaning m serial else e.meaning m serial) := by
  induction e generalizing inParens serial with
  | leaf l =>
      obtain ⟨plan, hplan⟩ := plan_of_not_fault? (h l List.mem_cons_self) serial
      obtain ⟨compiled, hrealized, hmeans⟩ := plan_means hplan
      refine ⟨compiled, ?_, ?_⟩
      · rw [Target.built_leaf, hplan]
        exact hrealized
      · cases inParens <;> exact hmeans
  | binary left connective right ihLeft ihRight =>
      obtain ⟨l, hl, hleft⟩ := ihLeft (fun l hl => h l (List.mem_append_left _ hl)) false serial
      obtain ⟨r, hr, hright⟩ := ihRight (fun l hl => h l (List.mem_append_right _ hl)) false
        (serial + left.leafCount)
      refine ⟨target.join inParens connective l r, ?_, ?_⟩
      · rw [Target.built_binary, hl, hr]
        rfl
      · have hjoin := join_means inParens connective hleft hright
        cases inParens <;> exact hjoin
  | paren inner ih =>
      obtain ⟨compiled, hbuilt, hmeans⟩ := ih h true serial
      refine ⟨compiled, hbuilt, ?_⟩
      cases inParens <;> exact hmeans

theorem built_fails {m : Mapper} {e : Expr} {fault : Error}
    (h : e.leaves.findSome? m.fault? = some fault) (inParens : Bool) (serial : Nat) :
    target.built m inParens serial e = .error fault := by
  induction e generalizing inParens serial with
  | leaf l =>
      have hfault : m.fault? l = some fault := by simpa [Expr.leaves] using h
      rw [Target.built_leaf, plan_of_fault? hfault]
      rfl
  | binary left connective right ihLeft ihRight =>
      rw [Expr.leaves, List.findSome?_append] at h
      rw [Target.built_binary]
      cases hleft : left.leaves.findSome? m.fault? with
      | some fault' =>
          rw [hleft] at h
          cases h
          rw [ihLeft hleft false serial]
          rfl
      | none =>
          rw [hleft] at h
          -- The left side has no leaf at fault, so it compiles and the right one comes to be compiled.
          obtain ⟨l, hl, _⟩ := built_means (List.findSome?_eq_none_iff.1 hleft) false serial
          rw [hl, ihRight h false (serial + left.leafCount)]
          rfl
  | paren inner ih => exact ih h true serial

theorem not_fault_of_built {m : Mapper} {e : Expr} {inParens : Bool} {serial : Nat}
    {compiled : Compiled Predicate} (h : target.built m inParens serial e = .ok compiled) :
    ∀ l ∈ e.leaves, m.fault? l = none := by
  cases hfault : e.leaves.findSome? m.fault? with
  | none => exact List.findSome?_eq_none_iff.1 hfault
  | some fault =>
      rw [built_fails hfault] at h
      cases h

/-- The error of a leaf that does not compile on its own. -/
def fault? (m : Mapper) (l : Leaf) : Option Error :=
  match ofExpr m (.leaf l) with
  | .error fault => some fault
  | .ok _ => none

theorem fault?_eq (m : Mapper) (l : Leaf) : fault? m l = m.fault? l := by
  have hcompile : ofExpr m (.leaf l) = (target.built m false 0 (.leaf l)).map Compiled.query :=
    Target.compile_eq target m (.leaf l)
  unfold fault?
  rw [hcompile]
  cases hfault : m.fault? l with
  | some fault =>
      have hfound : (Expr.leaf l).leaves.findSome? m.fault? = some fault := by
        simp [Expr.leaves, hfault]
      rw [built_fails hfound]
      rfl
  | none =>
      have hall : ∀ l' ∈ (Expr.leaf l).leaves, m.fault? l' = none := by
        simp [Expr.leaves, hfault]
      obtain ⟨compiled, hbuilt, _⟩ := built_means hall false 0
      rw [hbuilt]
      rfl

/--
A tree compiles unless one of its leaves does not, and then fails as the leftmost such leaf does. A
predicate that it compiles to holds of the records that the tree's meaning holds of.
-/
theorem ofExpr_agrees (m : Mapper) (e : Expr) :
    match e.leaves.findSome? (fault? m) with
    | some fault => ofExpr m e = .error fault
    | none => ∃ p, ofExpr m e = .ok p ∧ ∀ record, p.holds record = (e.meaning m 0).holds record := by
  have hcompile : ofExpr m e = (target.built m false 0 e).map Compiled.query :=
    Target.compile_eq target m e
  have hfault : fault? m = m.fault? := by
    funext l
    exact fault?_eq m l
  rw [hfault, hcompile]
  split
  · rename_i fault hfound
    rw [built_fails hfound]
    rfl
  · rename_i hfound
    obtain ⟨compiled, hbuilt, hmeans⟩ := built_means (List.findSome?_eq_none_iff.1 hfound) false 0
    refine ⟨compiled.query, ?_, hmeans.holds_eq⟩
    rw [hbuilt]
    rfl

end Predicate

end FilterLang
