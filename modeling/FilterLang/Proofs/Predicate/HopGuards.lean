import FilterLang.Proofs.Expr.Plain
import FilterLang.Proofs.Predicate.Compiling
import FilterLang.Proofs.Predicate.Nulls
import FilterLang.Run.Counting

/-!
Guards on the hops of paths. Of a path that breaks off a comparison is what its outcome on null says, and
the guards say the same of it, so for built-in operators it makes no difference whether there are any.
-/

namespace FilterLang

open Outcome Mapper

/-- What is compared at the innermost elements. -/
def Scope.comparison? : Scope → Option Comparison
  | any _ _ body => body.comparison?
  | compare c => some c
  | never => none

def Plan.comparison? : Plan → Option Comparison
  | always => none
  | never _ => none
  | nested n => n.scope.comparison?
  | compare c _ => some c

section Runs

variable [Run]

namespace Mapper

variable {m : Mapper} {serial : Nat} {l : Leaf}

omit [Run] in
theorem comparison?_scopeOf (guarded : Bool) (innermost : Scope) (collections : List Path) :
    (scopeOf guarded innermost collections).comparison? = innermost.comparison? := by
  induction collections with
  | nil => rfl
  | cons collection more ih => exact ih

theorem sound_of_planOf {f : Field} {op : Operator} {path : Path} {c : Comparison}
    (h : (m.planOf serial f op path l).comparison? = some c) (hcustom : c.operator.isCustom = false) :
    c.Sound := by
  unfold planOf at h
  split at h
  · have hinnermost : (m.innermostOf serial f op path.hops.2 l).comparison? = some c :=
      (comparison?_scopeOf _ _ path.hops.1).symm.trans h
    unfold innermostOf at hinnermost
    split at hinnermost
    · rename_i lit hlit
      cases hinnermost
      exact sound_of_literal? hcustom hlit path.hops.2
    · cases hinnermost
  · split at h
    · cases h
    · rename_i lit hlit
      cases h
      exact sound_of_literal? hcustom hlit path

theorem sound_of_plan {plan : Plan} {c : Comparison} (hplan : m.plan serial l = .ok plan)
    (h : plan.comparison? = some c) (hcustom : c.operator.isCustom = false) : c.Sound := by
  rcases plan_cases hplan with ⟨_, rfl⟩ | ⟨f, op, _, _, ⟨_, rfl⟩ | ⟨path, _, _, _, rfl⟩⟩
  · cases h
  · cases h
  · exact sound_of_planOf h hcustom

def guardingHops (m : Mapper) (guards : Bool) : Mapper :=
  { m with settings := { m.settings with avoidNullReference := guards } }

omit [Run] in
@[simp] theorem get?_guardingHops (m : Mapper) (guards : Bool) (name : Text) :
    (m.guardingHops guards).get? name = m.get? name := rfl

omit [Run] in
@[simp] theorem registry_guardingHops (m : Mapper) (guards : Bool) :
    (m.guardingHops guards).registry = m.registry := rfl

theorem fault?_guardingHops (m : Mapper) (guards : Bool) : (m.guardingHops guards).fault? = m.fault? := by
  funext l
  unfold fault? plan
  rw [get?_guardingHops, registry_guardingHops]
  cases m.get? (fieldName l) with
  | none => rfl
  | some f =>
      cases m.registry.resolve? l.symbol with
      | none => rfl
      | some op =>
          dsimp only
          have hstops : (m.guardingHops guards).stops f op l = m.stops f op l := rfl
          rcases bindIndexer 0 f l.indexer with fault | _ | path
          · rfl
          · rfl
          · dsimp only [bind, Except.bind]
            rw [hstops]
            cases m.stops f op l <;> rfl

theorem meaningOf_guardingHops {op : Operator} (hcustom : op.isCustom = false) (guards : Bool)
    (f : Field) (path : Path) :
    (m.guardingHops guards).meaningOf serial f op path l = m.meaningOf serial f op path l := by
  have hliteral : ∀ nested, (m.guardingHops guards).literal? serial f op l nested =
      m.literal? serial f op l nested := fun _ => rfl
  unfold meaningOf
  cases path.splitEach? with
  | some parts => rfl
  | none =>
      simp only [hliteral]
      cases hlit : m.literal? serial f op l false with
      | none => rfl
      | some lit =>
          cases l.indexer with
          | some key => rfl
          | none =>
              have hsound := sound_of_literal? hcustom hlit path
              simp only [Option.any_some, Option.isSome_none, guardedHolds_unindexed hsound]

end Mapper

theorem Leaf.meaning_guardingHops {m : Mapper} {l : Leaf}
    (hbuiltIn : ∀ op, m.registry.resolve? l.symbol = some op → op.isCustom = false) (guards : Bool)
    (serial : Nat) : l.meaning (m.guardingHops guards) serial = l.meaning m serial := by
  unfold meaning
  rw [get?_guardingHops, registry_guardingHops]
  cases m.get? (fieldName l) with
  | none => rfl
  | some f =>
      cases hop : m.registry.resolve? l.symbol with
      | none => rfl
      | some op =>
          dsimp only
          cases bindIndexer serial f l.indexer with
          | error fault => rfl
          | ok bound =>
              cases bound with
              | none => rfl
              | some path => exact meaningOf_guardingHops (hbuiltIn op hop) guards f path

namespace Predicate

/--
Without operators of the user's own, a filter compiles to the same error or to predicates that hold of the
same records, whether the hops of its paths are guarded or not. A comparison with a built-in operator comes
to what its outcome on null says wherever some beginning of its path leads to nothing or to null.
-/
theorem ofText_guardingHops (m : Mapper) :
    (∀ t, (∀ e, Expr.read m.registry m.settings.maxDepth.toNat t = .ok e → e.BuiltIn m) →
      Related (fun p q => ∀ record, p.holds record = q.holds record)
        (ofText (m.guardingHops true) t) (ofText (m.guardingHops false) t)) ∧
    ∀ serial l plan c, m.plan serial l = .ok plan → plan.comparison? = some c →
      c.operator.isCustom = false → ∀ (hop : Path) record, hop <+: c.path →
        hop.resolve? record = none → c.holds record = c.outcomeOnNull := by
  refine ⟨fun t hbuiltIn => ?_, fun serial l plan c hplan hc hcustom hop record hbegins hnone => ?_⟩
  · have htext : ∀ guards, ofText (m.guardingHops guards) t = if Text.allBlank t then .ok always
        else (Expr.read m.registry m.settings.maxDepth.toNat t).bind (ofExpr (m.guardingHops guards)) :=
      fun guards => ofText_eq (m.guardingHops guards) t
    rw [htext, htext]
    cases Text.allBlank t with
    | true => exact .ok fun _ => rfl
    | false =>
        cases hread : Expr.read m.registry m.settings.maxDepth.toNat t with
        | error fault => exact .error fault
        | ok e =>
            refine ofExpr_related ?_ (Expr.meaning_congr 0 fun l hl serial => ?_)
            · rw [fault?_guardingHops, fault?_guardingHops]
            · have hleaf := hbuiltIn e hread l hl
              rw [Leaf.meaning_guardingHops hleaf, Leaf.meaning_guardingHops hleaf]
  · exact Comparison.holds_of_broken (sound_of_plan hplan hc hcustom) hbegins hnone

end Predicate

end Runs

namespace Predicate

open scoped Run.Counting

def ancestry : Mapper where
  fields := [
    { name := "grandparent", type := .text
      path := [.member "parent", .member "parent", .member "name"] }]

def notBob : Comparison where
  path := [.member "parent", .member "parent", .member "name"]
  type := .text
  operator := .equality true
  value := .text "Bob"
  ignoresCase := false
  matchesAbsent := false

theorem ofText_guardingHops_ancestry :
    (∃ p q, ofText (ancestry.guardingHops true) (Leaf.plainText "grandparent" "!=" "Bob") = .ok p ∧
      ofText (ancestry.guardingHops false) (Leaf.plainText "grandparent" "!=" "Bob") = .ok q ∧
      ∀ record, p.holds record = q.holds record) ∧
    ancestry.plan 0 (Leaf.plain 0 "grandparent" "!=" "Bob") = .ok (.compare notBob []) ∧
    Path.resolve? (.object [("parent", .null)]) [.member "parent"] = none ∧
    notBob.holds (.object [("parent", .null)]) = true := by
  obtain ⟨hguards, hbroken⟩ := ofText_guardingHops ancestry
  have hnameable : Leaf.Nameable "grandparent" "!=" := by decide
  have hread := Expr.read_plainText ancestry.registry ancestry.settings.maxDepth.toNat hnameable "Bob"
  have hrelated := hguards (Leaf.plainText "grandparent" "!=" "Bob")
    fun e _ => Expr.builtIn_of_no_operators rfl e
  have hplan : ancestry.plan 0 (Leaf.plain 0 "grandparent" "!=" "Bob") = .ok (.compare notBob []) := rfl
  refine ⟨?_, hplan, rfl, hbroken 0 _ _ notBob hplan rfl rfl [.member "parent"] _ ⟨_, rfl⟩ rfl⟩
  obtain ⟨p, hp⟩ : ∃ p, ofText (ancestry.guardingHops true)
      (Leaf.plainText "grandparent" "!=" "Bob") = .ok p :=
    ⟨_, ofText_of_read (m := ancestry.guardingHops true) (Leaf.allBlank_plainText hnameable "Bob") hread⟩
  rw [hp] at hrelated
  generalize ofText (ancestry.guardingHops false) _ = outcome at hrelated ⊢
  cases hrelated with
  | @ok _ q h => exact ⟨p, q, hp, rfl, h⟩

end Predicate

end FilterLang
