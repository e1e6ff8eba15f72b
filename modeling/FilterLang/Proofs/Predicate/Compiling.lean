import FilterLang.Proofs.Predicate.Meaning
import FilterLang.Proofs.Token.Scanning

/-!
Compiling the text of a filter to a predicate: it is read, and its expression is compiled. A leaf on a field
outside collections and maps compiles to a comparison of the record's value.
-/

namespace FilterLang

open Outcome Mapper

theorem Expr.allBlank_of_read {registry : Registry} {limit : Nat} {t : Text} {e : Expr}
    (h : read registry limit t = .ok e) : Text.allBlank t = false := by
  rw [Bool.eq_false_iff]
  intro hblank
  obtain ⟨ts, hscanned, hparsed⟩ := bind_eq_ok_iff.1 h
  rw [Token.ofFilter, Token.scan_blanks (Text.skipBlanks_of_allBlank hblank)] at hscanned
  cases hscanned
  have hnothing : ofTokens limit (Text.size t) [] = .ok e := mapError_eq_ok_iff.1 hparsed
  rw [ofTokens, parseChain, parseTerm] at hnothing
  cases hnothing

namespace Predicate

variable [Run]

theorem ofExpr_eq (m : Mapper) (e : Expr) :
    ofExpr m e = (target.built m false 0 e).map Compiled.query := Target.compile_eq target m e

theorem ofText_eq (m : Mapper) (t : Text) :
    ofText m t = if Text.allBlank t then .ok always
      else (Expr.read m.registry m.settings.maxDepth.toNat t).bind (ofExpr m) :=
  Target.compileText_eq target m t

theorem ofText_of_read {m : Mapper} {t : Text} {e : Expr} (hblank : Text.allBlank t = false)
    (hread : Expr.read m.registry m.settings.maxDepth.toNat t = .ok e) : ofText m t = ofExpr m e :=
  target.compileText_of_read hblank hread

theorem ofText_of_ofExpr {m : Mapper} {t : Text} {e : Expr} {p : Predicate} (h : ofExpr m e = .ok p)
    (hread : Expr.read m.registry m.settings.maxDepth.toNat t = .ok e) : ofText m t = .ok p := by
  rw [ofText_of_read (Expr.allBlank_of_read hread) hread, h]

/-- Mappers that find the same leaves at fault, and for which an expression means the same, compile it
alike. -/
theorem ofExpr_related {m m' : Mapper} {e : Expr} (hfault : m.fault? = m'.fault?)
    (hmeaning : e.meaning m 0 = e.meaning m' 0) :
    Related (fun p q => ∀ record, p.holds record = q.holds record) (ofExpr m e) (ofExpr m' e) := by
  rw [ofExpr_eq, ofExpr_eq]
  cases hfound : e.leaves.findSome? m.fault? with
  | some fault =>
      have hfound' := hfound
      rw [hfault] at hfound'
      rw [built_fails hfound, built_fails hfound']
      exact .error fault
  | none =>
      have hnone := List.findSome?_eq_none_iff.1 hfound
      have hnone' := hnone
      rw [hfault] at hnone'
      obtain ⟨compiled, hbuilt, hmeans⟩ := built_means hnone false 0
      obtain ⟨compiled', hbuilt', hmeans'⟩ := built_means hnone' false 0
      rw [hbuilt, hbuilt']
      refine .ok fun record => (hmeans.holds_eq record).trans (Eq.trans ?_ (hmeans'.holds_eq record).symm)
      simp only [Bool.false_eq_true, ↓reduceIte, hmeaning]

theorem exists_of_ofText {m : Mapper} {t : Text} {p : Predicate} (hblank : Text.allBlank t = false)
    (h : ofText m t = .ok p) :
    ∃ e, Expr.read m.registry m.settings.maxDepth.toNat t = .ok e ∧ ofExpr m e = .ok p := by
  rw [ofText_eq, hblank] at h
  exact bind_eq_ok_iff.1 h

theorem exists_of_plan {m : Mapper} {l : Leaf} {plan : Plan} (h : m.plan 0 l = .ok plan) :
    ∃ p, ofExpr m (.leaf l) = .ok p ∧ ∀ record, p.holds record = (l.meaning m 0).holds record := by
  obtain ⟨compiled, hrealized, hmeans⟩ := plan_means h
  refine ⟨compiled.query, ?_, hmeans.holds_eq⟩
  rw [ofExpr_eq, Target.built_leaf, h]
  exact congrArg (Except.map Compiled.query) hrealized

end Predicate

namespace Leaf

variable [Run] {m : Mapper} {f : Field} {op : Operator} {l : Leaf}

theorem exists_ofExpr_of_bound (hfield : m.get? (fieldName l) = some f)
    (hop : m.registry.resolve? l.symbol = some op) {bound : Option Path}
    (hbound : bindIndexer 0 f l.indexer = .ok bound)
    (hstops : bound.isSome = true → m.stops f op l = false) :
    ∃ p, Predicate.ofExpr m (.leaf l) = .ok p ∧
      ∀ record, p.holds record = (l.meaning m 0).holds record := by
  cases bound with
  | none => exact Predicate.exists_of_plan (plan_of_no_key hfield hop hbound)
  | some path => exact Predicate.exists_of_plan (plan_of_bound hfield hop hbound (hstops rfl))

theorem bound_of_ofExpr (hfield : m.get? (fieldName l) = some f) {p : Predicate}
    (hp : Predicate.ofExpr m (.leaf l) = .ok p) :
    ∃ op bound, m.registry.resolve? l.symbol = some op ∧ bindIndexer 0 f l.indexer = .ok bound ∧
      (bound.isSome = true → m.stops f op l = false) := by
  rw [Predicate.ofExpr_eq] at hp
  obtain ⟨compiled, hbuilt, _⟩ := Outcome.map_eq_ok_iff.1 hp
  obtain ⟨plan, hplan⟩ :=
    plan_of_not_fault? (Predicate.not_fault_of_built hbuilt l List.mem_cons_self) 0
  rcases plan_cases hplan with ⟨hnone, _⟩ | ⟨f', op, hsome, hop, ⟨hbound, _⟩ | ⟨path, hbound, hstops, _⟩⟩
  · rw [hfield] at hnone
    cases hnone
  · rw [hfield] at hsome
    cases hsome
    exact ⟨op, none, hop, hbound, nofun⟩
  · rw [hfield] at hsome
    cases hsome
    exact ⟨op, some path, hop, hbound, fun _ => hstops⟩

end Leaf

/-- The leaf is on a field that runs through no collection and no map, and its literal stops nothing. -/
structure Leaf.AsksValue [Run] (m : Mapper) (f : Field) (op : Operator) (l : Leaf) : Prop where
  field : m.get? (fieldName l) = some f
  operator : m.registry.resolve? l.symbol = some op
  flat : f.isNested = false
  keyless : f.path.hasKeySlot = false
  indexer : l.indexer = none
  goes : m.stops f op l = false

namespace Leaf.AsksValue

variable [Run] {m : Mapper} {f : Field} {op : Operator} {l : Leaf}

theorem bound (h : l.AsksValue m f op) (serial : Nat) :
    bindIndexer serial f l.indexer = .ok (some f.path) := by
  simp only [bindIndexer, h.indexer, h.keyless]

theorem meaning_eq (h : l.AsksValue m f op) (serial : Nat) :
    l.meaning m serial = .plain fun record => (m.literal? serial f op l false).any fun lit =>
      guardedHolds m.settings false (comparisonOf f.path f op lit) record := by
  have hsplit : f.path.splitEach? = none := Path.splitEach?_eq_none_iff.2 h.flat
  unfold Leaf.meaning
  simp only [h.field, h.operator, h.bound serial, meaningOf, hsplit]
  rw [h.indexer]
  rfl

/-- It compiles to the comparison with its literal, or to what never holds if that cannot be read. -/
theorem exists_ofExpr (h : l.AsksValue m f op) :
    ∃ p, Predicate.ofExpr m (.leaf l) = .ok p ∧
      ∀ record, p.holds record = (m.literal? 0 f op l false).any fun lit =>
        guardedHolds m.settings false (comparisonOf f.path f op lit) record := by
  obtain ⟨p, hp, hmeans⟩ :=
    Predicate.exists_of_plan (plan_of_bound h.field h.operator (h.bound 0) h.goes)
  refine ⟨p, hp, fun record => ?_⟩
  rw [hmeans, h.meaning_eq]
  rfl

end Leaf.AsksValue

end FilterLang
