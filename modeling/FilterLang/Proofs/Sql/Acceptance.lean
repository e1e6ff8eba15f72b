import FilterLang.Proofs.Predicate.Compiling
import FilterLang.Proofs.Sql.Rendering

/-!
What compiles for records compiles for a table too, whatever the paths and the keys of the fields, as long
as every operator has SQL for every column and literal.
-/

namespace FilterLang.Sql

open Mapper Outcome

variable [Run]

theorem plan_accepted {m : Mapper} {serial : Nat} {l : Leaf} {plan : Plan}
    (hsql : ∀ op, m.registry.resolve? l.symbol = some op → HasSql op)
    (h : m.plan serial l = .ok plan) :
    Related (fun _ _ => True) (Predicate.target.realized (fieldName l) plan)
      (Condition.target.realized (fieldName l) plan) := by
  rcases plan_cases h with ⟨_, rfl⟩ | ⟨f, op, _, hoperator, ⟨_, rfl⟩ | ⟨path, hbound, _, rfl⟩⟩
  · exact .ok trivial
  · exact .ok trivial
  · have hop := hsql op hoperator
    have hnested := isNested_bindIndexer hbound
    cases hsplit : path.splitEach? with
    | none =>
        rw [planOf_flat hnested hsplit]
        cases m.literal? serial f op l false with
        | none => exact .ok trivial
        | some lit =>
            obtain ⟨_, _, hcompare⟩ := @exists_condition_compare (comparisonOf path f op lit) hop
            rw [Target.realized_compare, Target.realized_compare, hcompare]
            exact .ok trivial
    | some parts =>
        obtain ⟨_, hcondition⟩ := @exists_condition_nestedOf _ m serial f op path _ _ l hop hsplit
        rw [planOf_nested hnested hsplit, Target.realized_nested, Target.realized_nested, hcondition]
        exact .ok trivial

theorem exists_of_ofExpr {m : Mapper} {e : Expr} {p : Predicate}
    (hsql : ∀ l ∈ e.leaves, ∀ op, m.registry.resolve? l.symbol = some op → HasSql op)
    (h : Predicate.ofExpr m e = .ok p) : ∃ c, Condition.ofExpr m e = .ok c := by
  have hbuilt : Related (fun _ _ => True) (Predicate.target.built m false 0 e)
      (Condition.target.built m false 0 e) :=
    Target.built_related (fun _ _ _ _ _ _ _ _ => trivial)
      (fun l hl _ _ => plan_accepted (hsql l hl)) false 0
  have hcompile : Condition.ofExpr m e = (Condition.target.built m false 0 e).map Compiled.query :=
    Target.compile_eq Condition.target m e
  rw [Predicate.ofExpr_eq] at h
  rw [hcompile]
  generalize Predicate.target.built m false 0 e = built at hbuilt h
  generalize Condition.target.built m false 0 e = built' at hbuilt ⊢
  cases hbuilt with
  | error fault => cases h
  | @ok _ compiled _ => exact ⟨compiled.query, rfl⟩

omit [Run] in
theorem hasSql_of_builtIn {m : Mapper} {e : Expr} (h : e.BuiltIn m) :
    ∀ l ∈ e.leaves, ∀ op, m.registry.resolve? l.symbol = some op → HasSql op := by
  rintro l hl _ hop own rfl
  cases h l hl _ hop

theorem exists_of_ofText {m : Mapper} {t : Text} {p : Predicate}
    (hbuiltIn : ∀ e, Expr.read m.registry m.settings.maxDepth.toNat t = .ok e → e.BuiltIn m)
    (h : Predicate.ofText m t = .ok p) : ∃ c, Condition.ofText m t = .ok c := by
  have htext : Condition.ofText m t = _ := Target.compileText_eq Condition.target m t
  rw [htext]
  cases hblank : Text.allBlank t with
  | true => exact ⟨_, rfl⟩
  | false =>
      obtain ⟨e, hread, hp⟩ := Predicate.exists_of_ofText hblank h
      obtain ⟨c, hc⟩ := exists_of_ofExpr (hasSql_of_builtIn (hbuiltIn e hread)) hp
      refine ⟨c, ?_⟩
      rw [hread]
      exact hc

end FilterLang.Sql
