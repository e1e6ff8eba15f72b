import FilterLang.Proofs.Query.Building
import FilterLang.Proofs.Query.Planning

/-!
Filters without their parentheses. Leaves keep their places and their serial numbers, and where no leaf
is about a collection the parentheses made no difference to any target.
-/

namespace FilterLang

open Outcome Mapper

/-- Each parenthesis replaced by what is in it. -/
def Expr.stripped : Expr → Expr
  | leaf l => leaf l
  | binary left connective right => binary left.stripped connective right.stripped
  | paren inner => inner.stripped

namespace Expr

@[simp] theorem leaves_stripped (e : Expr) : e.stripped.leaves = e.leaves := by
  induction e with
  | leaf l => rfl
  | binary left connective right ihLeft ihRight => rw [stripped, leaves, leaves, ihLeft, ihRight]
  | paren inner ih => exact ih

@[simp] theorem leafCount_stripped (e : Expr) : e.stripped.leafCount = e.leafCount := by
  rw [← length_leaves, ← length_leaves, leaves_stripped]

end Expr

variable [Run]

namespace Target

variable {Q : Type} {target : Target Id Q}

omit [Run] in
theorem nested_of_realized {name : Text} {plan : Plan} {compiled : Compiled Q}
    (hflat : ∀ n, plan ≠ .nested n) (h : target.realized name plan = .ok compiled) :
    compiled.nested = false := by
  cases plan with
  | always =>
      cases h
      rfl
  | never path =>
      cases h
      rfl
  | nested n => exact absurd rfl (hflat n)
  | compare c guards =>
      rw [realized_compare] at h
      split at h <;> cases h
      rfl

end Target

theorem Mapper.plan_ne_nested {m : Mapper} {serial : Nat} {l : Leaf} {plan : Plan}
    (hflat : ∀ f, m.get? (fieldName l) = some f → f.isNested = false) (h : m.plan serial l = .ok plan)
    (n : Nested) : plan ≠ .nested n := by
  rcases plan_cases h with ⟨_, rfl⟩ | ⟨f, op, hfield, _, ⟨_, rfl⟩ | ⟨path, _, _, rfl⟩⟩
  · exact Plan.noConfusion
  · exact Plan.noConfusion
  · rw [planOf, if_neg (by simp [hflat f hfield])]
    split <;> exact Plan.noConfusion

namespace Target

variable {Q : Type} {target : Target Id Q} {m : Mapper}

omit [Run] in
theorem join_eq_of_unmerged {connective : Connective} {left right : Compiled Q}
    (h : (target.merge connective left right : Option Q) = none) (inParens : Bool) :
    target.join inParens connective left right =
      ⟨target.combine connective left.query right.query, false⟩ := by
  cases inParens with
  | false => rfl
  | true => exact join_unmerged h

section Flat

variable (hmerge : ∀ connective (left right : Compiled Q), (left.nested && right.nested) = false →
  (target.merge connective left right : Option Q) = none)

include hmerge

theorem nested_of_built {e : Expr} {inParens : Bool} {serial : Nat} {compiled : Compiled Q}
    (hflat : ∀ l ∈ e.leaves, ∀ f, m.get? (fieldName l) = some f → f.isNested = false)
    (h : target.built m inParens serial e = .ok compiled) : compiled.nested = false := by
  induction e generalizing inParens serial compiled with
  | leaf l =>
      rw [built_leaf] at h
      obtain ⟨plan, hplan, hrealized⟩ := bind_eq_ok_iff.1 h
      exact nested_of_realized (plan_ne_nested (hflat l List.mem_cons_self) hplan) hrealized
  | binary left connective right ihLeft _ =>
      rw [built_binary] at h
      obtain ⟨l, hl, h⟩ := bind_eq_ok_iff.1 h
      obtain ⟨r, _, rfl⟩ := map_eq_ok_iff.1 h
      have hleft := ihLeft (fun l hl => hflat l (List.mem_append_left _ hl)) hl
      rw [join_eq_of_unmerged (hmerge connective l r (by rw [hleft, Bool.false_and]))]
  | paren inner ih => exact ih hflat h

/-- Where no leaf is about a collection there is nothing to merge, so parentheses change nothing. -/
theorem built_stripped {e : Expr}
    (hflat : ∀ l ∈ e.leaves, ∀ f, m.get? (fieldName l) = some f → f.isNested = false)
    (inParens : Bool) (serial : Nat) :
    target.built m inParens serial e = target.built m false serial e.stripped := by
  induction e generalizing inParens serial with
  | leaf l => rw [Expr.stripped, built_leaf, built_leaf]
  | binary left connective right ihLeft ihRight =>
      have hflatLeft := fun l hl => hflat l (List.mem_append_left right.leaves hl)
      have hflatRight := fun l hl => hflat l (List.mem_append_right left.leaves hl)
      rw [Expr.stripped, built_binary, built_binary, Expr.leafCount_stripped,
        ← ihLeft hflatLeft false serial, ← ihRight hflatRight false (serial + left.leafCount)]
      cases hl : target.built m false serial left with
      | error fault => rfl
      | ok l =>
          have hleft := nested_of_built hmerge hflatLeft hl
          have hjoin : target.join inParens connective l = target.join false connective l := by
            funext r
            have hunmerged := hmerge connective l r (by rw [hleft, Bool.false_and])
            rw [join_eq_of_unmerged hunmerged, join_eq_of_unmerged hunmerged]
          simp only [Except.bind, hjoin]
  | paren inner ih => exact ih hflat true serial

theorem compile_stripped {e : Expr}
    (hflat : ∀ l ∈ e.leaves, ∀ f, m.get? (fieldName l) = some f → f.isNested = false) :
    (target.compile m e : Except Error Q) = target.compile m e.stripped := by
  rw [compile_eq, compile_eq, built_stripped hmerge hflat false 0]

end Flat

/-- The connectives of the chains directly in parentheses whose two sides were made into one query. -/
def mergedConnectives (target : Target Id Q) (m : Mapper) (inParens : Bool) (serial : Nat) :
    Expr → List Connective
  | .leaf _ => []
  | .paren inner => target.mergedConnectives m true serial inner
  | .binary left connective right =>
    target.mergedConnectives m false serial left ++
      target.mergedConnectives m false (serial + left.leafCount) right ++
      match inParens, target.built m false serial left,
        target.built m false (serial + left.leafCount) right with
      | true, .ok l, .ok r =>
        if (target.merge connective l r : Option Q).isSome then [connective] else []
      | _, _, _ => []

section Sides

variable {left right : Expr} {connective : Connective} {l r : Compiled Q} {inParens : Bool} {serial : Nat}

theorem mergedConnectives_binary (hl : target.built m false serial left = .ok l)
    (hr : target.built m false (serial + left.leafCount) right = .ok r) :
    target.mergedConnectives m inParens serial (.binary left connective right) =
      target.mergedConnectives m false serial left ++
        target.mergedConnectives m false (serial + left.leafCount) right ++
        if inParens && (target.merge connective l r : Option Q).isSome then [connective] else [] := by
  simp only [mergedConnectives, hl, hr]
  cases inParens <;> rfl

theorem mem_mergedConnectives (hl : target.built m false serial left = .ok l)
    (hr : target.built m false (serial + left.leafCount) right = .ok r)
    (hmerges : (target.merge connective l r : Option Q).isSome = true) :
    connective ∈ target.mergedConnectives m true serial (.binary left connective right) := by
  rw [mergedConnectives_binary hl hr, hmerges]
  exact List.mem_append_right _ (List.mem_singleton_self connective)

theorem mergedConnectives_of_not_merged (hl : target.built m false serial left = .ok l)
    (hr : target.built m false (serial + left.leafCount) right = .ok r)
    (h : (inParens && (target.merge connective l r : Option Q).isSome) = false) :
    target.mergedConnectives m inParens serial (.binary left connective right) =
      target.mergedConnectives m false serial left ++
        target.mergedConnectives m false (serial + left.leafCount) right := by
  rw [mergedConnectives_binary hl hr, h, if_neg Bool.false_ne_true, List.append_nil]

omit [Run] in
theorem join_of_not_merged
    (h : (inParens && (target.merge connective l r : Option Q).isSome) = false) :
    target.join inParens connective l r = ⟨target.combine connective l.query r.query, false⟩ := by
  cases inParens with
  | false => rfl
  | true => exact join_unmerged (Option.isNone_iff_eq_none.1 (Option.isSome_eq_false_iff.1 h))

end Sides

end Target

end FilterLang
