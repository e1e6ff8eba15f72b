import FilterLang.Proofs.Outcome
import FilterLang.Query.Target

/-!
Compiling for a target without effects, one equation for each shape of an expression. A relation
between the results of two ways of compiling that leaves establish and joining keeps holds of whole
expressions.
-/

namespace FilterLang.Target

variable {P Q : Type}

def realized (target : Target Id Q) (name : Text) (plan : Plan) : Except Error (Compiled Q) :=
  target.realize name plan

def guardedBy (target : Target Id Q) (query : Q) (guard : Guard) : Q := target.guarded query guard

def join (target : Target Id Q) (inParens : Bool) (connective : Connective)
    (left right : Compiled Q) : Compiled Q :=
  match (if inParens then target.merge connective left right else none : Option Q) with
  | some query => ⟨query, true⟩
  | none => ⟨target.combine connective left.query right.query, false⟩

theorem join_unmerged {target : Target Id Q} {connective : Connective} {left right : Compiled Q}
    (h : (target.merge connective left right : Option Q) = none) :
    target.join true connective left right =
      ⟨target.combine connective left.query right.query, false⟩ := by
  simp only [join, h, ↓reduceIte]

theorem join_merged {target : Target Id Q} {connective : Connective} {left right : Compiled Q}
    {query : Q} (h : (target.merge connective left right : Option Q) = some query) :
    target.join true connective left right = ⟨query, true⟩ := by
  simp only [join, h, ↓reduceIte]

theorem foldlM_guarded (target : Target Id Q) (guards : List Guard) (query : Q) :
    (guards.foldlM target.guarded query : Id Q) = guards.foldl target.guardedBy query := by
  induction guards generalizing query with
  | nil => rfl
  | cons guard guards ih => exact ih (target.guardedBy query guard)

theorem realized_compare (target : Target Id Q) (name : Text) (c : Comparison)
    (guards : List Guard) :
    target.realized name (.compare c guards) =
      match (target.compare c : Option Q) with
      | some query => .ok ⟨guards.foldl target.guardedBy query, false⟩
      | none => .error (.invalidExpression (.comparison c.operator.symbol name)) := by
  unfold realized realize
  simp only [bind, ExceptT.bind, ExceptT.mk, ExceptT.bindCont]
  cases (target.compare c : Option Q) with
  | none => rfl
  | some query =>
      have hguards := foldlM_guarded target guards query
      exact congrArg (fun q => (Except.ok ⟨q, false⟩ : Except Error (Compiled Q))) hguards

theorem realized_nested (target : Target Id Q) (name : Text) (n : Nested) :
    target.realized name (.nested n) =
      match (target.nested n : Option Q) with
      | some query => .ok ⟨query, true⟩
      | none => .error (.invalidExpression (.collection name)) := by
  unfold realized realize
  simp only [bind, ExceptT.bind, ExceptT.mk, ExceptT.bindCont]
  cases (target.nested n : Option Q) <;> rfl

variable [Run]

/-- What compiling a part of an expression comes to. -/
def built (target : Target Id Q) (m : Mapper) (inParens : Bool) (serial : Nat) (e : Expr) :
    Except Error (Compiled Q) :=
  target.build m inParens serial e

theorem built_leaf (target : Target Id Q) (m : Mapper) (inParens : Bool) (serial : Nat) (l : Leaf) :
    target.built m inParens serial (.leaf l) =
      (m.plan serial l).bind (target.realized (Mapper.fieldName l)) := by
  unfold built build buildLeaf
  cases m.plan serial l <;> rfl

theorem built_paren (target : Target Id Q) (m : Mapper) (inParens : Bool) (serial : Nat) (e : Expr) :
    target.built m inParens serial (.paren e) = target.built m true serial e := rfl

theorem built_binary (target : Target Id Q) (m : Mapper) (inParens : Bool) (serial : Nat)
    (left : Expr) (connective : Connective) (right : Expr) :
    target.built m inParens serial (.binary left connective right) =
      (target.built m false serial left).bind fun l =>
        (target.built m false (serial + left.leafCount) right).map
          (target.join inParens connective l) := by
  unfold built
  rw [build]
  cases (target.build m false serial left : Except Error (Compiled Q)) with
  | error fault => rfl
  | ok l =>
      cases (target.build m false (serial + left.leafCount) right : Except Error (Compiled Q)) with
      | error fault => rfl
      | ok r =>
          cases inParens with
          | false => rfl
          | true =>
              show (match (target.merge connective l r : Option Q) with
                | some query => (.ok ⟨query, true⟩ : Except Error (Compiled Q))
                | none => .ok ⟨target.combine connective l.query r.query, false⟩) = _
              simp only [Except.bind, Except.map, join, ↓reduceIte]
              cases (target.merge connective l r : Option Q) <;> rfl

theorem compile_eq (target : Target Id Q) (m : Mapper) (e : Expr) :
    (target.compile m e : Except Error Q) = (target.built m false 0 e).map Compiled.query := by
  unfold compile built
  cases (target.build m false 0 e : Except Error (Compiled Q)) <;> rfl

theorem compileText_eq (target : Target Id Q) (m : Mapper) (t : Text) :
    (target.compileText m t : Except Error Q) =
      if Text.allBlank t then .ok target.always
      else (Expr.read m.registry m.settings.maxDepth.toNat t).bind (target.compile m) := by
  unfold compileText
  split
  · rfl
  · cases Expr.read m.registry m.settings.maxDepth.toNat t <;> rfl

theorem compileText_of_read (target : Target Id Q) {m : Mapper} {t : Text} {e : Expr}
    (hblank : Text.allBlank t = false)
    (hread : Expr.read m.registry m.settings.maxDepth.toNat t = .ok e) :
    target.compileText m t = target.compile m e := by
  have htext := compileText_eq target m t
  rw [hblank, hread] at htext
  exact htext

/-- Two targets build related queries of an expression if they do so of the plans of its leaves and
joining keeps the relation. -/
theorem built_related {a : Target Id P} {b : Target Id Q} {m : Mapper}
    {r : Compiled P → Compiled Q → Prop}
    (hjoin : ∀ inParens connective left right left' right', r left left' → r right right' →
      r (a.join inParens connective left right) (b.join inParens connective left' right'))
    {e : Expr} (hplan : ∀ l ∈ e.leaves, ∀ serial plan, m.plan serial l = .ok plan →
      Outcome.Related r (a.realized (Mapper.fieldName l) plan) (b.realized (Mapper.fieldName l) plan))
    (inParens : Bool) (serial : Nat) :
    Outcome.Related r (a.built m inParens serial e) (b.built m inParens serial e) := by
  induction e generalizing inParens serial with
  | leaf l =>
      rw [built_leaf, built_leaf]
      cases hl : m.plan serial l with
      | error fault => exact .error fault
      | ok plan => exact hplan l List.mem_cons_self serial plan hl
  | binary left connective right ihLeft ihRight =>
      have hleft := ihLeft (fun l hl => hplan l (List.mem_append_left _ hl)) false serial
      have hright := ihRight (fun l hl => hplan l (List.mem_append_right _ hl)) false
        (serial + left.leafCount)
      rw [built_binary, built_binary]
      -- Both stop at the left side, or both go on to the right one with the same serial number.
      generalize a.built m false serial left = builtLeft at hleft ⊢
      generalize b.built m false serial left = builtLeft' at hleft ⊢
      cases hleft with
      | error fault => exact .error fault
      | ok hleft =>
          generalize a.built m false (serial + left.leafCount) right = builtRight at hright ⊢
          generalize b.built m false (serial + left.leafCount) right = builtRight' at hright ⊢
          cases hright with
          | error fault => exact .error fault
          | ok hright => exact .ok (hjoin inParens connective _ _ _ _ hleft hright)
  | paren inner ih =>
      rw [built_paren, built_paren]
      exact ih hplan true serial

end FilterLang.Target
