import FilterLang.Predicate.Target
import FilterLang.Proofs.Query.Building
import FilterLang.Proofs.Sql.Column
import FilterLang.Proofs.Text.Decimal
import FilterLang.Run.Counting
import FilterLang.Sql.Target

/-!
A compiled condition is the rendering of the compiled predicate. Predicates merge where their paths
are the same and conditions where their lists are written alike, and for collections that written
paths lead to that is one and the same.
-/

namespace FilterLang.Sql

open Mapper Outcome

def render? (root : Option Text) (depth : Nat) : Predicate → Option Condition
  | .always => some .always
  | .never => some .never
  | .and left right =>
    (render? root depth left).bind fun l => (render? root depth right).map (Condition.and l)
  | .or left right =>
    (render? root depth left).bind fun l => (render? root depth right).map (Condition.or l)
  | .compare c => (clause? root c).map Condition.clause
  | .any collection guarded body =>
    (render? (some (elementName depth)) (depth + 1) body).map
      (Condition.any (column root collection) (elementName depth) guarded)
  | .hasKey map key => some (.clause (hasKeyClause map key))
  | .nullCheck path check => some (.clause (nullClauseOf path check))

/--
Every comparison and every list hangs on the innermost element, or on the table where there is none,
and no element takes the name of one around it. Guards are about the table alone.
-/
inductive Scoped : Option Text → List Text → Condition → Prop
  | always {root : Option Text} {bound : List Text} : Scoped root bound .always
  | never {root : Option Text} {bound : List Text} : Scoped root bound .never
  | and {root : Option Text} {bound : List Text} {left right : Condition}
      (hleft : Scoped root bound left) (hright : Scoped root bound right) :
      Scoped root bound (.and left right)
  | or {root : Option Text} {bound : List Text} {left right : Condition}
      (hleft : Scoped root bound left) (hright : Scoped root bound right) :
      Scoped root bound (.or left right)
  | compare {root : Option Text} {bound : List Text} {c : Comparison} {sql : Text}
      (h : clause? root c = some sql) : Scoped root bound (.clause sql)
  | hasKey {root : Option Text} {bound : List Text} (map : Path) (key : Value) :
      Scoped root bound (.clause (hasKeyClause map key))
  | nullCheck {root : Option Text} {bound : List Text} (path : Path) (check : NullCheck) :
      Scoped root bound (.clause (nullClauseOf path check))
  | any {root : Option Text} {bound : List Text} {collection : Path} {element : Text}
      {guarded : Bool} {body : Condition} (hnew : element ∉ bound)
      (hbody : Scoped (some element) (element :: bound) body) :
      Scoped root bound (.any (column root collection) element guarded body)

theorem elementName_injective {depth depth' : Nat} (h : elementName depth = elementName depth') :
    depth = depth' :=
  Text.decimal_injective (List.cons.inj h).2

def elementNames (depth : Nat) : List Text := (List.range depth).reverse.map elementName

theorem elementNames_succ (depth : Nat) :
    elementNames (depth + 1) = elementName depth :: elementNames depth := by
  simp [elementNames, List.range_succ]

theorem elementName_not_mem (depth : Nat) : elementName depth ∉ elementNames depth := by
  intro hmem
  obtain ⟨d, hd, hequal⟩ := List.mem_map.1 hmem
  rw [List.mem_reverse, List.mem_range, elementName_injective hequal] at hd
  exact Nat.lt_irrefl _ hd

theorem scoped_of_render? {root : Option Text} {depth : Nat} {p : Predicate} {c : Condition}
    (h : render? root depth p = some c) : Scoped root (elementNames depth) c := by
  induction p generalizing root depth c with
  | always =>
      cases h
      exact .always
  | never =>
      cases h
      exact .never
  | and left right ihLeft ihRight =>
      obtain ⟨l, hleft, h⟩ := Option.bind_eq_some_iff.1 h
      obtain ⟨r, hright, rfl⟩ := Option.map_eq_some_iff.1 h
      exact .and (ihLeft hleft) (ihRight hright)
  | or left right ihLeft ihRight =>
      obtain ⟨l, hleft, h⟩ := Option.bind_eq_some_iff.1 h
      obtain ⟨r, hright, rfl⟩ := Option.map_eq_some_iff.1 h
      exact .or (ihLeft hleft) (ihRight hright)
  | compare comparison =>
      obtain ⟨sql, hsql, rfl⟩ := Option.map_eq_some_iff.1 h
      exact .compare hsql
  | any collection guarded body ih =>
      obtain ⟨inner, hinner, rfl⟩ := Option.map_eq_some_iff.1 h
      have hbody := ih hinner
      rw [elementNames_succ] at hbody
      exact .any (elementName_not_mem depth) hbody
  | hasKey map key =>
      cases h
      exact .hasKey map key
  | nullCheck path check =>
      cases h
      exact .nullCheck path check

theorem render?_combine {root : Option Text} {depth : Nat} {left right : Predicate}
    {l r : Condition} (connective : Connective) (hleft : render? root depth left = some l)
    (hright : render? root depth right = some r) :
    render? root depth (Predicate.combine connective left right) =
      some (Condition.combine connective l r) := by
  cases connective <;> simp [Predicate.combine, Condition.combine, render?, hleft, hright]

theorem render?_guards {guards : List Guard} {p : Predicate} {c : Condition}
    (h : render? none 0 p = some c) :
    render? none 0 (guards.foldl Predicate.target.guardedBy p) =
      some (guards.foldl Condition.target.guardedBy c) := by
  induction guards generalizing p c with
  | nil => exact h
  | cons guard guards ih =>
      apply ih
      cases guard with
      | hasKey map key => exact render?_combine .and rfl h
      | hasValue path => exact render?_combine .and rfl h
      | orNull path => exact render?_combine .or rfl h

theorem render?_ofScope (root : Option Text) (depth : Nat) (scope : Scope) :
    render? root depth (Predicate.ofScope scope) = ofScope? root depth scope := by
  induction scope generalizing root depth with
  | any collection guarded body ih =>
      rw [Predicate.ofScope, render?, ih]
      rfl
  | compare c => rfl
  | never => rfl

/-! Every comparison of a leaf has a form, if its operator has. -/

/-- The operator has SQL for every column and every literal. -/
def HasSql (op : Operator) : Prop :=
  ∀ own, op = .custom own → ∀ subject literal, (own.sql? subject literal).isSome = true

theorem hasSql_of_resolve? {r : Registry} {symbol : Text} {op : Operator}
    (h : ∀ own ∈ r.operators, ∀ subject literal, (own.sql? subject literal).isSome = true)
    (hop : r.resolve? symbol = some op) : HasSql op := by
  rintro own rfl
  rcases Option.or_eq_some_iff.1 hop with hbuiltIn | ⟨_, hcustom⟩
  · cases Operator.isCustom_of_builtIn? hbuiltIn
  · obtain ⟨own', hfound, hequal⟩ := Option.map_eq_some_iff.1 hcustom
    cases hequal
    exact h own (List.mem_of_find?_eq_some hfound)

theorem isSome_clause?_of_hasSql {root : Option Text} {c : Comparison} (h : HasSql c.operator) :
    (clause? root c).isSome = true := by
  cases hoperator : c.operator with
  | custom own =>
      unfold clause?
      dsimp only
      split
      · rfl
      · split
        · rfl
        · rw [hoperator]
          exact h own hoperator _ _
  | equality negated => exact isSome_clause? (by rw [hoperator]; rfl)
  | ordering bound => exact isSome_clause? (by rw [hoperator]; rfl)
  | textual relation negated => exact isSome_clause? (by rw [hoperator]; rfl)

theorem isSome_ofScope? {guarded : Bool} {innermost : Scope} {collections : List Path}
    (h : ∀ root depth, (ofScope? root depth innermost).isSome = true) (root : Option Text)
    (depth : Nat) : (ofScope? root depth (scopeOf guarded innermost collections)).isSome = true := by
  induction collections generalizing root depth with
  | nil => exact h root depth
  | cons collection more ih =>
      rw [scopeOf, ofScope?, Option.isSome_map]
      exact ih _ _

theorem exists_condition_nestedOf [Run] {m : Mapper} {serial : Nat} {f : Field} {op : Operator}
    {path collection rest : Path} {l : Leaf} (hsql : HasSql op)
    (hsplit : path.splitEach? = some (collection, rest)) :
    ∃ c, (Condition.target.nested (m.nestedOf serial f path op l) : Option Condition) = some c := by
  have hinnermost : ∀ root depth,
      (ofScope? root depth (m.innermostOf serial f op rest.hops.2 l)).isSome = true := by
    intro root depth
    unfold innermostOf
    split
    · rw [ofScope?, Option.isSome_map]
      exact isSome_clause?_of_hasSql hsql
    · rfl
  have hsome : (ofScope? none 0 (m.nestedOf serial f path op l).scope).isSome = true := by
    rw [scope_nestedOf hsplit, ofScope?, Option.isSome_map]
    exact isSome_ofScope? hinnermost _ _
  exact Option.isSome_iff_exists.1 hsome

theorem exists_condition_compare {c : Comparison} (hsql : HasSql c.operator) :
    ∃ sql, clause? none c = some sql ∧
      (Condition.target.compare c : Option Condition) = some (.clause sql) := by
  obtain ⟨sql, hclause⟩ := Option.isSome_iff_exists.1 (@isSome_clause?_of_hasSql none c hsql)
  exact ⟨sql, hclause, congrArg (Option.map Condition.clause) hclause⟩

/-- What a part compiles to for either target. A part about elements is about those of a collection
whose column tells it. -/
structure Rendered (p : Compiled Predicate) (c : Compiled Condition) : Prop where
  query : render? none 0 p.query = some c.query
  nested : c.nested = p.nested
  collection : p.nested = true → ∃ collection guarded body type,
    p.query = .any collection guarded body ∧ Path.Reached type collection ∧ type ≠ .float

theorem rendered_combine {left right : Compiled Predicate} {left' right' : Compiled Condition}
    (connective : Connective) (hleft : Rendered left left') (hright : Rendered right right') :
    Rendered ⟨Predicate.combine connective left.query right.query, false⟩
      ⟨Condition.combine connective left'.query right'.query, false⟩ where
  query := render?_combine connective hleft.query hright.query
  nested := rfl
  collection := nofun

/-- The two tests for merging agree. -/
theorem same_iff_column_eq {type type' : FieldType} {p p' : Path} (hp : Path.Reached type p)
    (hp' : Path.Reached type' p') (hfloat : type ≠ .float) (hfloat' : type' ≠ .float) :
    p.same p' = true ↔ column none p = column none p' := by
  rw [Path.same_iff_eq hfloat (Path.boundTo_of_reached hp)]
  constructor
  · intro hequal
    rw [hequal]
  · exact column_inj hp hp' hfloat hfloat'

theorem exists_any_of_nested {p : Compiled Predicate} {c : Compiled Condition} (h : Rendered p c)
    (hnested : p.nested = true) :
    ∃ collection guarded body rendered type, p = ⟨.any collection guarded body, true⟩ ∧
      c = ⟨.any (column none collection) (elementName 0) guarded rendered, true⟩ ∧
      render? (some (elementName 0)) 1 body = some rendered ∧
      Path.Reached type collection ∧ type ≠ .float := by
  obtain ⟨collection, guarded, body, type, hquery, hreached, hfloat⟩ := h.collection hnested
  have hrendered := h.query
  have hflag := h.nested
  obtain ⟨query, nested⟩ := p
  obtain ⟨query', nested'⟩ := c
  cases hnested
  cases hquery
  cases hflag
  obtain ⟨rendered, hbody, rfl⟩ := Option.map_eq_some_iff.1 hrendered
  exact ⟨collection, guarded, body, rendered, type, rfl, rfl, hbody, hreached, hfloat⟩

theorem join_rendered (inParens : Bool) (connective : Connective) {left right : Compiled Predicate}
    {left' right' : Compiled Condition} (hleft : Rendered left left') (hright : Rendered right right') :
    Rendered (Predicate.target.join inParens connective left right)
      (Condition.target.join inParens connective left' right') := by
  have hcombined := rendered_combine connective hleft hright
  cases inParens with
  | false => exact hcombined
  | true =>
      cases hnested : left.nested && right.nested with
      | false =>
          have hnested' : (left'.nested && right'.nested) = false := by
            rw [hleft.nested, hright.nested, hnested]
          rw [Target.join_unmerged (Predicate.merge?_of_not_nested hnested),
            Target.join_unmerged (Condition.merge?_of_not_nested hnested')]
          exact hcombined
      | true =>
          rw [Bool.and_eq_true] at hnested
          obtain ⟨c, guarded, body, rendered, type, rfl, rfl, hbody, hreached, hfloat⟩ :=
            exists_any_of_nested hleft hnested.1
          obtain ⟨c', guarded', body', rendered', type', rfl, rfl, hbody', hreached', hfloat'⟩ :=
            exists_any_of_nested hright hnested.2
          -- Predicates go by the collections and conditions by their columns, which tell them apart.
          have hagree := same_iff_column_eq hreached hreached' hfloat hfloat'
          have hmerge := Predicate.merge?_any connective c c' guarded guarded' body body'
          have hmerge' := Condition.merge?_any connective (column none c) (column none c')
            (elementName 0) guarded guarded' rendered rendered'
          by_cases hlist : column none c = column none c'
          · rw [if_pos (hagree.2 hlist)] at hmerge
            rw [if_pos hlist] at hmerge'
            rw [Target.join_merged hmerge, Target.join_merged hmerge']
            refine ⟨?_, rfl, fun _ => ⟨c, guarded, _, type, rfl, hreached, hfloat⟩⟩
            rw [render?, render?_combine connective hbody hbody']
            rfl
          · rw [if_neg fun hsame => hlist (hagree.1 hsame)] at hmerge
            rw [if_neg hlist] at hmerge'
            rw [Target.join_unmerged hmerge, Target.join_unmerged hmerge']
            exact hcombined

section Runs

variable [Run]

theorem planOf_rendered {m : Mapper} {serial : Nat} {f : Field} {op : Operator} {path : Path}
    {l : Leaf} (hpath : path.Plain ∧ path.BoundTo f.keyType) (hfloat : f.keyType ≠ .float)
    (hsql : HasSql op) (hnested : path.isNested = f.isNested) :
    Related Rendered (Predicate.target.realized (fieldName l) (m.planOf serial f op path l))
      (Condition.target.realized (fieldName l) (m.planOf serial f op path l)) := by
  cases hsplit : path.splitEach? with
  | none =>
      rw [planOf_flat hnested hsplit]
      cases m.literal? serial f op l false with
      | none => exact .ok ⟨rfl, rfl, nofun⟩
      | some lit =>
          obtain ⟨sql, hclause, hcompare⟩ := @exists_condition_compare (comparisonOf path f op lit) hsql
          rw [Target.realized_compare, Target.realized_compare, hcompare]
          refine .ok ⟨render?_guards ?_, rfl, nofun⟩
          exact congrArg (Option.map Condition.clause) hclause
  | some parts =>
      obtain ⟨collection, rest⟩ := parts
      rw [planOf_nested hnested hsplit]
      obtain ⟨c, hc⟩ := @exists_condition_nestedOf _ m serial f op path collection rest l hsql hsplit
      have hreached := Path.reached_of_splitEach? hpath.1 hpath.2 hsplit
      rw [Target.realized_nested, Target.realized_nested, hc]
      refine .ok ⟨?_, rfl, fun _ => ?_⟩
      · exact (render?_ofScope none 0 _).trans hc
      · have hany := congrArg Predicate.ofScope (@scope_nestedOf _ m serial f path collection rest op l hsplit)
        exact ⟨collection, _, _, f.keyType, hany, hreached, hfloat⟩

theorem plan_rendered {m : Mapper} {serial : Nat} {l : Leaf} {plan : Plan}
    (hpaths : ∀ f ∈ m.fields, ∃ t, Path.read t = .ok f.path)
    (hkeys : ∀ f ∈ m.fields, f.keyType ≠ .float)
    (hsql : ∀ op, m.registry.resolve? l.symbol = some op → HasSql op)
    (h : m.plan serial l = .ok plan) :
    Related Rendered (Predicate.target.realized (fieldName l) plan)
      (Condition.target.realized (fieldName l) plan) := by
  rcases plan_cases h with ⟨_, rfl⟩ | ⟨f, op, hfield, hoperator, hbound⟩
  · exact .ok ⟨rfl, rfl, nofun⟩
  · rcases hbound with ⟨_, rfl⟩ | ⟨path, hbound, _, rfl⟩
    · exact .ok ⟨rfl, rfl, nofun⟩
    · have hmem : f ∈ m.fields := List.mem_of_find?_eq_some hfield
      obtain ⟨t, ht⟩ := hpaths f hmem
      have hpath := Path.bound_of_bindIndexer (Path.plain_of_read ht) hbound
      exact planOf_rendered hpath (hkeys f hmem) (hsql op hoperator) (isNested_bindIndexer hbound)

/--
With written paths, keys that are no doubles and operators that all have SQL, a tree compiles for both
targets or for neither, and then with the same error. The condition is the predicate's rendering, in
which no element hides another one and nothing hangs on an element that is not there.
-/
theorem ofExpr_renders (m : Mapper) (e : Expr)
    (hpaths : ∀ f ∈ m.fields, ∃ t, Path.read t = .ok f.path)
    (hkeys : ∀ f ∈ m.fields, f.keyType ≠ .float)
    (hsql : ∀ l ∈ e.leaves, ∀ op, m.registry.resolve? l.symbol = some op → HasSql op) :
    Related (fun p c => render? none 0 p = some c ∧ Scoped none [] c) (Predicate.ofExpr m e)
      (Condition.ofExpr m e) := by
  have hcompile : Predicate.ofExpr m e =
      (Predicate.target.built m false 0 e).map Compiled.query :=
    Target.compile_eq Predicate.target m e
  have hcompile' : Condition.ofExpr m e =
      (Condition.target.built m false 0 e).map Compiled.query :=
    Target.compile_eq Condition.target m e
  have hbuilt : Related Rendered (Predicate.target.built m false 0 e)
      (Condition.target.built m false 0 e) :=
    Target.built_related (fun inParens connective _ _ _ _ => join_rendered inParens connective)
      (fun l hl serial plan => plan_rendered hpaths hkeys (hsql l hl)) false 0
  rw [hcompile, hcompile']
  generalize Predicate.target.built m false 0 e = built at hbuilt ⊢
  generalize Condition.target.built m false 0 e = built' at hbuilt ⊢
  cases hbuilt with
  | error fault => exact .error fault
  | ok hrendered => exact .ok ⟨hrendered.query, scoped_of_render? hrendered.query⟩

end Runs

def shop : Mapper where
  fields := [
    { name := "sku", type := .text
      path := [.member "orders", .each, .member "lines", .each, .member "sku"] },
    { name := "tag", type := .text, keyType := .uuid
      path := [.member "meta", .key none, .member "tags", .each, .member "name"] }]
  registry := ⟨[⟨0, "#~", fun _ _ => true, fun subject literal => some (subject ++ " ~ " ++ literal)⟩]⟩

/-- The orders merge; the tags do not, for their keys are no identifiers and each stands for one of its own. -/
def shopping : Expr :=
  .binary
    (.paren (.binary
      (.leaf ⟨"sku", none, false, 0, "=", 0, "a", true⟩) .or
      (.leaf ⟨"sku", none, false, 0, "#~", 0, "b", false⟩)))
    .and
    (.paren (.binary
      (.leaf ⟨"tag", some "?", false, 0, "=", 0, "c", false⟩) .and
      (.leaf ⟨"tag", some "?", false, 0, "^", 0, "d", false⟩)))

open scoped Run.Counting in
theorem ofExpr_renders_shopping :
    ∃ p c, Predicate.ofExpr shop shopping = .ok p ∧ Condition.ofExpr shop shopping = .ok c ∧
      render? none 0 p = some c ∧ Scoped none [] c := by
  have hpaths : ∀ f ∈ shop.fields, ∃ t, Path.read t = .ok f.path := by
    intro f hf
    simp only [shop, List.mem_cons, List.not_mem_nil, or_false] at hf
    rcases hf with rfl | rfl
    · exact ⟨"orders[*].lines[*].sku", rfl⟩
    · exact ⟨"meta[].tags[*].name", rfl⟩
  have hkeys : ∀ f ∈ shop.fields, f.keyType ≠ .float := by decide
  have hoperators : ∀ own ∈ shop.registry.operators, ∀ subject literal,
      (own.sql? subject literal).isSome = true := by
    intro own hown subject literal
    cases List.mem_singleton.1 hown
    rfl
  have hrelated := ofExpr_renders shop shopping hpaths hkeys
    fun _ _ _ hop => hasSql_of_resolve? hoperators hop
  have hp : ∃ p, Predicate.ofExpr shop shopping = .ok p := ⟨_, rfl⟩
  obtain ⟨p, hp⟩ := hp
  rw [hp] at hrelated
  generalize Condition.ofExpr shop shopping = outcome at hrelated ⊢
  cases hrelated with
  | @ok _ c hrendered => exact ⟨p, c, hp, rfl, hrendered⟩

end FilterLang.Sql
