import FilterLang.Proofs.Expr.Plain
import FilterLang.Proofs.Query.Building
import FilterLang.Proofs.Query.Literals
import FilterLang.Proofs.Query.Planning
import FilterLang.Proofs.Sql.Alike
import FilterLang.Run.Counting

/-!
The literals of a filter and the SQL around them. Filters that differ only in texts that they compare
with have the same SQL but for the strings that are those texts.
-/

namespace FilterLang

open Mapper Outcome

namespace Leaf

/-- The literal is compared as text and for what it is: the field is a text field without a convertor,
and the literal is neither empty nor the word for null. -/
def isFree (m : Mapper) (l : Leaf) : Bool :=
  match m.get? (fieldName l) with
  | some f => f.type == .text && f.convertor.isNone && l.value ≠ [] && l.value ≠ "null".toList
  | none => false

/-- The same leaf but for its positions, and for the literal if it is free before and after. -/
structure SameButText (m : Mapper) (l l' : Leaf) : Prop where
  field : l'.field = l.field
  indexer : l'.indexer = l.indexer
  fieldIgnoresCase : l'.fieldIgnoresCase = l.fieldIgnoresCase
  symbol : l'.symbol = l.symbol
  valueIgnoresCase : l'.valueIgnoresCase = l.valueIgnoresCase
  value : l'.value = l.value ∨ l.isFree m = true ∧ l'.isFree m = true

end Leaf

inductive Expr.SameButText (m : Mapper) : Expr → Expr → Prop
  | leaf {l l' : Leaf} (h : l.SameButText m l') : SameButText m (.leaf l) (.leaf l')
  | binary {left left' right right' : Expr} (connective : Connective) (hleft : SameButText m left left')
      (hright : SameButText m right right') :
      SameButText m (.binary left connective right) (.binary left' connective right')
  | paren {inner inner' : Expr} (h : SameButText m inner inner') :
      SameButText m (.paren inner) (.paren inner')

theorem Expr.SameButText.refl (m : Mapper) (e : Expr) : e.SameButText m e := by
  induction e with
  | leaf l => exact .leaf ⟨rfl, rfl, rfl, rfl, rfl, .inl rfl⟩
  | binary left connective right ihLeft ihRight => exact .binary connective ihLeft ihRight
  | paren inner ih => exact .paren ih

theorem Expr.SameButText.leafCount_eq {m : Mapper} {e e' : Expr} (h : e.SameButText m e') :
    e'.leafCount = e.leafCount := by
  induction h with
  | leaf _ => rfl
  | binary _ _ _ ihLeft ihRight => rw [leafCount, leafCount, ihLeft, ihRight]
  | paren _ ih => exact ih

namespace Sql

/-- The same literals, or two texts that are compared alike. -/
inductive LiteralsAlike : List Text → List Text → Option Literal → Option Literal → Prop
  | none : LiteralsAlike [] [] none none
  | same (lit : Literal) : LiteralsAlike [] [] (some lit) (some lit)
  | texts (t t' : Text) (ignoresCase : Bool) :
      LiteralsAlike [t] [t']
        (some { value := .text t, matchesAbsent := false, ignoresCase := ignoresCase })
        (some { value := .text t', matchesAbsent := false, ignoresCase := ignoresCase })

variable {m : Mapper} {l l' : Leaf} {f : Field} {op : Operator}

theorem isFree_iff (hfield : m.get? (fieldName l) = some f) :
    l.isFree m = true ↔
      f.type = .text ∧ f.convertor = none ∧ l.value ≠ [] ∧ l.value ≠ "null".toList := by
  rw [Leaf.isFree, hfield]
  simp [and_assoc]

theorem foldsCase_eq (h : l.SameButText m l') (nested : Bool) :
    l'.foldsCase m.settings op nested = l.foldsCase m.settings op nested := by
  rw [Leaf.foldsCase, Leaf.foldsCase, h.valueIgnoresCase, h.fieldIgnoresCase]

theorem fieldName_eq (h : l.SameButText m l') : fieldName l' = fieldName l := by
  rw [fieldName, fieldName, h.field]

theorem isFree_eq (h : l.SameButText m l') : l'.isFree m = l.isFree m := by
  rcases h.value with hvalue | ⟨hfree, hfree'⟩
  · rw [Leaf.isFree, Leaf.isFree, fieldName_eq h, hvalue]
  · rw [hfree, hfree']

theorem comparison_alike {values values' : List Text} {lit lit' : Literal} {root : Option Text}
    {path : Path} (h : LiteralsAlike values values' (some lit) (some lit')) (hroot : Rooted root)
    (hcustom : op.isCustom = false) :
    ∃ sql sql', clause? root (comparisonOf path f op lit) = some sql ∧
      clause? root (comparisonOf path f op lit') = some sql' ∧ Alike values values' sql sql' := by
  cases h with
  | same =>
      exact @alike_clause? _ _ root (comparisonOf path f op lit) lit.value hroot hcustom
        (alike_literal lit.value) rfl fun _ => ⟨rfl, rfl⟩
  | texts t t' ignoresCase =>
      exact @alike_clause? _ _ root (comparisonOf path f op _) (.text t') hroot hcustom
        (.value t t') rfl nofun

/-- Two conditions that are alike, and about the elements of the same list if they are about elements. -/
inductive Framed : List Text → List Text → Compiled Condition → Compiled Condition → Prop
  | plain {values values' : List Text} {c c' : Condition} (h : Alike values values' c.text c'.text) :
      Framed values values' ⟨c, false⟩ ⟨c', false⟩
  | any {values values' : List Text} (collection : Path) (guarded : Bool) {body body' : Condition}
      (h : Alike values values' body.text body'.text) :
      Framed values values' ⟨.any (column none collection) (elementName 0) guarded body, true⟩
        ⟨.any (column none collection) (elementName 0) guarded body', true⟩

variable {values values' : List Text}

theorem alike_list (collection : Path) {root : Option Text} (hroot : Rooted root) (depth : Nat)
    (guarded : Bool) {body body' : Condition} (h : Alike values values' body.text body'.text) :
    Alike values values'
      (Condition.any (column root collection) (elementName depth) guarded body).text
      (Condition.any (column root collection) (elementName depth) guarded body').text :=
  alike_any guarded (alike_column hroot collection) (inert_elementName depth) h

theorem Framed.alike {c c' : Compiled Condition} (h : Framed values values' c c') :
    Alike values values' c.query.text c'.query.text := by
  cases h with
  | plain h => exact h
  | any collection guarded h => exact alike_list collection rooted_none 0 guarded h

theorem alike_combine_clause (connective : Connective) {sql : Text} (hsql : Fixed sql)
    {c c' : Condition} (h : Alike values values' c.text c'.text) :
    Alike values values' (Condition.combine connective (.clause sql) c).text
      (Condition.combine connective (.clause sql) c').text :=
  @alike_combine [] [] values values' (.clause sql) (.clause sql) c c' connective hsql h

theorem alike_guardedBy (guard : Guard) {c c' : Condition} (h : Alike values values' c.text c'.text) :
    Alike values values' (Condition.target.guardedBy c guard).text
      (Condition.target.guardedBy c' guard).text := by
  cases guard with
  | hasKey map key => exact alike_combine_clause .and (alike_hasKeyClause map key) h
  | hasValue path => exact alike_combine_clause .and (alike_nullClauseOf path .hasValue) h
  | orNull path => exact alike_combine_clause .or (alike_nullClauseOf path .isNull) h

theorem alike_guards (guards : List Guard) {c c' : Condition} (h : Alike values values' c.text c'.text) :
    Alike values values' (guards.foldl Condition.target.guardedBy c).text
      (guards.foldl Condition.target.guardedBy c').text := by
  induction guards generalizing c c' with
  | nil => exact h
  | cons guard guards ih => exact ih (alike_guardedBy guard h)

def ScopesAlike (values values' : List Text) (scope scope' : Scope) : Prop :=
  ∀ root depth, Rooted root → ∃ c c', ofScope? root depth scope = some c ∧
    ofScope? root depth scope' = some c' ∧ Alike values values' c.text c'.text

theorem scopesAlike_scopeOf {guarded : Bool} {innermost innermost' : Scope}
    (h : ScopesAlike values values' innermost innermost') (collections : List Path) :
    ScopesAlike values values' (scopeOf guarded innermost collections)
      (scopeOf guarded innermost' collections) := by
  induction collections with
  | nil => exact h
  | cons collection more ih =>
      intro root depth hroot
      obtain ⟨c, c', hc, hc', halike⟩ := ih _ (depth + 1) (rooted_elementName depth)
      refine ⟨_, _, ?_, ?_, alike_list collection hroot depth guarded halike⟩
      · rw [scopeOf, ofScope?, hc]
        rfl
      · rw [scopeOf, ofScope?, hc']
        rfl

theorem guardsOf_eq {lit lit' : Literal} {path : Path} (settings : Settings) (indexed : Bool)
    (h : LiteralsAlike values values' (some lit) (some lit')) :
    guardsOf settings indexed (comparisonOf path f op lit) =
      guardsOf settings indexed (comparisonOf path f op lit') := by
  cases h <;> rfl

theorem realized_alike {lit lit' : Literal} {path : Path} (name : Text) (settings : Settings)
    (indexed : Bool) (hcustom : op.isCustom = false)
    (h : LiteralsAlike values values' (some lit) (some lit')) :
    ∃ c c', Condition.target.realized name (.compare (comparisonOf path f op lit)
        (guardsOf settings indexed (comparisonOf path f op lit))) = .ok c ∧
      Condition.target.realized name (.compare (comparisonOf path f op lit')
        (guardsOf settings indexed (comparisonOf path f op lit'))) = .ok c' ∧
      Framed values values' c c' := by
  obtain ⟨sql, sql', hsql, hsql', halike⟩ := comparison_alike h rooted_none hcustom
  have hcompare : (Condition.target.compare (comparisonOf path f op lit) : Option Condition) =
      some (.clause sql) := congrArg (Option.map Condition.clause) hsql
  have hcompare' : (Condition.target.compare (comparisonOf path f op lit') : Option Condition) =
      some (.clause sql') := congrArg (Option.map Condition.clause) hsql'
  rw [Target.realized_compare, Target.realized_compare, hcompare, hcompare',
    ← guardsOf_eq settings indexed h]
  exact ⟨_, _, rfl, rfl, .plain (alike_guards _ halike)⟩

theorem join_framed {values values' more more' : List Text}
    {left left' right right' : Compiled Condition} (inParens : Bool) (connective : Connective)
    (hleft : Framed values values' left left') (hright : Framed more more' right right') :
    Framed (values ++ more) (values' ++ more') (Condition.target.join inParens connective left right)
      (Condition.target.join inParens connective left' right') := by
  have hcombined : Framed (values ++ more) (values' ++ more')
      ⟨Condition.combine connective left.query right.query, false⟩
      ⟨Condition.combine connective left'.query right'.query, false⟩ :=
    .plain (alike_combine connective hleft.alike hright.alike)
  cases inParens with
  | false => exact hcombined
  | true =>
      cases hleft with
      | plain _ =>
          rw [Target.join_unmerged (Condition.merge?_of_not_nested rfl),
            Target.join_unmerged (Condition.merge?_of_not_nested rfl)]
          exact hcombined
      | @any collection guarded body body' hleft =>
          cases hright with
          | plain _ =>
              rw [Target.join_unmerged (Condition.merge?_of_not_nested rfl),
                Target.join_unmerged (Condition.merge?_of_not_nested rfl)]
              exact hcombined
          | @any collection' guarded' inner inner' hright =>
              have hmerge := Condition.merge?_any connective (column none collection)
                (column none collection') (elementName 0) guarded guarded' body inner
              have hmerge' := Condition.merge?_any connective (column none collection)
                (column none collection') (elementName 0) guarded guarded' body' inner'
              -- Both merge or neither does, for the lists are the same.
              split at hmerge
              · rename_i hsame
                rw [if_pos hsame] at hmerge'
                rw [Target.join_merged hmerge, Target.join_merged hmerge']
                exact .any collection guarded (alike_combine connective hleft hright)
              · rename_i hdiffer
                rw [if_neg hdiffer] at hmerge'
                rw [Target.join_unmerged hmerge, Target.join_unmerged hmerge']
                exact hcombined

end Sql

section Runs

variable [Run]

namespace Leaf

def keyReads (f : Field) (l : Leaf) : Bool :=
  match bindIndexer 0 f l.indexer with
  | .ok (some _) => true
  | _ => false

/-- The text that a free literal is to be found as in SQL; a leaf whose key cannot be read has none. -/
def rendered? (m : Mapper) (l : Leaf) : Option Text :=
  match m.get? (fieldName l), m.registry.resolve? l.symbol with
  | some f, some op =>
    if l.isFree m && l.keyReads f then
      some (if l.foldsCase m.settings op f.isNested then l.value.lowercase else l.value)
    else none
  | _, _ => none

end Leaf

/-- The texts of free literals, from left to right. -/
def Expr.rendered (m : Mapper) (e : Expr) : List Text := e.leaves.filterMap (Leaf.rendered? m)

namespace Sql

variable {m : Mapper} {l l' : Leaf} {f : Field} {op : Operator} {values values' : List Text}

theorem literal?_of_isFree (serial : Nat) (nested : Bool) (hfield : m.get? (fieldName l) = some f)
    (h : l.isFree m = true) :
    m.literal? serial f op l nested =
      some { value := .text (if l.foldsCase m.settings op nested then l.value.lowercase else l.value)
             matchesAbsent := false
             ignoresCase := l.foldsCase m.settings op nested } := by
  obtain ⟨htype, hconvertor, hempty, hnull⟩ := (isFree_iff hfield).1 h
  refine literal?_text htype hconvertor ?_ serial nested
  rintro ⟨_, hreserved | ⟨hreserved, _⟩⟩
  · exact hempty hreserved
  · exact hnull hreserved

theorem literal?_eq_of_value_eq (h : l.SameButText m l') (hvalue : l'.value = l.value) (serial : Nat)
    (nested : Bool) : m.literal? serial f op l' nested = m.literal? serial f op l nested := by
  unfold literal?
  rw [hvalue, h.valueIgnoresCase, h.fieldIgnoresCase]

theorem stops_eq (h : l.SameButText m l') (hfield : m.get? (fieldName l) = some f) :
    m.stops f op l' = m.stops f op l := by
  rcases h.value with hvalue | ⟨hfree, _⟩
  · unfold stops
    rw [hvalue]
  · have htext : f.type ≠ .dateTime := by
      rw [((isFree_iff hfield).1 hfree).1]
      nofun
    rw [stops_of_ne_dateTime htext, stops_of_ne_dateTime htext]

theorem rendered?_of_no_field (hfield : m.get? (fieldName l) = none) : l.rendered? m = none := by
  rw [Leaf.rendered?, hfield]

theorem rendered?_of_no_key (hfield : m.get? (fieldName l) = some f)
    (hop : m.registry.resolve? l.symbol = some op) (hreads : l.keyReads f = false) :
    l.rendered? m = none := by
  rw [Leaf.rendered?, hfield, hop]
  simp only [hreads, Bool.and_false, Bool.false_eq_true, ↓reduceIte]

theorem rendered?_eq (hfield : m.get? (fieldName l) = some f)
    (hop : m.registry.resolve? l.symbol = some op) (hreads : l.keyReads f = true) :
    l.rendered? m =
      if l.isFree m then
        some (if l.foldsCase m.settings op f.isNested then l.value.lowercase else l.value)
      else none := by
  rw [Leaf.rendered?, hfield, hop]
  simp only [hreads, Bool.and_true]

theorem literals_alike (h : l.SameButText m l') (hfield : m.get? (fieldName l) = some f)
    (hop : m.registry.resolve? l.symbol = some op) (hreads : l.keyReads f = true)
    (hreads' : l'.keyReads f = true) (serial : Nat) :
    LiteralsAlike (l.rendered? m).toList (l'.rendered? m).toList
      (m.literal? serial f op l f.isNested) (m.literal? serial f op l' f.isNested) := by
  have hfield' : m.get? (fieldName l') = some f := by rw [fieldName_eq h, hfield]
  have hop' : m.registry.resolve? l'.symbol = some op := by rw [h.symbol, hop]
  rw [rendered?_eq hfield hop hreads, rendered?_eq hfield' hop' hreads', isFree_eq h]
  cases hfree : l.isFree m with
  | true =>
      have hfree' : l'.isFree m = true := by rw [isFree_eq h, hfree]
      rw [literal?_of_isFree serial _ hfield hfree, literal?_of_isFree serial _ hfield' hfree',
        foldsCase_eq h]
      exact .texts _ _ _
  | false =>
      have hvalue : l'.value = l.value := by
        rcases h.value with hvalue | ⟨hfree', _⟩
        · exact hvalue
        · rw [hfree] at hfree'
          cases hfree'
      rw [literal?_eq_of_value_eq h hvalue]
      cases m.literal? serial f op l f.isNested with
      | none => exact .none
      | some lit => exact .same lit

theorem scopesAlike_innermostOf {serial : Nat} {element : Path} (hcustom : op.isCustom = false)
    (h : LiteralsAlike values values' (m.literal? serial f op l true) (m.literal? serial f op l' true)) :
    ScopesAlike values values' (m.innermostOf serial f op element l)
      (m.innermostOf serial f op element l') := by
  intro root depth hroot
  unfold innermostOf
  generalize m.literal? serial f op l true = found at h ⊢
  generalize m.literal? serial f op l' true = found' at h ⊢
  cases found with
  | none =>
      cases h
      exact ⟨.never, .never, rfl, rfl, .code (inert_of_all rfl)⟩
  | some lit =>
      cases found' with
      | none => cases h
      | some lit' =>
          obtain ⟨sql, sql', hsql, hsql', halike⟩ := comparison_alike h hroot hcustom
          refine ⟨.clause sql, .clause sql', ?_, ?_, halike⟩
          · exact congrArg (Option.map Condition.clause) hsql
          · exact congrArg (Option.map Condition.clause) hsql'

theorem compiled_nestedOf {serial : Nat} {path collection rest : Path} {c : Condition}
    (hsplit : path.splitEach? = some (collection, rest))
    (hc : ofScope? (some (elementName 0)) 1 (scopeOf (!m.settings.disableCollectionNullChecks)
      (m.innermostOf serial f op rest.hops.2 l) rest.hops.1) = some c) :
    (Condition.target.nested (m.nestedOf serial f path op l) : Option Condition) =
      some (.any (column none collection) (elementName 0)
        (!m.settings.disableCollectionNullChecks) c) := by
  show ofScope? none 0 (m.nestedOf serial f path op l).scope = _
  rw [scope_nestedOf hsplit, ofScope?, hc]
  rfl

theorem planOf_framed {serial : Nat} {path : Path} (name : Text) (hnested : path.isNested = f.isNested)
    (hcustom : op.isCustom = false) (hindexer : l'.indexer = l.indexer)
    (h : LiteralsAlike values values' (m.literal? serial f op l f.isNested)
      (m.literal? serial f op l' f.isNested)) :
    ∃ c c', Condition.target.realized name (m.planOf serial f op path l) = .ok c ∧
      Condition.target.realized name (m.planOf serial f op path l') = .ok c' ∧
      Framed values values' c c' := by
  rw [← hnested, Path.isNested_eq_isSome_splitEach?] at h
  cases hsplit : path.splitEach? with
  | none =>
      rw [hsplit, Option.isSome_none] at h
      rw [planOf_flat hnested hsplit, planOf_flat hnested hsplit, hindexer]
      generalize m.literal? serial f op l false = found at h ⊢
      generalize m.literal? serial f op l' false = found' at h ⊢
      cases found with
      | none =>
          cases h
          exact ⟨⟨.never, false⟩, ⟨.never, false⟩, rfl, rfl, .plain (.code (inert_of_all rfl))⟩
      | some lit =>
          cases found' with
          | none => cases h
          | some lit' => exact realized_alike name m.settings l.indexer.isSome hcustom h
  | some parts =>
      obtain ⟨collection, rest⟩ := parts
      rw [hsplit, Option.isSome_some] at h
      have hinnermost := @scopesAlike_innermostOf _ m l l' f op values values' serial rest.hops.2 hcustom h
      obtain ⟨c, c', hc, hc', halike⟩ := @scopesAlike_scopeOf values values'
        (!m.settings.disableCollectionNullChecks) _ _ hinnermost rest.hops.1 _ 1 (rooted_elementName 0)
      rw [planOf_nested hnested hsplit, planOf_nested hnested hsplit, Target.realized_nested,
        Target.realized_nested, compiled_nestedOf hsplit hc, compiled_nestedOf hsplit hc']
      exact ⟨_, _, rfl, rfl, .any collection _ halike⟩

theorem keyReads_eq (serial : Nat) {bound : Option Path}
    (h : bindIndexer serial f l.indexer = .ok bound) : l.keyReads f = bound.isSome := by
  -- Whether a key can be read does not depend on the place of its leaf.
  have hrelated : Related _ (bindIndexer serial f l.indexer) (bindIndexer 0 f l.indexer) :=
    @bindIndexer_related _ Run.literal Run.compared serial 0 f l.indexer
  rw [h] at hrelated
  unfold Leaf.keyReads
  generalize bindIndexer 0 f l.indexer = zero at hrelated ⊢
  cases hrelated with
  | @ok _ bound' hsome =>
      rw [hsome]
      cases bound' <;> rfl

theorem built_leaf_framed (h : l.SameButText m l')
    (hcustom : ∀ op, m.registry.resolve? l.symbol = some op → op.isCustom = false)
    {inParens : Bool} {serial : Nat} {c : Compiled Condition}
    (hbuilt : Condition.target.built m inParens serial (.leaf l) = .ok c) :
    ∃ c', Condition.target.built m inParens serial (.leaf l') = .ok c' ∧
      Framed (l.rendered? m).toList (l'.rendered? m).toList c c' := by
  rw [Target.built_leaf] at hbuilt
  obtain ⟨plan, hplan, hrealized⟩ := bind_eq_ok_iff.1 hbuilt
  have hname := fieldName_eq h
  rcases plan_cases hplan with ⟨hfield, rfl⟩ | ⟨f, op, hfield, hop, hbound⟩
  · have hplan' : m.plan serial l' = m.plan serial l := by
      unfold plan
      rw [hname, hfield]
    cases hrealized
    rw [rendered?_of_no_field hfield, rendered?_of_no_field (hname ▸ hfield), Target.built_leaf, hplan',
      hplan]
    exact ⟨⟨.always, false⟩, rfl, .plain (.code (inert_of_all rfl))⟩
  · have hfield' : m.get? (fieldName l') = some f := by rw [hname, hfield]
    have hop' : m.registry.resolve? l'.symbol = some op := by rw [h.symbol, hop]
    rcases hbound with ⟨hbound, rfl⟩ | ⟨path, hbound, hstops, rfl⟩
    · have hbound' : bindIndexer serial f l'.indexer = .ok none := by rw [h.indexer, hbound]
      cases hrealized
      rw [rendered?_of_no_key hfield hop (keyReads_eq serial hbound),
        rendered?_of_no_key hfield' hop' (keyReads_eq serial hbound'), Target.built_leaf,
        plan_of_no_key hfield' hop' hbound']
      exact ⟨⟨.never, false⟩, rfl, .plain (.code (inert_of_all rfl))⟩
    · have hbound' : bindIndexer serial f l'.indexer = .ok (some path) := by rw [h.indexer, hbound]
      have hliterals := literals_alike h hfield hop (keyReads_eq serial hbound)
        (keyReads_eq serial hbound') serial
      obtain ⟨c, c', hc, hc', hframed⟩ := planOf_framed (fieldName l) (isNested_bindIndexer hbound)
        (hcustom op hop) h.indexer hliterals
      rw [hrealized] at hc
      cases hc
      rw [Target.built_leaf, plan_of_bound hfield' hop' hbound' (by rw [stops_eq h hfield, hstops]), hname]
      exact ⟨c', hc', hframed⟩

theorem built_framed {e e' : Expr} (h : e.SameButText m e') (hbuiltIn : e.BuiltIn m) {inParens : Bool}
    {serial : Nat} {c : Compiled Condition}
    (hbuilt : Condition.target.built m inParens serial e = .ok c) :
    ∃ c', Condition.target.built m inParens serial e' = .ok c' ∧
      Framed (e.rendered m) (e'.rendered m) c c' := by
  induction h generalizing inParens serial c with
  | @leaf l l' h =>
      obtain ⟨c', hbuilt', hframed⟩ := built_leaf_framed h (hbuiltIn l List.mem_cons_self) hbuilt
      refine ⟨c', hbuilt', ?_⟩
      have hvalues : ∀ l : Leaf, (Expr.leaf l).rendered m = (l.rendered? m).toList := by
        intro l
        rw [Expr.rendered, Expr.leaves, List.filterMap_cons, List.filterMap_nil]
        cases l.rendered? m <;> rfl
      rw [hvalues, hvalues]
      exact hframed
  | binary connective hleft _ ihLeft ihRight =>
      rw [Target.built_binary] at hbuilt
      obtain ⟨l, hl, hbuilt⟩ := bind_eq_ok_iff.1 hbuilt
      obtain ⟨r, hr, rfl⟩ := map_eq_ok_iff.1 hbuilt
      obtain ⟨l', hl', hframedLeft⟩ := ihLeft (fun l hl => hbuiltIn l (List.mem_append_left _ hl)) hl
      obtain ⟨r', hr', hframedRight⟩ := ihRight (fun l hl => hbuiltIn l (List.mem_append_right _ hl)) hr
      refine ⟨Condition.target.join inParens connective l' r', ?_, ?_⟩
      · rw [Target.built_binary, hl', hleft.leafCount_eq]
        show Except.map _ _ = _
        rw [hr']
        rfl
      · simp only [Expr.rendered, Expr.leaves, List.filterMap_append]
        exact join_framed inParens connective hframedLeft hframedRight
  | paren _ ih => exact ih hbuiltIn hbuilt

theorem ofExpr_eq (m : Mapper) (e : Expr) :
    Condition.ofExpr m e = (Condition.target.built m false 0 e).map Compiled.query :=
  Target.compile_eq Condition.target m e

theorem ofExpr_alike {e e' : Expr} {c : Condition} (h : e.SameButText m e') (hbuiltIn : e.BuiltIn m)
    (hc : Condition.ofExpr m e = .ok c) :
    ∃ c', Condition.ofExpr m e' = .ok c' ∧ Alike (e.rendered m) (e'.rendered m) c.text c'.text := by
  rw [ofExpr_eq] at hc
  obtain ⟨compiled, hbuilt, rfl⟩ := map_eq_ok_iff.1 hc
  obtain ⟨compiled', hbuilt', hframed⟩ := built_framed h hbuiltIn hbuilt
  refine ⟨compiled'.query, ?_, hframed.alike⟩
  rw [ofExpr_eq, hbuilt']
  rfl

theorem closed_of_ofExpr {e : Expr} {c : Condition} (hbuiltIn : e.BuiltIn m)
    (hc : Condition.ofExpr m e = .ok c) : Closed c.text := by
  obtain ⟨c', _, halike⟩ := ofExpr_alike (.refl m e) hbuiltIn hc
  obtain ⟨_, ps, _, hscanned, _⟩ := halike.exists_scanned
  exact ⟨ps, lex_of_lexes hscanned.lexes, hscanned.balanced 0⟩

theorem closed_of_ofText {t : Text} {c : Condition}
    (hbuiltIn : ∀ e, Expr.read m.registry m.settings.maxDepth.toNat t = .ok e → e.BuiltIn m)
    (hc : Condition.ofText m t = .ok c) : Closed c.text := by
  have htext : Condition.ofText m t = _ := Target.compileText_eq Condition.target m t
  rw [htext] at hc
  split at hc
  · cases hc
    exact ⟨_, rfl, rfl⟩
  · obtain ⟨e, hread, hc⟩ := bind_eq_ok_iff.1 hc
    exact closed_of_ofExpr (hbuiltIn e hread) hc

/--
Without operators of the user's own, the SQL of a filter ends outside quotes, with its parentheses
balanced. Trees that differ in free literals have the same SQL but for the strings that decode to them.
-/
theorem ofText_framed (m : Mapper) :
    (∀ t c, (∀ e, Expr.read m.registry m.settings.maxDepth.toNat t = .ok e → e.BuiltIn m) →
      Condition.ofText m t = .ok c → Closed c.text) ∧
    ∀ e e' c, e.BuiltIn m → e.SameButText m e' → Condition.ofExpr m e = .ok c →
      ∃ c' ps ps' template, Condition.ofExpr m e' = .ok c' ∧
        lex .outside c.text = some ps ∧ nesting 0 ps = some 0 ∧
        lex .outside c'.text = some ps' ∧ nesting 0 ps' = some 0 ∧
        ps.map Piece.masked = ps'.map Piece.masked ∧
        Template.fill template (e.rendered m) = some ps ∧
        Template.fill template (e'.rendered m) = some ps' := by
  refine ⟨fun t c => closed_of_ofText, ?_⟩
  intro e e' c hbuiltIn hsame hc
  obtain ⟨c', hc', halike⟩ := ofExpr_alike hsame hbuiltIn hc
  obtain ⟨template, ps, ps', hscanned, hscanned'⟩ := halike.exists_scanned
  have hmasked : ps.map Piece.masked = ps'.map Piece.masked := by
    rw [Template.map_masked_of_fill hscanned.fill, Template.map_masked_of_fill hscanned'.fill]
  exact ⟨c', ps, ps', template, hc', lex_of_lexes hscanned.lexes, hscanned.balanced 0,
    lex_of_lexes hscanned'.lexes, hscanned'.balanced 0, hmasked, hscanned.fill, hscanned'.fill⟩

end Sql

end Runs

namespace Sql

open scoped Run.Counting

def library : Mapper where
  fields := [
    { name := "author", type := .text
      path := [.member "books", .each, .member "author's", .member "name"] },
    { name := "note", type := .text, path := [.member "notes", .key none] }]
  registry := ⟨[]⟩

def reading (a b c : Text) : Expr :=
  .binary
    (.paren (.binary
      (.leaf ⟨"author", none, false, 0, "^", 0, a, true⟩) .or
      (.leaf ⟨"author", none, false, 0, "!=", 0, b, false⟩)))
    .and
    (.leaf ⟨"note", some "(J\"o's", true, 0, "*", 0, c, false⟩)

theorem ofText_framed_reading :
    (∃ c, Condition.ofText library (Leaf.plainText "author" "!=" "')") = .ok c ∧ Closed c.text) ∧
    ∃ c c' ps ps' template, Condition.ofExpr library (reading "O'Neill" ") OR (1=1" "It''s (") = .ok c ∧
      Condition.ofExpr library (reading "a" "b" "c") = .ok c' ∧
      lex .outside c.text = some ps ∧ nesting 0 ps = some 0 ∧
      lex .outside c'.text = some ps' ∧ nesting 0 ps' = some 0 ∧
      ps.map Piece.masked = ps'.map Piece.masked ∧
      Template.fill template ["o'neill".toList, ") OR (1=1".toList, "it''s (".toList] = some ps ∧
      Template.fill template ["a".toList, "b".toList, "c".toList] = some ps' := by
  have hbuiltIn := Expr.builtIn_of_no_operators (m := library) rfl
  have hsame : (reading "O'Neill" ") OR (1=1" "It''s (").SameButText library (reading "a" "b" "c") := by
    refine .binary _ (.paren (.binary _ (.leaf ?_) (.leaf ?_))) (.leaf ?_) <;>
      exact ⟨rfl, rfl, rfl, rfl, rfl, .inr ⟨rfl, rfl⟩⟩
  obtain ⟨hclosed, hframed⟩ := ofText_framed library
  have hnameable : Leaf.Nameable "author" "!=" := by decide
  have hread := Expr.read_plainText library.registry library.settings.maxDepth.toNat hnameable "')"
  obtain ⟨c, hc⟩ : ∃ c, Condition.ofText library (Leaf.plainText "author" "!=" "')") = .ok c :=
    ⟨_, Condition.target.compileText_of_read (Leaf.allBlank_plainText hnameable _) hread⟩
  obtain ⟨d, hd⟩ : ∃ d, Condition.ofExpr library (reading "O'Neill" ") OR (1=1" "It''s (") = .ok d :=
    ⟨_, rfl⟩
  obtain ⟨d', ps, ps', template, hd', hscanned⟩ := hframed _ _ d (hbuiltIn _) hsame hd
  exact ⟨⟨c, hc, hclosed _ c (fun e _ => hbuiltIn e) hc⟩, d, d', ps, ps', template, hd, hd', hscanned⟩

end Sql

end FilterLang
