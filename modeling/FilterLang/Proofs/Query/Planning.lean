import FilterLang.Proofs.Outcome
import FilterLang.Proofs.Path.Hops
import FilterLang.Query.Plan

/-!
What settling a leaf comes to. Whether it fails does not depend on the identifiers that are drawn, and a
bound path runs through collections exactly if its field's path does.
-/

namespace FilterLang

def Expr.BuiltIn (m : Mapper) (e : Expr) : Prop :=
  ∀ l ∈ e.leaves, ∀ op, m.registry.resolve? l.symbol = some op → op.isCustom = false

theorem Expr.builtIn_of_no_operators {m : Mapper} (h : m.registry.operators = []) (e : Expr) :
    e.BuiltIn m :=
  fun _ _ _ hop => Registry.isCustom_of_no_operators h hop

/-- The same machine at another time: other identifiers are drawn for literals and for what comparisons read. -/
@[reducible] def Run.redrawn [Run] (literal : Nat → Uuid) (compared : Comparison → Json → Uuid) : Run :=
  { ‹Run› with literal := literal, compared := compared }

theorem Value.related_coerce [Zone] (drawn drawn' : Uuid) (kind : Option DateTimeKind) (type : FieldType) (t : Text) :
    Outcome.Related (fun _ _ => True) (coerce drawn kind type t) (coerce drawn' kind type t) := by
  by_cases huuid : type = .uuid
  · rw [huuid, coerce_uuid, coerce_uuid]
    exact .ok trivial
  · rw [coerce_drawn huuid drawn' drawn]
    cases coerce drawn kind type t with
    | ok v => exact .ok trivial
    | error error => exact .error error

namespace Mapper

variable [Run]

def fault? (m : Mapper) (l : Leaf) : Option Error :=
  match m.plan 0 l with
  | .error fault => some fault
  | .ok _ => none

section Redrawn

variable {literal : Nat → Uuid} {compared : Comparison → Json → Uuid}

theorem bindIndexer_related (serial serial' : Nat) (f : Field) (indexer : Option Text) :
    Outcome.Related (fun bound bound' => bound.isSome = bound'.isSome) (bindIndexer serial f indexer)
      (@bindIndexer (Run.redrawn literal compared) serial' f indexer) := by
  unfold bindIndexer
  split
  · exact .ok rfl
  · exact .error _
  · exact .error _
  · rename_i key _
    have hread := Value.related_coerce (keyDraw serial) (@keyDraw (Run.redrawn literal compared) serial') none
      f.keyType key
    generalize Value.coerce (keyDraw serial) none f.keyType key = read at hread ⊢
    generalize Value.coerce (@keyDraw (Run.redrawn literal compared) serial') none f.keyType key = read' at hread ⊢
    cases hread with
    | error _ => exact .ok rfl
    | ok _ => exact .ok (by rw [Path.bindKey?_isSome, Path.bindKey?_isSome])

theorem plan_related (m : Mapper) (serial serial' : Nat) (l : Leaf) :
    Outcome.Related (fun _ _ => True) (m.plan serial l)
      (@plan (Run.redrawn literal compared) m serial' l) := by
  unfold plan
  split
  · split
    · exact .ok trivial
    · exact .error _
  · rename_i f _
    split
    · exact .error _
    · rename_i op _
      have hbound := @bindIndexer_related _ literal compared serial serial' f l.indexer
      generalize bindIndexer serial f l.indexer = bound at hbound ⊢
      generalize @bindIndexer (Run.redrawn literal compared) serial' f l.indexer = bound' at hbound ⊢
      cases hbound with
      | error fault => exact .error fault
      | @ok bound bound' hsome =>
          cases bound with
          | none =>
              cases bound' with
              | none => exact .ok trivial
              | some path' => cases hsome
          | some path =>
              cases bound' with
              | none => cases hsome
              | some path' =>
                  -- Whether the literal can be read does not hang on the path that the key gives.
                  have hstops : @stops (Run.redrawn literal compared) m f op l = m.stops f op l := rfl
                  dsimp only [bind, Except.bind]
                  rw [hstops]
                  split
                  · exact .error _
                  · exact .ok trivial

theorem fault?_redrawn (m : Mapper) (l : Leaf) :
    @fault? (Run.redrawn literal compared) m l = m.fault? l := by
  have hrelated := @plan_related _ literal compared m 0 0 l
  unfold fault?
  generalize m.plan 0 l = plan at hrelated ⊢
  generalize @Mapper.plan (Run.redrawn literal compared) m 0 l = plan' at hrelated ⊢
  cases hrelated <;> rfl

end Redrawn

theorem plan_of_fault? {m : Mapper} {l : Leaf} {fault : Error} (h : m.fault? l = some fault)
    (serial : Nat) : m.plan serial l = .error fault := by
  have hrelated : Outcome.Related _ (m.plan 0 l) (m.plan serial l) :=
    @plan_related _ Run.literal Run.compared m 0 serial l
  unfold fault? at h
  generalize m.plan serial l = plan at hrelated ⊢
  split at h
  · rename_i hplan
    rw [hplan] at hrelated
    cases h
    cases hrelated
    rfl
  · cases h

theorem plan_of_not_fault? {m : Mapper} {l : Leaf} (h : m.fault? l = none) (serial : Nat) :
    ∃ plan, m.plan serial l = .ok plan := by
  have hrelated : Outcome.Related _ (m.plan 0 l) (m.plan serial l) :=
    @plan_related _ Run.literal Run.compared m 0 serial l
  unfold fault? at h
  generalize m.plan serial l = plan at hrelated ⊢
  split at h
  · cases h
  · rename_i hplan
    rw [hplan] at hrelated
    cases hrelated
    exact ⟨_, rfl⟩

/-- Without an indexer a path is the field's own, and with one it has a key that could be read. -/
theorem bindIndexer_cases {serial : Nat} {f : Field} {indexer : Option Text} {path : Path}
    (h : bindIndexer serial f indexer = .ok (some path)) :
    f.path.hasKeySlot = false ∧ path = f.path ∨
      ∃ key k, Value.coerce (keyDraw serial) none f.keyType key = .ok k ∧ f.path.bindKey? k = some path := by
  unfold bindIndexer at h
  split at h
  · rename_i hslot
    cases h
    exact .inl ⟨hslot, rfl⟩
  · cases h
  · cases h
  · rename_i key _
    split at h
    · rename_i k hk
      exact .inr ⟨key, k, hk, Except.ok.inj h⟩
    · cases h

theorem isNested_bindIndexer {serial : Nat} {f : Field} {indexer : Option Text} {path : Path}
    (h : bindIndexer serial f indexer = .ok (some path)) : path.isNested = f.isNested := by
  rcases bindIndexer_cases h with ⟨-, rfl⟩ | ⟨_, _, -, hbound⟩
  · rfl
  · exact Path.isNested_bindKey? hbound

/-- A leaf that is settled is always true, has a key that cannot be read, or is about a path and has a
literal that stops nothing. -/
theorem plan_cases {m : Mapper} {serial : Nat} {l : Leaf} {plan : Plan}
    (h : m.plan serial l = .ok plan) :
    m.get? (fieldName l) = none ∧ plan = .always ∨
    ∃ f op, m.get? (fieldName l) = some f ∧ m.registry.resolve? l.symbol = some op ∧
      (bindIndexer serial f l.indexer = .ok none ∧ plan = .never f.path ∨
        ∃ path, bindIndexer serial f l.indexer = .ok (some path) ∧ m.stops f op l = false ∧
          plan = m.planOf serial f op path l) := by
  unfold Mapper.plan at h
  split at h
  · rename_i hfield
    split at h <;> cases h
    exact .inl ⟨hfield, rfl⟩
  · rename_i f hfield
    split at h
    · cases h
    · rename_i op hoperator
      obtain ⟨bound, hbound, h⟩ := Outcome.bind_eq_ok_iff.1 h
      refine .inr ⟨f, op, hfield, hoperator, ?_⟩
      cases bound with
      | none =>
          cases h
          exact .inl ⟨hbound, rfl⟩
      | some path =>
          dsimp only at h
          split at h
          · cases h
          · rename_i hgoes
            cases h
            exact .inr ⟨path, hbound, Bool.eq_false_iff.2 hgoes, rfl⟩

theorem plan_of_no_key {m : Mapper} {serial : Nat} {l : Leaf} {f : Field} {op : Operator}
    (hfield : m.get? (fieldName l) = some f) (hop : m.registry.resolve? l.symbol = some op)
    (hbound : bindIndexer serial f l.indexer = .ok none) : m.plan serial l = .ok (.never f.path) := by
  unfold plan
  rw [hfield]
  simp only [hop, hbound]
  rfl

section Bound

variable {m : Mapper} {serial : Nat} {l : Leaf} {f : Field} {op : Operator} {path : Path}
  (hfield : m.get? (fieldName l) = some f) (hop : m.registry.resolve? l.symbol = some op)
  (hbound : bindIndexer serial f l.indexer = .ok (some path))

include hfield hop hbound

theorem plan_eq : m.plan serial l =
    if m.stops f op l then .error .stopped else .ok (m.planOf serial f op path l) := by
  unfold plan
  rw [hfield]
  simp only [hop, hbound]
  rfl

theorem plan_of_bound (hstops : m.stops f op l = false) : m.plan serial l = .ok (m.planOf serial f op path l) := by
  rw [plan_eq hfield hop hbound, hstops]
  rfl

theorem plan_of_stops (hstops : m.stops f op l = true) : m.plan serial l = .error .stopped := by
  rw [plan_eq hfield hop hbound, hstops]
  rfl

end Bound

theorem stops_of_ne_dateTime {m : Mapper} {f : Field} (h : f.type ≠ .dateTime) (op : Operator)
    (l : Leaf) : m.stops f op l = false := by
  unfold stops
  split
  · simp [Value.overflows, h]
  · rfl

def innermostOf (m : Mapper) (serial : Nat) (f : Field) (op : Operator) (element : Path) (l : Leaf) :
    Scope :=
  match m.literal? serial f op l true with
  | some lit => .compare (comparisonOf element f op lit)
  | none => .never

theorem scope_nestedOf {m : Mapper} {serial : Nat} {f : Field} {path collection rest : Path}
    {op : Operator} {l : Leaf} (h : path.splitEach? = some (collection, rest)) :
    (m.nestedOf serial f path op l).scope =
      .any collection (!m.settings.disableCollectionNullChecks)
        (scopeOf (!m.settings.disableCollectionNullChecks)
          (m.innermostOf serial f op rest.hops.2 l) rest.hops.1) := by
  unfold nestedOf
  rw [Path.hops_of_splitEach? h]
  rfl

theorem planOf_nested {m : Mapper} {serial : Nat} {f : Field} {path : Path} {op : Operator}
    {l : Leaf} {parts : Path × Path} (hnested : path.isNested = f.isNested)
    (h : path.splitEach? = some parts) :
    m.planOf serial f op path l = .nested (m.nestedOf serial f path op l) := by
  rw [Path.isNested_eq_isSome_splitEach?, h] at hnested
  rw [planOf, ← hnested]
  rfl

theorem planOf_flat {m : Mapper} {serial : Nat} {f : Field} {path : Path} {op : Operator}
    {l : Leaf} (hnested : path.isNested = f.isNested) (h : path.splitEach? = none) :
    m.planOf serial f op path l =
      match m.literal? serial f op l false with
      | none => .never path
      | some lit =>
        .compare (comparisonOf path f op lit)
          (guardsOf m.settings l.indexer.isSome (comparisonOf path f op lit)) := by
  rw [Path.isNested_eq_isSome_splitEach?, h] at hnested
  rw [planOf, ← hnested]
  rfl

end Mapper

end FilterLang
