import FilterLang.Proofs.Predicate.Redrawing
import FilterLang.Proofs.Query.Parentheses

/-!
Expressions in another run, where other leaves come before them. If the same leaves are on one collection there, the
same chains are merged, and the whole holds of the same records if nothing within these tells apart what is drawn.
-/

namespace FilterLang

open Mapper

/-- The same conditions, as far as they are about what is within some records, on collections that correspond. -/
inductive Meaning.Alike (shared : Path → Path → Prop) (among : Json → Prop) : Meaning → Meaning → Prop
  | plain {f g : Json → Bool} (h : ∀ record, among record → f record = g record) :
      Alike shared among (plain f) (plain g)
  | existential {collection collection' : Path} {f g : Json → Bool} (hshared : shared collection collection')
      (hcollection : ∀ record, among record → collection.elements record = collection'.elements record)
      (h : ∀ record, among record → ∀ node, record.Within node → f node = g node) :
      Alike shared among (existential collection f) (existential collection' g)

namespace Meaning

def shares : Meaning → Meaning → Bool
  | existential collection _, existential collection' _ => collection.same collection'
  | _, _ => false

variable {shared shared' : Path → Path → Prop} {among among' : Json → Prop}
  {meaning meaning' left left' right right' : Meaning} {record : Json}

namespace Alike

theorem holds_eq (h : Alike shared among meaning meaning') (hamong : among record) :
    meaning.holds record = meaning'.holds record := by
  cases h with
  | plain h => exact h record hamong
  | existential _ hcollection h =>
      rw [holds, holds, ← hcollection record hamong, Bool.eq_iff_iff, List.any_eq_true, List.any_eq_true]
      refine exists_congr fun element => and_congr_right fun helement => ?_
      rw [h record hamong element (Path.within_of_mem_elements .self helement)]

theorem mono (h : Alike shared among meaning meaning')
    (hshared : ∀ collection collection', shared collection collection' → shared' collection collection')
    (hamong : ∀ record, among' record → among record) : Alike shared' among' meaning meaning' := by
  cases h with
  | plain h => exact .plain fun record hrecord => h record (hamong record hrecord)
  | existential hcollections hcollection h =>
      exact .existential (hshared _ _ hcollections) (fun record hrecord => hcollection record (hamong record hrecord))
        fun record hrecord => h record (hamong record hrecord)

theorem between (h : Alike shared among meaning meaning') :
    Alike (fun collection collection' => ∃ f g, meaning = .existential collection f ∧
      meaning' = .existential collection' g) among meaning meaning' := by
  cases h with
  | plain h => exact .plain h
  | existential _ hcollection h => exact .existential ⟨_, _, rfl, rfl⟩ hcollection h

theorem both (connective : Connective) (hleft : Alike shared among left left')
    (hright : Alike shared among right right') :
    Alike shared among (both connective left right) (.both connective left' right') :=
  .plain fun _ hrecord => by rw [hleft.holds_eq hrecord, hright.holds_eq hrecord]

variable (hsame : ∀ c c' d d', shared c c' → shared d d' → c.same d = c'.same d')

include hsame

theorem shares_eq (hleft : Alike shared among left left') (hright : Alike shared among' right right') :
    left.shares right = left'.shares right' := by
  cases hleft with
  | plain _ => cases hright <;> rfl
  | existential hshared _ _ =>
      cases hright with
      | plain _ => rfl
      | existential hshared' _ _ => exact hsame _ _ _ _ hshared hshared'

theorem fused (connective : Connective) (hleft : Alike shared among left left')
    (hright : Alike shared among right right') :
    Alike shared among (fused connective left right) (.fused connective left' right') := by
  have hboth := hleft.both connective hright
  have hshares := shares_eq hsame hleft hright
  cases hleft with
  | plain _ => cases hright <;> exact hboth
  | existential hshared hcollection hleft =>
      cases hright with
      | plain _ => exact hboth
      | existential _ _ hright =>
          simp only [shares] at hshares
          simp only [Meaning.fused, ← hshares]
          split
          · refine .existential hshared hcollection fun record hrecord node hnode => ?_
            rw [hleft record hrecord node hnode, hright record hrecord node hnode]
          · exact hboth

end Alike

end Meaning

namespace Expr

/-- The leaves, each with its serial numbers if the first one has the one or the other number. -/
def places (e : Expr) (serial serial' : Nat) : List ((Leaf × Nat) × Nat) :=
  (e.leaves.zipIdx serial).zipIdx serial'

theorem places_binary (left right : Expr) (connective : Connective) (serial serial' : Nat) :
    (binary left connective right).places serial serial' = left.places serial serial' ++
      right.places (serial + left.leafCount) (serial' + left.leafCount) := by
  rw [places, leaves, List.zipIdx_append, List.zipIdx_append, List.length_zipIdx, length_leaves]
  rfl

end Expr

section Told

variable [Run] (literal : Nat → Uuid) (compared : Comparison → Json → Uuid)

/-- The key is told alike, and nothing within the record, or the record itself where the leaf is not about elements,
tells apart what is drawn for the leaf's literal. -/
def Leaf.ToldWithin (m : Mapper) (l : Leaf) (serial serial' : Nat) (record : Json) : Prop :=
  l.KeyTold literal m serial serial' record ∧
  ∀ f op path path', m.get? (fieldName l) = some f → m.registry.resolve? l.symbol = some op →
    bindIndexer serial f l.indexer = .ok (some path) →
    @bindIndexer (Run.redrawn literal compared) serial' f l.indexer = .ok (some path') →
    ∀ node, record.Within node → (path.isNested = false → node = record) →
      m.TellsAlike literal compared f op l path.hops.2 path'.hops.2 serial serial' node

def ToldWithin (m : Mapper) (places : List ((Leaf × Nat) × Nat)) (record : Json) : Prop :=
  ∀ l serial serial', ((l, serial), serial') ∈ places → l.ToldWithin literal compared m serial serial' record

/-- Two leaves are on one collection in the one run exactly if they are in the other. -/
def SharesAlike (m : Mapper) (places : List ((Leaf × Nat) × Nat)) : Prop :=
  ∀ l n n' r k k', ((l, n), n') ∈ places → ((r, k), k') ∈ places → (l.meaning m n).shares (r.meaning m k) =
    (@Leaf.meaning (Run.redrawn literal compared) m n' l).shares (@Leaf.meaning (Run.redrawn literal compared) m k' r)

def Shared (m : Mapper) (places : List ((Leaf × Nat) × Nat)) (collection collection' : Path) : Prop :=
  ∃ l serial serial', ((l, serial), serial') ∈ places ∧ ∃ f g, l.meaning m serial = .existential collection f ∧
    @Leaf.meaning (Run.redrawn literal compared) m serial' l = .existential collection' g

end Told

variable [Run] {literal : Nat → Uuid} {compared : Comparison → Json → Uuid} {m : Mapper}

theorem SharesAlike.same_eq {places : List ((Leaf × Nat) × Nat)} (h : SharesAlike literal compared m places)
    (c c' d d' : Path) (hc : Shared literal compared m places c c') (hd : Shared literal compared m places d d') :
    c.same d = c'.same d' := by
  obtain ⟨l, n, n', hl, f, g, hmeaning, hmeaning'⟩ := hc
  obtain ⟨r, k, k', hr, f₁, g₁, hmeaning₁, hmeaning₁'⟩ := hd
  have hshares := h l n n' r k k' hl hr
  rwa [hmeaning, hmeaning', hmeaning₁, hmeaning₁'] at hshares

theorem Shared.mono {places more : List ((Leaf × Nat) × Nat)} (h : places ⊆ more) (collection collection' : Path)
    (hshared : Shared literal compared m places collection collection') :
    Shared literal compared m more collection collection' := by
  obtain ⟨l, serial, serial', hl, hmeaning⟩ := hshared
  exact ⟨l, serial, serial', h hl, hmeaning⟩

theorem ToldWithin.mono {places more : List ((Leaf × Nat) × Nat)} {record : Json}
    (hrecord : ToldWithin literal compared m more record) (h : places ⊆ more) :
    ToldWithin literal compared m places record :=
  fun l serial serial' hl => hrecord l serial serial' (h hl)

theorem ToldWithin.of_append {places more : List ((Leaf × Nat) × Nat)} {record : Json}
    (h : ToldWithin literal compared m (places ++ more) record) :
    ToldWithin literal compared m places record ∧ ToldWithin literal compared m more record :=
  ⟨h.mono (List.subset_append_left _ _), h.mono (List.subset_append_right _ _)⟩

theorem SharesAlike.mono {places more : List ((Leaf × Nat) × Nat)} (h : places ⊆ more)
    (hmore : SharesAlike literal compared m more) : SharesAlike literal compared m places :=
  fun l n n' r k k' hl hr => hmore l n n' r k k' (h hl) (h hr)

theorem Mapper.meaningOf_redrawn {f : Field} {op : Operator} {l : Leaf} {path path' : Path} {serial serial' : Nat}
    {among : Json → Prop} (hpath : path.Rekeyed among path') (h : ∀ record, among record → ∀ node,
      record.Within node → (path.isNested = false → node = record) →
        m.TellsAlike literal compared f op l path.hops.2 path'.hops.2 serial serial' node) :
    Meaning.Alike (fun _ _ => True) among (m.meaningOf serial f op path l)
      (@meaningOf (Run.redrawn literal compared) m serial' f op path' l) := by
  have hsplit := hpath.splitEach?
  unfold meaningOf
  cases hparts : path.splitEach? with
  | none =>
      cases hparts' : path'.splitEach? with
      | some parts' => rw [hparts, hparts'] at hsplit; cases hsplit
      | none =>
          have hflat := Path.splitEach?_eq_none_iff.1 hparts
          rw [Path.hops_of_flat hflat, Path.hops_of_flat (Path.splitEach?_eq_none_iff.1 hparts')] at h
          exact .plain fun record hrecord => ((h record hrecord record .self fun _ => rfl).any_guardedHolds_eq
            hpath hrecord m.settings _ false).symm
  | some parts =>
      cases hparts' : path'.splitEach? with
      | none => rw [hparts, hparts'] at hsplit; cases hsplit
      | some parts' =>
          rw [hparts, hparts'] at hsplit
          obtain ⟨collection, rest⟩ := parts
          obtain ⟨collection', rest'⟩ := parts'
          cases hsplit with
          | some hsides =>
              rw [Path.hops_of_splitEach? hparts, Path.hops_of_splitEach? hparts'] at h
              have hnested := Path.isNested_of_splitEach? hparts
              refine .existential trivial (fun record hrecord => hsides.1.elements_eq hrecord .self)
                fun record hrecord node hnode => (holdsAlong_redrawn hsides.2.hops.1 hrecord hnode
                  (fun innermost hinnermost => ?_) true).symm
              refine h record hrecord innermost (Path.within_of_mem_innermost hnode hinnermost) fun hflat => ?_
              rw [hnested] at hflat
              cases hflat

theorem Leaf.meaning_redrawn (m : Mapper) (l : Leaf) (serial serial' : Nat) :
    Meaning.Alike (Shared literal compared m [((l, serial), serial')])
      (l.ToldWithin literal compared m serial serial') (l.meaning m serial)
      (@Leaf.meaning (Run.redrawn literal compared) m serial' l) := by
  have halike : Meaning.Alike (fun _ _ => True) (l.ToldWithin literal compared m serial serial') (l.meaning m serial)
      (@Leaf.meaning (Run.redrawn literal compared) m serial' l) := by
    unfold meaning
    cases hfield : m.get? (fieldName l) with
    | none => exact .plain fun _ _ => rfl
    | some f =>
        cases hop : m.registry.resolve? l.symbol with
        | none => exact .plain fun _ _ => rfl
        | some op =>
            have hbound := @bindIndexer_redrawn _ literal compared f serial serial'
              (l.ToldWithin literal compared m serial serial') l.indexer fun hdraws _ hrecord =>
                hrecord.1 f hfield hdraws
            have hnodes := fun record (hrecord : l.ToldWithin literal compared m serial serial' record) path path' =>
              hrecord.2 f op path path' hfield hop
            dsimp only
            generalize bindIndexer serial f l.indexer = bound at hbound hnodes ⊢
            generalize @bindIndexer (Run.redrawn literal compared) serial' f l.indexer = bound' at hbound hnodes ⊢
            cases hbound with
            | error fault => exact .plain fun _ _ => rfl
            | ok hpaths =>
                cases hpaths with
                | none => exact .plain fun _ _ => rfl
                | @some path path' hpath =>
                    exact meaningOf_redrawn hpath fun record hrecord => hnodes record hrecord path path' rfl rfl
  exact halike.between.mono (fun _ _ h => ⟨l, serial, serial', List.mem_singleton_self _, h⟩) fun _ h => h

theorem Leaf.meaning_of_given {l : Leaf} (h : ∀ f, m.get? (fieldName l) = some f → f.drawsKey l.indexer = false)
    (serial serial' : Nat) : Meaning.Alike Eq (fun _ => False) (l.meaning m serial)
      (@Leaf.meaning (Run.redrawn literal compared) m serial' l) := by
  unfold meaning
  cases hfield : m.get? (fieldName l) with
  | none => exact .plain fun _ _ => rfl
  | some f =>
      cases hop : m.registry.resolve? l.symbol with
      | none => exact .plain fun _ _ => rfl
      | some op =>
          have hbound := @bindIndexer_of_given _ literal compared f serial serial' l.indexer (h f hfield)
          dsimp only
          rw [hbound]
          rcases bindIndexer serial f l.indexer with fault | _ | path
          · exact .plain fun _ _ => rfl
          · exact .plain fun _ _ => rfl
          · dsimp only
            unfold meaningOf
            split
            · exact .plain nofun
            · exact .existential rfl nofun nofun

theorem sharesAlike_of_given {places : List ((Leaf × Nat) × Nat)} (h : ∀ l serial serial',
    ((l, serial), serial') ∈ places → ∀ f, m.get? (fieldName l) = some f → f.drawsKey l.indexer = false) :
    SharesAlike literal compared m places := fun l n n' r k k' hl hr =>
  (l.meaning_of_given (h l n n' hl) n n').shares_eq (by rintro c _ d _ rfl rfl; rfl)
    (r.meaning_of_given (h r k k' hr) k k')

theorem Leaf.toldWithin_of_ne_uuid {l : Leaf}
    (hkey : ∀ f, m.get? (fieldName l) = some f → f.drawsKey l.indexer = false)
    (htype : ∀ f, m.get? (fieldName l) = some f → f.type ≠ .uuid) (serial serial' : Nat) (record : Json) :
    l.ToldWithin literal compared m serial serial' record :=
  ⟨keyTold_of_given hkey, fun f op _ _ hfield _ hbound hbound' node _ _ =>
    tellsAlike_of_given (hkey f hfield) (htype f hfield) hbound hbound' op node⟩

omit [Run] in
theorem Expr.places_left (left right : Expr) (connective : Connective) (serial serial' : Nat) :
    left.places serial serial' ⊆ (binary left connective right).places serial serial' := by
  rw [places_binary]
  exact List.subset_append_left _ _

omit [Run] in
theorem Expr.places_right (left right : Expr) (connective : Connective) (serial serial' : Nat) :
    right.places (serial + left.leafCount) (serial' + left.leafCount) ⊆
      (binary left connective right).places serial serial' := by
  rw [places_binary]
  exact List.subset_append_right _ _

/-- An expression means the same in the other run, behind other leaves. -/
theorem Expr.meaning_redrawn {e : Expr} {serial serial' : Nat}
    (hshares : SharesAlike literal compared m (e.places serial serial')) :
    Meaning.Alike (Shared literal compared m (e.places serial serial'))
      (ToldWithin literal compared m (e.places serial serial')) (e.meaning m serial)
      (@Expr.meaning (Run.redrawn literal compared) m serial' e) := by
  fun_induction e.meaning m serial generalizing serial' with
  | case1 serial l =>
      have hplace : ((l, serial), serial') ∈ (Expr.leaf l).places serial serial' := List.mem_singleton_self _
      exact (l.meaning_redrawn m serial serial').mono (fun _ _ h => h) fun record h => h l serial serial' hplace
  | case2 serial left connective right ihLeft ihRight =>
      have hleft := left.places_left right connective serial serial'
      have hright := left.places_right right connective serial serial'
      exact ((ihLeft (hshares.mono hleft)).mono (Shared.mono hleft) fun _ h => h.mono hleft).fused hshares.same_eq
        connective ((ihRight (hshares.mono hright)).mono (Shared.mono hright) fun _ h => h.mono hright)
  | case3 serial inner hinner ih =>
      have hunfolded := @meaning.eq_3 (Run.redrawn literal compared) m serial' inner hinner
      rw [hunfolded]
      exact ih hshares
  | case4 serial left connective right ihLeft ihRight =>
      have hleft := left.places_left right connective serial serial'
      have hright := left.places_right right connective serial serial'
      exact ((ihLeft (hshares.mono hleft)).mono (Shared.mono hleft) fun _ h => h.mono hleft).both
        connective ((ihRight (hshares.mono hright)).mono (Shared.mono hright) fun _ h => h.mono hright)

namespace Predicate

theorem isSome_merge? (connective : Connective) {left right : Compiled Predicate}
    {meaning meaning' : Meaning} (hleft : Means left meaning) (hright : Means right meaning') :
    (merge? connective left right).isSome = meaning.shares meaning' := by
  cases hleft with
  | plain _ =>
      rw [merge?_of_not_nested rfl]
      rfl
  | @existential collection _ _ _ _ =>
      cases hright with
      | plain _ =>
          rw [merge?_of_not_nested rfl]
          rfl
      | @existential collection' _ _ _ _ =>
          rw [merge?_any, Meaning.shares]
          cases collection.same collection' <;> rfl

variable {e : Expr} {serial serial' : Nat}

theorem not_fault_redrawn (hfault : ∀ l ∈ e.leaves, m.fault? l = none) :
    ∀ l ∈ e.leaves, @Mapper.fault? (Run.redrawn literal compared) m l = none := fun l hl =>
  (fault?_redrawn m l).trans (hfault l hl)

variable (literal compared) in
/-- A leaf of a filter, compiled again on its own, holds of the same records of those that tell it alike. -/
theorem exists_alone_of_built {l : Leaf} {inParens : Bool} {compiled : Compiled Predicate}
    (h : target.built m inParens serial (.leaf l) = .ok compiled) :
    ∃ q, @ofExpr (Run.redrawn literal compared) m (.leaf l) = .ok q ∧
      ∀ record, l.ToldAlike literal compared m serial 0 record →
        @holds (Run.redrawn literal compared) q record = compiled.query.holds record := by
  have hfault := not_fault_of_built h
  obtain ⟨there, hthere, hmeansThere⟩ := built_means hfault false serial
  obtain ⟨alone, halone, hmeans⟩ := @built_means (Run.redrawn literal compared) m (.leaf l)
    (not_fault_redrawn hfault) false 0
  rw [Target.built_leaf] at h hthere
  rw [h] at hthere
  cases hthere
  refine ⟨alone.query, ?_, fun record hrecord => ?_⟩
  · rw [@ofExpr_eq (Run.redrawn literal compared), halone]
    rfl
  · rw [@Means.holds_eq (Run.redrawn literal compared) _ _ hmeans, hmeansThere.holds_eq]
    exact l.holds_meaning_redrawn hrecord

theorem mergedConnectives_redrawn (hshares : SharesAlike literal compared m (e.places serial serial'))
    (hfault : ∀ l ∈ e.leaves, m.fault? l = none) (inParens : Bool) :
    @Target.mergedConnectives (Run.redrawn literal compared) _ target m inParens serial' e =
      target.mergedConnectives m inParens serial e := by
  induction e generalizing inParens serial serial' with
  | leaf l => rfl
  | paren inner ih => exact ih hshares hfault true
  | binary left connective right ihLeft ihRight =>
      have hplacesLeft := left.places_left right connective serial serial'
      have hplacesRight := left.places_right right connective serial serial'
      have hfaultLeft := fun l hl => hfault l (List.mem_append_left right.leaves hl)
      have hfaultRight := fun l hl => hfault l (List.mem_append_right left.leaves hl)
      obtain ⟨l, hl, hmeansLeft⟩ := built_means hfaultLeft false serial
      obtain ⟨r, hr, hmeansRight⟩ := built_means hfaultRight false (serial + left.leafCount)
      obtain ⟨l', hl', hmeansLeft'⟩ := @built_means (Run.redrawn literal compared) m left
        (not_fault_redrawn hfaultLeft) false serial'
      obtain ⟨r', hr', hmeansRight'⟩ := @built_means (Run.redrawn literal compared) m right
        (not_fault_redrawn hfaultRight) false (serial' + left.leafCount)
      have hmerges : (target.merge connective l' r' : Option Predicate).isSome =
          (target.merge connective l r : Option Predicate).isSome := by
        have halikeLeft := (Expr.meaning_redrawn (hshares.mono hplacesLeft)).mono (Shared.mono hplacesLeft)
          fun _ h => h
        have halikeRight := (Expr.meaning_redrawn (hshares.mono hplacesRight)).mono (Shared.mono hplacesRight)
          fun _ h => h
        refine (@isSome_merge? (Run.redrawn literal compared) connective _ _ _ _ hmeansLeft' hmeansRight').trans
          (Eq.trans ?_ (isSome_merge? connective hmeansLeft hmeansRight).symm)
        exact (halikeLeft.shares_eq hshares.same_eq halikeRight).symm
      rw [Target.mergedConnectives_binary hl hr,
        @Target.mergedConnectives_binary (Run.redrawn literal compared) _ _ _ _ _ _ _ _ _ _ hl' hr',
        ihLeft (hshares.mono hplacesLeft) hfaultLeft, ihRight (hshares.mono hplacesRight) hfaultRight, hmerges]

/-- A part is built alike in the other run, behind other leaves. -/
theorem built_redrawn (hshares : SharesAlike literal compared m (e.places serial serial')) {inParens : Bool}
    {compiled : Compiled Predicate} (h : target.built m inParens serial e = .ok compiled) :
    ∃ compiled', @Target.built _ (Run.redrawn literal compared) target m inParens serial' e = .ok compiled' ∧
      (∀ record, ToldWithin literal compared m (e.places serial serial') record →
        compiled.query.holds record = @holds (Run.redrawn literal compared) compiled'.query record) ∧
      target.mergedConnectives m inParens serial e =
        @Target.mergedConnectives (Run.redrawn literal compared) _ target m inParens serial' e := by
  have hfault := not_fault_of_built h
  obtain ⟨same, hsame, hmeans⟩ := built_means hfault inParens serial
  obtain ⟨compiled', hbuilt, hmeans'⟩ := @built_means (Run.redrawn literal compared) m e
    (not_fault_redrawn hfault) inParens serial'
  rw [h] at hsame
  cases hsame
  refine ⟨compiled', hbuilt, fun record htold => ?_, (mergedConnectives_redrawn hshares hfault inParens).symm⟩
  rw [hmeans.holds_eq, @Means.holds_eq (Run.redrawn literal compared) _ _ hmeans']
  have hparens : SharesAlike literal compared m (e.paren.places serial serial') := hshares
  cases inParens with
  | false => exact (Expr.meaning_redrawn hshares).holds_eq htold
  | true => exact (Expr.meaning_redrawn hparens).holds_eq htold

end Predicate

end FilterLang
