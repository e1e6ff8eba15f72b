import FilterLang.Proofs.Predicate.Rekeyed
import FilterLang.Proofs.Value.Order

/-!
Leaves in another run, where other identifiers are drawn. Which one a literal stands for does not matter to a
record if nothing that is read from it tells the two apart.
-/

namespace FilterLang

open Mapper

/-- The value at the end of a comparison's path. -/
def Comparison.read [Run] (c : Comparison) (node : Json) : Value :=
  c.path.readValue (Run.compared c node) node c.type

/-- The operator comes to the same with either identifier as its literal. -/
def Operator.TellsAlike (op : Operator) (v : Value) (x y : Uuid) : Prop :=
  match op with
  | equality _ => v = .uuid x ↔ v = .uuid y
  | ordering _ => v.order? (.uuid x) = v.order? (.uuid y)
  | textual _ _ => True
  | custom _ => x = y

namespace Value

theorem order?_uuid_eq_iff {v : Value} {x : Uuid} : v.order? (.uuid x) = some .eq ↔ v = .uuid x := by
  cases v <;> simp [order?, Uuid.order_eq_eq_iff]

theorem coerce_redrawn [Zone] {x y : Uuid} {type : FieldType} {t : Text}
    (h : type = .uuid → Uuid.read? t.trim = none → x = y) (kind : Option DateTimeKind) :
    coerce x kind type t = coerce y kind type t := by
  by_cases huuid : type = .uuid
  · rw [huuid, coerce_uuid, coerce_uuid, Uuid.read, Uuid.read]
    cases hread : Uuid.read? t.trim with
    | none => rw [h huuid hread]
    | some u => rfl
  · exact coerce_drawn huuid x y kind t

end Value

namespace Comparison

theorem viewed_order?_uuid {c : Comparison} (h : c.operator.isTextual = false) (v : Value) (x : Uuid) :
    (c.viewed v).order? (.uuid x) = v.order? (.uuid x) := by
  unfold viewed
  rw [h]
  cases c.ignoresCase with
  | false => rfl
  | true => cases v <;> rfl

theorem equalValues_uuid (v : Value) (x : Uuid) :
    equalValues v (.uuid x) = (v.order? (.uuid x) == some .eq) := by
  simp [equalValues, Value.isNull]

theorem holdsOf_redrawn {c : Comparison} {v : Value} {x y : Uuid} (h : c.operator.TellsAlike v x y) :
    { c with value := .uuid x }.holdsOf v = { c with value := .uuid y }.holdsOf v := by
  have hrelated : related { c with value := .uuid x } (c.viewed v) =
      related { c with value := .uuid y } (c.viewed v) := by
    unfold related
    cases hop : c.operator with
    | equality negated =>
        have hequal : v.order? (.uuid x) = some .eq ↔ v.order? (.uuid y) = some .eq := by
          rw [hop] at h
          rw [Value.order?_uuid_eq_iff, Value.order?_uuid_eq_iff]
          exact h
        simp only [equalValues_uuid, viewed_order?_uuid (congrArg Operator.isTextual hop), Bool.eq_iff_iff.2
          (beq_iff_eq.trans (hequal.trans beq_iff_eq.symm))]
    | ordering bound =>
        have horder : v.order? (.uuid x) = v.order? (.uuid y) := by rwa [hop] at h
        simp only [viewed_order?_uuid (congrArg Operator.isTextual hop), horder]
    | textual relation negated => rfl
    | custom own =>
        have hequal : x = y := by rwa [hop] at h
        rw [hequal]
  unfold holdsOf
  cases c.matchesAbsent with
  | true => rfl
  | false => exact hrelated

end Comparison

/-- The key is to be an identifier and is none, so that one is drawn for it. -/
def Field.drawsKey (f : Field) (indexer : Option Text) : Bool :=
  f.keyType = .uuid && indexer.any fun key => (Uuid.read? key.trim).isNone

theorem Field.drawsKey_none (f : Field) : f.drawsKey none = false := Bool.and_false _

namespace Mapper

def drawsValue (m : Mapper) (f : Field) (op : Operator) (l : Leaf) : Bool :=
  match rawLiteral m.settings f op l.value with
  | .text t => f.type = .uuid && !op.isTextual && !(t.isEmpty && op.isEquality) && (Uuid.read? t.trim).isNone
  | _ => false

variable [Run] {literal : Nat → Uuid} {compared : Comparison → Json → Uuid}
  {m : Mapper} {f : Field} {op : Operator} {l : Leaf} {serial serial' : Nat}

theorem bindIndexer_of_given {indexer : Option Text} (h : f.drawsKey indexer = false) :
    @bindIndexer (Run.redrawn literal compared) serial' f indexer = bindIndexer serial f indexer := by
  unfold bindIndexer
  split <;> try rfl
  rename_i key _
  have hkey : Value.coerce (@keyDraw (Run.redrawn literal compared) serial') none f.keyType key =
      Value.coerce (keyDraw serial) none f.keyType key :=
    Value.coerce_redrawn (fun huuid hread => by simp [Field.drawsKey, huuid, hread] at h) none
  rw [hkey]

/-- Bound in the other run, a path differs at most in a key that nothing tells apart from its own. -/
theorem bindIndexer_redrawn {among : Json → Prop} {indexer : Option Text}
    (h : f.drawsKey indexer = true → ∀ record, among record →
      record.TellsKeysAlike (.uuid (keyDraw serial)) (.uuid (literal (2 * serial')))) :
    Outcome.Related (Option.Rel (Path.Rekeyed among)) (bindIndexer serial f indexer)
      (@bindIndexer (Run.redrawn literal compared) serial' f indexer) := by
  cases hdraws : f.drawsKey indexer with
  | true =>
      obtain ⟨key, rfl⟩ : ∃ key, indexer = some key := by
        cases indexer <;> simp [Field.drawsKey] at hdraws ⊢
      obtain ⟨huuid, hread⟩ : f.keyType = .uuid ∧ Uuid.read? key.trim = none := by
        simpa [Field.drawsKey] using hdraws
      have hdrawn : ∀ drawn, Value.coerce drawn none f.keyType key = .ok (.uuid drawn) := by
        intro drawn
        rw [huuid, Value.coerce_uuid, Uuid.read, hread, Option.getD_none]
      unfold bindIndexer
      cases f.path.hasKeySlot with
      | false => exact .error _
      | true =>
          simp only [hdrawn]
          exact .ok (Path.Rekeyed.bindKey? (h hdraws) f.path)
  | false =>
      have hgiven : @bindIndexer (Run.redrawn literal compared) serial' f indexer = bindIndexer serial f indexer :=
        bindIndexer_of_given hdraws
      rw [hgiven]
      rcases bindIndexer serial f indexer with fault | _ | path
      · exact .error fault
      · exact .ok .none
      · exact .ok (.some (Path.rekeyed_self among path))

theorem literal?_of_drawsValue (h : m.drawsValue f op l = true) (serial : Nat) (nested : Bool) :
    m.literal? serial f op l nested = some ⟨.uuid (valueDraw serial), false,
      (l.valueIgnoresCase || l.fieldIgnoresCase) && !op.isOrdering⟩ := by
  unfold drawsValue at h
  unfold literal?
  cases hraw : rawLiteral m.settings f op l.value with
  | text t =>
      simp only [hraw, Bool.and_eq_true, decide_eq_true_eq, Bool.not_eq_true'] at h
      obtain ⟨⟨⟨huuid, htextual⟩, hempty⟩, hread⟩ := h
      have hcoerced : Value.coerce (valueDraw serial) m.settings.defaultDateTimeKind f.type t =
          .ok (.uuid (valueDraw serial)) := by
        rw [huuid, Value.coerce_uuid, Uuid.read, Option.isNone_iff_eq_none.1 hread, Option.getD_none]
      simp only [typedLiteral?, huuid, htextual, hempty] at hcoerced ⊢
      have htype : (FieldType.uuid == FieldType.text) = false := rfl
      simp [hcoerced, htype, Value.foldCase, Value.isNull]
  | _ => simp [hraw] at h

theorem literal?_redrawn (h : m.drawsValue f op l = false) (nested : Bool) :
    @literal? (Run.redrawn literal compared) m serial' f op l nested = m.literal? serial f op l nested := by
  have htyped : @typedLiteral? (Run.redrawn literal compared) m.settings serial' f op
      (rawLiteral m.settings f op l.value) =
        typedLiteral? m.settings serial f op (rawLiteral m.settings f op l.value) := by
    unfold drawsValue at h
    generalize rawLiteral m.settings f op l.value = raw at h ⊢
    cases raw with
    | text t =>
        unfold typedLiteral?
        cases htextual : f.type = .text || op.isTextual with
        | true => simp only [↓reduceIte]
        | false =>
            cases hempty : t.isEmpty && op.isEquality with
            | true => simp only [hempty, ↓reduceIte]
            | false =>
                have hcoerced : Value.coerce (@valueDraw (Run.redrawn literal compared) serial')
                    m.settings.defaultDateTimeKind f.type t =
                      Value.coerce (valueDraw serial) m.settings.defaultDateTimeKind f.type t := by
                  refine Value.coerce_redrawn (fun huuid hread => ?_) _
                  simp_all
                dsimp only
                rw [hcoerced]
    | _ => rfl
  unfold literal?
  dsimp only
  rw [htyped]

theorem any_literal?_redrawn {nested : Bool} {test test' : Literal → Bool}
    (hread : ∀ lit, test' lit = test lit)
    (hdrawn : m.drawsValue f op l = true → ∀ lit : Literal,
      test' { lit with value := .uuid (literal (2 * serial' + 1)) } =
        test { lit with value := .uuid (valueDraw serial) }) :
    (@literal? (Run.redrawn literal compared) m serial' f op l nested).any test' =
      (m.literal? serial f op l nested).any test := by
  cases hdraws : m.drawsValue f op l with
  | true =>
      have hliteral := @literal?_of_drawsValue (Run.redrawn literal compared) _ _ _ _ hdraws serial' nested
      rw [hliteral, literal?_of_drawsValue hdraws]
      exact hdrawn hdraws ⟨.null, _, _⟩
  | false =>
      rw [literal?_redrawn hdraws, funext hread]

end Mapper

namespace Mapper

section Told

variable [Run] (literal : Nat → Uuid) (compared : Comparison → Json → Uuid)

/-- From the node on the same is read in both runs, and where an identifier is drawn for the literal it does not tell
the two apart. -/
def TellsAlike (m : Mapper) (f : Field) (op : Operator) (l : Leaf) (path path' : Path) (serial serial' : Nat)
    (node : Json) : Prop :=
  ∀ lit lit' : Literal,
    @Comparison.read (Run.redrawn literal compared) (comparisonOf path' f op lit') node =
      (comparisonOf path f op lit).read node ∧
    (m.drawsValue f op l = true → op.TellsAlike ((comparisonOf path f op lit).read node) (valueDraw serial)
      (literal (2 * serial' + 1)))

end Told

variable [Run] {literal : Nat → Uuid} {compared : Comparison → Json → Uuid}
  {m : Mapper} {f : Field} {op : Operator} {l : Leaf} {path path' : Path} {serial serial' : Nat}

namespace TellsAlike

variable {node : Json} (h : m.TellsAlike literal compared f op l path path' serial serial' node)

include h

theorem holds_eq (lit : Literal) :
    @Comparison.holds (Run.redrawn literal compared) (comparisonOf path' f op lit) node =
      (comparisonOf path f op lit).holds node :=
  congrArg (comparisonOf path f op lit).holdsOf (h lit lit).1

theorem holds_drawn (hdraws : m.drawsValue f op l = true) (lit : Literal) :
    @Comparison.holds (Run.redrawn literal compared)
        (comparisonOf path' f op { lit with value := .uuid (literal (2 * serial' + 1)) }) node =
      (comparisonOf path f op { lit with value := .uuid (valueDraw serial) }).holds node := by
  have htold := h { lit with value := .uuid (valueDraw serial) }
    { lit with value := .uuid (literal (2 * serial' + 1)) }
  have hsame := @Comparison.holdsOf_redrawn (comparisonOf path f op lit) _ _ _ (htold.2 hdraws)
  exact (congrArg (Comparison.holdsOf _) htold.1).trans hsame.symm

theorem any_holds_eq (nested : Bool) :
    ((@literal? (Run.redrawn literal compared) m serial' f op l nested).any fun lit =>
        @Comparison.holds (Run.redrawn literal compared) (comparisonOf path' f op lit) node) =
      (m.literal? serial f op l nested).any fun lit => (comparisonOf path f op lit).holds node :=
  any_literal?_redrawn h.holds_eq h.holds_drawn

end TellsAlike

theorem guardedHolds_redrawn {c c' : Comparison} {record : Json}
    (hholds : @Comparison.holds (Run.redrawn literal compared) c' record = c.holds record)
    (hnull : c'.outcomeOnNull = c.outcomeOnNull) {among : Json → Prop} (hpath : c.path.Rekeyed among c'.path)
    (hrecord : among record) (settings : Settings) (indexed : Bool) :
    @guardedHolds (Run.redrawn literal compared) settings indexed c' record =
      guardedHolds settings indexed c record := by
  have hfound : c'.path.guards.map (·.resolve? record) = c.path.guards.map (·.resolve? record) := by
    refine (List.forall₂_eq_eq_eq ▸ ?_ : c.path.guards.map _ = c'.path.guards.map _).symm
    rw [List.forall₂_map_left_iff, List.forall₂_map_right_iff]
    exact hpath.guards.imp fun _ _ hguard => hguard.resolve?_eq hrecord .self
  have hany := congrArg (List.any · Option.isNone) hfound
  have hall := congrArg (List.all · Option.isSome) hfound
  simp only [List.any_map, List.all_map, Function.comp_def] at hany hall
  have hsplit := hpath.splitKey?
  unfold guardedHolds
  rw [hholds, hnull, hany, hall]
  generalize c.path.splitKey? = parts at hsplit ⊢
  generalize c'.path.splitKey? = parts' at hsplit ⊢
  cases hsplit with
  | none => rfl
  | @some split split' hparts =>
      obtain ⟨map, key⟩ := split
      obtain ⟨map', key'⟩ := split'
      have hkey : map.holdsKey key record = map'.holdsKey key' record :=
        hparts.1.holdsKey_eq hparts.2 hrecord .self
      simp only [Option.all_some, hkey]

theorem TellsAlike.any_guardedHolds_eq {among : Json → Prop} (hpath : path.Rekeyed among path') {record : Json}
    (hrecord : among record) (h : m.TellsAlike literal compared f op l path path' serial serial' record)
    (settings : Settings) (indexed nested : Bool) :
    ((@literal? (Run.redrawn literal compared) m serial' f op l nested).any fun lit =>
        @guardedHolds (Run.redrawn literal compared) settings indexed (comparisonOf path' f op lit) record) =
      (m.literal? serial f op l nested).any fun lit =>
        guardedHolds settings indexed (comparisonOf path f op lit) record :=
  any_literal?_redrawn (fun lit => guardedHolds_redrawn (h.holds_eq lit) rfl hpath hrecord settings indexed)
    fun hdraws lit => guardedHolds_redrawn (h.holds_drawn hdraws lit) rfl hpath hrecord settings indexed

theorem tellsAlike_of_ne_uuid (h : f.type ≠ .uuid) (path : Path) (node : Json) :
    m.TellsAlike literal compared f op l path path serial serial' node := by
  refine fun lit lit' => ⟨Value.ofNode_draw (fun hstray => h hstray.1) _ _, fun hdraws => ?_⟩
  unfold drawsValue at hdraws
  split at hdraws
  · simp [h] at hdraws
  · cases hdraws

theorem holdsAlong_redrawn {among : Json → Prop} {collections collections' : List Path} {record element : Json}
    (hcollections : List.Forall₂ (Path.Rekeyed among) collections collections') (hrecord : among record)
    (helement : record.Within element) (h : ∀ node ∈ Path.innermost collections element,
      m.TellsAlike literal compared f op l path path' serial serial' node) (nested : Bool) :
    holdsAlong (fun node => (@literal? (Run.redrawn literal compared) m serial' f op l nested).any fun lit =>
        @Comparison.holds (Run.redrawn literal compared) (comparisonOf path' f op lit) node) collections' element =
      holdsAlong (fun node => (m.literal? serial f op l nested).any fun lit =>
        (comparisonOf path f op lit).holds node) collections element := by
  rw [holdsAlong_eq, holdsAlong_eq, ← Path.Rekeyed.innermost_eq hcollections hrecord helement, Bool.eq_iff_iff,
    List.any_eq_true, List.any_eq_true]
  refine exists_congr fun node => and_congr_right fun hnode => ?_
  rw [(h node hnode).any_holds_eq]

theorem holds_meaningOf_redrawn {among : Json → Prop} (hpath : path.Rekeyed among path') {record : Json}
    (hrecord : among record) (h : ∀ node ∈ Path.innermost path.hops.1 record,
      m.TellsAlike literal compared f op l path.hops.2 path'.hops.2 serial serial' node) :
    (@meaningOf (Run.redrawn literal compared) m serial' f op path' l).holds record =
      (m.meaningOf serial f op path l).holds record := by
  have hsplit := hpath.splitEach?
  unfold meaningOf
  cases hparts : path.splitEach? with
  | none =>
      cases hparts' : path'.splitEach? with
      | some parts' => rw [hparts, hparts'] at hsplit; cases hsplit
      | none =>
          rw [Path.hops_of_flat (Path.splitEach?_eq_none_iff.1 hparts),
            Path.hops_of_flat (Path.splitEach?_eq_none_iff.1 hparts')] at h
          exact (h record (List.mem_singleton_self record)).any_guardedHolds_eq hpath hrecord _ _ false
  | some parts =>
      cases hparts' : path'.splitEach? with
      | none => rw [hparts, hparts'] at hsplit; cases hsplit
      | some parts' =>
          have hhops := hpath.hops
          rw [Path.hops_of_splitEach? hparts, Path.hops_of_splitEach? hparts'] at h hhops
          exact holdsAlong_redrawn hhops.1 hrecord .self h true

end Mapper

namespace Leaf

section Told

variable [Run] (literal : Nat → Uuid) (compared : Comparison → Json → Uuid)

def KeyTold (m : Mapper) (l : Leaf) (serial serial' : Nat) (record : Json) : Prop :=
  ∀ f, m.get? (fieldName l) = some f → f.drawsKey l.indexer = true →
    record.TellsKeysAlike (.uuid (keyDraw serial)) (.uuid (literal (2 * serial')))

/-- The key and the nodes of the record that the leaf's comparison is about are alike in both places. -/
def ToldAlike (m : Mapper) (l : Leaf) (serial serial' : Nat) (record : Json) : Prop :=
  l.KeyTold literal m serial serial' record ∧
  ∀ f op path path', m.get? (fieldName l) = some f → m.registry.resolve? l.symbol = some op →
    bindIndexer serial f l.indexer = .ok (some path) →
    @bindIndexer (Run.redrawn literal compared) serial' f l.indexer = .ok (some path') →
    ∀ node ∈ Path.innermost path.hops.1 record,
      m.TellsAlike literal compared f op l path.hops.2 path'.hops.2 serial serial' node

end Told

variable [Run] {literal : Nat → Uuid} {compared : Comparison → Json → Uuid} {m : Mapper} {l : Leaf}
  {serial serial' : Nat} {record : Json}

/-- A leaf holds in both places of the records that tell it alike. -/
theorem holds_meaning_redrawn (h : l.ToldAlike literal compared m serial serial' record) :
    (@meaning (Run.redrawn literal compared) m serial' l).holds record = (l.meaning m serial).holds record := by
  obtain ⟨hkey, hnodes⟩ := h
  unfold meaning
  cases hfield : m.get? (fieldName l) with
  | none => rfl
  | some f =>
      cases hop : m.registry.resolve? l.symbol with
      | none => rfl
      | some op =>
          have hbound := @bindIndexer_redrawn _ literal compared f serial serial' (· = record) l.indexer
            fun hdraws _ hrecord => hrecord ▸ hkey f hfield hdraws
          have hnodes := fun path path' => hnodes f op path path' hfield hop
          dsimp only
          generalize bindIndexer serial f l.indexer = bound at hbound hnodes ⊢
          generalize @bindIndexer (Run.redrawn literal compared) serial' f l.indexer = bound' at hbound hnodes ⊢
          cases hbound with
          | error fault => rfl
          | ok hpaths =>
              cases hpaths with
              | none => rfl
              | @some path path' hpath => exact holds_meaningOf_redrawn hpath rfl (hnodes path path' rfl rfl)

theorem keyTold_of_given (h : ∀ f, m.get? (fieldName l) = some f → f.drawsKey l.indexer = false) :
    l.KeyTold literal m serial serial' record := by
  intro f hfield hdraws
  rw [h f hfield] at hdraws
  cases hdraws

theorem tellsAlike_of_given {f : Field} {path path' : Path} (hkey : f.drawsKey l.indexer = false)
    (htype : f.type ≠ .uuid) (hbound : bindIndexer serial f l.indexer = .ok (some path))
    (hbound' : @bindIndexer (Run.redrawn literal compared) serial' f l.indexer = .ok (some path')) (op : Operator)
    (node : Json) : m.TellsAlike literal compared f op l path.hops.2 path'.hops.2 serial serial' node := by
  rw [bindIndexer_of_given hkey, hbound] at hbound'
  cases hbound'
  exact tellsAlike_of_ne_uuid htype _ node

theorem toldAlike_of_ne_uuid (hkey : ∀ f, m.get? (fieldName l) = some f → f.drawsKey l.indexer = false)
    (htype : ∀ f, m.get? (fieldName l) = some f → f.type ≠ .uuid) (record : Json) :
    l.ToldAlike literal compared m serial serial' record :=
  ⟨keyTold_of_given hkey, fun f op _ _ hfield _ hbound hbound' node _ =>
    tellsAlike_of_given (hkey f hfield) (htype f hfield) hbound hbound' op node⟩

end Leaf

end FilterLang
