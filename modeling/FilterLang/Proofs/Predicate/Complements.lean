import FilterLang.Proofs.Expr.Plain
import FilterLang.Proofs.Predicate.Compiling
import FilterLang.Proofs.Predicate.Nulls
import FilterLang.Proofs.Predicate.Redrawing

/-!
Operators and their negations. Of two leaves that ask for opposite things on a field outside collections and
maps exactly one holds of a record, and neither does if their literal cannot be read. A malformed text in the
place of an identifier is read anew by each of them, and they may hold of it both, or neither.
-/

namespace FilterLang

open Mapper

namespace Operator

inductive Opposite : Operator → Operator → Prop
  | equality : Opposite (equality false) (equality true)
  | textual (relation : TextRelation) : Opposite (textual relation false) (textual relation true)

def oppositeSymbols : List (Text × Text) :=
  [("=", "!="), ("=*", "!*"), ("^", "!^"), ("$", "!$")]

theorem opposite_of_mem {symbol symbol' : Text} (h : (symbol, symbol') ∈ oppositeSymbols) :
    ∃ op op', builtIn? symbol = some op ∧ builtIn? symbol' = some op' ∧ op.Opposite op' := by
  simp only [oppositeSymbols, List.mem_cons, Prod.mk.injEq, List.not_mem_nil, or_false] at h
  rcases h with ⟨rfl, rfl⟩ | ⟨rfl, rfl⟩ | ⟨rfl, rfl⟩ | ⟨rfl, rfl⟩
  · exact ⟨_, _, rfl, rfl, .equality⟩
  · exact ⟨_, _, rfl, rfl, .textual .contains⟩
  · exact ⟨_, _, rfl, rfl, .textual .startsWith⟩
  · exact ⟨_, _, rfl, rfl, .textual .endsWith⟩

theorem Opposite.isCustom_eq_false {op op' : Operator} (h : op.Opposite op') :
    op.isCustom = false ∧ op'.isCustom = false := by
  cases h <;> exact ⟨rfl, rfl⟩

end Operator

/-- Two leaves with one field and one literal, and with operators of which the second negates the first. -/
structure Leaf.Opposes (l l' : Leaf) : Prop where
  field : l'.field = l.field
  indexer : l'.indexer = l.indexer
  fieldIgnoresCase : l'.fieldIgnoresCase = l.fieldIgnoresCase
  value : l'.value = l.value
  valueIgnoresCase : l'.valueIgnoresCase = l.valueIgnoresCase
  symbols : (l.symbol, l'.symbol) ∈ Operator.oppositeSymbols

namespace Mapper

variable [Run]

/-- The operator needs the literal in the field's type, and what the convertor and the search for null leave
of it is a text that is not empty and cannot be read as that. -/
def Unreadable (m : Mapper) (f : Field) (op : Operator) (t : Text) : Prop :=
  op.isEquality = true ∧ f.type ≠ .text ∧ ∃ s error, rawLiteral m.settings f op t = .text s ∧ s ≠ [] ∧
    Value.coerce (valueDraw 0) m.settings.defaultDateTimeKind f.type s = .error error

variable {m : Mapper} {f : Field} {op op' : Operator} {l l' : Leaf}

theorem literal?_eq_none_iff (h : op.Opposite op') (nested : Bool) :
    m.literal? 0 f op l nested = none ↔ m.Unreadable f op l.value := by
  unfold literal? Unreadable
  rw [Option.map_eq_none_iff]
  generalize rawLiteral m.settings f op l.value = raw
  cases h with
  | textual relation =>
      constructor
      · intro hnone
        cases raw <;> simp [typedLiteral?, Operator.isTextual] at hnone
      · rintro ⟨hequality, -⟩
        cases hequality
  | equality =>
      cases raw with
      | text s =>
          by_cases htext : f.type = .text
          · simp [typedLiteral?, htext]
          cases s with
          | nil => simp [typedLiteral?, htext, Operator.isTextual, Operator.isEquality]
          | cons c s =>
              cases hcoerced : Value.coerce (valueDraw 0) m.settings.defaultDateTimeKind f.type (c :: s) <;>
                simp [typedLiteral?, htext, hcoerced, Operator.isTextual, Operator.isEquality,
                  Operator.isCustom]
      | _ => simp [typedLiteral?]

theorem literal?_opposite (h : op.Opposite op') (hleaves : l.Opposes l') (serial : Nat) (nested : Bool) :
    m.literal? serial f op' l' nested = m.literal? serial f op l nested := by
  unfold literal?
  rw [hleaves.value, hleaves.valueIgnoresCase, hleaves.fieldIgnoresCase]
  cases h <;> rfl

theorem stops_opposite (h : op.Opposite op') (hleaves : l.Opposes l') : m.stops f op' l' = m.stops f op l := by
  unfold stops
  rw [hleaves.value]
  cases h <;> rfl

omit [Run] in
theorem drawsValue_opposite (h : op.Opposite op') (hleaves : l.Opposes l') :
    m.drawsValue f op' l' = m.drawsValue f op l := by
  unfold drawsValue
  rw [hleaves.value]
  cases h <;> rfl

theorem literal?_redrawn_eq_none {literal : Nat → Uuid} {compared : Comparison → Json → Uuid} {serial : Nat}
    {nested : Bool} (h : m.literal? serial f op l nested = none) :
    @literal? (Run.redrawn literal compared) m serial f op l nested = none := by
  cases hdraws : m.drawsValue f op l with
  | true =>
      rw [literal?_of_drawsValue hdraws] at h
      cases h
  | false => rw [literal?_redrawn hdraws, h]

end Mapper

namespace Comparison

/-- Of any value the negation holds exactly if the comparison does not. -/
theorem holdsOf_opposite {op op' : Operator} (h : op.Opposite op') {path : Path} {f : Field} {lit : Literal}
    (hsound : (comparisonOf path f op lit).Sound) (v : Value) :
    (comparisonOf path f op' lit).holdsOf v = !(comparisonOf path f op lit).holdsOf v := by
  unfold holdsOf
  cases habsent : lit.matchesAbsent with
  | true =>
      have hequality := hsound.2 habsent
      cases h with
      | equality => simp [comparisonOf, habsent]
      | textual relation => cases hequality
  | false => cases h <;> simp [comparisonOf, habsent, related, viewed, Operator.isTextual]

end Comparison

namespace Predicate

section Leaves

variable [Run] {literal : Nat → Uuid} {compared : Comparison → Json → Uuid} {m : Mapper} {f : Field}
  {op op' : Operator} {l l' : Leaf} {record : Json}

/-- The texts of identifiers in the record are none that is drawn for the literal, in this run or in the other. -/
def Fresh (literal : Nat → Uuid) (node : Option Json) : Prop :=
  ∀ t u, node = some (.string t) → Uuid.read? t.trim = some u → u ≠ valueDraw 0 ∧ u ≠ literal 1

theorem exists_text_of_ofNode {type : FieldType} {node : Option Json} {drawn u : Uuid}
    (hstray : ¬ Json.Stray type node) (h : Value.ofNode drawn type node = .uuid u) :
    ∃ t, node = some (.string t) ∧ Uuid.read? t.trim = some u := by
  obtain ⟨found, rfl, hdenotes⟩ := (Value.ofNode_eq_iff (v := .uuid u) hstray nofun drawn).1 h
  cases hdenotes with
  | string hliteral =>
      cases hliteral with
      | uuid hread => exact ⟨_, rfl, hread⟩

theorem ofExpr_of_stops (hfield : m.get? (fieldName l) = some f) (hop : m.registry.resolve? l.symbol = some op)
    (hkeyless : f.path.hasKeySlot = false) (hindexer : l.indexer = none) (hstops : m.stops f op l = true) :
    ofExpr m (.leaf l) = .error .stopped := by
  have hbound : bindIndexer 0 f l.indexer = .ok (some f.path) := by
    simp only [bindIndexer, hindexer, hkeyless]
  rw [ofExpr_eq, Target.built_leaf, plan_of_stops hfield hop hbound hstops]
  rfl

variable (compared) in
/-- The negation holds of a record in another run exactly if it does in this one. -/
theorem meaning_redrawn_of_fresh (hopposite : op.Opposite op') (hasks : l.AsksValue m f op')
    (hstray : ¬ Json.Stray f.type (f.path.resolve? record))
    (hfresh : m.drawsValue f op' l = true → Fresh literal (f.path.resolve? record)) :
    (l.meaning m 0).holds record = (@Leaf.meaning (Run.redrawn literal compared) m 0 l).holds record := by
  have hkey : l.KeyTold literal m 0 0 record := by
    refine Leaf.keyTold_of_given fun f' _ => ?_
    rw [hasks.indexer, Field.drawsKey_none]
  have hagain : @bindIndexer (Run.redrawn literal compared) 0 f l.indexer = .ok (some f.path) := by
    simp only [bindIndexer, hasks.indexer, hasks.keyless]
  refine (l.holds_meaning_redrawn ⟨hkey, fun f' op₁ path path' hfield hop hbound hbound' => ?_⟩).symm
  obtain rfl : f = f' := Option.some.inj (hasks.field.symm.trans hfield)
  obtain rfl : op' = op₁ := Option.some.inj (hasks.operator.symm.trans hop)
  obtain rfl : f.path = path := Option.some.inj (Except.ok.inj ((hasks.bound 0).symm.trans hbound))
  obtain rfl : f.path = path' := Option.some.inj (Except.ok.inj (hagain.symm.trans hbound'))
  rw [Path.hops_of_flat hasks.flat]
  intro node hnode lit lit'
  obtain rfl := List.mem_singleton.1 hnode
  refine ⟨Value.ofNode_draw hstray _ _, fun hdraws => ?_⟩
  cases hopposite with
  | textual relation => trivial
  | equality =>
      have hapart : ∀ drawn u, Value.ofNode drawn f.type (f.path.resolve? node) = .uuid u →
          u ≠ valueDraw 0 ∧ u ≠ literal 1 := by
        intro drawn u hu
        obtain ⟨t, ht, hread⟩ := exists_text_of_ofNode hstray hu
        exact hfresh hdraws t u ht hread
      exact iff_of_false (fun hx => (hapart _ _ hx).1 rfl) fun hy => (hapart _ _ hy).2 rfl

/--
Opposite leaves without an indexer, on a field outside collections and maps, where each of them draws its own
identifiers. Either the program stops at both, or both compile. If their literal cannot be read neither of them
holds of anything, and otherwise exactly one of them holds of each record that has no malformed text in the
place of an identifier and none of those that are drawn.
-/
theorem ofExpr_opposites (hleaves : l.Opposes l') (hop : Operator.builtIn? l.symbol = some op)
    (hfield : m.get? (fieldName l) = some f) (hflat : f.isNested = false)
    (hkeyless : f.path.hasKeySlot = false) (hindexer : l.indexer = none) :
    (m.stops f op l = true → ofExpr m (.leaf l) = .error .stopped ∧
      @ofExpr (Run.redrawn literal compared) m (.leaf l') = .error .stopped) ∧
    (m.stops f op l = false → ∃ p q, ofExpr m (.leaf l) = .ok p ∧
      @ofExpr (Run.redrawn literal compared) m (.leaf l') = .ok q ∧
      (∀ t, Expr.read m.registry m.settings.maxDepth.toNat t = .ok (.leaf l) → ofText m t = .ok p) ∧
      (∀ t, Expr.read m.registry m.settings.maxDepth.toNat t = .ok (.leaf l') →
        @ofText (Run.redrawn literal compared) m t = .ok q) ∧
      (m.Unreadable f op l.value →
        ∀ record, p.holds record = false ∧ @holds (Run.redrawn literal compared) q record = false) ∧
      (¬ m.Unreadable f op l.value → ∀ record, ¬ Json.Stray f.type (f.path.resolve? record) →
        (m.drawsValue f op l = true → Fresh literal (f.path.resolve? record)) →
        @holds (Run.redrawn literal compared) q record = !p.holds record)) := by
  obtain ⟨op₁, op', hop₁, hop', hopposite⟩ := Operator.opposite_of_mem hleaves.symbols
  obtain rfl : op₁ = op := Option.some.inj (hop₁.symm.trans hop)
  have hname : fieldName l' = fieldName l := congrArg Text.trim hleaves.field
  have hfield' : m.get? (fieldName l') = some f := by rwa [hname]
  have hstops : m.stops f op' l' = m.stops f op₁ l := stops_opposite hopposite hleaves
  have hresolved' := m.registry.resolve?_of_builtIn hop'
  have hindexer' : l'.indexer = none := hleaves.indexer.trans hindexer
  refine ⟨fun hstop => ⟨ofExpr_of_stops hfield (m.registry.resolve?_of_builtIn hop) hkeyless hindexer hstop,
    @ofExpr_of_stops (Run.redrawn literal compared) m f op' l' hfield' hresolved' hkeyless hindexer'
      (hstops.trans hstop)⟩, fun hgoes => ?_⟩
  have hasks : l.AsksValue m f op₁ :=
    ⟨hfield, m.registry.resolve?_of_builtIn hop, hflat, hkeyless, hindexer, hgoes⟩
  have hasks' : l'.AsksValue m f op' := ⟨hfield', hresolved', hflat, hkeyless, hindexer', hstops.trans hgoes⟩
  have hagain : @Leaf.AsksValue (Run.redrawn literal compared) m f op' l' :=
    @Leaf.AsksValue.mk (Run.redrawn literal compared) m f op' l' hfield' hresolved' hflat hkeyless hindexer'
      (hstops.trans hgoes)
  obtain ⟨p, hp, hholds⟩ := hasks.exists_ofExpr
  obtain ⟨q, hq, hholds'⟩ := @Leaf.AsksValue.exists_ofExpr (Run.redrawn literal compared) m f op' l' hagain
  have hliteral : m.literal? 0 f op' l' false = m.literal? 0 f op₁ l false :=
    literal?_opposite hopposite hleaves 0 false
  refine ⟨p, q, hp, hq, fun _ => ofText_of_ofExpr hp,
    fun _ => @ofText_of_ofExpr (Run.redrawn literal compared) _ _ _ _ hq, fun hunreadable record => ?_,
    fun hreadable record hstray hfresh => ?_⟩
  · have hnone := (literal?_eq_none_iff (l := l) hopposite false).2 hunreadable
    rw [hholds, hholds', hnone, literal?_redrawn_eq_none (hliteral.trans hnone)]
    exact ⟨rfl, rfl⟩
  · rw [← drawsValue_opposite hopposite hleaves] at hfresh
    have hagainst := meaning_redrawn_of_fresh compared hopposite hasks' hstray hfresh
    rw [@Leaf.AsksValue.meaning_eq (Run.redrawn literal compared) m f op' l' hagain, hasks'.meaning_eq,
      Meaning.holds, Meaning.holds, hliteral] at hagainst
    rw [hholds, hholds', ← hagainst]
    cases hlit : m.literal? 0 f op₁ l false with
    | none => exact absurd ((literal?_eq_none_iff hopposite false).1 hlit) hreadable
    | some lit =>
        have hsound := sound_of_literal? hopposite.isCustom_eq_false.1 hlit f.path
        have hsound' := sound_of_literal? hopposite.isCustom_eq_false.2 (hliteral.trans hlit) f.path
        simp only [Option.any_some, guardedHolds_unindexed hsound, guardedHolds_unindexed hsound']
        -- Each of the two would read a malformed text as an identifier of its own.
        have hread : (comparisonOf f.path f op' lit).read record = (comparisonOf f.path f op₁ lit).read record :=
          Value.ofNode_draw hstray _ _
        exact (congrArg (comparisonOf f.path f op' lit).holdsOf hread).trans
          (Comparison.holdsOf_opposite hopposite hsound _)

end Leaves

open scoped Run.Counting

def households : Mapper where
  fields := [
    { name := "parent", type := .text, path := [.member "parent", .member "name"] },
    { name := "age", type := .int, path := [.member "age"] },
    { name := "id", type := .uuid, path := [.member "id"] }]
  settings := { avoidNullReference := true }

def asksForBob (symbol : Text) : Leaf := ⟨"parent", none, false, 0, symbol, 0, "bob", true⟩

theorem ofExpr_opposites_households :
    (∃ p q, ofExpr households (.leaf (asksForBob "=")) = .ok p ∧
      ofExpr households (.leaf (asksForBob "!=")) = .ok q ∧
      p.holds (.object []) = false ∧ q.holds (.object []) = true) ∧
    ∃ p q, ofExpr households (.leaf (.plain 0 "age" "=" "old")) = .ok p ∧
      ofExpr households (.leaf (.plain 0 "age" "!=" "old")) = .ok q ∧
      ∀ record, p.holds record = false ∧ q.holds record = false := by
  refine ⟨?_, ?_⟩
  · have hleaves : (asksForBob "=").Opposes (asksForBob "!=") := ⟨rfl, rfl, rfl, rfl, rfl, by decide⟩
    obtain ⟨p, q, hp, hq, -, -, -, hreadable⟩ :=
      (@ofExpr_opposites _ Run.literal Run.compared households _ _ _ _ hleaves rfl rfl rfl rfl rfl).2 rfl
    have hopposite := hreadable (fun hunreadable => hunreadable.2.1 rfl) (.object []) nofun nofun
    have hmissing : p.holds (.object []) = false := by
      cases hp
      rfl
    exact ⟨p, q, hp, hq, hmissing, by rw [hopposite, hmissing]; rfl⟩
  · have hleaves : (Leaf.plain 0 "age" "=" "old").Opposes (.plain 0 "age" "!=" "old") :=
      ⟨rfl, rfl, rfl, rfl, rfl, by decide⟩
    obtain ⟨p, q, hp, hq, -, -, hunreadable, -⟩ :=
      (@ofExpr_opposites _ Run.literal Run.compared households _ _ _ _ hleaves rfl rfl rfl rfl rfl).2 rfl
    exact ⟨p, q, hp, hq, hunreadable ⟨rfl, by decide, "old", _, rfl, by decide, rfl⟩⟩

def stray : Json := .object [("id", .string "abc")]

/-- Each of two opposite leaves draws an identifier for the word, and one with the last digit zero and one with
another may come: then both hold of the record. -/
theorem ofExpr_opposites_stray :
    ∃ p q, ofExpr households (.leaf (.plain 0 "id" "$" "0")) = .ok p ∧
      @ofExpr (Run.redrawn Run.literal fun _ _ => Uuid.numbered 1) households (.leaf (.plain 0 "id" "!$" "0")) =
        .ok q ∧
      p.holds stray = true ∧
      @holds (Run.redrawn Run.literal fun _ _ => Uuid.numbered 1) q stray = true := by
  refine ⟨_, _, rfl, rfl, ?_, ?_⟩ <;> decide

end Predicate

end FilterLang
