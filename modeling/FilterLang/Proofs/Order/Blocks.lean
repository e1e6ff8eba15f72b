import FilterLang.Proofs.Order.Naming
import FilterLang.Proofs.Order.Stability
import FilterLang.Proofs.Predicate.Selection

/-!
Ranges and sorting. Sorted by a field of its own, records fall into four blocks at every literal: those without a
value, and those with a value less than it, equal to it and more than it. Filters select these blocks.
-/

namespace FilterLang

open Mapper

namespace Operator

/-- How a value may stand to the literal, for an operator that goes by their order alone. -/
def byOrder? : Operator → Option (Ordering → Bool)
  | equality false => some (· == .eq)
  | ordering bound => some bound.accepts
  | _ => none

variable {op : Operator} {accepts : Ordering → Bool}

theorem not_custom_of_byOrder? (h : op.byOrder? = some accepts) : op.isCustom = false := by
  cases op with
  | custom own => cases h
  | _ => rfl

theorem not_textual_of_byOrder? (h : op.byOrder? = some accepts) : op.isTextual = false := by
  cases op with
  | textual relation negated => cases h
  | _ => rfl

end Operator

section Runs

variable [Run]

theorem Comparison.holds_byOrder {c : Comparison} {accepts : Ordering → Bool}
    (hop : c.operator.byOrder? = some accepts) (hcase : c.ignoresCase = false) (habsent : c.matchesAbsent = false)
    (hnull : c.value.isNull = false) (record : Json) :
    c.holds record = ((c.path.readValue (Run.compared c record) record c.type).order? c.value).any accepts := by
  have hviewed : ∀ v, c.viewed v = v := by
    intro v
    rw [viewed, Operator.not_textual_of_byOrder? hop, hcase]
    rfl
  rw [holds, holdsOf, habsent, hviewed]
  generalize c.path.readValue (Run.compared c record) record c.type = v
  rw [related]
  generalize c.operator = op at hop ⊢
  rcases op with negated | bound | ⟨relation, negated⟩ | own
  · cases negated with
    | true => cases hop
    | false =>
        cases hop
        simp only [equalValues, hnull, Bool.and_false, Bool.false_or]
        cases v.order? c.value with
        | none => rfl
        | some o => cases o <;> rfl
  · cases hop
    rfl
  · cases hop
  · cases hop

def SortKey.stands (f : Field) (w : Value) (accepts : Ordering → Bool) (record : Json) : Bool :=
  !decide ((ofField f).Lacks record) && accepts (((ofField f).valueOf .nil record).sortOrder w)

theorem SortKey.stands_or {accepts accepts₁ accepts₂ : Ordering → Bool}
    (h : ∀ o, accepts o = (accepts₁ o || accepts₂ o)) (f : Field) (w : Value) (record : Json) :
    stands f w accepts record = (stands f w accepts₁ record || stands f w accepts₂ record) := by
  rw [stands, h, Bool.and_or_distrib_left]
  rfl

/-- A field and a literal that is compared in the field's own order. -/
structure Mapper.Ranges (m : Mapper) (name : Text) (f : Field) (v : Text) (w : Value) : Prop where
  caseful : m.settings.caseInsensitiveFiltering = false
  name_ne_nil : name ≠ []
  name_chars : ∀ c ∈ name, Token.isFieldChar c = true
  field : m.get? name = some f
  members : ∃ names, f.path = Path.ofNames names
  convertor : f.convertor = none
  not_float : f.type ≠ .float
  not_uuid : f.type ≠ .uuid
  trim : v.trim = v
  ne_nil : v ≠ []
  ne_null : v ≠ "null".toList
  coerced : Value.coerce (valueDraw 0) m.settings.defaultDateTimeKind f.type v = .ok w

namespace Mapper.Ranges

variable {m : Mapper} {name v : Text} {f : Field} {w : Value} (h : m.Ranges name f v w)

include h in
theorem value_type? : w.type? = some f.type := Value.type?_of_coerce h.coerced

include h in
theorem value_ne_null : w ≠ .null := by
  rintro rfl
  cases h.value_type?

include h in
theorem rawLiteral_eq (op : Operator) : rawLiteral m.settings f op v = .text v :=
  rawLiteral_of_not_reserved h.convertor fun hreserved =>
    hreserved.2.elim h.ne_nil fun hnull => h.ne_null hnull.1

include h in
theorem stops_eq (op : Operator) (symbol : Text) : m.stops f op (Leaf.plain 0 name symbol v) = false := by
  simp only [stops, Leaf.plain, h.trim, h.rawLiteral_eq op, Value.overflows_of_coerce h.coerced, Bool.and_false]

include h in
theorem literal?_eq {op : Operator} {accepts : Ordering → Bool} (hop : op.byOrder? = some accepts)
    (symbol : Text) : m.literal? 0 f op (Leaf.plain 0 name symbol v) false = some ⟨w, false, false⟩ := by
  have htyped : typedLiteral? m.settings 0 f op (.text v) = some w := by
    have hcoerced := h.coerced
    by_cases htext : f.type = .text
    · rw [htext] at hcoerced
      cases hcoerced
      simp only [typedLiteral?, htext, decide_true, Bool.true_or, ↓reduceIte]
    · have hempty : v.isEmpty = false := List.isEmpty_eq_false_iff.2 h.ne_nil
      simp only [typedLiteral?, htext, Operator.not_textual_of_byOrder? hop, hempty, hcoerced, decide_false,
        Bool.or_self, Bool.false_and, Bool.false_eq_true, ↓reduceIte]
  have hempty : (Value.text v == .text []) = false := by
    rw [beq_eq_false_iff_ne]
    rintro ⟨⟩
    exact h.ne_nil rfl
  unfold literal?
  simp only [Leaf.plain, h.trim, h.rawLiteral_eq op, htyped, h.caseful, hempty, Option.map_some, Bool.or_self,
    Bool.false_and, Bool.and_false, Bool.false_eq_true, ↓reduceIte]

include h in
/-- A comparison by order selects by how the field's value would be sorted beside the literal. -/
theorem exists_ofText (symbol : Text) {op : Operator} {accepts : Ordering → Bool}
    (hsymbol : Operator.builtIn? symbol = some op) (hop : op.byOrder? = some accepts) :
    ∃ p, Predicate.ofText m (Leaf.plainText name symbol v) = .ok p ∧
      ∀ record, p.holds record = SortKey.stands f w accepts record := by
  obtain ⟨names, hpath⟩ := h.members
  have hname : Leaf.Nameable name symbol := ⟨h.name_ne_nil, h.name_chars, by rw [hsymbol]; rfl⟩
  obtain ⟨p, hp, hholds⟩ := (asksValue_plain hname h.field hpath hsymbol v (h.stops_eq op symbol)).exists_ofExpr
  refine ⟨p, Predicate.ofText_of_ofExpr hp (Expr.read_plainText _ _ hname v), fun record => ?_⟩
  have hliteral := h.literal?_eq hop symbol
  have hsound := sound_of_literal? (Operator.not_custom_of_byOrder? hop) hliteral f.path
  have htype : (f.path.readValue .nil record f.type).OfType f.type := Value.ofType_ofNode _ _ _
  have hread : ∀ drawn, f.path.readValue drawn record f.type = f.path.readValue .nil record f.type :=
    fun drawn => Value.ofNode_draw (fun hstray => h.not_uuid hstray.1) drawn .nil
  rw [hholds, hliteral, Option.any_some, guardedHolds_unindexed hsound,
    Comparison.holds_byOrder hop rfl rfl (Value.isNull_eq_false_iff.2 h.value_ne_null), SortKey.stands,
    ← SortKey.isNull_readValue (SortKey.ofField f) .nil]
  simp only [comparisonOf, SortKey.valueOf, SortKey.ofField, hread]
  rw [Value.order?_eq_sortOrder h.not_float htype (.inr h.value_type?) h.value_ne_null]
  cases (f.path.readValue .nil record f.type).isNull <;> rfl

include h in
theorem ofText_name (hword : Token.wordKind name = .identifier) :
    SortKey.ofText m name = .ok [SortKey.ofField f] := by
  obtain ⟨names, hpath⟩ := h.members
  refine SortKey.ofText_name h.name_ne_nil h.name_chars hword h.field ?_ ?_
  · rw [Field.isNested, hpath]
    exact Path.isNested_ofNames names
  · rw [hpath]
    exact Path.hasKeySlot_ofNames names

end Mapper.Ranges

namespace SortKey

variable {m : Mapper} {name v : Text} {f : Field} {w : Value} {α : Type}

def sortable (f : Field) (hfloat : f.type ≠ .float) (record : Json) : Value.Sortable f.type :=
  have htype := ofType_valueOf (ofField f) .nil record
  ⟨(ofField f).valueOf .nil record, htype, htype.ne_nan hfloat⟩

theorem orderAll_ofField (hfloat : f.type ≠ .float) (huuid : f.type ≠ .uuid) (a b : Json) :
    orderAll [ofField f] a b = (sortable f hfloat a).order (sortable f hfloat b) := by
  have hsteady : (ofField f).Steady := fun _ => ⟨hfloat, huuid⟩
  have horder : orderAll [ofField f] a b = (ofField f).order a b := by
    rw [orderAll]
    cases (ofField f).order a b <;> rfl
  rw [horder, order_of_not_draws (hsteady.ranks a).1 (hsteady.ranks b).1]
  rfl

theorem sort_ofField (hfloat : f.type ≠ .float) (huuid : f.type ≠ .uuid) (record : α → Json) (items : List α) :
    sort [ofField f] record items =
      StableSort.sort (fun x y => (sortable f hfloat (record x)).order (sortable f hfloat (record y)) == .lt)
        items := by
  simp only [sort, orderAll_ofField hfloat huuid]

theorem sort_nulls_first (hfloat : f.type ≠ .float) (huuid : f.type ≠ .uuid) (record : α → Json)
    (items : List α) : sort [ofField f] record items =
      items.filter (fun x => (ofField f).Lacks (record x)) ++
      sort [ofField f] record (items.filter fun x => !decide ((ofField f).Lacks (record x))) := by
  have hnull : ∀ x, (sortable f hfloat (record x)).order .null =
      if decide ((ofField f).Lacks (record x)) then .eq else .gt := by
    intro x
    rw [Value.Sortable.order_null, ← isNull_readValue (ofField f) .nil (record x)]
    rfl
  have hbefore : items.filter (fun x => (sortable f hfloat (record x)).order .null == .lt) = [] :=
    List.filter_eq_nil_iff.2 fun x _ => by
      rw [hnull]
      cases decide ((ofField f).Lacks (record x)) <;> decide
  have hlacking : items.filter (fun x => (sortable f hfloat (record x)).order .null == .eq) =
      items.filter fun x => (ofField f).Lacks (record x) :=
    List.filter_congr fun x _ => by
      rw [hnull]
      cases decide ((ofField f).Lacks (record x)) <;> rfl
  have hafter : items.filter (fun x => (sortable f hfloat (record x)).order .null == .gt) =
      items.filter fun x => !decide ((ofField f).Lacks (record x)) :=
    List.filter_congr fun x _ => by
      rw [hnull]
      cases decide ((ofField f).Lacks (record x)) <;> rfl
  rw [sort_ofField hfloat huuid, sort_ofField hfloat huuid,
    StableSort.sort_eq_cut Value.Sortable.order (fun x => sortable f hfloat (record x)) .null items, hbefore,
    hlacking, hafter]
  rfl

/-- The cuts behind the nulls and at the literal make four blocks. -/
theorem sort_eq_blocks (hfloat : f.type ≠ .float) (huuid : f.type ≠ .uuid) (hw : w.OfType f.type)
    (record : α → Json) (items : List α) : sort [ofField f] record items =
      items.filter (fun x => (ofField f).Lacks (record x)) ++
      sort [ofField f] record (items.filter fun x => stands f w (· == .lt) (record x)) ++
      items.filter (fun x => stands f w (· == .eq) (record x)) ++
      sort [ofField f] record (items.filter fun x => stands f w (· == .gt) (record x)) := by
  have hcut := StableSort.sort_eq_cut Value.Sortable.order (fun x => sortable f hfloat (record x))
    ⟨w, hw, hw.ne_nan hfloat⟩ (items.filter fun x => !decide ((ofField f).Lacks (record x)))
  simp only [List.filter_filter, Bool.and_comm, ← sort_ofField hfloat huuid] at hcut
  rw [sort_nulls_first hfloat huuid, hcut]
  simp only [List.append_assoc]
  rfl

/--
Sorted by a field of its own, which its name asks for unless it is a word for a direction, records come in four
blocks at every literal: those without a value, and those that the filters for less, the same and more select. The
filters for no more and for no less select two blocks each.
-/
theorem sort_blocks (h : m.Ranges name f v w) :
    (Token.wordKind name = .identifier → ofText m name = .ok [ofField f]) ∧
    ∃ less same more noMore noLess,
      (Predicate.ofText m (Leaf.plainText name "<" v) = .ok less ∧
        Predicate.ofText m (Leaf.plainText name "=" v) = .ok same ∧
        Predicate.ofText m (Leaf.plainText name ">" v) = .ok more ∧
        Predicate.ofText m (Leaf.plainText name "<=" v) = .ok noMore ∧
        Predicate.ofText m (Leaf.plainText name ">=" v) = .ok noLess) ∧
      (∀ (record : α → Json) (items : List α),
        sort? [ofField f] record items = some (sort [ofField f] record items)) ∧
      (∀ (record : α → Json) (items : List α), sort [ofField f] record items =
        items.filter (fun x => (ofField f).Lacks (record x)) ++
        sort [ofField f] record (items.filter fun x => less.holds (record x)) ++
        items.filter (fun x => same.holds (record x)) ++
        sort [ofField f] record (items.filter fun x => more.holds (record x))) ∧
      (∀ record, noMore.holds record = (less.holds record || same.holds record)) ∧
      ∀ record, noLess.holds record = (more.holds record || same.holds record) := by
  obtain ⟨less, hless, hlessHolds⟩ := h.exists_ofText "<" rfl rfl
  obtain ⟨same, hsame, hsameHolds⟩ := h.exists_ofText "=" rfl rfl
  obtain ⟨more, hmore, hmoreHolds⟩ := h.exists_ofText ">" rfl rfl
  obtain ⟨noMore, hnoMore, hnoMoreHolds⟩ := h.exists_ofText "<=" rfl rfl
  obtain ⟨noLess, hnoLess, hnoLessHolds⟩ := h.exists_ofText ">=" rfl rfl
  refine ⟨h.ofText_name, less, same, more, noMore, noLess, ⟨hless, hsame, hmore, hnoMore, hnoLess⟩, ?_, ?_, ?_, ?_⟩
  · have hsteady : (ofField f).Steady := fun _ => ⟨h.not_float, h.not_uuid⟩
    intro record items
    refine sort?_eq fun key hkey x _ => ?_
    rw [List.mem_singleton.1 hkey]
    exact hsteady.ranks (record x)
  · intro record items
    rw [sort_eq_blocks h.not_float h.not_uuid (.inr h.value_type?)]
    simp only [hlessHolds, hsameHolds, hmoreHolds]
    rfl
  · intro record
    rw [hnoMoreHolds, hlessHolds, hsameHolds]
    exact stands_or (fun o => by cases o <;> rfl) f w record
  · intro record
    rw [hnoLessHolds, hmoreHolds, hsameHolds]
    exact stands_or (fun o => by cases o <;> rfl) f w record

end SortKey

end Runs

namespace SortKey

open scoped Run.Counting

def born : Field where
  name := "born"
  path := Path.ofNames ["born"]
  type := .date

def club : Mapper where
  fields := [born]

def member : Nat → Json
  | 0 => .object [("born", .string "2001-05-20")]
  | 1 => .object [("born", .string "long ago")]
  | 2 => .object [("born", .string " 2000-01-01 ")]
  | _ => .object [("born", .string "1969-12-31")]

theorem sort_blocks_members :
    (∃ w, club.Ranges "born" born "2000-01-01" w) ∧ ofText club "born" = .ok [ofField born] ∧
    ∃ less same more noMore,
      Predicate.ofText club "born<2000-01-01" = .ok less ∧ Predicate.ofText club "born=2000-01-01" = .ok same ∧
      Predicate.ofText club "born>2000-01-01" = .ok more ∧ Predicate.ofText club "born<=2000-01-01" = .ok noMore ∧
      sort? [ofField born] member [0, 1, 2, 3] = some [1, 3, 2, 0] ∧
      [1, 3, 2, 0] = [1] ++ sort [ofField born] member ([0, 1, 2, 3].filter fun n => less.holds (member n)) ++
        [0, 1, 2, 3].filter (fun n => same.holds (member n)) ++
        sort [ofField born] member ([0, 1, 2, 3].filter fun n => more.holds (member n)) ∧
      noMore.holds (member 2) = (less.holds (member 2) || same.holds (member 2)) := by
  have hranges : club.Ranges "born" born "2000-01-01" (.date ⟨2000, 1, 1, by decide⟩) :=
    ⟨rfl, by decide, List.all_eq_true.1 rfl, rfl, ⟨_, rfl⟩, rfl, by decide, by decide, rfl, by decide, by decide,
      rfl⟩
  obtain ⟨hkey, less, same, more, noMore, noLess, ⟨hless, hsame, hmore, hnoMore, -⟩, hends, hsorted, hunion, -⟩ :=
    sort_blocks (α := Nat) hranges
  have hresult : sort [ofField born] member [0, 1, 2, 3] = [1, 3, 2, 0] := by decide
  have hlacking : [0, 1, 2, 3].filter (fun n => (ofField born).Lacks (member n)) = [1] := by decide
  refine ⟨⟨_, hranges⟩, hkey (by decide), less, same, more, noMore, hless, hsame, hmore, hnoMore, ?_, ?_, hunion _⟩
  · rw [hends, hresult]
  · rw [← hresult, ← hlacking]
    exact hsorted member [0, 1, 2, 3]

end SortKey

end FilterLang
