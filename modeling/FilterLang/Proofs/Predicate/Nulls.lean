import FilterLang.Proofs.Predicate.Meaning

/-!
Values that are not there. A path that breaks off at a hop has no value at its end either, and of a null a
comparison is what its outcome on null says, so guarding the hops of a path changes nothing.
-/

namespace FilterLang

namespace Path

theorem walk?_append (node : Json) (p q : Path) :
    (p ++ q).walk? node = (p.walk? node).bind fun next => q.walk? next := by
  induction p generalizing node with
  | nil => rfl
  | cons s p ih =>
      rw [List.cons_append, walk?, walk?, Option.bind_assoc]
      simp only [ih]

theorem step?_null (s : Segment) : s.step? .null = none := by
  cases s with
  | key bound =>
      cases bound with
      | none => rfl
      | some k => cases hname : k.text? <;> simp [Segment.step?, hname, Json.get?]
  | _ => rfl

theorem resolve?_append_of_none {node : Json} {p q : Path} (hq : q ≠ []) (h : p.resolve? node = none) :
    (p ++ q).resolve? node = none := by
  obtain ⟨s, q, rfl⟩ := List.exists_cons_of_ne_nil hq
  unfold resolve? at h ⊢
  rw [walk?_append]
  cases hwalk : p.walk? node with
  | none => rfl
  | some found =>
      rw [hwalk] at h
      cases found with
      | null => rw [Option.bind_some, walk?, step?_null]; rfl
      | _ => cases h

theorem resolve?_eq_none_of_beginning {p hop : Path} {record : Json} (hbegins : hop <+: p)
    (h : hop.resolve? record = none) : p.resolve? record = none := by
  obtain ⟨rest, rfl⟩ := hbegins
  cases rest with
  | nil => rwa [List.append_nil]
  | cons s rest => exact resolve?_append_of_none (List.cons_ne_nil s rest) h

theorem begins_of_mem_guards {p hop : Path} (h : hop ∈ p.guards) : hop <+: p := by
  fun_induction guards p generalizing hop with
  | case1 => cases h
  | case2 => cases h
  | case3 s rest hrest ih =>
      rcases List.mem_cons.1 h with rfl | hmem
      · exact ⟨rest, rfl⟩
      · obtain ⟨hop', hhop, rfl⟩ := List.mem_map.1 hmem
        exact (List.prefix_cons_inj s).2 (ih hhop)

end Path

namespace Comparison

theorem viewed_null (c : Comparison) : c.viewed .null = .null := by
  unfold viewed
  cases c.operator.isTextual <;> cases c.ignoresCase <;> rfl

theorem related_null {c : Comparison} (hcustom : c.operator.isCustom = false) :
    c.related .null =
      match c.operator with
      | .equality negated => c.value.isNull != negated
      | .ordering _ => false
      | .textual _ negated => negated
      | .custom _ => false := by
  unfold related
  cases hop : c.operator with
  | equality negated => simp [equalValues, Value.isNull, Value.order?]
  | ordering bound => rfl
  | textual relation negated => simp [textsRelated, Value.asText?]
  | custom own =>
      rw [hop] at hcustom
      cases hcustom

/-- Null and the empty text are one state only for equality. -/
def Sound (c : Comparison) : Prop :=
  c.operator.isCustom = false ∧ (c.matchesAbsent = true → c.operator.isEquality = true)

theorem holdsOf_null {c : Comparison} (h : c.Sound) : c.holdsOf .null = c.outcomeOnNull := by
  obtain ⟨hcustom, habsent⟩ := h
  rw [holdsOf, viewed_null, related_null hcustom, outcomeOnNull]
  cases hmatches : c.matchesAbsent with
  | true =>
      have hequality := habsent hmatches
      generalize c.operator = op at hequality ⊢
      cases op with
      | equality negated => cases negated <;> rfl
      | _ => cases hequality
  | false =>
      cases c.operator with
      | equality negated => cases negated <;> simp
      | _ => rfl

variable [Run]

/-- A comparison whose path breaks off is what its outcome on null says. -/
theorem holds_of_broken {c : Comparison} (h : c.Sound) {hop : Path} {record : Json}
    (hbegins : hop <+: c.path) (hnone : hop.resolve? record = none) :
    c.holds record = c.outcomeOnNull := by
  rw [holds, Path.readValue, Path.resolve?_eq_none_of_beginning hbegins hnone, Value.ofNode_none,
    holdsOf_null h]

end Comparison

namespace Mapper

variable [Run]

theorem sound_of_literal? {m : Mapper} {serial : Nat} {f : Field} {op : Operator} {l : Leaf}
    {nested : Bool} {lit : Literal} (hcustom : op.isCustom = false)
    (h : m.literal? serial f op l nested = some lit) (path : Path) :
    (comparisonOf path f op lit).Sound := by
  obtain ⟨value, _, rfl⟩ := Option.map_eq_some_iff.1 h
  refine ⟨hcustom, fun habsent => ?_⟩
  simp only [comparisonOf, Bool.and_eq_true] at habsent
  exact habsent.1.2

theorem guardedHolds_unindexed {settings : Settings} {c : Comparison} (h : c.Sound)
    (record : Json) : guardedHolds settings false c record = c.holds record := by
  have hbroken : ∀ hop ∈ c.path.guards, hop.resolve? record = none →
      c.holds record = c.outcomeOnNull :=
    fun hop hmem => Comparison.holds_of_broken h (Path.begins_of_mem_guards hmem)
  unfold guardedHolds
  cases settings.avoidNullReference with
  | false => rfl
  | true =>
      simp only [Bool.false_eq_true, ↓reduceIte]
      cases houtcome : c.outcomeOnNull with
      | true =>
          cases hany : c.path.guards.any fun hop => (hop.resolve? record).isNone with
          | false => rfl
          | true =>
              obtain ⟨hop, hmem, hnone⟩ := List.any_eq_true.1 hany
              rw [hbroken hop hmem (Option.isNone_iff_eq_none.1 hnone), houtcome]
              rfl
      | false =>
          cases hall : c.path.guards.all fun hop => (hop.resolve? record).isSome with
          | true => rfl
          | false =>
              obtain ⟨hop, hmem, hnone⟩ := List.all_eq_false.1 hall
              rw [hbroken hop hmem (by simpa using hnone), houtcome]
              rfl

end Mapper

end FilterLang
