import FilterLang.Proofs.Query.Building
import FilterLang.Proofs.Query.Planning

/-!
Compiling where unmapped fields are not ignored. It differs from compiling where they are in nothing but
that a leaf on an unmapped field fails.
-/

namespace FilterLang

open Outcome

namespace Mapper

/-- The same mapper, but that unmapped fields are errors. -/
def strict (m : Mapper) : Mapper :=
  { m with settings := { m.settings with ignoreUnmappedFields := false } }

@[simp] theorem get?_strict (m : Mapper) (name : Text) : m.strict.get? name = m.get? name := rfl

variable [Run]

theorem plan_strict {m : Mapper} {l : Leaf} (hmapped : (m.get? (fieldName l)).isSome = true)
    (serial : Nat) : m.strict.plan serial l = m.plan serial l := by
  obtain ⟨f, hfield⟩ := Option.isSome_iff_exists.1 hmapped
  unfold plan
  rw [get?_strict, hfield]
  rfl

theorem exists_bindIndexer_iff (serial : Nat) (f : Field) (indexer : Option Text) :
    (∃ bound, bindIndexer serial f indexer = .ok bound) ↔ indexer.isSome = f.path.hasKeySlot := by
  unfold bindIndexer
  cases indexer with
  | none => cases f.path.hasKeySlot <;> simp
  | some key =>
      cases f.path.hasKeySlot with
      | false => simp
      | true =>
          dsimp only
          split <;> simp

/-- The program stops at the leaf: its literal is a date-time whose wall time lies outside the calendar. -/
def StopsAt (m : Mapper) (l : Leaf) : Prop :=
  ∃ f op path, m.get? (fieldName l) = some f ∧ m.registry.resolve? l.symbol = some op ∧
    bindIndexer 0 f l.indexer = .ok (some path) ∧ m.stops f op l = true

def Settles (m : Mapper) (l : Leaf) : Prop :=
  ∃ f, m.get? (fieldName l) = some f ∧ (m.registry.resolve? l.symbol).isSome = true ∧
    l.indexer.isSome = f.path.hasKeySlot

theorem settles_of_plan_strict {m : Mapper} {l : Leaf} {plan : Plan} (h : m.strict.plan 0 l = .ok plan) :
    m.Settles l := by
  rcases plan_cases h with ⟨hunmapped, _⟩ | ⟨f, op, hfield, hop, hbound⟩
  · have hfault : m.strict.plan 0 l = .error (.mappingNotFound (fieldName l)) := by
      unfold Mapper.plan
      rw [hunmapped]
      rfl
    rw [h] at hfault
    cases hfault
  · refine ⟨f, hfield, Option.isSome_iff_exists.2 ⟨op, hop⟩, (exists_bindIndexer_iff 0 f _).1 ?_⟩
    rcases hbound with ⟨hbound, _⟩ | ⟨path, hbound, _, _⟩
    · exact ⟨none, hbound⟩
    · exact ⟨some path, hbound⟩

theorem plan_strict_cases {m : Mapper} {l : Leaf} (h : m.Settles l) :
    m.StopsAt l ∧ m.strict.plan 0 l = .error .stopped ∨
      ¬ m.StopsAt l ∧ ∃ plan, m.strict.plan 0 l = .ok plan := by
  obtain ⟨f, hfield, hop, hindexer⟩ := h
  obtain ⟨op, hop⟩ := Option.isSome_iff_exists.1 hop
  obtain ⟨bound, hbound⟩ := (exists_bindIndexer_iff 0 f l.indexer).2 hindexer
  have hthere : ∀ {f' op' path}, m.get? (fieldName l) = some f' → m.registry.resolve? l.symbol = some op' →
      bindIndexer 0 f' l.indexer = .ok (some path) → f' = f ∧ op' = op ∧ bound = some path := by
    intro f' op' path hfield' hop' hbound'
    rw [hfield] at hfield'
    rw [hop] at hop'
    cases hfield'
    cases hop'
    rw [hbound] at hbound'
    exact ⟨rfl, rfl, Except.ok.inj hbound'⟩
  cases bound with
  | none =>
      refine .inr ⟨?_, _, plan_of_no_key hfield hop hbound⟩
      rintro ⟨f', op', path, hfield', hop', hbound', _⟩
      obtain ⟨_, _, hnone⟩ := hthere hfield' hop' hbound'
      cases hnone
  | some path =>
      cases hstops : m.stops f op l with
      | true =>
          exact .inl ⟨⟨f, op, path, hfield, hop, hbound, hstops⟩, plan_of_stops hfield hop hbound hstops⟩
      | false =>
          refine .inr ⟨?_, _, plan_of_bound hfield hop hbound hstops⟩
          rintro ⟨f', op', path', hfield', hop', hbound', hstops'⟩
          obtain ⟨rfl, rfl, _⟩ := hthere hfield' hop' hbound'
          rw [hstops] at hstops'
          cases hstops'

theorem exists_plan_strict_iff (m : Mapper) (l : Leaf) :
    (∃ plan, m.strict.plan 0 l = .ok plan) ↔ m.Settles l ∧ ¬ m.StopsAt l := by
  constructor
  · rintro ⟨plan, hplan⟩
    have hsettles := settles_of_plan_strict hplan
    rcases plan_strict_cases hsettles with ⟨_, hfault⟩ | ⟨hgoes, _⟩
    · rw [hplan] at hfault
      cases hfault
    · exact ⟨hsettles, hgoes⟩
  · rintro ⟨hsettles, hgoes⟩
    rcases plan_strict_cases hsettles with ⟨hstops, _⟩ | ⟨_, hplan⟩
    · exact absurd hstops hgoes
    · exact hplan

theorem wall_of_stopsAt {m : Mapper} {l : Leaf} (h : m.StopsAt l) :
    m.settings.defaultDateTimeKind = some .wall := by
  obtain ⟨f, op, _, _, _, _, hstops⟩ := h
  unfold stops at hstops
  split at hstops
  · simp only [Value.overflows, DateTime.overflows, Bool.and_eq_true, Option.any_eq_true] at hstops
    obtain ⟨_, _, _, t, _, hnone⟩ := hstops
    cases hkind : m.settings.defaultDateTimeKind with
    | none => simp [hkind, DateTime.normalise?] at hnone
    | some kind => cases kind <;> simp_all [DateTime.normalise?]
  · cases hstops

end Mapper

/-- Where every leaf is mapped, an expression compiles alike, whatever the target. -/
theorem Target.built_strict [Run] {Q : Type} (target : Target Id Q) {m : Mapper} {e : Expr}
    (hmapped : ∀ l ∈ e.leaves, (m.get? (Mapper.fieldName l)).isSome = true) (inParens : Bool)
    (serial : Nat) : target.built m.strict inParens serial e = target.built m inParens serial e := by
  induction e generalizing inParens serial with
  | leaf l => rw [built_leaf, built_leaf, Mapper.plan_strict (hmapped l List.mem_cons_self)]
  | binary left connective right ihLeft ihRight =>
      have hleft := ihLeft (fun l hl => hmapped l (List.mem_append_left _ hl)) false serial
      have hright := ihRight (fun l hl => hmapped l (List.mem_append_right _ hl)) false
        (serial + left.leafCount)
      rw [built_binary, built_binary, hleft, hright]
  | paren inner ih => exact ih hmapped true serial

end FilterLang
