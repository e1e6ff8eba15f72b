import Mathlib
import FilterLang.Proofs.Expr.Plain
import FilterLang.Proofs.Predicate.Compiling
import FilterLang.Proofs.Query.Strictness
import FilterLang.Run.Counting
import FilterLang.Validity

/-!
Validity of filters. Where unmapped fields are not ignored, a filter is valid exactly if it compiles or the program
stops at one of its literals, and where they are ignored that comes to the same.
-/

namespace FilterLang

open Outcome Mapper

theorem Mapper.acceptsLeaf_iff (m : Mapper) (l : Leaf) : m.acceptsLeaf l = true ↔ m.Settles l := by
  have hname : m.get? l.field.trim = m.get? (fieldName l) := rfl
  rw [acceptsLeaf, hname, Settles]
  cases m.get? (fieldName l) with
  | none => simp
  | some f => simp [and_comm]

section Runs

variable [Run]

/-- The program stops at a leaf of the filter. -/
def Mapper.StopsOn (m : Mapper) (t : Text) : Prop :=
  ∃ e, Expr.read m.registry m.settings.maxDepth.toNat t = .ok e ∧ ∃ l ∈ e.leaves, m.StopsAt l

theorem Mapper.fault?_strict_cases {m : Mapper} {l : Leaf} (h : m.acceptsLeaf l = true) :
    m.StopsAt l ∧ m.strict.fault? l = some .stopped ∨ ¬ m.StopsAt l ∧ m.strict.fault? l = none := by
  unfold fault?
  rcases plan_strict_cases ((acceptsLeaf_iff m l).1 h) with ⟨hstops, hplan⟩ | ⟨hgoes, plan, hplan⟩
  · exact .inl ⟨hstops, by rw [hplan]⟩
  · exact .inr ⟨hgoes, by rw [hplan]⟩

theorem Mapper.acceptsLeaf_of_not_fault {m : Mapper} {l : Leaf} (h : m.strict.fault? l = none) :
    m.acceptsLeaf l = true ∧ ¬ m.StopsAt l := by
  have hplan : ∃ plan, m.strict.plan 0 l = .ok plan := by
    unfold fault? at h
    cases hplan : m.strict.plan 0 l with
    | error fault => rw [hplan] at h; cases h
    | ok plan => exact ⟨plan, rfl⟩
  have hsettled := (exists_plan_strict_iff m l).1 hplan
  exact ⟨(acceptsLeaf_iff m l).2 hsettled.1, hsettled.2⟩

namespace Predicate

variable {m : Mapper} {e : Expr}

theorem exists_ofExpr_strict_iff : (∃ p, ofExpr m.strict e = .ok p) ↔
    e.leaves.all m.acceptsLeaf = true ∧ ∀ l ∈ e.leaves, ¬ m.StopsAt l := by
  constructor
  · rintro ⟨p, hp⟩
    rw [ofExpr_eq] at hp
    obtain ⟨compiled, hbuilt, _⟩ := map_eq_ok_iff.1 hp
    have hsettled := fun l hl => acceptsLeaf_of_not_fault (not_fault_of_built hbuilt l hl)
    exact ⟨List.all_eq_true.2 fun l hl => (hsettled l hl).1, fun l hl => (hsettled l hl).2⟩
  · rintro ⟨hvalid, hgoes⟩
    have hfault : ∀ l ∈ e.leaves, m.strict.fault? l = none := fun l hl =>
      ((fault?_strict_cases (List.all_eq_true.1 hvalid l hl)).resolve_left fun h => hgoes l hl h.1).2
    obtain ⟨compiled, hbuilt, _⟩ := built_means hfault false 0
    exact ⟨compiled.query, by rw [ofExpr_eq, hbuilt]; rfl⟩

theorem ofExpr_strict (h : e.leaves.all m.acceptsLeaf = true) : ofExpr m.strict e = ofExpr m e := by
  have hmapped : ∀ l ∈ e.leaves, (m.get? (fieldName l)).isSome = true := by
    intro l hl
    obtain ⟨f, hfield, _⟩ := (acceptsLeaf_iff m l).1 (List.all_eq_true.1 h l hl)
    rw [hfield]
    rfl
  rw [ofExpr_eq, ofExpr_eq, target.built_strict hmapped]

/-- Nothing but a stop keeps valid leaves from compiling. -/
theorem ofExpr_strict_of_stopsAt (h : e.leaves.all m.acceptsLeaf = true) {l : Leaf} (hl : l ∈ e.leaves)
    (hstops : m.StopsAt l) : ofExpr m.strict e = .error .stopped := by
  have hfault : m.strict.fault? l = some .stopped :=
    ((fault?_strict_cases (List.all_eq_true.1 h l hl)).resolve_right fun hgoes => hgoes.1 hstops).2
  cases hfound : e.leaves.findSome? m.strict.fault? with
  | none =>
      rw [List.findSome?_eq_none_iff.1 hfound l hl] at hfault
      cases hfault
  | some fault =>
      obtain ⟨first, hfirst, hfirstFault⟩ := List.exists_of_findSome?_eq_some hfound
      obtain rfl : fault = .stopped := by
        rcases fault?_strict_cases (List.all_eq_true.1 h first hfirst) with ⟨_, hsome⟩ | ⟨_, hnone⟩
        · exact Option.some.inj (hfirstFault.symm.trans hsome)
        · rw [hnone] at hfirstFault
          cases hfirstFault
      rw [ofExpr_eq, built_fails hfound]
      rfl

/--
Where unmapped fields are not ignored, a filter compiles exactly if it is valid and the program does not stop at one
of its literals. Whether they are ignored or not, a valid filter then compiles to one predicate, and the program stops
in either case otherwise. It stops only where literals are taken to be universal time and turned to wall time.
-/
theorem acceptsFilter_iff (m : Mapper) (t : Text) :
    ((∃ p, ofText m.strict t = .ok p) ↔ m.acceptsFilter t = true ∧ ¬ m.StopsOn t) ∧
      (m.acceptsFilter t = true → ¬ m.StopsOn t → ∃ p, ofText m t = .ok p ∧ ofText m.strict t = .ok p) ∧
      (m.acceptsFilter t = true → m.StopsOn t →
        ofText m t = .error .stopped ∧ ofText m.strict t = .error .stopped) ∧
      (m.StopsOn t → m.settings.defaultDateTimeKind = some .wall) := by
  have hstrict : ofText m.strict t = if Text.allBlank t then .ok always
      else (Expr.read m.registry m.settings.maxDepth.toNat t).bind (ofExpr m.strict) :=
    ofText_eq m.strict t
  have hwall : m.StopsOn t → m.settings.defaultDateTimeKind = some .wall := by
    rintro ⟨e, _, l, _, hstops⟩
    exact wall_of_stopsAt hstops
  rw [hstrict, ofText_eq m, acceptsFilter]
  cases hblank : Text.allBlank t with
  | true =>
      have hgoes : ¬ m.StopsOn t := by
        rintro ⟨e, hread, _⟩
        rw [Expr.allBlank_of_read hread] at hblank
        cases hblank
      simp [hgoes]
  | false =>
      cases hread : Expr.read m.registry m.settings.maxDepth.toNat t with
      | error fault => simp [Except.bind, StopsOn, hread]
      | ok e =>
          have hstops : m.StopsOn t ↔ ∃ l ∈ e.leaves, m.StopsAt l := by
            simp [StopsOn, hread]
          have hgoes : ¬ m.StopsOn t ↔ ∀ l ∈ e.leaves, ¬ m.StopsAt l := by
            simp [hstops]
          simp only [Bool.false_eq_true, ↓reduceIte, Bool.false_or, Except.bind]
          refine ⟨by rw [exists_ofExpr_strict_iff, hgoes], fun hvalid hno => ?_, fun hvalid hyes => ?_, hwall⟩
          · obtain ⟨p, hp⟩ := exists_ofExpr_strict_iff.2 ⟨hvalid, hgoes.1 hno⟩
            exact ⟨p, by rw [← ofExpr_strict hvalid, hp], hp⟩
          · obtain ⟨l, hl, hstop⟩ := hstops.1 hyes
            have hfault := ofExpr_strict_of_stopsAt hvalid hl hstop
            exact ⟨by rw [← ofExpr_strict hvalid, hfault], hfault⟩

end Predicate

end Runs

namespace Predicate

open scoped Run.Counting

def chores : Mapper where
  fields := [
    { name := "due", path := [.member "due"], type := .date },
    { name := "done", path := [.member "done"], type := .dateTime }]
  settings := { ignoreUnmappedFields := true, defaultDateTimeKind := some .wall }

theorem acceptsFilter_iff_chores :
    ∃ p, ofText chores (Leaf.plainText "due" "<" "soon") = .ok p ∧
      ofText chores.strict (Leaf.plainText "due" "<" "soon") = .ok p := by
  have hnameable : Leaf.Nameable "due" "<" := by decide
  have hread := Expr.read_plainText chores.registry chores.settings.maxDepth.toNat hnameable "soon"
  have hvalid : chores.acceptsFilter (Leaf.plainText "due" "<" "soon") = true := by
    rw [acceptsFilter, hread]
    rfl
  have hgoes : ¬ chores.StopsOn (Leaf.plainText "due" "<" "soon") := by
    rintro ⟨e, he, l, hl, f, op, path, hfield, -, -, hstops⟩
    cases hread.symm.trans he
    cases List.mem_singleton.1 hl
    cases hfield
    rw [stops_of_ne_dateTime (by decide)] at hstops
    cases hstops
  exact (acceptsFilter_iff chores _).2.1 hvalid hgoes

/-- On the first day of the calendar it was the day before in the west. -/
theorem acceptsFilter_stops :
    chores.acceptsFilter "done=-262143-01-01" = true ∧ ofText chores "done=-262143-01-01" = .error .stopped ∧
      ofText chores.strict "done=-262143-01-01" = .error .stopped := by
  have hread : Expr.read chores.registry chores.settings.maxDepth.toNat "done=-262143-01-01" =
      .ok (.leaf (.plain 0 "done" "=" "-262143-01-01")) := by cbv
  have hblank := Expr.allBlank_of_read hread
  refine ⟨?_, ?_, ?_⟩
  · rw [acceptsFilter, hread]
    rfl
  · rw [ofText_of_read hblank hread]
    rfl
  · rw [@ofText_of_read _ chores.strict _ _ hblank hread]
    rfl

end Predicate

end FilterLang
