import FilterLang.Proofs.Predicate.Parentheses
import FilterLang.Proofs.Predicate.Rebuilding

/-!
Conjunctions without their unmapped leaves. Where unmapped fields are ignored such a leaf holds of every
record, but it stands between its neighbours: without it, two conditions on elements of one collection can
come to stand alone in parentheses, which merges them. Nothing else changes.
-/

namespace FilterLang

open Outcome Mapper

namespace Expr

def isConjunctive : Expr → Bool
  | leaf _ => true
  | binary left connective right => connective == .and && left.isConjunctive && right.isConjunctive
  | paren inner => inner.isConjunctive

theorem isConjunctive_binary {left right : Expr} {connective : Connective} :
    (binary left connective right).isConjunctive = true ↔
      connective = .and ∧ left.isConjunctive = true ∧ right.isConjunctive = true := by
  simp [isConjunctive, and_assoc]

/-- What is left of an expression with some of its leaves. A connective that loses a side gives way to
the other one, and parentheses that lose all go too. -/
def restricted (keep : Leaf → Bool) : Expr → Option Expr
  | leaf l => if keep l then some (leaf l) else none
  | binary left connective right =>
    Option.merge (binary · connective ·) (left.restricted keep) (right.restricted keep)
  | paren inner => (inner.restricted keep).map paren

variable {keep : Leaf → Bool} {e : Expr}

theorem restricted_of_all (h : ∀ l ∈ e.leaves, keep l = true) : e.restricted keep = some e := by
  induction e with
  | leaf l => exact if_pos (h l List.mem_cons_self)
  | binary left connective right ihLeft ihRight =>
      rw [restricted, ihLeft fun l hl => h l (List.mem_append_left _ hl),
        ihRight fun l hl => h l (List.mem_append_right _ hl)]
      rfl
  | paren inner ih => rw [restricted, ih h, Option.map_some]

theorem restricted_eq_none_iff : e.restricted keep = none ↔ ∀ l ∈ e.leaves, keep l = false := by
  induction e with
  | leaf l => simp [restricted, leaves]
  | binary left connective right ihLeft ihRight =>
      simp only [restricted, Option.merge_eq_none_iff, ihLeft, ihRight, leaves, List.forall_mem_append]
  | paren inner ih => simp only [restricted, Option.map_eq_none_iff, ih, leaves]

theorem leaves_restricted (keep : Leaf → Bool) (e : Expr) :
    (e.restricted keep).elim [] leaves = e.leaves.filter keep := by
  induction e with
  | leaf l =>
      rw [restricted, leaves]
      cases hl : keep l <;> simp [hl, leaves]
  | binary left connective right ihLeft ihRight =>
      rw [leaves, List.filter_append, ← ihLeft, ← ihRight, restricted]
      cases left.restricted keep <;> cases right.restricted keep <;> simp [leaves]
  | paren inner ih =>
      rw [leaves, ← ih, restricted]
      cases inner.restricted keep <;> rfl

def kept (keep : Leaf → Bool) (e : Expr) (serial serial' : Nat) : List ((Leaf × Nat) × Nat) :=
  ((e.leaves.zipIdx serial).filter fun place => keep place.1).zipIdx serial'

theorem length_filter_zipIdx (keep : Leaf → Bool) (leaves : List Leaf) (serial : Nat) :
    ((leaves.zipIdx serial).filter fun place => keep place.1).length = (leaves.filter keep).length := by
  have hleaves := congrArg (List.filter keep) (List.zipIdx_map_fst serial leaves)
  rw [List.filter_map] at hleaves
  rw [← hleaves, List.length_map]
  rfl

theorem kept_binary (keep : Leaf → Bool) (left right : Expr) (connective : Connective) (serial serial' : Nat) :
    (binary left connective right).kept keep serial serial' = left.kept keep serial serial' ++
      right.kept keep (serial + left.leafCount) (serial' + (left.leaves.filter keep).length) := by
  rw [kept, leaves, List.zipIdx_append, List.filter_append, List.zipIdx_append, length_filter_zipIdx, length_leaves]
  rfl

theorem kept_of_all (h : ∀ l ∈ e.leaves, keep l = true) (serial serial' : Nat) :
    e.kept keep serial serial' = e.places serial serial' := by
  rw [kept, places, List.filter_eq_self.2 fun place hplace => h place.1 (List.fst_mem_of_mem_zipIdx hplace)]

end Expr

def Mapper.maps (m : Mapper) (l : Leaf) : Bool := m.contains (fieldName l)

namespace Predicate

section Runs

variable [Run] {m : Mapper} {e : Expr} {inParens : Bool} {serial : Nat} {compiled : Compiled Predicate}

theorem eq_always_of_unmapped {l : Leaf} (hl : m.maps l = false)
    (h : target.built m inParens serial (.leaf l) = .ok compiled) : compiled = ⟨always, false⟩ := by
  rw [Target.built_leaf] at h
  obtain ⟨plan, hplan, hrealized⟩ := bind_eq_ok_iff.1 h
  rcases plan_cases hplan with ⟨_, rfl⟩ | ⟨f, op, hfield, _⟩
  · cases hrealized
    rfl
  · rw [Mapper.maps, Mapper.contains, hfield] at hl
    cases hl

omit [Run] in
theorem nested_of_merges {connective : Connective} {left right : Compiled Predicate}
    (h : (merge? connective left right).isSome = true) : left.nested = true ∧ right.nested = true := by
  obtain ⟨query, hquery⟩ := Option.isSome_iff_exists.1 h
  obtain ⟨_, _, _, _, _, _, rfl, rfl, _⟩ := merge?_eq_some hquery
  exact ⟨rfl, rfl⟩

theorem maps_of_nested (h : target.built m inParens serial e = .ok compiled)
    (hnested : compiled.nested = true) : ∀ l ∈ e.leaves, m.maps l = true := by
  induction e generalizing inParens serial compiled with
  | leaf l =>
      cases hl : m.maps l with
      | true => exact List.forall_mem_singleton.2 hl
      | false =>
          cases eq_always_of_unmapped hl h
          cases hnested
  | binary left connective right ihLeft ihRight =>
      rw [Target.built_binary] at h
      obtain ⟨l, hl, h⟩ := bind_eq_ok_iff.1 h
      obtain ⟨r, hr, rfl⟩ := map_eq_ok_iff.1 h
      cases hmerged : inParens && (merge? connective l r).isSome with
      | false =>
          rw [Target.join_of_not_merged hmerged] at hnested
          cases hnested
      | true =>
          obtain ⟨hleft, hright⟩ := nested_of_merges (Bool.and_eq_true_iff.1 hmerged).2
          exact List.forall_mem_append.2 ⟨ihLeft hl hleft, ihRight hr hright⟩
  | paren inner ih => exact ih h hnested

theorem maps_of_merges {left right : Expr} {l r : Compiled Predicate} {serial' : Nat}
    (hl : target.built m false serial left = .ok l) (hr : target.built m false serial' right = .ok r)
    {connective : Connective} (h : (merge? connective l r).isSome = true) :
    ∀ l ∈ (Expr.binary left connective right).leaves, m.maps l = true := by
  obtain ⟨hleft, hright⟩ := nested_of_merges h
  exact List.forall_mem_append.2 ⟨maps_of_nested hl hleft, maps_of_nested hr hright⟩

theorem built_unmapped (hconj : e.isConjunctive = true) (hunmapped : ∀ l ∈ e.leaves, m.maps l = false)
    (h : target.built m inParens serial e = .ok compiled) :
    compiled.nested = false ∧ (∀ record, compiled.query.holds record = true) ∧
      target.mergedConnectives m inParens serial e = [] := by
  induction e generalizing inParens serial compiled with
  | leaf l =>
      cases eq_always_of_unmapped (hunmapped l List.mem_cons_self) h
      exact ⟨rfl, fun _ => rfl, rfl⟩
  | binary left connective right ihLeft ihRight =>
      rw [Target.built_binary] at h
      obtain ⟨l, hl, h⟩ := bind_eq_ok_iff.1 h
      obtain ⟨r, hr, rfl⟩ := map_eq_ok_iff.1 h
      obtain ⟨rfl, hconjLeft, hconjRight⟩ := Expr.isConjunctive_binary.1 hconj
      obtain ⟨hunmappedLeft, hunmappedRight⟩ := List.forall_mem_append.1 hunmapped
      obtain ⟨hflat, hleft, hmergedLeft⟩ := ihLeft hconjLeft hunmappedLeft hl
      obtain ⟨_, hright, hmergedRight⟩ := ihRight hconjRight hunmappedRight hr
      have hmerge : (target.merge .and l r : Option Predicate) = none :=
        merge?_of_not_nested (by rw [hflat, Bool.false_and])
      rw [Target.join_eq_of_unmerged hmerge]
      refine ⟨rfl, fun record => ?_, ?_⟩
      · exact Bool.and_eq_true_iff.2 ⟨hleft record, hright record⟩
      · rw [Target.mergedConnectives_of_not_merged hl hr (by rw [hmerge]; exact Bool.and_false _),
          hmergedLeft, hmergedRight, List.append_nil]
  | paren inner ih => exact ih hconj hunmapped h

/-- A part and what is left of it. What is left merges as much or more, and where it merges no more it holds
of the same of these records. -/
structure Narrows (m : Mapper) (among : Json → Prop) (merged merged' : List Connective) (before after : Json → Bool) :
    Prop where
  merges : merged.length ≤ merged'.length
  same : merged'.length ≤ merged.length → ∀ record, among record → before record = after record
  narrower : m.KeylessCollections → ∀ record, among record → after record = true → before record = true

namespace Narrows

variable {among among' : Json → Prop} {merged merged' more more' : List Connective}
  {before after left right left' right' : Json → Bool}

omit [Run] in
theorem of_same (h : ∀ record, among record → before record = after record) :
    Narrows m among merged merged before after :=
  ⟨Nat.le_refl _, fun _ => h, fun _ record hrecord hafter => by rwa [h record hrecord]⟩

omit [Run] in
theorem congr {whole : Json → Bool} (h : Narrows m among merged merged' before after)
    (hamong : ∀ record, among' record → among record) (hholds : ∀ record, whole record = before record) :
    Narrows m among' merged merged' whole after :=
  ⟨h.merges, fun hno record hrecord => (hholds record).trans (h.same hno record (hamong record hrecord)),
    fun hkeys record hrecord hafter => (hholds record).trans (h.narrower hkeys record (hamong record hrecord) hafter)⟩

theorem join {l' r' : Compiled Predicate} (hleft : Narrows m among merged merged' left l'.query.holds)
    (hright : Narrows m among' more more' right r'.query.holds) (hkeyless : m.KeylessCollections → Keyless l')
    (inParens : Bool) :
    Narrows m (fun record => among record ∧ among' record) (merged ++ more)
      (merged' ++ more' ++ if inParens && (merge? .and l' r').isSome then [Connective.and] else [])
      (fun record => Connective.apply .and (left record) (right record))
      (target.join inParens .and l' r').query.holds := by
  have hmerges := hleft.merges
  have hmore := hright.merges
  refine ⟨?_, fun hno record hrecord => ?_, fun hkeys record hrecord hrest => ?_⟩
  · simp only [List.length_append]
    omega
  · cases hmerged : inParens && (merge? .and l' r').isSome with
    | true =>
        simp only [hmerged, ↓reduceIte, List.length_append, List.length_singleton] at hno
        omega
    | false =>
        simp only [hmerged, Bool.false_eq_true, ↓reduceIte, List.length_append, List.length_nil] at hno
        rw [Target.join_of_not_merged hmerged, hleft.same (by omega) record hrecord.1,
          hright.same (by omega) record hrecord.2]
        exact (holds_combine .and l'.query r'.query record).symm
  · exact apply_mono (hleft.narrower hkeys record hrecord.1) (hright.narrower hkeys record hrecord.2)
      (join_holds_imp (hkeyless hkeys) hrest)

end Narrows

variable {literal : Nat → Uuid} {compared : Comparison → Json → Uuid}

/-- What is left of a part may stand in parentheses where the part did not, and behind fewer leaves. -/
theorem built_restricted {d : Expr} (hconj : e.isConjunctive = true) (hd : e.restricted m.maps = some d)
    {inParens' : Bool} (hparens : inParens = true → inParens' = true) {serial' : Nat}
    (hshares : SharesAlike literal compared m (e.kept m.maps serial serial'))
    (h : target.built m inParens serial e = .ok compiled) :
    ∃ rest, @Target.built _ (Run.redrawn literal compared) target m inParens' serial' d = .ok rest ∧
      Narrows m (ToldWithin literal compared m (e.kept m.maps serial serial'))
        (target.mergedConnectives m inParens serial e)
        (@Target.mergedConnectives (Run.redrawn literal compared) _ target m inParens' serial' d)
        compiled.query.holds (@holds (Run.redrawn literal compared) rest.query) := by
  induction e generalizing d inParens inParens' serial serial' compiled with
  | leaf l =>
      rw [Expr.restricted] at hd
      split at hd <;> cases hd
      rename_i hkept
      rw [Expr.kept_of_all (fun _ h => List.mem_singleton.1 h ▸ hkept)] at hshares ⊢
      obtain ⟨rest, hrest, hsame, _⟩ := built_redrawn hshares h
      exact ⟨rest, hrest, .of_same hsame⟩
  | paren inner ih =>
      rw [Expr.restricted] at hd
      obtain ⟨d, hinner, rfl⟩ := Option.map_eq_some_iff.1 hd
      exact ih hconj hinner (fun _ => rfl) hshares h
  | binary left connective right ihLeft ihRight =>
      have hbuilt := h
      rw [Target.built_binary] at hbuilt
      obtain ⟨l, hl, hbuilt⟩ := bind_eq_ok_iff.1 hbuilt
      obtain ⟨r, hr, rfl⟩ := map_eq_ok_iff.1 hbuilt
      obtain ⟨rfl, hconjLeft, hconjRight⟩ := Expr.isConjunctive_binary.1 hconj
      have hbare : ∀ b : Bool, false = true → b = true := fun _ => nofun
      cases hmerged : inParens && (target.merge .and l r : Option Predicate).isSome with
      | true =>
          obtain ⟨rfl, hmerges⟩ := Bool.and_eq_true_iff.1 hmerged
          cases hparens rfl
          -- A pair that is merged has all its leaves.
          have hwhole := maps_of_merges hl hr hmerges
          rw [Expr.restricted_of_all hwhole] at hd
          cases hd
          rw [Expr.kept_of_all hwhole] at hshares ⊢
          obtain ⟨rest, hrest, hsame, hmergedSame⟩ := built_redrawn hshares h
          exact ⟨rest, hrest, by rw [← hmergedSame]; exact .of_same hsame⟩
      | false =>
          rw [Target.mergedConnectives_of_not_merged hl hr hmerged, Target.join_of_not_merged hmerged]
          have hholds := holds_combine .and l.query r.query
          have hleaves := Expr.leaves_restricted m.maps left
          rw [Expr.kept_binary] at hshares ⊢
          have hsharesLeft := hshares.mono (List.subset_append_left _ _)
          have hsharesRight := hshares.mono (List.subset_append_right _ _)
          rw [Expr.restricted] at hd
          cases hdl : left.restricted m.maps with
          | none =>
              rw [hdl, Option.merge_none_left] at hd
              obtain ⟨_, hleft, hmergedLeft⟩ := built_unmapped hconjLeft (Expr.restricted_eq_none_iff.1 hdl) hl
              rw [hdl] at hleaves
              rw [← hleaves] at hsharesRight ⊢
              obtain ⟨rest, hrest, hnarrows⟩ := ihRight hconjRight hd (hbare inParens') hsharesRight hr
              rw [hmergedLeft, List.nil_append]
              refine ⟨rest, hrest, hnarrows.congr (fun _ h => h.of_append.2) fun record => (hholds record).trans ?_⟩
              rw [hleft]
              exact Bool.true_and _
          | some dl =>
              cases hdr : right.restricted m.maps with
              | none =>
                  rw [hdl, hdr, Option.merge_none_right] at hd
                  cases hd
                  obtain ⟨_, hright, hmergedRight⟩ :=
                    built_unmapped hconjRight (Expr.restricted_eq_none_iff.1 hdr) hr
                  obtain ⟨rest, hrest, hnarrows⟩ := ihLeft hconjLeft hdl (hbare inParens') hsharesLeft hl
                  rw [hmergedRight, List.append_nil]
                  refine ⟨rest, hrest, hnarrows.congr (fun _ h => h.of_append.1) fun record => (hholds record).trans ?_⟩
                  rw [hright]
                  exact Bool.and_true _
              | some dr =>
                  rw [hdl, hdr] at hd
                  cases hd
                  have hcount : (left.leaves.filter m.maps).length = dl.leafCount := by
                    rw [hdl] at hleaves
                    rw [← hleaves, ← Expr.length_leaves]
                    rfl
                  rw [hcount] at hsharesRight ⊢
                  obtain ⟨l', hl', hnarrowsLeft⟩ := ihLeft hconjLeft hdl (hbare false) hsharesLeft hl
                  obtain ⟨r', hr', hnarrowsRight⟩ := ihRight hconjRight hdr (hbare false) hsharesRight hr
                  refine ⟨@Target.join _ target inParens' .and l' r', ?_, ?_⟩
                  · rw [@Target.built_binary _ (Run.redrawn literal compared), hl', hr']
                    rfl
                  · rw [@Target.mergedConnectives_binary (Run.redrawn literal compared) _ _ _ _ _ _ _ _ _ _ hl' hr']
                    have hkeyless := fun hkeys => @keyless_built (Run.redrawn literal compared) m hkeys _ _ _ _ hl'
                    have hjoined := @Narrows.join (Run.redrawn literal compared) _ _ _ _ _ _ _ _ _ _ _
                      hnarrowsLeft hnarrowsRight hkeyless inParens'
                    exact hjoined.congr (fun _ h => h.of_append) hholds

/--
A conjunction that compiles and has a mapped leaf compiles too without its unmapped ones, in another run, where
other identifiers are drawn. Where no more conditions are merged then than before, it selects the same of the records
that do not tell what is drawn apart. Where more are, it selects none of these that was not selected before, if no map
is looked into on the way to a collection.
-/
theorem ofExpr_restricted (hconj : e.isConjunctive = true)
    (hshares : SharesAlike literal compared m (e.kept m.maps 0 0)) (hmapped : ∃ l ∈ e.leaves, m.maps l = true)
    {p : Predicate} (h : ofExpr m e = .ok p) :
    ∃ d q, e.restricted m.maps = some d ∧ d.leaves = e.leaves.filter m.maps ∧
      @ofExpr (Run.redrawn literal compared) m d = .ok q ∧
      ((@Target.mergedConnectives (Run.redrawn literal compared) _ target m false 0 d).length ≤
          (target.mergedConnectives m false 0 e).length →
        ∀ record, ToldWithin literal compared m (e.kept m.maps 0 0) record →
          p.holds record = @holds (Run.redrawn literal compared) q record) ∧
      (m.KeylessCollections → ∀ record, ToldWithin literal compared m (e.kept m.maps 0 0) record →
        @holds (Run.redrawn literal compared) q record = true → p.holds record = true) := by
  obtain ⟨d, hd⟩ : ∃ d, e.restricted m.maps = some d := by
    obtain ⟨l, hl, hmaps⟩ := hmapped
    refine Option.ne_none_iff_exists'.1 fun hnone => ?_
    rw [Expr.restricted_eq_none_iff.1 hnone l hl] at hmaps
    cases hmaps
  rw [ofExpr_eq] at h
  obtain ⟨compiled, hbuilt, rfl⟩ := map_eq_ok_iff.1 h
  obtain ⟨rest, hrest, hnarrows⟩ := built_restricted hconj hd id hshares hbuilt
  have hleaves := Expr.leaves_restricted m.maps e
  rw [hd] at hleaves
  refine ⟨d, rest.query, hd, hleaves, ?_, hnarrows.same, hnarrows.narrower⟩
  rw [@ofExpr_eq (Run.redrawn literal compared), hrest]
  rfl

end Runs

open scoped Run.Counting

def parents : Mapper where
  fields := [
    { name := "child", path := [.member "children", .each, .member "name"], type := .text },
    { name := "age", path := [.member "children", .each, .member "age"], type := .int },
    { name := "id", path := [.member "id"], type := .uuid }]
  settings := { ignoreUnmappedFields := true }

def equal (field value : Text) : Expr := .leaf ⟨field, none, false, 0, "=", 0, value, false⟩

def childAndChild : Expr :=
  .binary (.paren (.binary (equal "child" "Jane") .and (equal "age" "7"))) .and
    (.paren (.binary (equal "pet" "cat") .and (equal "child" "Sam")))

theorem ofExpr_restricted_childAndChild :
    ∃ d p q, childAndChild.restricted parents.maps = some d ∧ ofExpr parents childAndChild = .ok p ∧
      ofExpr parents d = .ok q ∧ ∀ record, p.holds record = q.holds record := by
  obtain ⟨p, hp⟩ : ∃ p, ofExpr parents childAndChild = .ok p := ⟨_, rfl⟩
  have hplaces : ∀ l n n', ((l, n), n') ∈ childAndChild.kept parents.maps 0 0 →
      ∀ f, parents.get? (fieldName l) = some f → f.drawsKey l.indexer = false ∧ f.type ≠ .uuid := by
    intro l n n' hl
    have hall : ∀ place ∈ childAndChild.kept parents.maps 0 0, ∀ f ∈ parents.get? (fieldName place.1.1),
      f.drawsKey place.1.1.indexer = false ∧ f.type ≠ .uuid := by decide
    exact hall _ hl
  have hshares : SharesAlike Run.literal Run.compared parents (childAndChild.kept parents.maps 0 0) :=
    sharesAlike_of_given fun l n n' hl f hf => (hplaces l n n' hl f hf).1
  obtain ⟨d, q, hd, -, hq, hsame, -⟩ := ofExpr_restricted rfl hshares ⟨_, List.mem_cons_self, rfl⟩ hp
  cases hd
  refine ⟨_, p, q, rfl, hp, hq, fun record => hsame (by decide) record fun l n n' hl => ?_⟩
  exact l.toldWithin_of_ne_uuid (fun f hf => (hplaces l n n' hl f hf).1) (fun f hf => (hplaces l n n' hl f hf).2)
    n n' record

/-- Three conditions in parentheses, the first of which is unmapped: the two others are not merged. And two conditions
the first of which is unmapped, where the other run draws a later identifier for the second one. -/
theorem ofExpr_restricted_merges :
    (∃ d p q, (Expr.paren (.binary (.binary (equal "pet" "cat") .and (equal "child" "Jane")) .and
        (equal "child" "Sam"))).restricted parents.maps = some d ∧
      ofExpr parents (.paren (.binary (.binary (equal "pet" "cat") .and (equal "child" "Jane")) .and
        (equal "child" "Sam"))) = .ok p ∧
      ofExpr parents d = .ok q ∧
      ∃ record, p.holds record = true ∧ q.holds record = false) ∧
    ∃ d p q, (Expr.binary (equal "pet" "cat") .and (.leaf ⟨"id", none, false, 0, ">", 0, "abc", false⟩)).restricted
        parents.maps = some d ∧
      ofExpr parents (.binary (equal "pet" "cat") .and (.leaf ⟨"id", none, false, 0, ">", 0, "abc", false⟩)) = .ok p ∧
      @ofExpr (Run.redrawn (fun serial => Uuid.numbered (serial + 7)) Run.compared) parents d = .ok q ∧
      ∃ record, p.holds record = true ∧
        @holds (Run.redrawn (fun serial => Uuid.numbered (serial + 7)) Run.compared) q record = false := by
  refine ⟨⟨_, _, _, rfl, rfl, rfl, .object [("children", .array [.object [("name", .string "Jane")],
    .object [("name", .string "Sam")]])], ?_, ?_⟩, ⟨_, _, _, rfl, rfl, rfl,
    .object [("id", .string "01900000-0000-7000-8000-000000000005")], ?_, ?_⟩⟩ <;> decide

end Predicate

end FilterLang
