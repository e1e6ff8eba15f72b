import FilterLang.Proofs.Predicate.Keys
import FilterLang.Proofs.Predicate.Parentheses
import FilterLang.Proofs.Predicate.Rebuilding
import FilterLang.Proofs.Value.Entries
import FilterLang.Run.Counting

/-!
Two conditions on elements behind a map. In parentheses they merge if their keys are found to be the same, which is
not quite if they select one entry: NaN is never found to be the same, and the zeros are, although their texts
differ. Where they merge the second one is asked of the entry of the first.
-/

namespace FilterLang

open Mapper

namespace Path

theorem not_mem_of_not_hasKeySlot {p : Path} (h : p.hasKeySlot = false) (k : Value) :
    Segment.key (some k) ∉ p := fun hmem => by
  rw [hasKeySlot, List.any_eq_false] at h
  exact h _ hmem rfl

theorem same_append {p : Path} (hunfilled : ∀ k, Segment.key (some k) ∉ p) (q q' : Path) :
    (p ++ q).same (p ++ q') = q.same q' := by
  induction p with
  | nil => rfl
  | cons s p ih =>
      have hself : s.same s = true := by
        rcases s with name | _ | _ | k
        case key.some => exact absurd List.mem_cons_self (hunfilled k)
        all_goals simp [Segment.same]
      rw [List.cons_append, List.cons_append, same, hself, Bool.true_and,
        ih fun k hk => hunfilled k (List.mem_cons_of_mem s hk)]

/-- The path leads to the entry of a map, and from there to collections. No slot but the first one has a key, for
that is the only one that an indexer fills. -/
structure MapFirst (p map : Path) (slot : Option Value) (rest : Path) : Prop where
  path : p = map ++ .key slot :: rest
  keyless : map.hasKeySlot = false
  flat : map.isNested = false
  nested : rest.isNested = true
  unfilled : ∀ k, Segment.key (some k) ∉ rest

namespace MapFirst

variable {p map rest between after : Path} {slot : Option Value}

theorem splitEach?_bound (h : p.MapFirst map slot rest) (hsplit : rest.splitEach? = some (between, after))
    (k : Value) :
    splitEach? (map ++ .key (some k) :: rest) = some (map ++ .key (some k) :: between, after) := by
  rw [splitEach?_flat_append h.flat, splitEach?_cons rfl, hsplit]
  rfl

theorem same_bound (h : p.MapFirst map slot rest) (hsplit : rest.splitEach? = some (between, after))
    (k k' : Value) :
    same (map ++ .key (some k) :: between) (map ++ .key (some k') :: between) = k.same k' := by
  have hbetween : between.same between = true := by
    obtain ⟨hrest, -⟩ := append_of_splitEach? hsplit
    have hself := same_append (p := between) (fun k hk => h.unfilled k (hrest ▸ List.mem_append_left _ hk)) [] []
    rwa [List.append_nil] at hself
  rw [same_append (not_mem_of_not_hasKeySlot h.keyless), same, hbetween, Bool.and_true]
  rfl

end MapFirst

end Path

namespace Leaf.AsksEntry

variable [Run] {m : Mapper} {serial : Nat} {f : Field} {op : Operator} {key : Text} {l : Leaf} {k : Value}
  {map rest : Path} {slot : Option Value}

theorem exists_built (h : l.AsksEntry m f op key) (hpath : f.path.MapFirst map slot rest)
    (hkey : Value.coerce (keyDraw serial) none f.keyType key = .ok k) :
    ∃ compiled, Predicate.target.built m false serial (.leaf l) = .ok compiled ∧
      Predicate.Means compiled (l.meaning m serial) := by
  have hplan := plan_of_bound h.field h.operator (h.bound_some hkey hpath.path hpath.keyless) h.goes
  obtain ⟨compiled, hrealized, hmeans⟩ := Predicate.plan_means hplan
  refine ⟨compiled, ?_, hmeans⟩
  rw [Target.built_leaf, hplan]
  exact hrealized

theorem meaning_eq (h : l.AsksEntry m f op key) (hpath : f.path.MapFirst map slot rest)
    (hkey : Value.coerce (keyDraw serial) none f.keyType key = .ok k) {between after : Path}
    (hsplit : rest.splitEach? = some (between, after)) :
    l.meaning m serial =
      .existential (map ++ .key (some k) :: between) (m.holdsAt serial f op l after) := by
  have hnested : f.isNested = true := by
    rw [Field.isNested, hpath.path, Path.isNested_append, Path.isNested_cons, hpath.nested, Bool.or_true,
      Bool.or_true]
  unfold Leaf.meaning holdsAt
  simp only [h.field, h.operator, h.bound_some hkey hpath.path hpath.keyless, meaningOf,
    hpath.splitEach?_bound hsplit, hnested]

end Leaf.AsksEntry

namespace Predicate

section Runs

variable [Run]

theorem join_any_iff {connective : Connective} {left right : Compiled Predicate}
    {collection collection' : Path} {f g : Json → Bool} (hleft : Means left (.existential collection f))
    (hright : Means right (.existential collection' g)) :
    (∃ merged guarded body, (target.join true connective left right).query = any merged guarded body) ↔
      collection.same collection' = true := by
  cases hleft with
  | @existential _ guarded body _ _ =>
      cases hright with
      | @existential _ guarded' body' _ _ =>
          have hmerge := merge?_any connective collection collection' guarded guarded' body body'
          cases hsame : collection.same collection' with
          | true =>
              rw [hsame] at hmerge
              rw [Target.join_merged hmerge]
              exact iff_of_true ⟨_, _, _, rfl⟩ rfl
          | false =>
              rw [hsame] at hmerge
              rw [Target.join_unmerged hmerge]
              refine iff_of_false ?_ nofun
              rintro ⟨merged, guarded, body, hequal⟩
              cases connective <;> cases hequal

/-- Joined by `or`, the second side is asked of the first one's elements if the collections are found to be the
same. -/
theorem holds_join_or {left right : Compiled Predicate} {collection collection' : Path} {f g : Json → Bool}
    (hleft : Means left (.existential collection f)) (hright : Means right (.existential collection' g))
    (record : Json) :
    (target.join true .or left right).query.holds record = ((collection.elements record).any f ||
      ((if collection.same collection' then collection else collection').elements record).any g) := by
  rw [(join_means true .or hleft hright).holds_eq, if_pos rfl, Meaning.fused]
  cases collection.same collection' with
  | false => rfl
  | true => exact any_or f g (collection.elements record)

variable {literal : Nat → Uuid} {compared : Comparison → Json → Uuid} {m : Mapper} {f : Field} {op op' : Operator}
  {key key' : Text} {l l' : Leaf} {k k' : Value} {map rest : Path} {slot : Option Value}

/--
Two conditions on a field that leads through a map to collections, with keys that can be read, joined by `or` in
parentheses. They become one condition on elements exactly if the keys select one entry and are not NaN, or if
they are the two zeros. But for the zeros the filter holds of the records of which one of the conditions holds
alone, the second one in a run of its own, if they do not tell apart what each run draws for it; for the zeros the
second condition is asked of the entry of the first key.
-/
theorem ofExpr_either_entry (hpath : f.path.MapFirst map slot rest) (h : l.AsksEntry m f op key)
    (h' : l'.AsksEntry m f op' key') (hkey : Value.coerce (keyDraw 0) none f.keyType key = .ok k)
    (hkey' : Value.coerce (keyDraw 1) none f.keyType key' = .ok k') :
    ∃ p p₁ p₂, ofExpr m (.paren (.binary (.leaf l) .or (.leaf l'))) = .ok p ∧
      ofExpr m (.leaf l) = .ok p₁ ∧
      @ofExpr (Run.redrawn literal compared) m (.leaf l') = .ok p₂ ∧
      (∀ t, Expr.read m.registry m.settings.maxDepth.toNat t =
        .ok (.paren (.binary (.leaf l) .or (.leaf l'))) → ofText m t = .ok p) ∧
      ((∃ collection guarded body, p = any collection guarded body) ↔
        Value.SameEntry k k' ∧ k ≠ .float .nan ∨ Value.OppositeZeros k k') ∧
      (¬ Value.OppositeZeros k k' → ∀ record, l'.ToldAlike literal compared m 1 0 record →
        p.holds record = (p₁.holds record || @holds (Run.redrawn literal compared) p₂ record)) ∧
      (Value.OppositeZeros k k' → ∀ record, p.holds record =
        (p₁.holds record || m.holdsAt 1 f op' l' (map ++ .key (some k) :: rest) record)) := by
  obtain ⟨between, after, hsplit⟩ := Path.exists_splitEach? hpath.nested
  obtain ⟨left, hleft, hmeans⟩ := h.exists_built hpath hkey
  obtain ⟨right, hright, hmeans'⟩ := h'.exists_built hpath hkey'
  obtain ⟨alone, halone, hanywhere⟩ := exists_alone_of_built literal compared hright
  rw [h.meaning_eq hpath hkey hsplit] at hmeans
  rw [h'.meaning_eq hpath hkey' hsplit] at hmeans'
  have hjoined := holds_join_or hmeans hmeans'
  have hsame := hpath.same_bound hsplit k k'
  have hentries := Value.same_iff_of_coerce hkey hkey'
  have hcompiled : ofExpr m (.paren (.binary (.leaf l) .or (.leaf l'))) =
      .ok (target.join true .or left right).query := by
    rw [ofExpr_eq, Target.built_paren, Target.built_binary, hleft]
    show Except.map _ (Except.map _ (target.built m false 1 (.leaf l'))) = _
    rw [hright]
    rfl
  refine ⟨_, left.query, alone, hcompiled, ?_, halone, fun t => ofText_of_ofExpr hcompiled, ?_, ?_, ?_⟩
  · rw [ofExpr_eq, hleft]
    rfl
  · rw [join_any_iff hmeans hmeans', hsame, hentries]
  · intro hzeros record htold
    rw [hjoined, hsame, hmeans.holds_eq, hanywhere record htold, hmeans'.holds_eq]
    cases hkeys : k.same k' with
    | false => rfl
    | true =>
        have hequal : k = k' := ((hentries.1 hkeys).resolve_right hzeros).1.eq
          ((Value.type?_of_coerce hkey).trans (Value.type?_of_coerce hkey').symm) (Value.tells_of_coerce hkey)
          (Value.tells_of_coerce hkey')
        rw [hequal]
        rfl
  · intro hzeros record
    rw [hjoined, hsame, hentries.2 (.inr hzeros), hmeans.holds_eq,
      holdsAt_of_splitEach? (hpath.splitEach?_bound hsplit k)]
    rfl

end Runs

open scoped Run.Counting

def sampleLabel : Field where
  name := "sample"
  path := [.member "temperatures", .key none, .each, .member "label"]
  type := .text
  keyType := .float

def assays : Mapper where
  fields := [sampleLabel]

def labelled (place : Nat) (temperature label : Text) : Leaf :=
  ⟨"sample", some temperature, false, place, "=", place + Text.size temperature + 8, label, false⟩

def oneSample (temperature : Text) : Json :=
  .object [("temperatures", .object [(temperature, .array [.object [("label", .string "B")]])])]

theorem ofExpr_either_entry_half :
    ∃ p, ofExpr assays (.paren (.binary (.leaf (labelled 1 "0.5" "A")) .or (.leaf (labelled 15 "5e-1" "B")))) =
        .ok p ∧
      (∃ collection guarded body, p = any collection guarded body) ∧ p.holds (oneSample "0.5") = true := by
  have hpath : sampleLabel.path.MapFirst [.member "temperatures"] none [.each, .member "label"] :=
    ⟨rfl, rfl, rfl, rfl, by simp⟩
  have hleft : (labelled 1 "0.5" "A").AsksEntry assays sampleLabel (.equality false) "0.5" := ⟨rfl, rfl, rfl, rfl, rfl⟩
  have hright : (labelled 15 "5e-1" "B").AsksEntry assays sampleLabel (.equality false) "5e-1" :=
    ⟨rfl, rfl, rfl, rfl, rfl⟩
  have hkey : Value.coerce (keyDraw 0) none sampleLabel.keyType "0.5" = .ok (.float (.ofRatio false 1 2)) := rfl
  have hkey' : Value.coerce (keyDraw 1) none sampleLabel.keyType "5e-1" = .ok (.float (.ofRatio false 1 2)) := rfl
  have htold : (labelled 15 "5e-1" "B").ToldAlike Run.literal Run.compared assays 1 0 (oneSample "0.5") := by
    refine Leaf.toldAlike_of_ne_uuid (fun f hf => ?_) (fun f hf => ?_) _ <;> cases hf <;> decide
  obtain ⟨p, p₁, p₂, hp, hp₁, hp₂, -, hmerged, heither, -⟩ := ofExpr_either_entry hpath hleft hright hkey hkey'
  refine ⟨p, hp, hmerged.2 (.inl ⟨⟨_, rfl, rfl⟩, by decide⟩), ?_⟩
  rw [heither (by decide) _ htold]
  cases hp₁
  cases hp₂
  rfl

/-- The zeros select two entries, and yet the conditions merge, so that a sample from below zero is missed. -/
theorem ofText_either_entry_zeros :
    ∃ p p₂, ofText assays "(sample[0]=A|sample[-0]=B)" = .ok p ∧ ofText assays "sample[-0]=B" = .ok p₂ ∧
      Value.coerce (keyDraw 0) none sampleLabel.keyType "0" = .ok (.float Double.zero) ∧
      Value.coerce (keyDraw 1) none sampleLabel.keyType "-0" = .ok (.float Double.zero.neg) ∧
      ¬ Value.SameEntry (.float Double.zero) (.float Double.zero.neg) ∧
      (∃ collection guarded body, p = any collection guarded body) ∧
      p₂.holds (oneSample "-0") = true ∧ p.holds (oneSample "-0") = false := by
  have hread : Expr.read assays.registry assays.settings.maxDepth.toNat "(sample[0]=A|sample[-0]=B)" =
      .ok (.paren (.binary (.leaf (labelled 1 "0" "A")) .or (.leaf (labelled 13 "-0" "B")))) := by cbv
  have hread₂ : Expr.read assays.registry assays.settings.maxDepth.toNat "sample[-0]=B" =
      .ok (.leaf (labelled 0 "-0" "B")) := by cbv
  refine ⟨_, _, ofText_of_read (Expr.allBlank_of_read hread) hread,
    ofText_of_read (Expr.allBlank_of_read hread₂) hread₂, rfl, rfl, fun hentry => ?_, ⟨_, _, _, rfl⟩, rfl, rfl⟩
  exact absurd (hentry.eq rfl trivial trivial) (by decide)

end Predicate

end FilterLang
