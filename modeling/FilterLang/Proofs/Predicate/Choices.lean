import FilterLang.Proofs.Predicate.Keys

/-!
Choices of elements. A leaf on a field inside collections holds of a record exactly if one element can be chosen
at each collection, from the record on, so that the comparison holds from the last one. What is no array has
nothing to choose from, whether collections are checked for null or not.
-/

namespace FilterLang

open Mapper

namespace Path

/-- One element for each collection on the path, chosen from the node on, and the path from the last one. -/
inductive Choice : Path → Json → List Json → Path → Prop
  | last {p : Path} {node : Json} (hflat : p.isNested = false) : Choice p node [] p
  | next {before after last : Path} {node element : Json} {items chosen : List Json}
      (hflat : before.isNested = false) (harray : before.walk? node = some (.array items))
      (helement : element ∈ items) (hmore : Choice after element chosen last) :
      Choice (before ++ .each :: after) node (element :: chosen) last

theorem mem_elements_iff {collection : Path} {node element : Json} :
    element ∈ collection.elements node ↔
      ∃ items, collection.walk? node = some (.array items) ∧ element ∈ items := by
  unfold elements resolve?
  cases collection.walk? node with
  | none => simp
  | some found => cases found <;> simp [Option.filter, Json.isNull]

theorem splitEach?_flat {before : Path} (h : before.isNested = false) (after : Path) :
    splitEach? (before ++ .each :: after) = some (before, after) := by
  rw [splitEach?_flat_append h]
  exact congrArg (fun front => some (front, after)) (List.append_nil before)

namespace Choice

variable {p last : Path} {node : Json} {chosen : List Json}

theorem length_eq (h : Choice p node chosen last) : chosen.length = p.countP Segment.isEach := by
  induction h with
  | last hflat =>
      rw [isNested, List.any_eq_false] at hflat
      exact (List.countP_eq_zero.2 hflat).symm
  | next hflat _ _ _ ih =>
      rw [isNested, List.any_eq_false] at hflat
      rw [List.length_cons, ih, List.countP_append, List.countP_eq_zero.2 hflat,
        List.countP_cons_of_pos rfl, Nat.zero_add]

theorem last_eq (h : Choice p node chosen last) : last = p.hops.2 := by
  induction h with
  | last hflat => rw [hops_of_flat hflat]
  | next hflat _ _ _ ih => rw [hops_of_splitEach? (splitEach?_flat hflat _), ih]

theorem flat_iff (hp : p.isNested = false) : Choice p node chosen last ↔ chosen = [] ∧ last = p := by
  refine ⟨fun h => ?_, fun ⟨hchosen, hlast⟩ => ?_⟩
  · cases h with
    | last => exact ⟨rfl, rfl⟩
    | next => simp [isNested_append, Segment.isEach] at hp
  · rw [hchosen, hlast]
    exact .last hp

theorem split_iff {collection rest : Path} (hsplit : p.splitEach? = some (collection, rest)) :
    Choice p node chosen last ↔
      ∃ element ∈ collection.elements node, ∃ more, chosen = element :: more ∧
        Choice rest element more last := by
  refine ⟨fun h => ?_, fun ⟨element, helement, more, hchosen, hmore⟩ => ?_⟩
  · cases h with
    | last hflat =>
        rw [splitEach?_eq_none_iff.2 hflat] at hsplit
        cases hsplit
    | next hflat harray helement hmore =>
        rw [splitEach?_flat hflat] at hsplit
        cases hsplit
        exact ⟨_, mem_elements_iff.2 ⟨_, harray, helement⟩, _, rfl, hmore⟩
  · obtain ⟨hpath, hflat⟩ := append_of_splitEach? hsplit
    obtain ⟨items, harray, hmem⟩ := mem_elements_iff.1 helement
    rw [hpath, hchosen]
    exact .next hflat harray hmem hmore

end Choice

end Path

namespace Mapper

/-- To hold along the collections of a path is to hold from the last element of some choice. -/
theorem holdsAlong_iff_choice {condition : Json → Bool} {p : Path} {node : Json} :
    holdsAlong condition p.hops.1 node = true ↔
      ∃ chosen last, p.Choice node chosen last ∧ condition (chosen.getLastD node) = true := by
  induction hcollections : p.hops.1 generalizing p node with
  | nil =>
      have hflat := (Path.hops_eq_nil_iff p).1 hcollections
      simp [holdsAlong, Path.Choice.flat_iff hflat]
  | cons collection more ih =>
      have hnested : p.isNested = true := by
        rw [← Bool.not_eq_false, ← Path.hops_eq_nil_iff, hcollections]
        exact List.cons_ne_nil _ _
      obtain ⟨first, rest, hsplit⟩ := Path.exists_splitEach? hnested
      rw [Path.hops_of_splitEach? hsplit] at hcollections
      cases hcollections
      simp only [holdsAlong, List.any_eq_true, Path.Choice.split_iff hsplit]
      constructor
      · rintro ⟨element, helement, hholds⟩
        obtain ⟨chosen, last, hchoice, hlast⟩ := (ih rfl).1 hholds
        exact ⟨element :: chosen, last, ⟨element, helement, chosen, rfl, hchoice⟩,
          by rwa [List.getLastD_cons]⟩
      · rintro ⟨chosen, last, ⟨element, helement, more, rfl, hchoice⟩, hlast⟩
        rw [List.getLastD_cons] at hlast
        exact ⟨element, helement, (ih rfl).2 ⟨more, last, hchoice, hlast⟩⟩

def checkingCollections (m : Mapper) (checks : Bool) : Mapper :=
  { m with settings := { m.settings with disableCollectionNullChecks := !checks } }

end Mapper

namespace Leaf

variable [Run] {m : Mapper} {serial : Nat} {f : Field} {op : Operator} {l : Leaf}

theorem meaning_holds_of_no_key (hfield : m.get? (fieldName l) = some f)
    (hop : m.registry.resolve? l.symbol = some op)
    (hbound : bindIndexer serial f l.indexer = .ok none) (record : Json) :
    (l.meaning m serial).holds record = false := by
  unfold meaning
  simp only [hfield, hop, hbound]
  rfl

theorem meaning_holds_nested (hfield : m.get? (fieldName l) = some f)
    (hop : m.registry.resolve? l.symbol = some op) (hnested : f.isNested = true) {path : Path}
    (hbound : bindIndexer serial f l.indexer = .ok (some path)) (record : Json) :
    (l.meaning m serial).holds record = m.holdsAt serial f op l path record := by
  obtain ⟨collection, rest, hsplit⟩ :=
    Path.exists_splitEach? ((isNested_bindIndexer hbound).trans hnested)
  unfold meaning
  simp only [hfield, hop, hbound, meaningOf, hsplit]
  rw [holdsAt_of_splitEach? hsplit]
  unfold holdsAt
  rw [hnested]
  rfl

theorem meaning_holds_checkingCollections (hfield : m.get? (fieldName l) = some f)
    (hop : m.registry.resolve? l.symbol = some op) (hnested : f.isNested = true) {bound : Option Path}
    (hbound : bindIndexer serial f l.indexer = .ok bound) (checks : Bool) (record : Json) :
    (l.meaning (m.checkingCollections checks) serial).holds record =
      (l.meaning m serial).holds record := by
  have hfield' : (m.checkingCollections checks).get? (fieldName l) = some f := hfield
  have hop' : (m.checkingCollections checks).registry.resolve? l.symbol = some op := hop
  cases bound with
  | none => rw [meaning_holds_of_no_key hfield' hop' hbound, meaning_holds_of_no_key hfield hop hbound]
  | some path =>
      rw [meaning_holds_nested hfield' hop' hnested hbound, meaning_holds_nested hfield hop hnested hbound]
      rfl

end Leaf

namespace Mapper

theorem countP_bindIndexer [Run] {serial : Nat} {f : Field} {indexer : Option Text} {path : Path}
    (h : bindIndexer serial f indexer = .ok (some path)) :
    path.countP Segment.isEach = f.path.countP Segment.isEach := by
  rcases bindIndexer_cases h with ⟨-, rfl⟩ | ⟨_, _, -, hbound⟩
  · rfl
  · exact Path.countP_bindKey? (fun _ _ => rfl) hbound

end Mapper

namespace Predicate

section Fields

variable [Run] {m : Mapper} {f : Field} {l : Leaf} {p : Predicate}

/--
A leaf on a field inside collections, if it compiles, holds of a record exactly if an element can be chosen at
each of them, in an array that the path leads to from the record or from the element before, so that the
comparison holds from the last one. If its key or its literal cannot be read it never holds. The answer is the
same whether collections are checked for null or not.
-/
theorem ofExpr_chooses (hfield : m.get? (fieldName l) = some f) (hnested : f.isNested = true)
    (hp : ofExpr m (.leaf l) = .ok p) :
    ∃ op bound, m.registry.resolve? l.symbol = some op ∧ bindIndexer 0 f l.indexer = .ok bound ∧
      (∀ t, Expr.read m.registry m.settings.maxDepth.toNat t = .ok (.leaf l) → ofText m t = .ok p) ∧
      (∀ path, bound = some path → ∀ lit, m.literal? 0 f op l true = some lit → ∀ record,
        p.holds record = true ↔
          ∃ chosen last, path.Choice record chosen last ∧
            chosen.length = f.path.countP Segment.isEach ∧
            (comparisonOf last f op lit).holds (chosen.getLastD record) = true) ∧
      (bound = none ∨ m.literal? 0 f op l true = none → ∀ record, p.holds record = false) ∧
      ∀ checks, ∃ q, ofExpr (m.checkingCollections checks) (.leaf l) = .ok q ∧
        ∀ record, q.holds record = p.holds record := by
  obtain ⟨op, bound, hop, hbound, hstops⟩ := Leaf.bound_of_ofExpr hfield hp
  have hmeans : ∀ record, p.holds record = (l.meaning m 0).holds record := by
    obtain ⟨p', hp', hmeans⟩ := Leaf.exists_ofExpr_of_bound hfield hop hbound hstops
    rw [hp] at hp'
    cases hp'
    exact hmeans
  refine ⟨op, bound, hop, hbound, fun t => ofText_of_ofExpr hp, ?_, ?_, fun checks => ?_⟩
  · rintro path rfl lit hlit record
    rw [hmeans, Leaf.meaning_holds_nested hfield hop hnested hbound, holdsAt, holdsAlong_iff_choice]
    simp only [hnested, hlit, Option.any_some]
    refine exists_congr fun chosen => exists_congr fun last => and_congr_right fun hchoice => ?_
    rw [← hchoice.last_eq, hchoice.length_eq, countP_bindIndexer hbound]
    exact (and_iff_right rfl).symm
  · intro hnone record
    rw [hmeans]
    cases bound with
    | none => exact Leaf.meaning_holds_of_no_key hfield hop hbound record
    | some path =>
        have hlit := hnone.resolve_left nofun
        rw [Leaf.meaning_holds_nested hfield hop hnested hbound, holdsAt, holdsAlong_eq, hnested, hlit]
        exact List.any_eq_false.2 fun _ _ => nofun
  · obtain ⟨q, hq, hqmeans⟩ :=
      Leaf.exists_ofExpr_of_bound (m := m.checkingCollections checks) hfield hop hbound hstops
    refine ⟨q, hq, fun record => ?_⟩
    rw [hqmeans, hmeans, Leaf.meaning_holds_checkingCollections hfield hop hnested hbound]

end Fields

open scoped Run.Counting

def jane : Json := .object [("name", .string "Jane")]

def janesGroup : Json := .object [("members", .array [jane, .object [("name", .string "Sam")]])]

theorem ofExpr_chooses_members :
    ∃ p, ofExpr clubs (.leaf (named "member" "J")) = .ok p ∧ p.holds oneGroup = true ∧
      p.holds (.object [("groups", .null)]) = false := by
  obtain ⟨p, hp⟩ : ∃ p, ofExpr clubs (.leaf (named "member" "J")) = .ok p := ⟨_, rfl⟩
  obtain ⟨op, bound, hop, hbound, -, hchoose, -, -⟩ :=
    ofExpr_chooses (f := memberName) (l := named "member" "J") rfl rfl hp
  cases hop
  cases hbound
  have hiff := hchoose memberName.path rfl _ rfl
  have hgroups : memberName.path.splitEach? =
      some ([.member "groups"], [.member "members", .each, .member "name"]) := rfl
  have hmembers : Path.splitEach? [.member "members", .each, .member "name"] =
      some ([.member "members"], [.member "name"]) := rfl
  have hjane : Path.Choice [.member "members", .each, .member "name"] janesGroup [jane] [.member "name"] :=
    (Path.Choice.split_iff hmembers).2 ⟨jane, .head _, [], rfl, .last rfl⟩
  have hgroup : Path.Choice memberName.path oneGroup [janesGroup, jane] [.member "name"] :=
    (Path.Choice.split_iff hgroups).2 ⟨janesGroup, .head _, [jane], rfl, hjane⟩
  refine ⟨p, hp, (hiff _).2 ⟨_, _, hgroup, rfl, by decide⟩, Bool.eq_false_iff.2 fun hholds => ?_⟩
  obtain ⟨chosen, last, hchoice, -⟩ := (hiff _).1 hholds
  obtain ⟨element, helement, -⟩ := (Path.Choice.split_iff hgroups).1 hchoice
  cases helement

end Predicate

end FilterLang
