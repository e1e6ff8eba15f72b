import FilterLang.Proofs.Path.Reached
import FilterLang.Proofs.Predicate.Compiling
import FilterLang.Proofs.Query.Parentheses
import FilterLang.Run.Counting
import FilterLang.Sql.Target

/-!
What parentheses do to a filter: they can make two conditions on elements into one condition on one
element. For alternatives that is the same, for conjunctions it is narrower, and there is nothing else
that parentheses do.
-/

namespace FilterLang

open Outcome Mapper

/-- No map is looked into on the way to a collection. -/
def Mapper.KeylessCollections (m : Mapper) : Prop :=
  ∀ f ∈ m.fields, ∀ parts ∈ f.path.splitEach?, parts.1.hasKeySlot = false

theorem Path.eq_of_same {p q : Path} (hkeys : p.hasKeySlot = false) (h : p.same q = true) : p = q :=
  (same_iff_eq (show FieldType.text ≠ .float by decide)
    (boundTo_of_count_eq_zero (count_of_not_hasKeySlot hkeys))).1 h

section Bound

variable [Run]

theorem Mapper.hasKeySlot_of_bindIndexer {serial : Nat} {f : Field} {indexer : Option Text}
    {path collection rest : Path} (hf : ∀ parts ∈ f.path.splitEach?, parts.1.hasKeySlot = false)
    (hbound : bindIndexer serial f indexer = .ok (some path))
    (hsplit : path.splitEach? = some (collection, rest)) : collection.hasKeySlot = false := by
  rcases bindIndexer_cases hbound with ⟨-, rfl⟩ | ⟨_, k, -, hkey⟩
  · exact hf _ hsplit
  · have hnested := Path.isNested_bindKey? hkey
    rw [Path.isNested_eq_isSome_splitEach?, Path.isNested_eq_isSome_splitEach?, hsplit] at hnested
    obtain ⟨⟨before, after⟩, hparts⟩ := Option.isSome_iff_exists.1 hnested.symm
    obtain ⟨rest', hrest⟩ := Path.splitEach?_bindKey? hparts (hf _ hparts) hkey
    rw [hsplit] at hrest
    cases hrest
    exact hf _ hparts

theorem Leaf.exists_of_meaning_existential {m : Mapper} {serial : Nat} {l : Leaf} {collection : Path}
    {condition : Json → Bool} (h : l.meaning m serial = .existential collection condition) :
    ∃ f ∈ m.fields, ∃ path rest, bindIndexer serial f l.indexer = .ok (some path) ∧
      path.splitEach? = some (collection, rest) := by
  unfold meaning at h
  split at h
  · cases h
  · rename_i f hfield
    split at h
    · rename_i op path _ hbound
      unfold meaningOf at h
      split at h
      · cases h
      · rename_i collection' rest hsplit
        cases h
        exact ⟨f, List.mem_of_find?_eq_some hfield, path, rest, hbound, hsplit⟩
    · cases h

end Bound

namespace Predicate

theorem merge?_eq_some {connective : Connective} {left right : Compiled Predicate} {query : Predicate}
    (h : merge? connective left right = some query) :
    ∃ collection guarded body collection' guarded' body',
      left = ⟨any collection guarded body, true⟩ ∧ right = ⟨any collection' guarded' body', true⟩ ∧
      collection.same collection' = true ∧
      query = any collection guarded (combine connective body body') := by
  unfold merge? at h
  split at h
  · rename_i collection guarded body collection' guarded' body'
    split at h
    · rename_i hsame
      cases h
      exact ⟨collection, guarded, body, collection', guarded', body', rfl, rfl, hsame, rfl⟩
    · cases h
  · cases h

/-- A query about elements does not look into a map on the way to them. -/
def Keyless (compiled : Compiled Predicate) : Prop :=
  ∀ collection guarded body, compiled = ⟨any collection guarded body, true⟩ →
    collection.hasKeySlot = false

section Runs

variable [Run]

omit [Run] in
theorem keyless_join {inParens : Bool} {connective : Connective} {left right : Compiled Predicate}
    (h : Keyless left) : Keyless (target.join inParens connective left right) := by
  rintro collection guarded body hequal
  unfold Target.join at hequal
  split at hequal
  · rename_i query hmerged
    split at hmerged
    · obtain ⟨collection', guarded', body', _, _, _, rfl, _, _, rfl⟩ := merge?_eq_some hmerged
      cases hequal
      exact h _ _ _ rfl
    · cases hmerged
  · cases congrArg Compiled.nested hequal

theorem keyless_built {m : Mapper} (hkeys : m.KeylessCollections) {e : Expr} {inParens : Bool}
    {serial : Nat} {compiled : Compiled Predicate}
    (h : target.built m inParens serial e = .ok compiled) : Keyless compiled := by
  induction e generalizing inParens serial compiled with
  | leaf l =>
      rw [Target.built_leaf] at h
      obtain ⟨plan, hplan, hrealized⟩ := bind_eq_ok_iff.1 h
      obtain ⟨compiled', hrealized', hmeans⟩ := plan_means hplan
      rw [hrealized] at hrealized'
      cases hrealized'
      rintro collection guarded body rfl
      generalize hmeaning : l.meaning m serial = meaning at hmeans
      cases hmeans with
      | existential _ =>
          obtain ⟨f, hf, path, rest, hbound, hsplit⟩ := Leaf.exists_of_meaning_existential hmeaning
          exact hasKeySlot_of_bindIndexer (hkeys f hf) hbound hsplit
  | binary left connective right ihLeft _ =>
      rw [Target.built_binary] at h
      obtain ⟨l, hl, h⟩ := bind_eq_ok_iff.1 h
      obtain ⟨r, _, rfl⟩ := map_eq_ok_iff.1 h
      exact keyless_join (ihLeft hl)
  | paren inner ih => exact ih h

omit [Run] in
theorem apply_mono {connective : Connective} {a b a' b' : Bool} (ha : a = true → a' = true)
    (hb : b = true → b' = true) (h : connective.apply a b = true) : connective.apply a' b' = true := by
  cases connective with
  | and =>
      obtain ⟨hleft, hright⟩ := Bool.and_eq_true_iff.1 h
      exact Bool.and_eq_true_iff.2 ⟨ha hleft, hb hright⟩
  | or =>
      rcases (Bool.or_eq_true _ _).mp h with hleft | hright
      · exact (Bool.or_eq_true _ _).mpr (.inl (ha hleft))
      · exact (Bool.or_eq_true _ _).mpr (.inr (hb hright))

omit [Run] in
theorem apply_of_any {connective : Connective} {f g : Json → Bool} {elements : List Json}
    (h : (elements.any fun element => connective.apply (f element) (g element)) = true) :
    connective.apply (elements.any f) (elements.any g) = true := by
  obtain ⟨element, hmem, hboth⟩ := List.any_eq_true.1 h
  exact apply_mono (fun hf => List.any_eq_true.2 ⟨element, hmem, hf⟩)
    (fun hg => List.any_eq_true.2 ⟨element, hmem, hg⟩) hboth

omit [Run] in
theorem any_or (f g : Json → Bool) (elements : List Json) :
    (elements.any fun element => f element || g element) = (elements.any f || elements.any g) := by
  rw [Bool.eq_iff_iff]
  simp only [List.any_eq_true, Bool.or_eq_true, and_or_left, exists_or]

theorem holds_any_combine (connective : Connective) (collection : Path) (guarded : Bool)
    (body body' : Predicate) (record : Json) :
    (any collection guarded (combine connective body body')).holds record =
      (collection.elements record).any fun element =>
        connective.apply (body.holds element) (body'.holds element) := by
  have hcombine : (combine connective body body').holds =
      fun element => connective.apply (body.holds element) (body'.holds element) := by
    funext element
    exact holds_combine connective body body' element
  rw [holds, hcombine]

section Join

variable {connective : Connective} {left right : Compiled Predicate}

theorem merge?_holds {query : Predicate} (hleft : Keyless left)
    (h : merge? connective left right = some query) (record : Json) :
    ∃ (elements : List Json) (f g : Json → Bool),
      left.query.holds record = elements.any f ∧ right.query.holds record = elements.any g ∧
      query.holds record = elements.any fun element => connective.apply (f element) (g element) := by
  obtain ⟨collection, guarded, body, collection', guarded', body', rfl, rfl, hsame, rfl⟩ :=
    merge?_eq_some h
  cases Path.eq_of_same (hleft _ _ _ rfl) hsame
  exact ⟨collection.elements record, body.holds, body'.holds, rfl, rfl,
    holds_any_combine connective collection guarded body body' record⟩

theorem join_holds_imp {inParens : Bool} (hleft : Keyless left) {record : Json}
    (h : (target.join inParens connective left right).query.holds record = true) :
    connective.apply (left.query.holds record) (right.query.holds record) = true := by
  unfold Target.join at h
  split at h
  · rename_i query hmerged
    split at hmerged
    · obtain ⟨elements, f, g, hf, hg, hquery⟩ := merge?_holds hleft hmerged record
      rw [hf, hg]
      rw [hquery] at h
      exact apply_of_any h
    · cases hmerged
  · rwa [← holds_combine]

theorem join_holds_eq {inParens : Bool} (hleft : Keyless left)
    (hmerged : inParens = true → (merge? connective left right).isSome = true → connective = .or)
    (record : Json) :
    (target.join inParens connective left right).query.holds record =
      connective.apply (left.query.holds record) (right.query.holds record) := by
  unfold Target.join
  split
  · rename_i query hquery
    split at hquery
    · rename_i hparens
      have hmerge : merge? connective left right = some query := hquery
      obtain ⟨elements, f, g, hf, hg, hholds⟩ := merge?_holds hleft hmerge record
      cases hmerged hparens (by rw [hmerge]; rfl)
      rw [hf, hg, hholds]
      exact any_or f g elements
    · cases hquery
  · exact holds_combine connective left.query right.query record

end Join

theorem exists_built_stripped {m : Mapper} (hkeys : m.KeylessCollections) {e : Expr} {inParens : Bool}
    {serial : Nat} {compiled : Compiled Predicate}
    (h : target.built m inParens serial e = .ok compiled) :
    ∃ bare, target.built m false serial e.stripped = .ok bare ∧
      (∀ record, compiled.query.holds record = true → bare.query.holds record = true) ∧
      ((∀ connective ∈ target.mergedConnectives m inParens serial e, connective = .or) →
        ∀ record, compiled.query.holds record = bare.query.holds record) := by
  induction e generalizing inParens serial compiled with
  | leaf l =>
      rw [Target.built_leaf] at h
      refine ⟨compiled, ?_, fun _ => id, fun _ _ => rfl⟩
      rw [Expr.stripped, Target.built_leaf, h]
  | binary left connective right ihLeft ihRight =>
      rw [Target.built_binary] at h
      obtain ⟨l, hl, h⟩ := bind_eq_ok_iff.1 h
      obtain ⟨r, hr, rfl⟩ := map_eq_ok_iff.1 h
      obtain ⟨bareLeft, hbareLeft, hleft, hleftEq⟩ := ihLeft hl
      obtain ⟨bareRight, hbareRight, hright, hrightEq⟩ := ihRight hr
      have hkeyless := keyless_built hkeys hl
      have hbare : ∀ record, (target.join false connective bareLeft bareRight).query.holds record =
          connective.apply (bareLeft.query.holds record) (bareRight.query.holds record) :=
        fun record => holds_combine connective bareLeft.query bareRight.query record
      refine ⟨target.join false connective bareLeft bareRight, ?_, fun record hholds => ?_,
        fun hor record => ?_⟩
      · rw [Expr.stripped, Target.built_binary, hbareLeft, Expr.leafCount_stripped]
        exact congrArg (Except.map _) hbareRight
      · rw [hbare]
        exact apply_mono (hleft record) (hright record) (join_holds_imp hkeyless hholds)
      · rw [hbare, ← hleftEq fun c hc => hor c (List.mem_append_left _ (List.mem_append_left _ hc)),
          ← hrightEq fun c hc => hor c (List.mem_append_left _ (List.mem_append_right _ hc))]
        refine join_holds_eq hkeyless (fun hparens hmerges => ?_) record
        cases hparens
        exact hor connective (Target.mem_mergedConnectives hl hr hmerges)
  | paren inner ih => exact ih h

/--
Without its parentheses a tree that compiles compiles too, and selects every record that it selects. It
selects no other record if only alternatives were merged; and without leaves on collections it compiles
to the very same query, here and in SQL.
-/
theorem ofExpr_stripped {m : Mapper} (hkeys : m.KeylessCollections) {e : Expr} {p : Predicate}
    (h : ofExpr m e = .ok p) :
    ∃ bare, ofExpr m e.stripped = .ok bare ∧
      (∀ record, p.holds record = true → bare.holds record = true) ∧
      ((∀ connective ∈ target.mergedConnectives m false 0 e, connective = .or) →
        ∀ record, p.holds record = bare.holds record) ∧
      ((∀ l ∈ e.leaves, ∀ f, m.get? (fieldName l) = some f → f.isNested = false) →
        p = bare ∧ Sql.Condition.ofExpr m e = Sql.Condition.ofExpr m e.stripped) := by
  have hp := h
  rw [ofExpr_eq] at hp
  obtain ⟨compiled, hbuilt, rfl⟩ := map_eq_ok_iff.1 hp
  obtain ⟨bare, hbare, himp, heq⟩ := exists_built_stripped hkeys hbuilt
  have hstripped : ofExpr m e.stripped = .ok bare.query := by rw [ofExpr_eq, hbare]; rfl
  refine ⟨bare.query, hstripped, himp, heq, fun hflat => ⟨?_, ?_⟩⟩
  · have hsame : ofExpr m e = ofExpr m e.stripped :=
      Target.compile_stripped (fun _ _ _ => merge?_of_not_nested) hflat
    rw [h, hstripped] at hsame
    exact Except.ok.inj hsame
  · exact Target.compile_stripped (fun _ _ _ => Sql.Condition.merge?_of_not_nested) hflat

end Runs

open scoped Run.Counting

def warehouse : Mapper where
  fields := [
    { name := "sku", path := [.member "lines", .each, .member "sku"], type := .text },
    { name := "count", path := [.member "lines", .each, .member "count"], type := .int },
    { name := "place", path := [.member "places", .key none], type := .text }]

def bothOrEither : Expr :=
  .binary
    (.paren (.binary (.leaf ⟨"sku", none, false, 0, "=", 0, "a", false⟩) .and
      (.leaf ⟨"count", none, false, 0, ">", 0, "2", false⟩)))
    .and
    (.paren (.binary (.paren (.leaf ⟨"sku", none, false, 0, "=", 0, "b", true⟩)) .or
      (.leaf ⟨"place", some "main", false, 0, "^", 0, "c", false⟩)))

theorem ofExpr_stripped_bothOrEither :
    warehouse.KeylessCollections ∧ target.mergedConnectives warehouse false 0 bothOrEither = [.and] ∧
    ∃ p bare, ofExpr warehouse bothOrEither = .ok p ∧ ofExpr warehouse bothOrEither.stripped = .ok bare ∧
      (∀ record, p.holds record = true → bare.holds record = true) := by
  have hkeys : warehouse.KeylessCollections := by
    unfold Mapper.KeylessCollections
    decide
  obtain ⟨p, hp⟩ : ∃ p, ofExpr warehouse bothOrEither = .ok p := ⟨_, rfl⟩
  obtain ⟨bare, hbare, himp, _⟩ := ofExpr_stripped hkeys hp
  exact ⟨hkeys, rfl, p, bare, hp, hbare, himp⟩

end Predicate

end FilterLang
