import FilterLang.Path.Basic

/-!
The first collection of a path. The hops of a path are its first collection and the hops from one of
that collection's elements.
-/

namespace FilterLang

theorem Segment.eq_each_of_isEach {s : Segment} (h : s.isEach = true) : s = .each := by
  cases s with
  | each => rfl
  | member name => cases h
  | key bound => cases h

namespace Path

open Segment

theorem splitEach?_cons {s : Segment} {p : Path} (h : s.isEach = false) :
    splitEach? (s :: p) = (splitEach? p).map fun (before, after) => (s :: before, after) := by
  cases s with
  | each => cases h
  | member name => rfl
  | key bound => rfl

theorem hops_cons {s : Segment} {p : Path} (h : s.isEach = false) :
    hops (s :: p) = extendHops s (hops p) := by
  cases s with
  | each => cases h
  | member name => rfl
  | key bound => rfl

theorem isNested_append (p q : Path) : isNested (p ++ q) = (p.isNested || q.isNested) := List.any_append

theorem isNested_eq_isSome_splitEach? (p : Path) : p.isNested = (splitEach? p).isSome := by
  induction p with
  | nil => rfl
  | cons s p ih =>
      cases hs : s.isEach with
      | true =>
          obtain rfl := eq_each_of_isEach hs
          rfl
      | false =>
          rw [isNested_cons, hs, splitEach?_cons hs, Option.isSome_map, Bool.false_or]
          exact ih

theorem splitEach?_eq_none_iff {p : Path} : splitEach? p = none ↔ p.isNested = false := by
  rw [isNested_eq_isSome_splitEach?, Option.isSome_eq_false_iff, Option.isNone_iff_eq_none]

theorem isNested_of_splitEach? {p : Path} {parts : Path × Path} (h : splitEach? p = some parts) :
    p.isNested = true := by
  rw [isNested_eq_isSome_splitEach?, h]
  rfl

theorem exists_splitEach? {p : Path} (h : p.isNested = true) :
    ∃ collection rest, splitEach? p = some (collection, rest) := by
  rw [isNested_eq_isSome_splitEach?] at h
  obtain ⟨⟨collection, rest⟩, hsplit⟩ := Option.isSome_iff_exists.1 h
  exact ⟨collection, rest, hsplit⟩

theorem hops_of_splitEach? {p before after : Path} (h : splitEach? p = some (before, after)) :
    hops p = (before :: (hops after).1, (hops after).2) := by
  induction p generalizing before with
  | nil => cases h
  | cons s p ih =>
      cases hs : s.isEach with
      | true =>
          obtain rfl := eq_each_of_isEach hs
          cases h
          rfl
      | false =>
          rw [splitEach?_cons hs] at h
          obtain ⟨⟨front, rest⟩, hsplit, hequal⟩ := Option.map_eq_some_iff.1 h
          cases hequal
          rw [hops_cons hs, ih hsplit]
          rfl

theorem hops_of_flat {p : Path} (h : p.isNested = false) : hops p = ([], p) := by
  induction p with
  | nil => rfl
  | cons s p ih =>
      rw [isNested_cons, Bool.or_eq_false_iff] at h
      rw [hops_cons h.1, ih h.2]
      rfl

theorem splitEach?_flat_append {p : Path} (h : p.isNested = false) (q : Path) :
    splitEach? (p ++ q) = (splitEach? q).map fun (before, after) => (p ++ before, after) := by
  induction p with
  | nil => simp
  | cons s p ih =>
      rw [isNested_cons, Bool.or_eq_false_iff] at h
      rw [List.cons_append, splitEach?_cons h.1, ih h.2, Option.map_map]
      rfl

theorem isNested_hops_last (p : Path) : (hops p).2.isNested = false := by
  induction p with
  | nil => rfl
  | cons s p ih =>
      cases hs : s.isEach with
      | true =>
          obtain rfl := eq_each_of_isEach hs
          exact ih
      | false =>
          rw [hops_cons hs]
          cases hhops : hops p with
          | mk collections last =>
              rw [hhops] at ih
              cases collections with
              | nil => rw [extendHops, isNested_cons, hs, ih]; rfl
              | cons first more => exact ih

theorem splitEach?_append {p before after : Path} (h : splitEach? p = some (before, after)) (q : Path) :
    splitEach? (p ++ q) = some (before, after ++ q) := by
  induction p generalizing before with
  | nil => cases h
  | cons s p ih =>
      cases hs : s.isEach with
      | true =>
          obtain rfl := eq_each_of_isEach hs
          cases h
          rfl
      | false =>
          rw [splitEach?_cons hs] at h
          obtain ⟨⟨front, rest⟩, hsplit, hequal⟩ := Option.map_eq_some_iff.1 h
          cases hequal
          rw [List.cons_append, splitEach?_cons hs, ih hsplit]
          rfl

/-- Binding a key changes nothing but that key. -/
theorem map_bindKey? {β : Type} {kind : Segment → β} (hkind : ∀ slot slot', kind (.key slot) = kind (.key slot'))
    {k : Value} {p bound : Path} (h : bindKey? k p = some bound) : bound.map kind = p.map kind := by
  fun_induction bindKey? k p generalizing bound with
  | case1 => cases h
  | case2 slot rest =>
      cases h
      rw [List.map_cons, List.map_cons, hkind]
  | case3 s rest hs ih =>
      obtain ⟨more, hmore, rfl⟩ := Option.map_eq_some_iff.1 h
      rw [List.map_cons, List.map_cons, ih hmore]

theorem countP_bindKey? {kind : Segment → Bool} (hkind : ∀ slot slot', kind (.key slot) = kind (.key slot'))
    {k : Value} {p bound : Path} (h : bindKey? k p = some bound) : bound.countP kind = p.countP kind := by
  have hcount := congrArg (List.countP id) (map_bindKey? hkind h)
  rwa [List.countP_map, List.countP_map, Function.id_comp] at hcount

theorem isNested_bindKey? {k : Value} {p bound : Path} (h : bindKey? k p = some bound) :
    bound.isNested = p.isNested := by
  have hany := congrArg (List.any · id) (@map_bindKey? _ Segment.isEach (fun _ _ => rfl) _ _ _ h)
  rwa [List.any_map, List.any_map, Function.id_comp] at hany

theorem splitEach?_bindKey? {k : Value} {p bound before after : Path} (hsplit : splitEach? p = some (before, after))
    (hkeys : before.hasKeySlot = false) (h : bindKey? k p = some bound) :
    ∃ rest, splitEach? bound = some (before, rest) := by
  induction p generalizing before bound with
  | nil => cases hsplit
  | cons s p ih =>
      cases s with
      | each =>
          cases hsplit
          obtain ⟨rest, _, rfl⟩ := Option.map_eq_some_iff.1 h
          exact ⟨rest, rfl⟩
      | key slot =>
          obtain ⟨⟨front, back⟩, _, hequal⟩ := Option.map_eq_some_iff.1 hsplit
          cases hequal
          cases hkeys
      | member name =>
          obtain ⟨⟨front, back⟩, hfront, hequal⟩ := Option.map_eq_some_iff.1 hsplit
          cases hequal
          obtain ⟨more, hmore, rfl⟩ := Option.map_eq_some_iff.1 h
          obtain ⟨rest, hrest⟩ := ih hfront hkeys hmore
          exact ⟨rest, by rw [splitEach?_cons rfl, hrest]; rfl⟩

end Path

end FilterLang
