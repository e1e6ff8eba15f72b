import FilterLang.Proofs.Path.Grammar
import FilterLang.Proofs.Query.Planning
import FilterLang.Proofs.Value.Reading

/-!
The shape of the paths that lead to collections. A written path begins with a member and has one slot
at most, which an indexer fills; up to its first collection that leaves members and one key at most.
-/

namespace FilterLang.Path

/-- A member comes first, and no more than one map is looked into. -/
structure Plain (p : Path) : Prop where
  head : ∃ name rest, p = .member name :: rest
  keys : p.countP Segment.isKey ≤ 1

/-- Every key is bound to a value of the type, which its text tells. -/
def BoundTo (type : FieldType) (p : Path) : Prop :=
  ∀ key, Segment.key key ∈ p → ∃ v : Value, key = some v ∧ v.type? = some type ∧ v.Tells

theorem count_of_not_hasKeySlot {p : Path} (h : p.hasKeySlot = false) :
    p.countP Segment.isKey = 0 := by
  rw [List.countP_eq_zero]
  intro s hs hkey
  have hfound : p.hasKeySlot = true := List.any_eq_true.2 ⟨s, hs, hkey⟩
  rw [h] at hfound
  cases hfound

theorem plain_of_read {t : Text} {p : Path} (h : read t = .ok p) : p.Plain := by
  obtain ⟨w, -, rfl⟩ := read_eq_ok_iff.1 h
  refine ⟨?_, ?_⟩
  · obtain ⟨part, parts, hparts⟩ := List.exists_cons_of_ne_nil w.parts_ne_nil
    exact ⟨part.name, _, by rw [Written.path, hparts, List.flatMap_cons, Part.path, List.cons_append]⟩
  · rw [countP_isKey_written]
    exact w.slots_le_one

theorem isKey_of_mem {key : Option Value} {p : Path} (h : Segment.key key ∈ p) :
    0 < p.countP Segment.isKey :=
  List.countP_pos_iff.2 ⟨_, h, rfl⟩

theorem boundTo_of_count_eq_zero {type : FieldType} {p : Path} (h : p.countP Segment.isKey = 0) :
    p.BoundTo type := by
  intro key hmem
  have hpos := isKey_of_mem hmem
  omega

theorem boundTo_bindKey? {type : FieldType} {k : Value} {p bound : Path}
    (hk : k.type? = some type ∧ k.Tells) (hcount : p.countP Segment.isKey ≤ 1)
    (h : bindKey? k p = some bound) : bound.BoundTo type := by
  fun_induction bindKey? k p generalizing bound with
  | case1 => cases h
  | case2 slot rest =>
      cases h
      rw [List.countP_cons_of_pos rfl] at hcount
      intro key hmem
      rcases List.mem_cons.1 hmem with hhead | hrest
      · cases hhead
        exact ⟨k, rfl, hk⟩
      · exact boundTo_of_count_eq_zero (by omega) key hrest
  | case3 s rest hs ih =>
      obtain ⟨more, hmore, rfl⟩ := Option.map_eq_some_iff.1 h
      have hnotKey : s.isKey = false := by
        cases s with
        | key slot => exact absurd rfl (hs slot)
        | member name => rfl
        | each => rfl
      rw [List.countP_cons_of_neg (by simp [hnotKey])] at hcount
      intro key hmem
      rcases List.mem_cons.1 hmem with hhead | hrest
      · rw [← hhead] at hnotKey
        cases hnotKey
      · exact ih hcount hmore key hrest

theorem plain_bindKey? {k : Value} {p bound : Path} (hp : p.Plain) (h : bindKey? k p = some bound) :
    bound.Plain := by
  refine ⟨?_, by rw [countP_bindKey? (fun _ _ => rfl) h]; exact hp.keys⟩
  obtain ⟨name, rest, rfl⟩ := hp.head
  obtain ⟨more, _, rfl⟩ := Option.map_eq_some_iff.1 h
  exact ⟨name, more, rfl⟩

theorem bound_of_bindIndexer [Run] {serial : Nat} {f : Field} {indexer : Option Text} {path : Path}
    (hf : f.path.Plain) (h : Mapper.bindIndexer serial f indexer = .ok (some path)) :
    path.Plain ∧ path.BoundTo f.keyType := by
  rcases Mapper.bindIndexer_cases h with ⟨hslot, rfl⟩ | ⟨_, k, hk, hbound⟩
  · exact ⟨hf, boundTo_of_count_eq_zero (count_of_not_hasKeySlot hslot)⟩
  · exact ⟨plain_bindKey? hf hbound,
      boundTo_bindKey? ⟨Value.type?_of_coerce hk, Value.tells_of_coerce hk⟩ hf.keys hbound⟩

def ofNames (names : List Text) : Path := names.map Segment.member

theorem key_not_mem_ofNames (key : Option Value) (names : List Text) :
    Segment.key key ∉ ofNames names := by
  intro hmem
  obtain ⟨_, _, hequal⟩ := List.mem_map.1 hmem
  cases hequal

theorem hasKeySlot_ofNames (names : List Text) : (ofNames names).hasKeySlot = false := by
  rw [hasKeySlot, ofNames, List.any_map, List.any_eq_false]
  exact fun _ _ => Bool.false_ne_true

theorem isNested_ofNames (names : List Text) : (ofNames names).isNested = false := by
  rw [isNested, ofNames, List.any_map, List.any_eq_false]
  exact fun _ _ => nofun

inductive Reached (type : FieldType) : Path → Prop
  | members (name : Text) (names : List Text) : Reached type (ofNames (name :: names))
  | keyed (name : Text) (names after : List Text) {k : Value} (hk : k.type? = some type ∧ k.Tells) :
      Reached type (ofNames (name :: names) ++ .key (some k) :: ofNames after)

theorem eq_ofNames {p : Path} (heach : p.isNested = false) (hkeys : p.countP Segment.isKey = 0) :
    ∃ names, p = ofNames names := by
  induction p with
  | nil => exact ⟨[], rfl⟩
  | cons s p ih =>
      rw [isNested_cons, Bool.or_eq_false_iff] at heach
      cases s with
      | each => cases heach.1
      | key bound =>
          rw [List.countP_cons_of_pos rfl] at hkeys
          omega
      | member name =>
          rw [List.countP_cons_of_neg (by simp [Segment.isKey])] at hkeys
          obtain ⟨names, rfl⟩ := ih heach.2 hkeys
          exact ⟨name :: names, rfl⟩

theorem reached_append {type : FieldType} (name : Text) (names : List Text) {p : Path}
    (heach : p.isNested = false) (hkeys : p.countP Segment.isKey ≤ 1) (hbound : p.BoundTo type) :
    Reached type (ofNames (name :: names) ++ p) := by
  induction p generalizing names with
  | nil =>
      rw [List.append_nil]
      exact .members name names
  | cons s p ih =>
      rw [isNested_cons, Bool.or_eq_false_iff] at heach
      cases s with
      | each => cases heach.1
      | key bound =>
          obtain ⟨k, rfl, hk⟩ := hbound bound List.mem_cons_self
          rw [List.countP_cons_of_pos rfl] at hkeys
          obtain ⟨after, rfl⟩ := eq_ofNames heach.2 (by omega)
          exact .keyed name names after hk
      | member next =>
          rw [List.countP_cons_of_neg (by simp [Segment.isKey])] at hkeys
          have hreached := ih (names ++ [next]) heach.2 hkeys
            fun key hmem => hbound key (List.mem_cons_of_mem _ hmem)
          simpa [ofNames] using hreached

theorem append_of_splitEach? {p before after : Path} (h : splitEach? p = some (before, after)) :
    p = before ++ .each :: after ∧ before.isNested = false := by
  fun_induction splitEach? p generalizing before after with
  | case1 => cases h
  | case2 rest =>
      cases h
      exact ⟨rfl, rfl⟩
  | case3 s rest hs ih =>
      obtain ⟨⟨front, back⟩, hsplit, hequal⟩ := Option.map_eq_some_iff.1 h
      cases hequal
      obtain ⟨rfl, hfront⟩ := ih hsplit
      refine ⟨rfl, ?_⟩
      rw [isNested_cons, hfront, Bool.or_false]
      cases s with
      | each => exact absurd rfl hs
      | member name => rfl
      | key bound => rfl

theorem reached_of_splitEach? {type : FieldType} {p before after : Path} (hp : p.Plain)
    (hbound : p.BoundTo type) (h : splitEach? p = some (before, after)) : Reached type before := by
  obtain ⟨hequal, heach⟩ := append_of_splitEach? h
  obtain ⟨name, rest, hhead⟩ := hp.head
  have hkeys := hp.keys
  rw [hequal, List.countP_append] at hkeys
  have hboundBefore : before.BoundTo type := by
    intro key hmem
    exact hbound key (by rw [hequal]; exact List.mem_append_left _ hmem)
  cases before with
  | nil =>
      rw [hhead] at hequal
      cases hequal
  | cons s before =>
      rw [hhead] at hequal
      cases hequal
      rw [List.countP_cons_of_neg (by simp [Segment.isKey])] at hkeys
      exact reached_append name [] heach (by omega)
        fun key hmem => hboundBefore key (List.mem_cons_of_mem _ hmem)

theorem boundTo_of_reached {type : FieldType} {p : Path} (h : Reached type p) : p.BoundTo type := by
  intro key hmem
  cases h with
  | members name names => exact absurd hmem (key_not_mem_ofNames key _)
  | keyed name names after hk =>
      rcases List.mem_append.1 hmem with hbefore | hmem
      · exact absurd hbefore (key_not_mem_ofNames key _)
      · rcases List.mem_cons.1 hmem with hequal | hafter
        · cases hequal
          exact ⟨_, rfl, hk⟩
        · exact absurd hafter (key_not_mem_ofNames key _)

/-! Sameness. Only doubles make it differ from equality. -/

theorem same_iff_eq {type : FieldType} (hfloat : type ≠ .float) {p q : Path} (hp : p.BoundTo type) :
    p.same q = true ↔ p = q := by
  induction p generalizing q with
  | nil => cases q <;> simp [Path.same]
  | cons s p ih =>
      cases q with
      | nil => simp [Path.same]
      | cons s' q =>
          have hrest : same p q = true ↔ p = q :=
            ih fun key hmem => hp key (List.mem_cons_of_mem _ hmem)
          have hhead : s.same s' = true ↔ s = s' := by
            cases s with
            | member name => simp [Segment.same]
            | each => simp [Segment.same]
            | key bound =>
                obtain ⟨k, rfl, hk⟩ := hp bound List.mem_cons_self
                cases s' with
                | member name => simp [Segment.same]
                | each => simp [Segment.same]
                | key bound' =>
                    cases bound' with
                    | none => simp [Segment.same]
                    | some k' =>
                        cases k with
                        | float x =>
                            cases hk.1
                            exact absurd rfl hfloat
                        | _ => simp [Segment.same, Value.same]
          rw [Path.same, Bool.and_eq_true, hhead, hrest, List.cons.injEq]

end FilterLang.Path
