import Mathlib
import FilterLang.Order.SortKey
import FilterLang.Proofs.Query.Strictness
import FilterLang.Run.Counting
import FilterLang.Validity

/-!
Validity of orderings. It does not ask whether the keys of indexers can be read, and nothing else is left
out: a valid ordering compiles, or fails for the first of its keys that cannot be read.
-/

namespace FilterLang

open Outcome Mapper

section Runs

variable [Run]

namespace Mapper

def keyFault? (m : Mapper) (entry : OrderEntry) : Option MappingCause :=
  match m.get? entry.field, entry.indexer with
  | some f, some key =>
    match Value.coerce (SortKey.keyDraw 0) none f.keyType key with
    | .ok _ => none
    | .error error => some (.invalidIndexer f.name error)
  | _, _ => none

/-- What is wrong with the first key of an ordering that cannot be read. -/
def orderingKeyFault? (m : Mapper) (t : Text) : Option MappingCause :=
  match OrderEntry.readAll t with
  | .ok entries => entries.findSome? m.keyFault?
  | .error _ => none

omit [Run] in
theorem acceptsEntry_iff (m : Mapper) (entry : OrderEntry) :
    m.acceptsEntry entry = true ↔ ∃ f, m.get? entry.field = some f ∧ f.isNested = false ∧
      entry.indexer.isSome = f.path.hasKeySlot := by
  unfold acceptsEntry
  cases m.get? entry.field <;> simp

end Mapper

namespace SortKey

variable {m : Mapper} {entry : OrderEntry} {entries : List OrderEntry} {t : Text}

theorem bindIndexer_of_key {f : Field} (hslot : f.path.hasKeySlot = true) (serial : Nat) (key : Text) :
    match Value.coerce (keyDraw 0) none f.keyType key with
    | .ok _ => ∃ path, bindIndexer serial f (some key) = .ok path
    | .error error => bindIndexer serial f (some key) = .error (.mapping (.invalidIndexer f.name error)) := by
  have hrelated := Value.related_coerce (keyDraw 0) (keyDraw serial) none f.keyType key
  simp only [bindIndexer, hslot]
  generalize Value.coerce (keyDraw 0) none f.keyType key = first at hrelated ⊢
  generalize Value.coerce (keyDraw serial) none f.keyType key = here at hrelated ⊢
  cases hrelated with
  | error fault => rfl
  | ok _ => exact ⟨_, rfl⟩

/-- A valid entry has a sort key unless its own key cannot be read. -/
theorem ofEntry?_of_valid (h : m.acceptsEntry entry = true) (serial : Nat) :
    match m.keyFault? entry with
    | some cause => ofEntry? m serial entry = .error (.mapping cause)
    | none => ∃ key, ofEntry? m serial entry = .ok (some key) := by
  obtain ⟨f, hfield, hflat, hindexer⟩ := (acceptsEntry_iff m entry).1 h
  unfold keyFault? ofEntry?
  simp only [hfield, hflat, Bool.false_eq_true, ↓reduceIte]
  cases hkey : entry.indexer with
  | none =>
      rw [hkey] at hindexer
      have hbound : bindIndexer serial f none = .ok f.path := by
        simp only [bindIndexer, ← hindexer, Option.isSome_none]
      rw [hbound]
      exact ⟨_, rfl⟩
  | some key =>
      rw [hkey] at hindexer
      have hbound := bindIndexer_of_key hindexer.symm serial key
      dsimp only
      generalize Value.coerce (keyDraw 0) none f.keyType key = read at hbound ⊢
      cases read with
      | ok v =>
          obtain ⟨path, hpath⟩ := hbound
          rw [hpath]
          exact ⟨_, rfl⟩
      | error error =>
          dsimp only at hbound ⊢
          rw [hbound]
          rfl

theorem valid_of_ofEntry?_strict {serial : Nat} {key : Option SortKey}
    (h : ofEntry? m.strict serial entry = .ok key) : m.acceptsEntry entry = true := by
  rw [acceptsEntry_iff]
  unfold ofEntry? at h
  rw [get?_strict] at h
  split at h
  · cases h
  · rename_i f hfield
    refine ⟨f, hfield, ?_⟩
    split at h
    · cases h
    · rename_i hflat
      obtain ⟨path, hpath, _⟩ := bind_eq_ok_iff.1 h
      refine ⟨by simpa using hflat, ?_⟩
      cases hkey : entry.indexer <;> cases hslot : f.path.hasKeySlot <;>
        simp only [bindIndexer, hkey, hslot, reduceCtorEq] at hpath <;> rfl

theorem ofEntry?_strict (h : m.acceptsEntry entry = true) (serial : Nat) :
    ofEntry? m.strict serial entry = ofEntry? m serial entry := by
  obtain ⟨f, hfield, _⟩ := (acceptsEntry_iff m entry).1 h
  unfold ofEntry?
  rw [get?_strict, hfield]

theorem ofEntries_of_valid (h : ∀ entry ∈ entries, m.acceptsEntry entry = true) (serial : Nat) :
    match entries.findSome? m.keyFault? with
    | some cause => ofEntries m serial entries = .error (.mapping cause)
    | none => ∃ keys, ofEntries m serial entries = .ok keys := by
  induction entries generalizing serial with
  | nil => exact ⟨[], rfl⟩
  | cons entry entries ih =>
      have hfirst := ofEntry?_of_valid (h entry List.mem_cons_self) serial
      have hmore := ih (fun other hother => h other (List.mem_cons_of_mem _ hother)) (serial + 1)
      rw [List.findSome?_cons, ofEntries]
      cases hfault : m.keyFault? entry with
      | some cause =>
          rw [hfault] at hfirst
          dsimp only at hfirst ⊢
          rw [hfirst]
          rfl
      | none =>
          rw [hfault] at hfirst
          obtain ⟨key, hkey⟩ := hfirst
          rw [hkey]
          cases hfound : entries.findSome? m.keyFault? with
          | some cause =>
              rw [hfound] at hmore
              dsimp only at hmore ⊢
              rw [hmore]
              rfl
          | none =>
              rw [hfound] at hmore
              obtain ⟨keys, hkeys⟩ := hmore
              rw [hkeys]
              exact ⟨_, rfl⟩

theorem valid_of_ofEntries_strict {serial : Nat} {keys : List SortKey}
    (h : ofEntries m.strict serial entries = .ok keys) :
    ∀ entry ∈ entries, m.acceptsEntry entry = true := by
  induction entries generalizing serial keys with
  | nil => exact List.forall_mem_nil _
  | cons entry entries ih =>
      obtain ⟨key, hkey, h⟩ := bind_eq_ok_iff.1 h
      obtain ⟨more, hmore, _⟩ := bind_eq_ok_iff.1 h
      exact List.forall_mem_cons.2 ⟨valid_of_ofEntry?_strict hkey, ih hmore⟩

theorem ofEntries_strict (h : ∀ entry ∈ entries, m.acceptsEntry entry = true) (serial : Nat) :
    ofEntries m.strict serial entries = ofEntries m serial entries := by
  induction entries generalizing serial with
  | nil => rfl
  | cons entry entries ih =>
      rw [ofEntries, ofEntries, ofEntry?_strict (h entry List.mem_cons_self),
        ih fun other hother => h other (List.mem_cons_of_mem _ hother)]

/--
An ordering compiles where unmapped fields are not ignored exactly if it is valid and all its keys can be
read. A valid one does the same where they are ignored, and fails for nothing but its first key that cannot
be read.
-/
theorem ofText_strict_iff (m : Mapper) (t : Text) :
    ((∃ keys, ofText m.strict t = .ok keys) ↔
      m.acceptsOrdering t = true ∧ m.orderingKeyFault? t = none) ∧
    (m.acceptsOrdering t = true → ofText m t = ofText m.strict t ∧
      ∀ cause, m.orderingKeyFault? t = some cause → ofText m t = .error (.mapping cause)) := by
  unfold ofText acceptsOrdering orderingKeyFault?
  cases OrderEntry.readAll t with
  | error fault => simp [bind, Except.bind]
  | ok entries =>
      simp only [bind, Except.bind, List.all_eq_true]
      refine ⟨⟨?_, ?_⟩, fun hvalid => ⟨(ofEntries_strict hvalid 0).symm, fun cause hcause => ?_⟩⟩
      · rintro ⟨keys, hkeys⟩
        have hvalid := valid_of_ofEntries_strict hkeys
        have hread := ofEntries_of_valid hvalid 0
        rw [← ofEntries_strict hvalid, hkeys] at hread
        refine ⟨hvalid, ?_⟩
        cases hfound : entries.findSome? m.keyFault? with
        | none => rfl
        | some cause =>
            rw [hfound] at hread
            cases hread
      · rintro ⟨hvalid, hfound⟩
        have hread := ofEntries_of_valid hvalid 0
        rw [hfound, ← ofEntries_strict hvalid] at hread
        exact hread
      · have hread := ofEntries_of_valid hvalid 0
        rw [hcause] at hread
        exact hread

end SortKey

end Runs

namespace SortKey

open scoped Run.Counting

def numbered : Mapper where
  fields := [{ name := "props", path := [.member "props", .key none], type := .int, keyType := .int }]

theorem ofText_strict_iff_numbered :
    (∃ keys, ofText numbered.strict "props[7]! desc" = .ok keys) ∧
      ofText numbered "props[7], props[x], props[y]" =
        .error (.mapping (.invalidIndexer "props" (.malformed "x" .int))) := by
  have hread : OrderEntry.readAll "props[7]! desc" =
      .ok [⟨"props", some "7", .descending, .isNull, 0⟩] := by cbv
  have hread' : OrderEntry.readAll "props[7], props[x], props[y]" =
      .ok [⟨"props", some "7", .ascending, .natural, 0⟩, ⟨"props", some "x", .ascending, .natural, 10⟩,
        ⟨"props", some "y", .ascending, .natural, 20⟩] := by cbv
  have hvalid : numbered.acceptsOrdering "props[7]! desc" = true := by
    rw [acceptsOrdering, hread]
    rfl
  have hkey : numbered.orderingKeyFault? "props[7]! desc" = none := by
    rw [orderingKeyFault?, hread]
    rfl
  have hvalid' : numbered.acceptsOrdering "props[7], props[x], props[y]" = true := by
    rw [acceptsOrdering, hread']
    rfl
  have hfault : numbered.orderingKeyFault? "props[7], props[x], props[y]" =
      some (.invalidIndexer "props" (.malformed "x" .int)) := by
    rw [orderingKeyFault?, hread']
    rfl
  exact ⟨(ofText_strict_iff numbered _).1.2 ⟨hvalid, hkey⟩,
    ((ofText_strict_iff numbered _).2 hvalid').2 _ hfault⟩

/-- A valid ordering that does not compile. -/
theorem acceptsOrdering_unreadable_key :
    numbered.acceptsOrdering "props[abc]" = true ∧
      ofText numbered.strict "props[abc]" =
        .error (.mapping (.invalidIndexer "props" (.malformed "abc" .int))) := by
  have hread : OrderEntry.readAll "props[abc]" =
      .ok [⟨"props", some "abc", .ascending, .natural, 0⟩] := by cbv
  constructor
  · rw [acceptsOrdering, hread]
    rfl
  · rw [ofText, hread]
    rfl

end SortKey

end FilterLang
