import FilterLang.Proofs.Order.Entries
import FilterLang.Proofs.Order.Validity

/-!
Orderings and sort keys. Entries in writing become one sort key each, in their order, and whatever compiles has the
words of such entries.
-/

namespace FilterLang

open Token Outcome OrderEntry WrittenEntry

section Runs

variable [Run]

/-- An entry that can order by a field: no collection, with a key exactly if one is asked for, and one that can be
read. Whether it can does not depend on what its reading draws. -/
structure WrittenEntry.Fits (e : WrittenEntry) (f : Field) : Prop where
  flat : f.isNested = false
  keyed : e.key.isSome = f.path.hasKeySlot
  readable : ∀ key ∈ e.key, ∃ v, Value.coerce (SortKey.keyDraw 0) none f.keyType key = .ok v

/-- An entry on a field that it fits, or on an unmapped one where those are ignored. -/
def WrittenEntry.Usable (m : Mapper) (e : WrittenEntry) : Prop :=
  match m.get? e.field with
  | some f => e.Fits f
  | none => m.settings.ignoreUnmappedFields = true

namespace SortKey

def Bound (serial : Nat) (f : Field) (written : Option Text) (path : Path) : Prop :=
  match written with
  | none => path = f.path
  | some key => ∃ v, Value.coerce (keyDraw serial) none f.keyType key = .ok v ∧ f.path.bindKey? v = some path

/-- The sort key that an entry at some place in an ordering stands for. -/
structure Settles (m : Mapper) (placed : WrittenEntry × Nat) (key : SortKey) : Prop where
  exists_field : ∃ f, m.get? placed.1.field = some f ∧ key.field = f.name ∧ key.type = f.type ∧
    Bound placed.2 f placed.1.key key.path
  direction_eq : key.direction = directionOf placed.1.word
  nullOrder_eq : key.nullOrder = placed.1.nullOrder

variable {m : Mapper} {f : Field} {e : WrittenEntry} {es : List WrittenEntry} {entries entries' : List OrderEntry}

theorem exists_bound (h : e.Fits f) (serial : Nat) :
    ∃ path, bindIndexer serial f e.key = .ok path ∧ Bound serial f e.key path := by
  have hkeyed := h.keyed
  cases hkey : e.key with
  | none =>
      rw [hkey] at hkeyed
      exact ⟨f.path, by simp only [bindIndexer, ← hkeyed, Option.isSome_none], rfl⟩
  | some key =>
      rw [hkey] at hkeyed
      have hslot : f.path.hasKeySlot = true := hkeyed.symm
      obtain ⟨v₀, hv₀⟩ := h.readable key hkey
      have hrelated := Value.related_coerce (keyDraw 0) (keyDraw serial) none f.keyType key
      rw [hv₀] at hrelated
      cases hv : Value.coerce (keyDraw serial) none f.keyType key with
      | error fault =>
          rw [hv] at hrelated
          cases hrelated
      | ok v =>
          obtain ⟨path, hpath⟩ : ∃ path, f.path.bindKey? v = some path := by
            rw [← Option.isSome_iff_exists, Path.bindKey?_isSome, hslot]
          refine ⟨path, ?_, v, hv, hpath⟩
          simp only [bindIndexer, hslot, hv, hpath, Option.getD_some]

theorem ofEntry?_of_fits (hfield : m.get? e.field = some f) (h : e.Fits f) (serial position : Nat) :
    ∃ key, ofEntry? m serial (e.entry position) = .ok (some key) ∧ Settles m (e, serial) key := by
  obtain ⟨path, hpath, hbound⟩ := exists_bound h serial
  refine ⟨⟨f.name, path, f.type, directionOf e.word, e.nullOrder⟩, ?_, ⟨f, hfield, rfl, rfl, hbound⟩, rfl, rfl⟩
  unfold ofEntry?
  simp only [WrittenEntry.entry, hfield, h.flat, Bool.false_eq_true, ↓reduceIte, hpath, bind, Except.bind]
  rfl

theorem ofEntry?_of_unmapped (hfield : m.get? e.field = none) (hignored : m.settings.ignoreUnmappedFields = true)
    (serial position : Nat) : ofEntry? m serial (e.entry position) = .ok none := by
  unfold ofEntry?
  simp only [WrittenEntry.entry, hfield, hignored, ↓reduceIte]

theorem fits_of_bindIndexer {serial : Nat} {path : Path} (hflat : f.isNested = false)
    (h : bindIndexer serial f e.key = .ok path) : e.Fits f := by
  unfold bindIndexer at h
  cases hkey : e.key with
  | none =>
      cases hslot : f.path.hasKeySlot with
      | true =>
          rw [hkey, hslot] at h
          cases h
      | false => exact ⟨hflat, by rw [hkey, hslot]; rfl, by rw [hkey]; exact nofun⟩
  | some key =>
      cases hslot : f.path.hasKeySlot with
      | false =>
          rw [hkey, hslot] at h
          cases h
      | true =>
          simp only [hkey, hslot] at h
          have hrelated := Value.related_coerce (keyDraw serial) (keyDraw 0) none f.keyType key
          split at h
          · rename_i v hv
            rw [hv] at hrelated
            refine ⟨hflat, by rw [hkey, hslot]; rfl, fun key' hkey' => ?_⟩
            obtain rfl : key = key' := Option.some.inj (hkey.symm.trans hkey')
            cases hv₀ : Value.coerce (keyDraw 0) none f.keyType key with
            | error fault =>
                rw [hv₀] at hrelated
                cases hrelated
            | ok v₀ => exact ⟨v₀, rfl⟩
          · cases h

theorem usable_of_compiles {serial position : Nat} {key : Option SortKey}
    (h : ofEntry? m serial (e.entry position) = .ok key) : e.Usable m := by
  unfold WrittenEntry.Usable
  unfold ofEntry? at h
  split at h
  · rename_i hfield
    change m.get? e.field = none at hfield
    rw [hfield]
    split at h
    · rename_i hignored
      exact hignored
    · cases h
  · rename_i f hfield
    change m.get? e.field = some f at hfield
    rw [hfield]
    split at h
    · cases h
    · rename_i hflat
      obtain ⟨path, hpath, -⟩ := bind_eq_ok_iff.1 h
      exact fits_of_bindIndexer (Bool.eq_false_iff.2 hflat) hpath

def mapped (m : Mapper) (placed : List (WrittenEntry × Nat)) : List (WrittenEntry × Nat) :=
  placed.filter fun p => (m.get? p.1.field).isSome

theorem ofEntries_of_meant (h : Meant es entries) (hes : ∀ e ∈ es, e.Usable m) (serial : Nat) :
    ∃ keys, ofEntries m serial entries = .ok keys ∧
      List.Forall₂ (Settles m) (mapped m (es.zipIdx serial)) keys := by
  induction h generalizing serial with
  | nil => exact ⟨[], rfl, .nil⟩
  | @cons e entry es entries hentry _ ih =>
      obtain ⟨position, rfl⟩ := hentry
      obtain ⟨he, hes⟩ := List.forall_mem_cons.1 hes
      -- Ignored entries count as well, so the others keep their serial numbers.
      obtain ⟨keys, hkeys, hsettles⟩ := ih hes (serial + 1)
      unfold WrittenEntry.Usable at he
      rw [ofEntries, hkeys, List.zipIdx_cons]
      cases hfield : m.get? e.field with
      | none =>
          rw [hfield] at he
          refine ⟨keys, by rw [ofEntry?_of_unmapped hfield he]; rfl, ?_⟩
          rwa [mapped, List.filter_cons_of_neg (by simp [hfield])]
      | some f =>
          rw [hfield] at he
          obtain ⟨key, hkey, hsettle⟩ := ofEntry?_of_fits hfield he serial position
          refine ⟨key :: keys, by rw [hkey]; rfl, ?_⟩
          rw [mapped, List.filter_cons_of_pos (by simp [hfield])]
          exact .cons hsettle hsettles

theorem usable_of_ofEntries {serial : Nat} {keys : List SortKey} (h : Meant es entries)
    (hkeys : ofEntries m serial entries = .ok keys) : ∀ e ∈ es, e.Usable m := by
  induction h generalizing serial keys with
  | nil => exact List.forall_mem_nil _
  | cons hentry _ ih =>
      obtain ⟨position, rfl⟩ := hentry
      obtain ⟨key, hkey, hkeys⟩ := bind_eq_ok_iff.1 hkeys
      obtain ⟨more, hmore, -⟩ := bind_eq_ok_iff.1 hkeys
      exact List.forall_mem_cons.2 ⟨usable_of_compiles hkey, ih hmore⟩

/-- Where its entries stand in a text does not matter to an ordering. -/
theorem ofEntries_eq_of_meant (h : Meant es entries) (h' : Meant es entries') (serial : Nat) :
    ofEntries m serial entries = ofEntries m serial entries' := by
  induction h generalizing entries' serial with
  | nil =>
      cases h'
      rfl
  | cons hentry _ ih =>
      obtain ⟨position, rfl⟩ := hentry
      obtain _ | ⟨⟨position', rfl⟩, hmore⟩ := h'
      rw [ofEntries, ofEntries, ih hmore]
      rfl

theorem ofText_renderAll (hes : ∀ e ∈ es, e.WellFormed) (m : Mapper) :
    ∃ entries, Meant es entries ∧ ofText m (renderAll es) = ofEntries m 0 entries := by
  obtain ⟨ts, hscan, hwords⟩ := ofOrdering_renderAll hes
  obtain ⟨entries, hread, hmeant⟩ := readAll_words hscan hwords hes
  exact ⟨entries, hmeant, by rw [ofText, hread]; rfl⟩

omit [Run] in
theorem mapped_eq_self (placed : List (WrittenEntry × Nat)) (h : ∀ p ∈ placed, ∃ f, m.get? p.1.field = some f) :
    mapped m placed = placed := by
  refine List.filter_eq_self.2 fun p hp => ?_
  obtain ⟨f, hf⟩ := h p hp
  rw [hf]
  rfl

/--
Entries that fit their fields compile to one sort key each, in their order. Where unmapped fields are ignored, entries
on them are left out and the others give the keys that they give anyway. And every ordering that compiles has the
words of entries in writing, which are of these kinds and compile to the same sort keys.
-/
theorem ofText_corresponds (m : Mapper) :
    (∀ es : List WrittenEntry, (∀ e ∈ es, e.WellFormed) →
      (∀ e ∈ es, ∃ f, m.get? e.field = some f ∧ e.Fits f) →
        ∃ keys, ofText m (renderAll es) = .ok keys ∧ List.Forall₂ (Settles m) es.zipIdx keys) ∧
    (m.settings.ignoreUnmappedFields = true → ∀ es : List WrittenEntry, (∀ e ∈ es, e.WellFormed) →
      (∀ e ∈ es, ∀ f, m.get? e.field = some f → e.Fits f) →
        ∃ keys, ofText m (renderAll es) = .ok keys ∧
          List.Forall₂ (Settles m) (mapped m es.zipIdx) keys) ∧
    ∀ t keys, ofText m t = .ok keys →
      ∃ es : List WrittenEntry, (∀ e ∈ es, e.WellFormed ∧ e.Usable m) ∧
        (∃ ts ts', ofOrdering t = .ok ts ∧ ofOrdering (renderAll es) = .ok ts' ∧
          ts.map Token.word = ts'.map Token.word) ∧
        ofText m (renderAll es) = .ok keys := by
  refine ⟨fun es hes hfits => ?_, fun hignored es hes hfits => ?_, fun t keys h => ?_⟩
  · obtain ⟨entries, hmeant, htext⟩ := ofText_renderAll hes m
    have husable : ∀ e ∈ es, e.Usable m := by
      intro e he
      obtain ⟨f, hfield, hfit⟩ := hfits e he
      rw [WrittenEntry.Usable, hfield]
      exact hfit
    obtain ⟨keys, hkeys, hsettles⟩ := ofEntries_of_meant hmeant husable 0
    rw [mapped_eq_self] at hsettles
    · exact ⟨keys, htext.trans hkeys, hsettles⟩
    · intro p hp
      obtain ⟨f, hfield, -⟩ := hfits p.1 (List.fst_mem_of_mem_zipIdx hp)
      exact ⟨f, hfield⟩
  · obtain ⟨entries, hmeant, htext⟩ := ofText_renderAll hes m
    have husable : ∀ e ∈ es, e.Usable m := by
      intro e he
      unfold WrittenEntry.Usable
      cases hfield : m.get? e.field with
      | none => exact hignored
      | some f => exact hfits e he f hfield
    obtain ⟨keys, hkeys, hsettles⟩ := ofEntries_of_meant hmeant husable 0
    exact ⟨keys, htext.trans hkeys, hsettles⟩
  · obtain ⟨entries, hread, hkeys⟩ := bind_eq_ok_iff.1 h
    obtain ⟨es, ts, hes, hscan, hwords, hmeant⟩ := readAll_sound hread
    obtain ⟨ts', hscan', hwords'⟩ := ofOrdering_renderAll hes
    obtain ⟨entries', hmeant', htext⟩ := ofText_renderAll hes m
    have husable := usable_of_ofEntries hmeant hkeys
    refine ⟨es, fun e he => ⟨hes e he, husable e he⟩, ⟨ts, ts', hscan, hscan', hwords.trans hwords'.symm⟩, ?_⟩
    rw [htext, ofEntries_eq_of_meant hmeant' hmeant, hkeys]

end SortKey

end Runs

namespace SortKey

open scoped Run.Counting

def twice : List WrittenEntry :=
  [⟨"props", some "7", .isNull, some "DESC"⟩, ⟨"props", some "-1", .natural, none⟩]

theorem ofText_corresponds_numbered :
    renderAll twice = "props[7]! DESC,props[-1]".toList ∧ (∀ e ∈ twice, e.WellFormed) ∧
      (∀ e ∈ twice, ∃ f, numbered.get? e.field = some f ∧ e.Fits f) ∧
      ∃ keys, ofText numbered (renderAll twice) = .ok keys ∧
        List.Forall₂ (Settles numbered) twice.zipIdx keys := by
  have hchars : ∀ c ∈ ("props" : Text), isFieldChar c = true := List.all_eq_true.1 rfl
  have hname : ¬IsDirection "props" := by decide
  have hdirection : IsDirection "DESC" := by decide
  have hwellFormed : ∀ e ∈ twice, e.WellFormed := by
    refine List.forall_mem_cons.2 ⟨?_, List.forall_mem_singleton.2 ?_⟩
    · refine ⟨by decide, hchars, hname, rfl, fun word hword => ?_⟩
      cases hword
      exact hdirection
    · exact ⟨by decide, hchars, hname, rfl, nofun⟩
  have hfits : ∀ e ∈ twice, ∃ f, numbered.get? e.field = some f ∧ e.Fits f := by
    refine List.forall_mem_cons.2 ⟨⟨_, rfl, ?_⟩, List.forall_mem_singleton.2 ⟨_, rfl, ?_⟩⟩
    · refine ⟨rfl, rfl, fun key hkey => ?_⟩
      cases hkey
      exact exists_of_isOk rfl
    · refine ⟨rfl, rfl, fun key hkey => ?_⟩
      cases hkey
      exact exists_of_isOk rfl
  exact ⟨by decide, hwellFormed, hfits, (ofText_corresponds numbered).1 twice hwellFormed hfits⟩

end SortKey

end FilterLang
