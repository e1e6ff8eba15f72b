import Mathlib.Data.List.Forall2
import FilterLang.Mapper.Schema
import FilterLang.Proofs.History
import FilterLang.Proofs.Outcome

/-!
The mapper as a finite map from names to fields, of which those that match count as one. Whatever was added and
removed before, a name finds just the field that was added last under a matching name and not removed since.
-/

namespace FilterLang.Mapper

open Outcome

/-- A change that is asked for. Questions change nothing, so that no history tells of them. -/
inductive Change
  | add (f : Field)
  | addText (name path : Text) (type : FieldType)
  | remove (name : Text)

namespace Change

def name : Change → Text
  | add f => f.name
  | addText name _ _ => name
  | remove name => name

/-- What a change puts in. A field whose path cannot be read is refused. -/
def added? : Change → Option Field
  | add f => some f
  | addText name path type => (readPath path).toOption.map fun path => { name := name, path := path, type := type }
  | remove _ => none

/-- Whether a change takes out a field if it is held. -/
def displaces (settings : Settings) : Change → Field → Bool
  | add g, f => namesMatch settings f.name g.name
  | addText name path _, f => (readPath path).isOk && namesMatch settings f.name name
  | remove name, f => namesMatch settings f.name name

end Change

def after (m : Mapper) : Change → Mapper
  | .add f => m.add f
  | .addText name path type => (m.addText name path type).toOption.getD m
  | .remove name => (m.remove name).1

def afterAll (m : Mapper) (changes : List Change) : Mapper := changes.foldl after m

/-- The field was added at some time, and since then no name that matches its own was added or removed. -/
def InForce (settings : Settings) (history : List Change) (f : Field) : Prop :=
  History.Stands Change.added? (Change.displaces settings) history f

variable {m : Mapper} {settings : Settings} {f g : Field} {name a b c : Text} {change : Change} {history : List Change}

theorem namesMatch_iff : namesMatch settings a b = true ↔
    if settings.caseSensitiveMapping then a = b else Text.lowerAscii a = Text.lowerAscii b := by
  unfold namesMatch Text.sameIgnoringAsciiCase
  split <;> exact beq_iff_eq

theorem namesMatch_self (settings : Settings) (a : Text) : namesMatch settings a a = true := by
  rw [namesMatch_iff]
  split <;> rfl

theorem namesMatch_comm (settings : Settings) (a b : Text) : namesMatch settings a b = namesMatch settings b a := by
  rw [Bool.eq_iff_iff, namesMatch_iff, namesMatch_iff]
  split <;> exact eq_comm

theorem namesMatch_trans (hab : namesMatch settings a b = true) (hbc : namesMatch settings b c = true) :
    namesMatch settings a c = true := by
  rw [namesMatch_iff] at *
  split <;> simp_all

/-- No two fields have names that match. -/
def Distinct (m : Mapper) : Prop := m.fields.Pairwise fun f g => namesMatch m.settings f.name g.name = false

theorem get?_eq_some_iff (h : m.Distinct) :
    m.get? name = some f ↔ f ∈ m.fields ∧ namesMatch m.settings f.name name = true := by
  refine History.find?_eq_some_iff_mem (h.imp fun {f g} hne hf => ?_)
  rw [Bool.eq_false_iff]
  intro hg
  rw [namesMatch_comm] at hg
  rw [namesMatch_trans hf hg] at hne
  cases hne

theorem addText_of_readPath {t : Text} {path : Path} (h : readPath t = .ok path) (m : Mapper) (name : Text)
    (type : FieldType) : m.addText name t type = .ok (m.add { name := name, path := path, type := type }) := by
  rw [addText, h]
  rfl

theorem addText_of_fault {t : Text} {e : Error} (h : readPath t = .error e) (m : Mapper) (name : Text)
    (type : FieldType) : m.addText name t type = .error e ∧ m.after (.addText name t type) = m := by
  have hfails : m.addText name t type = .error e := by
    rw [addText, h]
    rfl
  exact ⟨hfails, by rw [after, hfails]; rfl⟩

@[simp] theorem settings_after (m : Mapper) (change : Change) : (m.after change).settings = m.settings := by
  cases change with
  | add f => rfl
  | addText name t type =>
      cases hpath : readPath t with
      | error e => rw [(addText_of_fault hpath m name type).2]
      | ok path => rw [after, addText_of_readPath hpath]; rfl
  | remove name => rfl

theorem fields_after (m : Mapper) (change : Change) :
    (m.after change).fields = History.step Change.added? (Change.displaces m.settings) m.fields change := by
  cases change with
  | add f => rfl
  | addText name t type =>
      cases hpath : readPath t with
      | error e =>
          have hkept : (m.fields.filter fun f => !Change.displaces m.settings (.addText name t type) f) = m.fields :=
            List.filter_eq_self.2 fun f _ => by rw [Change.displaces, hpath]; rfl
          rw [(addText_of_fault hpath m name type).2, History.step, hkept, Change.added?, hpath]
          exact (List.append_nil _).symm
      | ok path =>
          rw [after, addText_of_readPath hpath]
          simp [Except.toOption, add, erase, History.step, Change.added?, Change.displaces, hpath, Except.isOk,
            Except.toBool]
  | remove name => exact (List.append_nil _).symm

theorem matches_of_not_displaces (hadded : change.added? = some g) (hkept : change.displaces settings f = false) :
    namesMatch settings f.name g.name = false := by
  cases change with
  | add _ =>
      cases hadded
      exact hkept
  | addText name t type =>
      cases hpath : readPath t with
      | error e =>
          rw [Change.added?, hpath] at hadded
          cases hadded
      | ok path =>
          rw [Change.added?, hpath] at hadded
          cases hadded
          rw [Change.displaces, hpath] at hkept
          exact hkept
  | remove name => cases hadded

theorem fields_afterAll (m : Mapper) (history : List Change) :
    (m.afterAll history).fields =
        history.foldl (History.step Change.added? (Change.displaces m.settings)) m.fields ∧
      (m.afterAll history).settings = m.settings := by
  induction history generalizing m with
  | nil => exact ⟨rfl, rfl⟩
  | cons change history ih =>
      obtain ⟨hfields, hsettings⟩ := ih (m.after change)
      rw [fields_after, settings_after] at hfields
      exact ⟨hfields, hsettings.trans (settings_after m change)⟩

theorem others_after (m : Mapper) (change : Change) :
    (m.after change).fields.filter (fun f => !namesMatch m.settings f.name change.name) =
      m.fields.filter fun f => !namesMatch m.settings f.name change.name := by
  have hadd : ∀ f : Field, (m.add f).fields.filter (fun g => !namesMatch m.settings g.name f.name) =
      m.fields.filter fun g => !namesMatch m.settings g.name f.name := by
    intro f
    simp [add, erase, namesMatch_self]
  cases change with
  | add f => exact hadd f
  | addText name t type =>
      cases hpath : readPath t with
      | error e => rw [(addText_of_fault hpath m name type).2]
      | ok path =>
          rw [after, addText_of_readPath hpath]
          exact hadd { name := name, path := path, type := type }
  | remove name => simp [after, remove, erase, Change.name]

/--
The mapper is the finite map that a history leaves: no two names match, every question about a name is answered by the
field in force whose name matches it, and every change leaves what stands under other names as it is.
-/
structure IsMapOf (settings : Settings) (history : List Change) (m : Mapper) : Prop where
  settings_eq : m.settings = settings
  held_iff : ∀ f, f ∈ m.fields ↔ InForce settings history f
  distinct : m.fields.Pairwise fun f g => namesMatch settings f.name g.name = false
  get?_iff : ∀ name f, m.get? name = some f ↔ InForce settings history f ∧ namesMatch settings f.name name = true
  resolve_iff : ∀ name f,
    m.resolve name = .ok f ↔ InForce settings history f ∧ namesMatch settings f.name name = true
  resolve_fails : ∀ name, (¬∃ f, InForce settings history f ∧ namesMatch settings f.name name = true) →
    m.resolve name = .error (.mappingNotFound name)
  contains_iff : ∀ name,
    m.contains name = true ↔ ∃ f, InForce settings history f ∧ namesMatch settings f.name name = true
  remove_iff : ∀ name,
    (m.remove name).2 = true ↔ ∃ f, InForce settings history f ∧ namesMatch settings f.name name = true
  /-- What is held stands in the order in which it was added. -/
  ordered : m.fields.Sublist (history.filterMap Change.added?)
  others_kept : ∀ change : Change,
    (m.after change).fields.filter (fun f => !namesMatch settings f.name change.name) =
      m.fields.filter fun f => !namesMatch settings f.name change.name
  addText_reads : ∀ name t type path, readPath t = .ok path →
    m.addText name t type = .ok (m.add { name := name, path := path, type := type })
  addText_fails : ∀ name t type e, readPath t = .error e →
    m.addText name t type = .error e ∧ m.after (.addText name t type) = m

theorem isMapOf_of_fields (h : m.fields = history.foldl (History.step Change.added? (Change.displaces m.settings)) []) :
    m.IsMapOf m.settings history := by
  have hheld : ∀ f, f ∈ m.fields ↔ InForce m.settings history f := fun f => by
    rw [h]
    exact History.mem_foldl_step_nil_iff
  have hdistinct : m.Distinct := by
    rw [Distinct, h]
    refine History.pairwise_foldl_step .nil (fun change f g => ?_) history
    exact matches_of_not_displaces
  have hget : ∀ name f, m.get? name = some f ↔
      InForce m.settings history f ∧ namesMatch m.settings f.name name = true := fun name f => by
    rw [get?_eq_some_iff hdistinct, hheld]
  have hcontains : ∀ name, m.contains name = true ↔
      ∃ f, InForce m.settings history f ∧ namesMatch m.settings f.name name = true := fun name => by
    simp only [contains, Option.isSome_iff_exists, hget]
  exact
    { settings_eq := rfl
      held_iff := hheld
      distinct := hdistinct
      get?_iff := hget
      resolve_iff := fun name f => by
        rw [← hget, resolve]
        cases m.get? name <;> simp
      resolve_fails := fun name hnone => by
        cases hfound : m.get? name with
        | none => rw [resolve, hfound]
        | some f => exact absurd ⟨f, (hget name f).1 hfound⟩ hnone
      contains_iff := hcontains
      remove_iff := hcontains
      ordered := by
        rw [h]
        exact History.foldl_step_sublist history []
      others_kept := others_after m
      addText_reads := fun name t type path hpath => addText_of_readPath hpath m name type
      addText_fails := fun name t type e hpath => addText_of_fault hpath m name type }

def empty (settings : Settings) (registry : Registry) : Mapper := { settings := settings, registry := registry }

theorem isMapOf_afterAll_empty (settings : Settings) (registry : Registry) (history : List Change) :
    ((empty settings registry).afterAll history).IsMapOf settings history := by
  obtain ⟨hfields, hsettings⟩ := fields_afterAll (empty settings registry) history
  have hmap := @isMapOf_of_fields ((empty settings registry).afterAll history) history <| by
    rw [hfields, hsettings]
    rfl
  rwa [hsettings] at hmap

theorem field_eq_ok_iff {f : SchemaField} : f.field = .ok g ↔
    ∃ path, readPath f.path = .ok path ∧
      g = {
        name := f.name, path := path, type := f.type, nullable := f.nullable, keyType := f.keyType.getD .text } := by
  rw [SchemaField.field, bind_eq_ok_iff]
  refine exists_congr fun path => and_congr_right fun _ => ?_
  exact ⟨fun h => by cases h; rfl, fun h => by rw [h]; rfl⟩

theorem foldlM_add_eq_ok_iff {fs : List SchemaField} {m m' : Mapper} :
    fs.foldlM (fun m f => f.field.map m.add) m = .ok m' ↔
      ∃ gs, List.Forall₂ (fun f g => f.field = .ok g) fs gs ∧ m' = gs.foldl add m := by
  induction fs generalizing m with
  | nil =>
      rw [List.foldlM_nil]
      constructor
      · intro h
        cases h
        exact ⟨[], .nil, rfl⟩
      · rintro ⟨gs, hgs, rfl⟩
        cases hgs
        rfl
  | cons f fs ih =>
      rw [List.foldlM_cons, bind_eq_ok_iff]
      constructor
      · rintro ⟨m₁, hm₁, h⟩
        obtain ⟨g, hg, rfl⟩ := map_eq_ok_iff.1 hm₁
        obtain ⟨gs, hgs, rfl⟩ := ih.1 h
        exact ⟨g :: gs, .cons hg hgs, rfl⟩
      · rintro ⟨_, hgs, rfl⟩
        cases hgs with
        | cons hg hgs => exact ⟨_, map_eq_ok_iff.2 ⟨_, hg, rfl⟩, ih.2 ⟨_, hgs, rfl⟩⟩

theorem foldlM_add_fails_iff {fs : List SchemaField} {m : Mapper} :
    (∃ e, fs.foldlM (fun m f => f.field.map m.add) m = .error e) ↔ ∃ f ∈ fs, ∃ e, readPath f.path = .error e := by
  induction fs generalizing m with
  | nil => simp [pure, Except.pure]
  | cons f fs ih =>
      rw [List.foldlM_cons]
      cases hpath : readPath f.path with
      | error e =>
          have hfield : f.field = .error e := by
            rw [SchemaField.field, hpath]
            rfl
          simp [hfield, hpath, Except.map, bind, Except.bind]
      | ok path =>
          obtain ⟨g, hfield⟩ : ∃ g, f.field = .ok g := ⟨_, field_eq_ok_iff.2 ⟨path, hpath, rfl⟩⟩
          have hadded : f.field.map m.add = .ok (m.add g) := by
            rw [hfield]
            rfl
          have hpathOk : ¬∃ e, readPath f.path = .error e := by simp [hpath]
          rw [hadded, List.exists_mem_cons_iff, or_iff_right hpathOk]
          exact ih

theorem addSchema_of_readSchema {t : Text} {fs : List SchemaField} (h : readSchema t = .ok fs) (m : Mapper) :
    m.addSchema t = fs.foldlM (fun m f => f.field.map m.add) m := by
  rw [addSchema, h]
  rfl

/--
Whatever is added to an empty mapper and removed again, it stays the finite map that its history leaves. A schema is the
history that adds its fields in order, and it fails exactly if the path of one of them cannot be read.
-/
theorem isMapOf_changes (settings : Settings) (registry : Registry) :
    (∀ history, ((empty settings registry).afterAll history).IsMapOf settings history) ∧
      ∀ t fs, readSchema t = .ok fs →
        ((∃ e, (empty settings registry).addSchema t = .error e) ↔ ∃ f ∈ fs, ∃ e, readPath f.path = .error e) ∧
          ∀ m, (empty settings registry).addSchema t = .ok m →
            ∃ gs, List.Forall₂ (fun f g => f.field = .ok g) fs gs ∧ m = gs.foldl add (empty settings registry) ∧
              ∀ history, (m.afterAll history).IsMapOf settings (gs.map Change.add ++ history) := by
  refine ⟨isMapOf_afterAll_empty settings registry, fun t fs hread => ?_⟩
  rw [addSchema_of_readSchema hread]
  refine ⟨foldlM_add_fails_iff, fun m hm => ?_⟩
  obtain ⟨gs, hgs, rfl⟩ := foldlM_add_eq_ok_iff.1 hm
  refine ⟨gs, hgs, rfl, fun history => ?_⟩
  have hadded : gs.foldl add (empty settings registry) = (empty settings registry).afterAll (gs.map Change.add) := by
    rw [afterAll, List.foldl_map]
    rfl
  rw [hadded, afterAll, afterAll, ← List.foldl_append]
  exact isMapOf_afterAll_empty settings registry _

end FilterLang.Mapper
