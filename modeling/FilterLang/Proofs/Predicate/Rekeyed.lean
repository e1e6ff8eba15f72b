import FilterLang.Proofs.Predicate.Elements
import Mathlib.Data.List.Forall2

/-!
Paths under other keys. They lead to the same places of a document if nothing within it tells the keys apart.
-/

namespace FilterLang

/-- What can be reached in a document: itself, and what its arrays and objects hold. -/
inductive Json.Within (document : Json) : Json → Prop
  | self : Within document document
  | item {items : List Json} {item : Json} (h : Within document (.array items)) (hitem : item ∈ items) :
      Within document item
  | member {members : List (Text × Json)} {key : Text} {value : Json} (h : Within document (.object members))
      (hmember : (key, value) ∈ members) : Within document value

def Json.TellsKeysAlike (document : Json) (k k' : Value) : Prop :=
  ∀ node, document.Within node → (k.text?.bind fun name => node.get? name) = k'.text?.bind fun name => node.get? name

namespace Path

variable {document node : Json}

theorem within_of_get? (h : document.Within node) {key : Text} {value : Json} (hvalue : node.get? key = some value) :
    document.Within value := by
  cases node with
  | object members =>
      obtain ⟨⟨name, found⟩, hfound, rfl⟩ := Option.map_eq_some_iff.1 hvalue
      exact h.member (List.mem_of_find?_eq_some hfound)
  | _ => cases hvalue

theorem within_of_step? (h : document.Within node) {s : Segment} {next : Json} (hstep : s.step? node = some next) :
    document.Within next := by
  rcases s with name | _ | _ | k
  case member => exact within_of_get? h hstep
  case key.some =>
    obtain ⟨name, -, hget⟩ := Option.bind_eq_some_iff.1 hstep
    exact within_of_get? h hget
  all_goals cases hstep

theorem within_of_walk? (h : document.Within node) {p : Path} {found : Json} (hwalk : p.walk? node = some found) :
    document.Within found := by
  induction p generalizing node with
  | nil =>
      cases hwalk
      exact h
  | cons s p ih =>
      obtain ⟨next, hstep, hrest⟩ := Option.bind_eq_some_iff.1 hwalk
      exact ih (within_of_step? h hstep) hrest

theorem within_of_resolve? (h : document.Within node) {p : Path} {found : Json}
    (hfound : p.resolve? node = some found) : document.Within found :=
  within_of_walk? h (Option.filter_eq_some_iff.1 hfound).1

theorem within_of_mem_elements (h : document.Within node) {collection : Path} {element : Json}
    (helement : element ∈ collection.elements node) : document.Within element := by
  unfold elements at helement
  split at helement
  · rename_i items hfound
    exact (within_of_resolve? h hfound).item helement
  · cases helement

theorem within_of_mem_innermost (h : document.Within node) {collections : List Path} {element : Json}
    (helement : element ∈ innermost collections node) : document.Within element := by
  induction collections generalizing node with
  | nil =>
      obtain rfl := List.mem_singleton.1 helement
      exact h
  | cons collection more ih =>
      obtain ⟨first, hfirst, hmore⟩ := List.mem_flatMap.1 helement
      exact ih (within_of_mem_elements h hfirst) hmore

end Path

/-- The same hop, or one under another key that none of the documents tells apart from it. -/
inductive Segment.Rekeyed (among : Json → Prop) : Segment → Segment → Prop
  | same (s : Segment) : Rekeyed among s s
  | key {k k' : Value} (h : ∀ document, among document → document.TellsKeysAlike k k') :
      Rekeyed among (key (some k)) (key (some k'))

def Path.Rekeyed (among : Json → Prop) : Path → Path → Prop := List.Forall₂ (Segment.Rekeyed among)

variable {among : Json → Prop} {document node : Json}

namespace Segment.Rekeyed

variable {s s' : Segment}

theorem isEach_eq (h : Rekeyed among s s') : s.isEach = s'.isEach := by
  cases h <;> rfl

theorem step?_eq (h : Rekeyed among s s') (hamong : among document) (hnode : document.Within node) :
    s.step? node = s'.step? node := by
  cases h with
  | same s => rfl
  | key h => exact h document hamong node hnode

end Segment.Rekeyed

namespace Path

theorem rekeyed_self (among : Json → Prop) (p : Path) : p.Rekeyed among p :=
  List.forall₂_same.2 fun s _ => .same s

namespace Rekeyed

variable {p p' : Path}

theorem walk?_eq (h : p.Rekeyed among p') (hamong : among document) (hnode : document.Within node) :
    p.walk? node = p'.walk? node := by
  induction h generalizing node with
  | nil => rfl
  | @cons s s' p p' hs _ ih =>
      rw [walk?, walk?, ← hs.step?_eq hamong hnode]
      cases hstep : s.step? node with
      | none => rfl
      | some next => exact ih (within_of_step? hnode hstep)

theorem resolve?_eq (h : p.Rekeyed among p') (hamong : among document) (hnode : document.Within node) :
    p.resolve? node = p'.resolve? node := by
  rw [resolve?, resolve?, h.walk?_eq hamong hnode]

theorem elements_eq (h : p.Rekeyed among p') (hamong : among document) (hnode : document.Within node) :
    p.elements node = p'.elements node := by
  rw [elements, elements, h.resolve?_eq hamong hnode]

theorem holdsKey_eq (h : p.Rekeyed among p') {k k' : Value}
    (hkey : ∀ document, among document → document.TellsKeysAlike k k') (hamong : among document)
    (hnode : document.Within node) : p.holdsKey k node = p'.holdsKey k' node := by
  rw [holdsKey, holdsKey, ← h.resolve?_eq hamong hnode]
  cases hfound : p.resolve? node with
  | none => rfl
  | some map =>
      have htold := hkey document hamong map (within_of_resolve? hnode hfound)
      revert htold
      cases k.text? <;> cases k'.text? <;> intro htold
      · rfl
      · exact congrArg Option.isSome htold
      · exact congrArg Option.isSome htold
      · exact congrArg Option.isSome htold

theorem bindKey? {k k' : Value} (hkey : ∀ document, among document → document.TellsKeysAlike k k') (p : Path) :
    Option.Rel (Path.Rekeyed among) (p.bindKey? k) (p.bindKey? k') := by
  induction p with
  | nil => exact .none
  | cons s p ih =>
      cases s with
      | key _ => exact .some (.cons (.key hkey) (rekeyed_self among p))
      | _ =>
          simp only [Path.bindKey?]
          generalize Path.bindKey? k p = bound at ih ⊢
          generalize Path.bindKey? k' p = bound' at ih ⊢
          cases ih with
          | none => exact .none
          | some hrest => exact .some (.cons (.same _) hrest)

theorem splitEach? (h : p.Rekeyed among p') :
    Option.Rel (fun parts parts' => parts.1.Rekeyed among parts'.1 ∧ parts.2.Rekeyed among parts'.2)
      p.splitEach? p'.splitEach? := by
  induction h with
  | nil => exact .none
  | @cons s s' p p' hs hrest ih =>
      cases heach : s.isEach with
      | true =>
          obtain rfl := Segment.eq_each_of_isEach heach
          cases hs
          exact .some ⟨.nil, hrest⟩
      | false =>
          rw [splitEach?_cons heach, splitEach?_cons (hs.isEach_eq ▸ heach)]
          generalize Path.splitEach? p = parts at ih ⊢
          generalize Path.splitEach? p' = parts' at ih ⊢
          cases ih with
          | none => exact .none
          | some hparts => exact .some ⟨.cons hs hparts.1, hparts.2⟩

theorem hops (h : p.Rekeyed among p') :
    List.Forall₂ (Path.Rekeyed among) p.hops.1 p'.hops.1 ∧ p.hops.2.Rekeyed among p'.hops.2 := by
  induction h with
  | nil => exact ⟨.nil, .nil⟩
  | @cons s s' p p' hs _ ih =>
      cases heach : s.isEach with
      | true =>
          obtain rfl := Segment.eq_each_of_isEach heach
          cases hs
          exact ⟨.cons .nil ih.1, ih.2⟩
      | false =>
          rw [hops_cons heach, hops_cons (hs.isEach_eq ▸ heach)]
          obtain ⟨hcollections, hlast⟩ := ih
          generalize Path.hops p = parts at hcollections hlast ⊢
          generalize Path.hops p' = parts' at hcollections hlast ⊢
          obtain ⟨collections, last⟩ := parts
          obtain ⟨collections', last'⟩ := parts'
          cases hcollections with
          | nil => exact ⟨.nil, .cons hs hlast⟩
          | cons hfirst hmore => exact ⟨.cons (.cons hs hfirst) hmore, hlast⟩

theorem guards (h : p.Rekeyed among p') : List.Forall₂ (Path.Rekeyed among) p.guards p'.guards := by
  induction h with
  | nil => exact .nil
  | cons hs hrest ih =>
      cases hrest with
      | nil => exact .nil
      | cons _ _ =>
          refine .cons (.cons hs .nil) ?_
          rw [List.forall₂_map_left_iff, List.forall₂_map_right_iff]
          exact ih.imp fun _ _ hguard => .cons hs hguard

theorem splitKey? (h : p.Rekeyed among p') :
    Option.Rel (fun parts parts' => parts.1.Rekeyed among parts'.1 ∧
      ∀ document, among document → document.TellsKeysAlike parts.2 parts'.2) p.splitKey? p'.splitKey? := by
  induction h with
  | nil => exact .none
  | @cons s s' p p' hs _ ih =>
      cases hs with
      | key hkey => exact .some ⟨.nil, hkey⟩
      | same =>
          rcases s with name | _ | _ | k
          case key.some => exact .some ⟨.nil, fun _ _ _ _ => rfl⟩
          all_goals
            simp only [Path.splitKey?]
            generalize Path.splitKey? _ = parts at ih ⊢
            generalize Path.splitKey? _ = parts' at ih ⊢
            cases ih with
            | none => exact .none
            | some hparts => exact .some ⟨.cons (.same _) hparts.1, hparts.2⟩

theorem innermost_eq {collections collections' : List Path}
    (h : List.Forall₂ (Path.Rekeyed among) collections collections') (hamong : among document)
    (hnode : document.Within node) : innermost collections node = innermost collections' node := by
  induction h generalizing node with
  | nil => rfl
  | @cons collection collection' more more' hfirst _ ih =>
      rw [innermost, innermost, ← hfirst.elements_eq hamong hnode]
      exact List.flatMap_congr fun element helement => ih (within_of_mem_elements hnode helement)

end Rekeyed

end Path

end FilterLang
