import Mathlib
import FilterLang.Proofs.Expr.Guarded
import FilterLang.Proofs.Operator.Registered
import FilterLang.Proofs.Predicate.Compiling
import FilterLang.Proofs.Predicate.Rebuilding

/-!
Predicates of guarded filters: whatever stands in the parentheses, a record is selected only if the guard
alone selects it.
-/

namespace FilterLang.Predicate

open Outcome Mapper

section Runs

variable [Run] {literal : Nat → Uuid} {compared : Comparison → Json → Uuid} {m : Mapper}

/-- The right side of a conjunction compiles too, and what the whole selects it selects. -/
theorem exists_right_of_ofExpr_and {left right : Expr} {p : Predicate}
    (h : ofExpr m (.binary left .and right) = .ok p) :
    ∃ compiled, target.built m false left.leafCount right = .ok compiled ∧
      ∀ record, p.holds record = true → compiled.query.holds record = true := by
  rw [ofExpr_eq, Target.built_binary] at h
  obtain ⟨whole, hwhole, rfl⟩ := map_eq_ok_iff.1 h
  obtain ⟨l, _, hwhole⟩ := bind_eq_ok_iff.1 hwhole
  obtain ⟨r, hr, rfl⟩ := map_eq_ok_iff.1 hwhole
  rw [Nat.zero_add] at hr
  refine ⟨r, hr, fun record hholds => ?_⟩
  have hboth : l.query.holds record = true ∧ r.query.holds record = true := Bool.and_eq_true_iff.1 hholds
  exact hboth.2

theorem built_plain (serial offset : Nat) (field symbol value : Text) :
    target.built m false serial (.leaf (Leaf.plain offset field symbol value)) =
      target.built m false serial (.leaf (Leaf.plain 0 field symbol value)) := rfl

/--
Filter text that is not trusted, put in parentheses in front of a guard, cannot escape it. If the whole is read, it is
a conjunction with the guard on its right side, the literal without the blanks around it; and if the whole compiles,
then so does the guard alone, and what the whole selects the guard selects. The guard alone is compiled in another
run, which draws another identifier for a malformed one: where the guard's field is one, that is so of the records
that do not tell the two apart, and where it is of another type, of all.
-/
theorem ofText_guarded {untrusted field symbol value : Text} (hregistry : m.registry.Reachable)
    (hguard : Leaf.Nameable field symbol) (hbracket : ']' ∉ value) :
    (∀ limit e, Expr.read m.registry limit
        (Expr.guardedText untrusted (Leaf.plainText field symbol value)) = .ok e →
      ∃ left, e = .binary left .and
        (.leaf (Leaf.plain (Text.size untrusted + 3) field symbol value))) ∧
    ∀ p, ofText m (Expr.guardedText untrusted (Leaf.plainText field symbol value)) = .ok p →
      ∃ left q, Expr.read m.registry m.settings.maxDepth.toNat
          (Expr.guardedText untrusted (Leaf.plainText field symbol value)) =
            .ok (.binary left .and (.leaf (Leaf.plain (Text.size untrusted + 3) field symbol value))) ∧
        @ofText (Run.redrawn literal compared) m (Leaf.plainText field symbol value) = .ok q ∧
        (∀ record, (Leaf.plain 0 field symbol value).ToldAlike literal compared m left.leafCount 0 record →
          p.holds record = true → @holds (Run.redrawn literal compared) q record = true) ∧
        ((∀ f, m.get? (fieldName (Leaf.plain 0 field symbol value)) = some f → f.type ≠ .uuid) →
          ∀ record, p.holds record = true → @holds (Run.redrawn literal compared) q record = true) := by
  have hreads : ∀ limit e, Expr.read m.registry limit
      (Expr.guardedText untrusted (Leaf.plainText field symbol value)) = .ok e →
      ∃ left, e = .binary left .and (.leaf (Leaf.plain (Text.size untrusted + 3) field symbol value)) :=
    fun _ _ h => Expr.exists_guarded (Registry.wellFormed_of_reachable hregistry) hguard hbracket h
  refine ⟨hreads, fun p hp => ?_⟩
  obtain ⟨e, hread, hp⟩ := exists_of_ofText rfl hp
  obtain ⟨left, rfl⟩ := hreads _ e hread
  obtain ⟨there, hthere, hnarrow⟩ := exists_right_of_ofExpr_and hp
  rw [built_plain] at hthere
  obtain ⟨q, hq, hsame⟩ := exists_alone_of_built literal compared hthere
  have halone := Expr.read_plainText m.registry m.settings.maxDepth.toNat hguard value
  have hselects : ∀ record, (Leaf.plain 0 field symbol value).ToldAlike literal compared m left.leafCount 0 record →
      p.holds record = true → @holds (Run.redrawn literal compared) q record = true := by
    intro record hrecord hholds
    rw [hsame record hrecord]
    exact hnarrow record hholds
  refine ⟨left, q, hread, ?_, hselects, fun htype record =>
    hselects record (Leaf.toldAlike_of_ne_uuid (fun f _ => f.drawsKey_none) htype record)⟩
  rw [@ofText_of_read (Run.redrawn literal compared) _ _ _ (Leaf.allBlank_plainText hguard value) halone, hq]

end Runs

open scoped Run.Counting

def orders : Mapper where
  fields := [
    { name := "owner", path := [.member "owner"], type := .text },
    { name := "total", path := [.member "total"], type := .int },
    { name := "id", path := [.member "id"], type := .uuid }]

/-- Only the orders of one owner, whatever is asked, and this asks to be out of the parentheses. -/
def narrowed : Text := Expr.guardedText "total=1)|(total>=2" (Leaf.plainText "owner" "=" " a(b\\ ")

def bounded : Text := Expr.guardedText "total=1" (Leaf.plainText "id" ">" "abc")

theorem read_bounded : Expr.read orders.registry orders.settings.maxDepth.toNat bounded = .ok (.binary
    (.paren (.leaf (.plain 1 "total" "=" "1"))) .and (.leaf (.plain 10 "id" ">" "abc"))) := by cbv

abbrev later : Run := Run.redrawn (fun serial => Uuid.numbered (serial + 7)) Run.compared

def lastOrder : Json := .object [("id", .string "ffffffff-ffff-ffff-ffff-ffffffffffff"), ("total", .number (.whole 1))]

/-- Its identifier was drawn after that of the guard in the one run, and before that of the guard in the other. -/
def nextOrder : Json := .object [("id", .string "01900000-0000-7000-8000-000000000005"), ("total", .number (.whole 1))]

theorem read_lastOrder {run : Run} (c : Comparison) (hpath : c.path = [.member "id"]) (htype : c.type = .uuid) :
    c.read lastOrder = .ofNode .nil .uuid (Path.resolve? lastOrder [.member "id"]) := by
  have hstray : ¬ Json.Stray .uuid (Path.resolve? lastOrder [.member "id"]) := by
    rintro ⟨-, t, ht, hnone⟩
    cases ht
    revert hnone
    decide
  rw [Comparison.read, Path.readValue, hpath, htype]
  exact Value.ofNode_draw hstray _ .nil

theorem toldAlike_lastOrder : (Leaf.plain 0 "id" ">" "abc").ToldAlike (fun serial => Uuid.numbered (serial + 7))
    Run.compared orders 1 0 lastOrder := by
  refine ⟨Leaf.keyTold_of_given fun f _ => f.drawsKey_none,
    fun f op path path' hf hop hpath hpath' node hnode lit lit' => ?_⟩
  cases hf
  cases hop
  cases hpath
  cases hpath'
  obtain rfl := List.mem_singleton.1 hnode
  refine ⟨(read_lastOrder _ rfl rfl).trans (read_lastOrder _ rfl rfl).symm, fun _ => ?_⟩
  rw [read_lastOrder _ rfl rfl]
  show Value.order? _ (.uuid (Uuid.numbered 3)) = Value.order? _ (.uuid (Uuid.numbered 8))
  decide

theorem ofText_guarded_early_close :
    Registry.Reachable orders.registry ∧ Leaf.Nameable "owner" "=" ∧ ']' ∉ (" a(b\\ " : Text) ∧
    (∃ p q, ofText orders narrowed = .ok p ∧
      ofText orders (Leaf.plainText "owner" "=" " a(b\\ ") = .ok q ∧
      ∀ record, p.holds record = true → q.holds record = true) ∧
    ∃ q, @ofText later orders (Leaf.plainText "id" ">" "abc") = .ok q ∧ @holds later q lastOrder = true := by
  have hregistry : Registry.Reachable orders.registry := .empty
  have hnameable : Leaf.Nameable "owner" "=" := by decide
  have hnameable' : Leaf.Nameable "id" ">" := by decide
  have hbracket : ']' ∉ (" a(b\\ " : Text) := by decide
  refine ⟨hregistry, hnameable, hbracket, ?_, ?_⟩
  · have hcompiles : (ofText orders narrowed).isOk = true := by cbv
    obtain ⟨p, hp⟩ := exists_of_isOk hcompiles
    obtain ⟨left, q, -, hq, -, hnarrow⟩ := (@ofText_guarded _ Run.literal Run.compared orders
      _ _ _ _ hregistry hnameable hbracket).2 p hp
    refine ⟨p, q, hp, hq, hnarrow fun f hf => ?_⟩
    cases hf
    decide
  · have hp := ofText_of_read (Expr.allBlank_of_read read_bounded) read_bounded
    obtain ⟨left, q, hleft, hq, hnarrow, -⟩ :=
      (@ofText_guarded _ (fun serial => Uuid.numbered (serial + 7)) Run.compared orders
        _ _ _ _ hregistry hnameable' (by decide)).2 _ hp
    rw [show Expr.guardedText "total=1" (Leaf.plainText "id" ">" "abc") = bounded from rfl, read_bounded] at hleft
    cases hleft
    exact ⟨q, hq, hnarrow lastOrder toldAlike_lastOrder (by decide)⟩

/-- What is drawn for a malformed identifier is put in order with those that are stored. -/
theorem ofText_guarded_between :
    ∃ p q, ofText orders bounded = .ok p ∧ @ofText later orders (Leaf.plainText "id" ">" "abc") = .ok q ∧
      p.holds nextOrder = true ∧ @holds later q nextOrder = false := by
  have hp := ofText_of_read (Expr.allBlank_of_read read_bounded) read_bounded
  have hnameable : Leaf.Nameable "id" ">" := by decide
  have hq := @ofText_of_read later orders _ _ (Leaf.allBlank_plainText hnameable "abc")
    (Expr.read_plainText orders.registry orders.settings.maxDepth.toNat hnameable "abc")
  exact ⟨_, _, hp, hq, by decide, by decide⟩

end FilterLang.Predicate
