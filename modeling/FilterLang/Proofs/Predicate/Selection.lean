import FilterLang.Proofs.Expr.Plain
import FilterLang.Proofs.Path.Reached
import FilterLang.Proofs.Predicate.Compiling
import FilterLang.Proofs.Predicate.Nulls
import FilterLang.Proofs.Query.Literals
import FilterLang.Proofs.Text.Bytes
import FilterLang.Run.Counting

/-!
What a plain comparison of a text field selects: the records whose text stands in the operator's relation
to the literal as it was before its special characters were escaped.
-/

namespace FilterLang

open Mapper

/-- A string itself, and a number or a truth value as it is printed. -/
def Json.text? : Json → Option Text
  | .string t => some t
  | .number n => some n.text
  | .bool b => some (if b then "true" else "false")
  | _ => none

def Json.textAt? : List Text → Json → Option Text
  | [], node => node.text?
  | name :: names, node => (node.get? name).bind fun next => next.textAt? names

theorem Value.ofNode_text [Zone] (drawn : Uuid) (node : Option Json) :
    ofNode drawn .text node = ((node.bind Json.text?).map Value.text).getD .null := by
  rcases node with _ | _ | b | n | t | items | members <;> rfl

theorem Path.text_walk?_ofNames (names : List Text) (record : Json) :
    ((ofNames names).walk? record).bind Json.text? = record.textAt? names := by
  induction names generalizing record with
  | nil => rfl
  | cons name names ih =>
      show ((record.get? name).bind fun next => walk? next (ofNames names)).bind Json.text? = _
      rw [Option.bind_assoc, Json.textAt?]
      simp only [ih]

theorem Path.readValue_ofNames [Run] (drawn : Uuid) (names : List Text) (record : Json) :
    (ofNames names).readValue drawn record .text =
      ((record.textAt? names).map Value.text).getD .null := by
  have hnull : ∀ found : Option Json,
      (found.filter fun node => !node.isNull).bind Json.text? = found.bind Json.text? := by
    rintro (_ | _ | b | n | t | items | members) <;> rfl
  rw [readValue, Value.ofNode_text, resolve?, hnull, text_walk?_ofNames]

def Bound.Relates : Bound → List UInt8 → List UInt8 → Prop
  | greater, s, t => t < s
  | greaterOrEqual, s, t => t ≤ s
  | less, s, t => s < t
  | lessOrEqual, s, t => s ≤ t

def TextRelation.Relates : TextRelation → Text → Text → Prop
  | contains, t, part => part <:+: t
  | startsWith, t, part => part <+: t
  | endsWith, t, part => part <:+ t

/-- The relation of a text to another one that a built-in operator asks for. -/
def Operator.Relates : Operator → Text → Text → Prop
  | equality false, t, w => t = w
  | equality true, t, w => t ≠ w
  | ordering bound, t, w => bound.Relates t.bytes w.bytes
  | textual relation false, t, w => relation.Relates t w
  | textual relation true, t, w => ¬ relation.Relates t w
  | custom _, _, _ => False

theorem Bound.accepts_order_iff (bound : Bound) (s t : Text) :
    bound.accepts (s.order t) = true ↔ bound.Relates s.bytes t.bytes := by
  cases bound with
  | greater => simp only [accepts, Relates, beq_iff_eq, Text.order_eq_gt_iff]
  | greaterOrEqual => simp only [accepts, Relates, bne_iff_ne, ne_eq, Text.order_eq_lt_iff, List.not_lt]
  | less => simp only [accepts, Relates, beq_iff_eq, Text.order_eq_lt_iff]
  | lessOrEqual => simp only [accepts, Relates, bne_iff_ne, ne_eq, Text.order_eq_gt_iff, List.not_lt]

theorem Text.occurs_iff {part t : Text} : occurs part t = true ↔ part <:+: t := by
  induction t with
  | nil => simp [occurs]
  | cons c t ih => rw [occurs, Bool.or_eq_true, ih, List.isPrefixOf_iff_prefix, List.infix_cons_iff]

theorem TextRelation.holds_iff (relation : TextRelation) (t part : Text) :
    relation.holds t part = true ↔ relation.Relates t part := by
  cases relation with
  | contains => exact Text.occurs_iff
  | startsWith => exact List.isPrefixOf_iff_prefix
  | endsWith => exact List.isSuffixOf_iff_suffix

/-! Comparisons of text with a literal that is compared as it is. -/

namespace Comparison

/-- The literal is a text, compared letter for letter, and stands for nothing else. -/
structure Verbatim (c : Comparison) (w : Text) : Prop where
  builtIn : c.operator.isCustom = false
  value : c.value = .text w
  ignoresCase : c.ignoresCase = false
  matchesAbsent : c.matchesAbsent = false

variable {c : Comparison} {w : Text}

theorem Verbatim.sound (h : c.Verbatim w) : c.Sound :=
  ⟨h.builtIn, fun habsent => by rw [h.matchesAbsent] at habsent; cases habsent⟩

theorem Verbatim.holdsOf_text (h : c.Verbatim w) (t : Text) :
    c.holdsOf (.text t) = true ↔ c.operator.Relates t w := by
  have hviewed : c.viewed (.text t) = .text t := by
    rw [viewed, h.ignoresCase]
    cases c.operator.isTextual <;> rfl
  have hcustom := h.builtIn
  rw [holdsOf, h.matchesAbsent, hviewed, related, h.value]
  generalize c.operator = op at hcustom ⊢
  have hequal : equalValues (.text t) (.text w) = true ↔ t = w := by
    simp [equalValues, Value.isNull, Value.order?, Text.order_eq_eq_iff]
  rcases op with negated | bound | ⟨relation, negated⟩ | own
  · cases negated <;> simp [Operator.Relates, ← hequal]
  · exact bound.accepts_order_iff t w
  · cases negated <;> simp [Operator.Relates, textsRelated, Value.asText?, ← relation.holds_iff]
  · cases hcustom

theorem Verbatim.holdsOf_null (h : c.Verbatim w) : c.holdsOf .null = c.operator.isNegated := by
  rw [Comparison.holdsOf_null h.sound, outcomeOnNull, h.matchesAbsent, h.value]
  cases c.operator with
  | equality negated => cases negated <;> rfl
  | _ => rfl

theorem Verbatim.holds_iff [Run] {names : List Text} (h : c.Verbatim w) (hpath : c.path = Path.ofNames names)
    (htype : c.type = .text) (record : Json) :
    c.holds record = true ↔
      match record.textAt? names with
      | some t => c.operator.Relates t w
      | none => c.operator.isNegated = true := by
  rw [holds, hpath, htype, Path.readValue_ofNames]
  cases record.textAt? names with
  | none =>
      show c.holdsOf .null = true ↔ _
      rw [h.holdsOf_null]
  | some t => exact h.holdsOf_text t

end Comparison

namespace Mapper

variable [Run] {m : Mapper} {f : Field} {op : Operator} {names : List Text} {name symbol : Text}

theorem literal?_plain (hcase : m.settings.caseInsensitiveFiltering = false) (htype : f.type = .text)
    (hconvertor : f.convertor = none) {v : Text} (h : ¬ op.Reserved m.settings v.trim) (serial : Nat) :
    m.literal? serial f op (Leaf.plain 0 name symbol v) false =
      some { value := .text v.trim, matchesAbsent := false, ignoresCase := false } := by
  have hfolds : (Leaf.plain 0 name symbol v).foldsCase m.settings op false = false := by
    rw [Leaf.foldsCase, hcase]
    rfl
  rw [literal?_text htype hconvertor h, hfolds]
  rfl

section Plain

variable (hname : Leaf.Nameable name symbol) (hfield : m.get? name = some f) (htype : f.type = .text)
  (hpath : f.path = Path.ofNames names) (hop : Operator.builtIn? symbol = some op) (v : Text)

omit [Run] in
include hname hfield in
theorem get?_plain : m.get? (fieldName (Leaf.plain 0 name symbol v)) = some f := by
  have htrim : name.trim = name :=
    Text.trim_of_not_blank fun c hc => Token.isBlank_of_isFieldChar (hname.chars c hc)
  rw [fieldName, Leaf.plain, htrim]
  exact hfield

include hname hfield hpath hop in
theorem asksValue_plain (hgoes : m.stops f op (Leaf.plain 0 name symbol v) = false) :
    (Leaf.plain 0 name symbol v).AsksValue m f op where
  field := get?_plain hname hfield v
  operator := Registry.resolve?_of_builtIn hop
  flat := by rw [Field.isNested, hpath]; exact Path.isNested_ofNames names
  keyless := by rw [hpath]; exact Path.hasKeySlot_ofNames names
  indexer := rfl
  goes := hgoes

include hname hfield htype hpath hop in
theorem asksText_plain : (Leaf.plain 0 name symbol v).AsksValue m f op :=
  asksValue_plain hname hfield hpath hop v (stops_of_ne_dateTime (by rw [htype]; decide) op _)

include hname hfield htype hpath hop in
theorem plan_plain : m.plan 0 (Leaf.plain 0 name symbol v) =
    .ok (m.planOf 0 f op f.path (Leaf.plain 0 name symbol v)) :=
  have hasks := asksText_plain hname hfield htype hpath hop v
  plan_of_bound hasks.field hasks.operator (hasks.bound 0) hasks.goes

include hname hfield htype hpath hop in
theorem meaning_plain : (Leaf.plain 0 name symbol v).meaning m 0 =
    .plain fun record => (m.literal? 0 f op (Leaf.plain 0 name symbol v) false).any fun lit =>
      guardedHolds m.settings false (comparisonOf f.path f op lit) record :=
  (asksText_plain hname hfield htype hpath hop v).meaning_eq 0

end Plain

end Mapper

namespace Predicate

/--
A plain comparison of a text field compiles. Unless its literal is reserved, it selects the records
whose text stands in the operator's relation to the very text that was escaped, less the blanks around
it, and those without a text if the operator is a negated one.
-/
theorem ofText_selects [Run] {m : Mapper} {f : Field} {names : List Text} {name symbol : Text} {op : Operator}
    (hcase : m.settings.caseInsensitiveFiltering = false) (hname : Leaf.Nameable name symbol)
    (hfield : m.get? name = some f) (htype : f.type = .text) (hconvertor : f.convertor = none)
    (hpath : f.path = Path.ofNames names) (hop : Operator.builtIn? symbol = some op) (v : Text) :
    ∃ p, ofText m (Leaf.plainText name symbol v) = .ok p ∧
      (¬ op.Reserved m.settings v.trim → ∀ record,
        p.holds record = true ↔
          match record.textAt? names with
          | some t => op.Relates t v.trim
          | none => op.isNegated = true) := by
  obtain ⟨p, hp, hmeans⟩ := exists_of_plan (plan_plain hname hfield htype hpath hop v)
  have hread := Expr.read_plainText m.registry m.settings.maxDepth.toNat hname v
  refine ⟨p, ?_, fun hreserved record => ?_⟩
  · rw [ofText_of_read (Leaf.allBlank_plainText hname v) hread, hp]
  · let lit : Literal := { value := .text v.trim, matchesAbsent := false, ignoresCase := false }
    have hverbatim : (comparisonOf f.path f op lit).Verbatim v.trim :=
      ⟨Operator.isCustom_of_builtIn? hop, rfl, rfl, rfl⟩
    rw [hmeans, meaning_plain hname hfield htype hpath hop v, Meaning.holds,
      literal?_plain hcase htype hconvertor hreserved 0, Option.any_some,
      guardedHolds_unindexed hverbatim.sound]
    exact hverbatim.holds_iff hpath htype record

open scoped Run.Counting

def nickname : Field where
  name := "alias"
  path := Path.ofNames ["names", "alias"]
  type := .text

def people : Mapper where
  fields := [nickname]
  settings := { avoidNullReference := true }

theorem ofText_selects_people :
    people.settings.caseInsensitiveFiltering = false ∧ Leaf.Nameable "alias" "!^" ∧
    people.get? "alias" = some nickname ∧ nickname.type = .text ∧ nickname.convertor = none ∧
    nickname.path = Path.ofNames ["names", "alias"] ∧
    Operator.builtIn? "!^" = some (.textual .startsWith true) ∧
    ∃ p, ofText people (Leaf.plainText "alias" "!^" " (a,\\b|") = .ok p ∧
      p.holds (.object [("names", .null)]) = true ∧
      p.holds (.object [("names", .object [("alias", .string "(a,\\b|c")])]) = false := by
  have hname : Leaf.Nameable "alias" "!^" := by decide
  have hfield : people.get? "alias" = some nickname := rfl
  obtain ⟨p, hp, hselects⟩ := ofText_selects rfl hname hfield rfl rfl rfl rfl " (a,\\b|"
  have hreserved : ¬ (Operator.textual .startsWith true).Reserved people.settings
      (Text.trim " (a,\\b|") := fun h => nomatch h.1
  refine ⟨rfl, hname, hfield, rfl, rfl, rfl, rfl, p, hp, (hselects hreserved _).2 rfl, ?_⟩
  rw [Bool.eq_false_iff]
  intro hholds
  exact (hselects hreserved _).1 hholds ⟨['c'], rfl⟩

end Predicate

end FilterLang
