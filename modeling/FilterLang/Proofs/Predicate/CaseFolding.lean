import Mathlib
import FilterLang.Proofs.Expr.RoundTrip
import FilterLang.Proofs.Predicate.Elements
import FilterLang.Proofs.Predicate.Selection
import FilterLang.Proofs.Text.Lowercase

/-!
The marker that ignores the case of a literal. It lets a comparison of text hold of more records, and its
negation of fewer, but for literals with a capital sigma at an end where the text may go on, for the small form
of that sigma depends on how it goes on.
-/

namespace FilterLang

open Mapper

/-- No small form of a letter of the literal depends on what stands around it in a text of which the
relation holds. -/
def TextRelation.Settled : TextRelation → Text → Prop
  | contains, w => Text.beginsWithSigma w = false ∧ Text.endsWithSigma w = false
  | startsWith, w => Text.endsWithSigma w = false
  | endsWith, w => Text.beginsWithSigma w = false

theorem TextRelation.relates_lowercase {relation : TextRelation} {t w : Text} (hsettled : relation.Settled w)
    (h : relation.Relates t w) : relation.Relates t.lowercase w.lowercase := by
  cases relation with
  | contains => exact Text.isInfix_lowercase hsettled.1 hsettled.2 h
  | startsWith => exact Text.isPrefix_lowercase hsettled h
  | endsWith => exact Text.isSuffix_lowercase hsettled h

/-- Lower case keeps the relation of every text to a literal exactly if the literal is settled. -/
theorem TextRelation.settled_iff (relation : TextRelation) (w : Text) :
    relation.Settled w ↔ ∀ t, relation.Relates t w → relation.Relates t.lowercase w.lowercase := by
  refine ⟨fun hsettled t => relates_lowercase hsettled, fun hkeeps => ?_⟩
  cases relation with
  | contains =>
      refine ⟨Bool.eq_false_iff.2 fun hbegins => ?_, Bool.eq_false_iff.2 fun hends => ?_⟩
      · obtain ⟨c, hc, hhead⟩ := Text.exists_small_ne w.lowercase.head?
        exact Text.not_infix_of_beginsWithSigma hbegins hc hhead (hkeeps _ (List.infix_cons (List.infix_refl w)))
      · obtain ⟨c, hc, hlast⟩ := Text.exists_small_ne w.lowercase.getLast?
        exact Text.not_infix_of_endsWithSigma hends hc hlast (hkeeps _ (List.prefix_append w _).isInfix)
  | startsWith =>
      refine Bool.eq_false_iff.2 fun hends => ?_
      exact Text.not_prefix_of_endsWithSigma hends (.inl rfl) (hkeeps _ (List.prefix_append w _))
  | endsWith =>
      refine Bool.eq_false_iff.2 fun hbegins => ?_
      exact Text.not_suffix_of_beginsWithSigma hbegins (.inl rfl) (hkeeps _ (List.suffix_cons _ w))

/-- Equal texts have equal small forms; a text operator asks that the literal is settled. -/
def Operator.Settled : Operator → Text → Prop
  | textual relation _, w => relation.Settled w
  | _, _ => True

namespace Comparison

theorem equalValues_foldCase {field literal : Value} (h : equalValues field literal = true) :
    equalValues field.foldCase literal.foldCase = true := by
  cases field with
  | text t =>
      cases literal with
      | text w =>
          obtain rfl : t = w := by
            simpa [equalValues, Value.isNull, Value.order?, Text.order_eq_eq_iff] using h
          simp [equalValues, Value.foldCase, Value.isNull, Value.order?, Text.order_eq_eq_iff]
      | _ => exact h
  | _ => cases literal <;> exact h

theorem textsRelated_foldCase {relation : TextRelation} {field literal : Value}
    (hsettled : ∀ w, literal = .text w → relation.Settled w)
    (h : textsRelated relation field literal = true) :
    textsRelated relation field.foldCase literal.foldCase = true := by
  cases field with
  | text t =>
      cases literal with
      | text w =>
          have hrelates : relation.Relates t w := (relation.holds_iff t w).1 h
          exact (relation.holds_iff _ _).2 (TextRelation.relates_lowercase (hsettled w rfl) hrelates)
      | _ => exact h
  | _ => cases literal <;> exact h

/-- What an operator that has a negation, or is one, is about. -/
def positive : Operator → Value → Value → Bool
  | .equality _, field, literal => equalValues field literal
  | .textual relation _, field, literal => textsRelated relation field literal
  | _, _, _ => false

theorem positive_foldCase {op : Operator} {field literal : Value}
    (hsettled : ∀ w, literal = .text w → op.Settled w) (h : positive op field literal = true) :
    positive op field.foldCase literal.foldCase = true := by
  cases op with
  | equality negated => exact equalValues_foldCase h
  | textual relation negated => exact textsRelated_foldCase hsettled h
  | _ => cases h

theorem viewed_of_text (c : Comparison) {field : Value} (hfield : field = .null ∨ ∃ t, field = .text t) :
    c.viewed field = if c.ignoresCase then field.foldCase else field := by
  unfold viewed
  rcases hfield with rfl | ⟨t, rfl⟩
  · cases c.operator.isTextual <;> rfl
  · cases c.operator.isTextual <;> rfl

theorem holdsOf_of_text {c : Comparison} (hsound : c.Sound) (hordering : c.operator.isOrdering = false)
    {field : Value} (hfield : field = .null ∨ ∃ t, field = .text t) :
    c.holdsOf field =
      ((if c.matchesAbsent then isAbsent field
        else positive c.operator (if c.ignoresCase then field.foldCase else field) c.value) !=
          c.operator.isNegated) := by
  obtain ⟨hcustom, habsent⟩ := hsound
  rw [holdsOf, viewed_of_text c hfield]
  unfold related
  generalize c.operator = op at hordering hcustom habsent ⊢
  cases hmatches : c.matchesAbsent with
  | true =>
      have hequality := habsent hmatches
      cases op with
      | equality negated => cases negated <;> simp [Operator.isNegated]
      | _ => cases hequality
  | false =>
      cases op with
      | equality negated => rfl
      | ordering bound => cases hordering
      | textual relation negated => rfl
      | custom own => cases hcustom

/-- One comparison reads what the other one reads, and holds wherever that one does. -/
structure Implies [Run] (c c' : Comparison) : Prop where
  path : c'.path = c.path
  outcomeOnNull : c'.outcomeOnNull = c.outcomeOnNull
  holds : ∀ record, c.holds record = true → c'.holds record = true

theorem Implies.refl [Run] (c : Comparison) : c.Implies c := ⟨rfl, rfl, fun _ => id⟩

end Comparison

section Runs

variable [Run]

namespace Mapper

def textLiteral (op : Operator) (raw : Value) (folded : Bool) : Literal where
  value := if folded then raw.foldCase else raw
  matchesAbsent := op.isEquality && raw == .text []
  ignoresCase := folded

variable {m : Mapper} {f : Field} {op : Operator} {raw field : Value} {path : Path}

theorem literal?_of_textField (htype : f.type = .text) (serial : Nat) (l : Leaf) (nested : Bool) :
    m.literal? serial f op l nested =
      some (textLiteral op (rawLiteral m.settings f op l.value)
        (l.foldsCase m.settings op nested && !(rawLiteral m.settings f op l.value).isNull)) := by
  unfold literal?
  generalize rawLiteral m.settings f op l.value = raw
  have htyped : typedLiteral? m.settings serial f op raw = some raw := by
    cases raw <;> simp [typedLiteral?, htype]
  simp [htyped, htype, textLiteral, Leaf.foldsCase]

theorem readValue_text (drawn : Uuid) (path : Path) (record : Json) :
    path.readValue drawn record .text = path.readValue .nil record .text ∧
      (path.readValue .nil record .text = .null ∨ ∃ t, path.readValue .nil record .text = .text t) := by
  rw [Path.readValue, Path.readValue, Value.ofNode_text, Value.ofNode_text]
  cases (path.resolve? record).bind Json.text? with
  | none => exact ⟨rfl, .inl rfl⟩
  | some t => exact ⟨rfl, .inr ⟨t, rfl⟩⟩

/-- Folding both sides lets a comparison hold of more records, and its negation of fewer. -/
theorem implies_folded (htype : f.type = .text) (hordering : op.isOrdering = false)
    (hcustom : op.isCustom = false) (hsettled : ∀ w, raw = .text w → op.Settled w) :
    (op.isNegated = false → (comparisonOf path f op (textLiteral op raw false)).Implies
      (comparisonOf path f op (textLiteral op raw true))) ∧
    (op.isNegated = true → (comparisonOf path f op (textLiteral op raw true)).Implies
      (comparisonOf path f op (textLiteral op raw false))) := by
  have hnull : raw.foldCase.isNull = raw.isNull := by cases raw <;> rfl
  have houtcome : (comparisonOf path f op (textLiteral op raw true)).outcomeOnNull =
      (comparisonOf path f op (textLiteral op raw false)).outcomeOnNull := by
    simp [Comparison.outcomeOnNull, comparisonOf, textLiteral, hnull]
  have hholds : ∀ folded record, (comparisonOf path f op (textLiteral op raw folded)).holds record =
      ((if op.isEquality && raw == .text [] then
          Comparison.isAbsent (path.readValue .nil record .text)
        else Comparison.positive op
          (if folded then (path.readValue .nil record .text).foldCase
            else path.readValue .nil record .text)
          (if folded then raw.foldCase else raw)) != op.isNegated) := by
    intro folded record
    have hsound : (comparisonOf path f op (textLiteral op raw folded)).Sound :=
      ⟨hcustom, fun habsent => (Bool.and_eq_true_iff.1 habsent).1⟩
    have hread := readValue_text (Run.compared (comparisonOf path f op (textLiteral op raw folded)) record) path record
    rw [Comparison.holds, show (comparisonOf path f op (textLiteral op raw folded)).type = .text from htype]
    rw [show (comparisonOf path f op (textLiteral op raw folded)).path = path from rfl, hread.1]
    exact Comparison.holdsOf_of_text hsound hordering hread.2
  have hfold : ∀ field, Comparison.positive op field raw = true →
      Comparison.positive op field.foldCase raw.foldCase = true :=
    fun field => Comparison.positive_foldCase hsettled
  refine ⟨fun hnegated => ⟨rfl, houtcome, fun record => ?_⟩,
    fun hnegated => ⟨rfl, houtcome.symm, fun record => ?_⟩⟩
  · rw [hholds, hholds, hnegated, Bool.bne_false, Bool.bne_false]
    split
    · exact id
    · exact hfold _
  · rw [hholds, hholds, hnegated, Bool.bne_true, Bool.bne_true, Bool.not_eq_true', Bool.not_eq_true',
      ← Bool.not_eq_true, ← Bool.not_eq_true]
    split
    · exact id
    · exact mt (hfold _)

theorem guardedHolds_mono {settings : Settings} {indexed : Bool} {c c' : Comparison} (h : c.Implies c')
    (record : Json) : guardedHolds settings indexed c record = true →
      guardedHolds settings indexed c' record = true := by
  have hmono := h.holds record
  unfold guardedHolds
  rw [h.path, h.outcomeOnNull]
  cases indexed with
  | true =>
      simp only [↓reduceIte, Bool.and_eq_true]
      exact And.imp id hmono
  | false =>
      cases settings.avoidNullReference with
      | false => exact hmono
      | true =>
          cases c.outcomeOnNull with
          | true =>
              simp only [Bool.false_eq_true, ↓reduceIte, Bool.or_eq_true]
              exact Or.imp id hmono
          | false =>
              simp only [Bool.false_eq_true, ↓reduceIte, Bool.and_eq_true]
              exact And.imp id hmono

omit [Run] in
theorem holdsAlong_mono {condition condition' : Json → Bool}
    (h : ∀ element, condition element = true → condition' element = true) {collections : List Path}
    {record : Json} (hholds : holdsAlong condition collections record = true) :
    holdsAlong condition' collections record = true := by
  rw [holdsAlong_iff] at hholds ⊢
  obtain ⟨element, hmem, helement⟩ := hholds
  exact ⟨element, hmem, h element helement⟩

end Mapper

/-- The second leaf is the first one with the marker behind its literal. -/
structure Leaf.Marks (l l' : Leaf) : Prop where
  field : l'.field = l.field
  indexer : l'.indexer = l.indexer
  fieldIgnoresCase : l'.fieldIgnoresCase = l.fieldIgnoresCase
  symbol : l'.symbol = l.symbol
  value : l'.value = l.value
  marked : l'.valueIgnoresCase = true

namespace Leaf

variable {m : Mapper} {f : Field} {op : Operator} {l l' : Leaf}

theorem meaning_mono (hfield : m.get? (fieldName l) = some f) (hfield' : m.get? (fieldName l') = some f)
    (hop : m.registry.resolve? l.symbol = some op) (hop' : m.registry.resolve? l'.symbol = some op)
    (hindexer : l'.indexer = l.indexer)
    (h : ∀ nested, ∃ lit lit', m.literal? 0 f op l nested = some lit ∧
      m.literal? 0 f op l' nested = some lit' ∧
      ∀ path, (comparisonOf path f op lit).Implies (comparisonOf path f op lit'))
    (record : Json) : (l.meaning m 0).holds record = true → (l'.meaning m 0).holds record = true := by
  unfold meaning
  simp only [hfield, hfield', hop, hop', hindexer]
  cases bindIndexer 0 f l.indexer with
  | error fault => exact id
  | ok bound =>
      cases bound with
      | none => exact id
      | some path =>
          simp only [meaningOf]
          cases path.splitEach? with
          | none =>
              obtain ⟨lit, lit', hlit, hlit', himplies⟩ := h false
              simp only [Meaning.holds, hlit, hlit', Option.any_some, hindexer]
              exact guardedHolds_mono (himplies path) record
          | some parts =>
              obtain ⟨lit, lit', hlit, hlit', himplies⟩ := h true
              simp only [Meaning.holds, hlit, hlit', Option.any_some, List.any_eq_true]
              rintro ⟨element, hmem, helement⟩
              exact ⟨element, hmem, holdsAlong_mono (himplies _).holds helement⟩

theorem Marks.implies (h : l.Marks l') (htype : f.type = .text) (hcustom : op.isCustom = false)
    (hsettled : ∀ w, rawLiteral m.settings f op l.value = .text w → op.Settled w) (nested : Bool) :
    ∃ lit lit', m.literal? 0 f op l nested = some lit ∧ m.literal? 0 f op l' nested = some lit' ∧
      (op.isNegated = false → ∀ path, (comparisonOf path f op lit).Implies (comparisonOf path f op lit')) ∧
      (op.isNegated = true → ∀ path, (comparisonOf path f op lit').Implies (comparisonOf path f op lit)) := by
  have hfolds : l'.foldsCase m.settings op nested = !op.isOrdering := by
    rw [Leaf.foldsCase, h.marked]
    rfl
  refine ⟨_, _, literal?_of_textField htype 0 l nested, literal?_of_textField htype 0 l' nested, ?_⟩
  rw [h.value, hfolds]
  generalize hraw : rawLiteral m.settings f op l.value = raw at hsettled ⊢
  cases hmarked : !op.isOrdering && !raw.isNull with
  | false =>
      have hplain : (l.foldsCase m.settings op nested && !raw.isNull) = false := by
        rw [Leaf.foldsCase, Bool.and_assoc, hmarked, Bool.and_false]
      rw [hplain]
      exact ⟨fun _ _ => .refl _, fun _ _ => .refl _⟩
  | true =>
      rw [Bool.and_eq_true, Bool.not_eq_true', Bool.not_eq_true'] at hmarked
      cases l.foldsCase m.settings op nested && !raw.isNull with
      | true => exact ⟨fun _ _ => .refl _, fun _ _ => .refl _⟩
      | false =>
          exact ⟨fun hnegated _ => (implies_folded htype hmarked.1 hcustom hsettled).1 hnegated,
            fun hnegated _ => (implies_folded htype hmarked.1 hcustom hsettled).2 hnegated⟩

end Leaf

namespace Predicate

variable {m : Mapper} {f : Field} {op : Operator} {l l' : Leaf} {p : Predicate}

theorem ofExpr_marked (h : l.Marks l') (hfield : m.get? (fieldName l) = some f) (htype : f.type = .text)
    (hop : Operator.builtIn? l.symbol = some op) (hp : ofExpr m (.leaf l) = .ok p) :
    ∃ q, ofExpr m (.leaf l') = .ok q ∧
      ((∀ w, rawLiteral m.settings f op l.value = .text w → op.Settled w) →
        (op.isNegated = false → ∀ record, p.holds record = true → q.holds record = true) ∧
        (op.isNegated = true → ∀ record, q.holds record = true → p.holds record = true)) := by
  have hfield' : m.get? (fieldName l') = some f := by rwa [fieldName, h.field]
  have hresolved : m.registry.resolve? l.symbol = some op := Registry.resolve?_of_builtIn hop
  have hresolved' : m.registry.resolve? l'.symbol = some op := by rwa [h.symbol]
  have hgoes : f.type ≠ .dateTime := by rw [htype]; decide
  obtain ⟨op', bound, -, hbound, -⟩ := Leaf.bound_of_ofExpr hfield hp
  obtain ⟨p', hp', hmeans⟩ :=
    Leaf.exists_ofExpr_of_bound hfield hresolved hbound fun _ => stops_of_ne_dateTime hgoes op l
  rw [← h.indexer] at hbound
  obtain ⟨q, hq, hmeans'⟩ :=
    Leaf.exists_ofExpr_of_bound hfield' hresolved' hbound fun _ => stops_of_ne_dateTime hgoes op l'
  obtain rfl : p' = p := Except.ok.inj (hp'.symm.trans hp)
  refine ⟨q, hq, fun hsettled => ?_⟩
  have himplies := h.implies (m := m) htype (Operator.isCustom_of_builtIn? hop) hsettled
  refine ⟨fun hnegated record => ?_, fun hnegated record => ?_⟩
  · rw [hmeans, hmeans']
    refine Leaf.meaning_mono hfield hfield' hresolved hresolved' h.indexer (fun nested => ?_) record
    obtain ⟨lit, lit', hlit, hlit', hpositive, -⟩ := himplies nested
    exact ⟨lit, lit', hlit, hlit', hpositive hnegated⟩
  · rw [hmeans, hmeans']
    refine Leaf.meaning_mono hfield' hfield hresolved' hresolved h.indexer.symm (fun nested => ?_) record
    obtain ⟨lit, lit', hlit, hlit', -, hnegative⟩ := himplies nested
    exact ⟨lit', lit, hlit', hlit, hnegative hnegated⟩

/--
If a comparison of a text field with a built-in operator compiles, so does the one with the marker behind its
literal, whatever the literal is. It holds wherever the comparison without the marker does, and that of a
negation only where it does without the marker, if the literal is settled as the convertor and the search for
null leave it.
-/
theorem ofText_marked (hwritable : Leaf.Writable { l with value := [] })
    (hfield : m.get? (fieldName l) = some f) (htype : f.type = .text)
    (hop : Operator.builtIn? l.symbol = some op) (hp : ofText m l.render = .ok p) :
    ∃ q, ofText m (Leaf.render { l with valueIgnoresCase := true }) = .ok q ∧
      ((∀ w, rawLiteral m.settings f op l.value.trim = .text w → op.Settled w) →
        (op.isNegated = false → ∀ record, p.holds record = true → q.holds record = true) ∧
        (op.isNegated = true → ∀ record, q.holds record = true → p.holds record = true)) := by
  have hwritable' : Leaf.Writable { { l with valueIgnoresCase := true } with value := [] } :=
    ⟨hwritable.field_ne_nil, hwritable.field_chars, hwritable.key_trimmed, rfl, hwritable.builtIn⟩
  obtain ⟨l₁, hread, hl⟩ := Expr.read_render_leaf m.registry m.settings.maxDepth.toNat hwritable
  obtain ⟨l₂, hread', hl'⟩ := Expr.read_render_leaf m.registry m.settings.maxDepth.toNat hwritable'
  have hname : l₁.field = l.field := (congrArg Leaf.field hl :)
  have hsymbol : l₁.symbol = l.symbol := (congrArg Leaf.symbol hl :)
  have hvalue : l₁.value = l.value.trim := (congrArg Leaf.value hl :)
  have hmarks : l₁.Marks l₂ :=
    { field := (congrArg Leaf.field hl').trans hname.symm
      indexer := (congrArg Leaf.indexer hl').trans (congrArg Leaf.indexer hl).symm
      fieldIgnoresCase :=
        (congrArg Leaf.fieldIgnoresCase hl').trans (congrArg Leaf.fieldIgnoresCase hl).symm
      symbol := (congrArg Leaf.symbol hl').trans hsymbol.symm
      value := (congrArg Leaf.value hl').trans hvalue.symm
      marked := congrArg Leaf.valueIgnoresCase hl' }
  rw [ofText_of_read (Expr.allBlank_of_read hread) hread] at hp
  obtain ⟨q, hq, hholds⟩ := ofExpr_marked hmarks (by rwa [fieldName, hname]) htype (by rwa [hsymbol]) hp
  rw [hvalue] at hholds
  exact ⟨q, ofText_of_ofExpr hq hread', hholds⟩

end Predicate

end Runs

namespace Predicate

open scoped Run.Counting

def nicknamed (symbol value : Text) : Leaf := ⟨"alias", none, false, 0, symbol, 0, value, false⟩

def withNickname (t : Text) : Json := .object [("names", .object [("alias", .string t)])]

/-- At its end a text with a capital sigma is the same in a text that ends with it. -/
theorem ofText_marked_ending :
    ∃ q, ofText people "alias$ΟΣ/i" = .ok q ∧ q.holds (withNickname "ΛΟΓΟΣ") = true := by
  have hread : Expr.read people.registry people.settings.maxDepth.toNat "alias$ΟΣ" =
      .ok (.leaf { nicknamed "$" "ΟΣ" with symbolPosition := 5 }) := by cbv
  obtain ⟨p, hp⟩ : ∃ p, ofExpr people (.leaf { nicknamed "$" "ΟΣ" with symbolPosition := 5 }) = .ok p :=
    ⟨_, rfl⟩
  have hholds : p.holds (withNickname "ΛΟΓΟΣ") = true := by
    cases hp
    decide
  obtain ⟨q, hq, hmarked⟩ := ofText_marked (l := nicknamed "$" "ΟΣ") (by decide) rfl rfl rfl
    (ofText_of_ofExpr hp hread)
  refine ⟨q, hq, (hmarked ?_).1 rfl _ hholds⟩
  intro w hw
  cases hw
  show Text.beginsWithSigma _ = false
  decide +kernel

/-- A sigma ends the literal as a final one, and stands within the text as one that is not. -/
theorem ofText_marked_loses :
    ∃ p q, ofText people "alias=*ΑΣ" = .ok p ∧ ofText people "alias=*ΑΣ/i" = .ok q ∧
      p.holds (withNickname "ΑΣΑ") = true ∧ q.holds (withNickname "ΑΣΑ") = false := by
  have hread : Expr.read people.registry people.settings.maxDepth.toNat "alias=*ΑΣ" =
      .ok (.leaf { nicknamed "=*" "ΑΣ" with symbolPosition := 5 }) := by cbv
  have hread' : Expr.read people.registry people.settings.maxDepth.toNat "alias=*ΑΣ/i" =
      .ok (.leaf { nicknamed "=*" "ΑΣ" with symbolPosition := 5, valueIgnoresCase := true }) := by cbv
  refine ⟨_, _, ofText_of_ofExpr rfl hread, ofText_of_ofExpr rfl hread', ?_⟩
  decide +kernel

end Predicate

end FilterLang
