import FilterLang.Proofs.Calendar.Reading
import FilterLang.Run.Counting
import FilterLang.Value.Node

/-!
What is read from a record. A node is read as null or as a value of the declared type, and as a value just if it
denotes one. Only a text that is read as an identifier and is none stands for a new one at every reading.
-/

namespace FilterLang

namespace Text

def IsDigits (t : Text) : Prop := t ≠ [] ∧ ∀ c ∈ t, c.isDigit = true

/-- A whole number is written in digits, after a sign if it has one. -/
inductive SpellsInt : Text → Int → Prop
  | bare {digits : Text} (h : IsDigits digits) : SpellsInt digits (ofDecimal digits)
  | plus {digits : Text} (h : IsDigits digits) : SpellsInt ('+' :: digits) (ofDecimal digits)
  | minus {digits : Text} (h : IsDigits digits) : SpellsInt ('-' :: digits) (-(ofDecimal digits : Int))

/-- A truth value is a word in letters of any case, or a digit. -/
inductive SpellsBool (t : Text) : Bool → Prop
  | yes (h : lowerAscii t = "true".toList ∨ lowerAscii t = "1".toList) : SpellsBool t true
  | no (h : lowerAscii t = "false".toList ∨ lowerAscii t = "0".toList) : SpellsBool t false

theorem isDigits_iff {t : Text} : IsDigits t ↔ (t.isEmpty || !t.all Char.isDigit) = false := by
  simp [IsDigits]

theorem splitSign_cases (t : Text) :
    (∃ rest, t = '-' :: rest ∧ splitSign t = (true, rest)) ∨
      (∃ rest, t = '+' :: rest ∧ splitSign t = (false, rest)) ∨ splitSign t = (false, t) := by
  unfold splitSign
  split
  · exact .inl ⟨_, rfl, rfl⟩
  · exact .inr (.inl ⟨_, rfl, rfl⟩)
  · exact .inr (.inr rfl)

theorem splitSign_of_isDigits {t : Text} (h : IsDigits t) : splitSign t = (false, t) := by
  rcases splitSign_cases t with ⟨rest, rfl, -⟩ | ⟨rest, rfl, -⟩ | hsplit
  · cases h.2 '-' List.mem_cons_self
  · cases h.2 '+' List.mem_cons_self
  · exact hsplit

theorem readInt?_eq {t digits : Text} {negative : Bool} (hsplit : splitSign t = (negative, digits))
    (h : IsDigits digits) :
    readInt? t = some (if negative then -(ofDecimal digits : Int) else ofDecimal digits) := by
  rw [readInt?, hsplit]
  simp only [isDigits_iff.1 h, Bool.false_eq_true, ↓reduceIte]

theorem isDigits_of_readInt? {t : Text} {i : Int} (h : readInt? t = some i) : IsDigits (splitSign t).2 := by
  unfold readInt? at h
  dsimp only at h
  split at h
  · cases h
  · next hdigits => exact isDigits_iff.2 (Bool.not_eq_true _ ▸ hdigits)

theorem readInt?_eq_some_iff {t : Text} {i : Int} : readInt? t = some i ↔ SpellsInt t i := by
  constructor
  · intro h
    have hdigits := isDigits_of_readInt? h
    rcases splitSign_cases t with ⟨rest, rfl, hsplit⟩ | ⟨rest, rfl, hsplit⟩ | hsplit
    all_goals
      rw [hsplit] at hdigits
      rw [readInt?_eq hsplit hdigits] at h
      cases h
    · exact .minus hdigits
    · exact .plus hdigits
    · exact .bare hdigits
  · intro h
    cases h with
    | bare hdigits => exact readInt?_eq (splitSign_of_isDigits hdigits) hdigits
    | plus hdigits => exact readInt?_eq rfl hdigits
    | minus hdigits => exact readInt?_eq rfl hdigits

end Text

namespace Value

theorem readBool?_eq_some_iff {t : Text} {b : Bool} : readBool? t = some b ↔ t.SpellsBool b := by
  have hapart : ∀ word : Text, (word = "true".toList ∨ word = "1".toList) →
      ¬ (word = "false".toList ∨ word = "0".toList) := by
    rintro word (rfl | rfl) <;> decide
  unfold readBool?
  dsimp only
  constructor
  · intro h
    split at h
    · next hyes => cases h; exact .yes hyes
    · split at h
      · next hno => cases h; exact .no hno
      · cases h
  · rintro (hyes | hno)
    · rw [if_pos hyes]
    · rw [if_neg fun hyes => hapart _ hyes hno, if_pos hno]

def OfType (type : FieldType) (v : Value) : Prop := v = null ∨ v.type? = some type

instance (type : FieldType) (v : Value) : Decidable (OfType type v) :=
  inferInstanceAs (Decidable (_ ∨ _))

end Value

section Reading

variable [Zone]

/-- What a text denotes as a literal of a type, where a date-time without an offset is taken as written. -/
inductive Text.Denotes (t : Text) : FieldType → Value → Prop
  | text : t.Denotes .text (.text t)
  | int {n : Int64} (h : t.trim.SpellsInt n.toInt) : t.Denotes .int (.int n)
  | float {x : Double} (h : Double.read? t.trim = some x) : t.Denotes .float (.float x)
  | bool {b : Bool} (h : t.trim.SpellsBool b) : t.Denotes .bool (.bool b)
  | uuid {u : Uuid} (h : Uuid.read? t.trim = some u) : t.Denotes .uuid (.uuid u)
  | dateTime {d : DateTime} (h : DateTime.read? none t.trim = some d) : t.Denotes .dateTime (.dateTime d)
  | date {d : Date} (h : Date.read? t.trim = some d) : t.Denotes .date (.date d)

/-- What a node denotes as a value of a type. Numbers and truth values are texts as they are printed. -/
inductive Json.Denotes : Json → FieldType → Value → Prop
  | string {t : Text} {type : FieldType} {v : Value} (h : t.Denotes type v) : (Json.string t).Denotes type v
  | numberText (n : Json.Number) : (Json.number n).Denotes .text (.text n.text)
  | boolText (b : Bool) : (Json.bool b).Denotes .text (.text (if b then "true" else "false"))
  | int (n : Int64) : (Json.number (.whole n.toInt)).Denotes .int (.int n)
  | whole (i : Int) : (Json.number (.whole i)).Denotes .float (.float (Double.ofInt i))
  | real (x : Double) : (Json.number (.real x)).Denotes .float (.float x)
  | bool (b : Bool) : (Json.bool b).Denotes .bool (.bool b)

/-- A text that is read as an identifier and is none. -/
def Json.Stray (type : FieldType) (node : Option Json) : Prop :=
  type = .uuid ∧ ∃ t, node = some (.string t) ∧ Uuid.read? t.trim = none

namespace Value

variable {type : FieldType} {t : Text} {v : Value}

theorem coerce_eq_ok_iff {drawn : Uuid} {kind : Option DateTimeKind} (h : type ≠ .text) :
    coerce drawn kind type t = .ok v ↔ readTrimmed? drawn kind type t.trim = some v := by
  rw [coerce, if_neg h]
  cases readTrimmed? drawn kind type t.trim <;> simp

theorem tells_of_coerce {drawn : Uuid} (h : coerce drawn none type t = .ok v) : v.Tells := by
  cases v with
  | dateTime x =>
      cases type?_of_coerce h
      rw [coerce_eq_ok_iff (by decide)] at h
      obtain ⟨y, hread, hequal⟩ := Option.map_eq_some_iff.1 h
      cases hequal
      exact DateTime.tells_of_read? hread
  | _ => trivial

theorem coerce_of_denotes (h : t.Denotes type v) (drawn : Uuid) : coerce drawn none type t = .ok v := by
  cases h with
  | text => rfl
  | int hspells =>
      rw [coerce_eq_ok_iff (by decide), readTrimmed?, Text.readInt?_eq_some_iff.2 hspells, Option.bind_some,
        wordOfInt?_toInt, Option.map_some]
  | float hread => rw [coerce_eq_ok_iff (by decide), readTrimmed?, hread, Option.map_some]
  | bool hspells =>
      rw [coerce_eq_ok_iff (by decide), readTrimmed?, readBool?_eq_some_iff.2 hspells, Option.map_some]
  | uuid hread => rw [coerce_eq_ok_iff (by decide), readTrimmed?, Uuid.read, hread, Option.getD_some]
  | dateTime hread => rw [coerce_eq_ok_iff (by decide), readTrimmed?, hread, Option.map_some]
  | date hread => rw [coerce_eq_ok_iff (by decide), readTrimmed?, hread, Option.map_some]

/-- What a literal is read as it denotes, unless it is the identifier that it draws. -/
theorem denotes_of_coerce {drawn : Uuid} (h : coerce drawn none type t = .ok v) :
    t.Denotes type v ∨ (type = .uuid ∧ Uuid.read? t.trim = none) ∧ v = .uuid drawn := by
  by_cases htext : type = .text
  · subst htext
    cases h
    exact .inl .text
  rw [coerce_eq_ok_iff htext] at h
  cases type with
  | text => exact absurd rfl htext
  | uuid =>
      rw [readTrimmed?, Uuid.read, Option.some.injEq] at h
      cases hread : Uuid.read? t.trim with
      | none => rw [hread] at h; exact .inr ⟨⟨rfl, rfl⟩, h.symm⟩
      | some d => rw [hread] at h; subst h; exact .inl (.uuid hread)
  | int =>
      obtain ⟨n, hword, rfl⟩ := Option.map_eq_some_iff.1 h
      obtain ⟨i, hread, hi⟩ := Option.bind_eq_some_iff.1 hword
      rw [wordOfInt?_eq_some_iff] at hi
      subst hi
      exact .inl (.int (Text.readInt?_eq_some_iff.1 hread))
  | float =>
      obtain ⟨x, hread, rfl⟩ := Option.map_eq_some_iff.1 h
      exact .inl (.float hread)
  | bool =>
      obtain ⟨b, hread, rfl⟩ := Option.map_eq_some_iff.1 h
      exact .inl (.bool (readBool?_eq_some_iff.1 hread))
  | dateTime =>
      obtain ⟨d, hread, rfl⟩ := Option.map_eq_some_iff.1 h
      exact .inl (.dateTime hread)
  | date =>
      obtain ⟨d, hread, rfl⟩ := Option.map_eq_some_iff.1 h
      exact .inl (.date hread)

theorem ofNode_of_denotes {node : Json} (h : node.Denotes type v) (drawn : Uuid) :
    ofNode drawn type (some node) = v := by
  cases h with
  | string hliteral => rw [ofNode, coerce_of_denotes hliteral]; rfl
  | int n => simp only [ofNode, ofNumber, wordOfInt?_toInt, Option.map_some, Option.getD_some]
  | _ => rfl

theorem denotes_of_ofNode {drawn : Uuid} {node : Json} (h : ofNode drawn type (some node) = v)
    (hnull : v ≠ null) :
    node.Denotes type v ∨ Json.Stray type (some node) ∧ v = .uuid drawn := by
  cases node with
  | null => exact absurd h.symm hnull
  | array items => exact absurd h.symm hnull
  | object members => exact absurd h.symm hnull
  | bool b =>
      cases type with
      | text => exact .inl (h ▸ .boolText b)
      | bool => exact .inl (h ▸ .bool b)
      | _ => exact absurd h.symm hnull
  | number n =>
      cases type with
      | text => exact .inl (h ▸ .numberText n)
      | int =>
          cases n with
          | whole i =>
              simp only [ofNode, ofNumber] at h
              cases hword : wordOfInt? i with
              | none => rw [hword] at h; exact absurd h.symm hnull
              | some n =>
                  rw [hword] at h
                  rw [← wordOfInt?_eq_some_iff.1 hword]
                  exact .inl (h ▸ .int n)
          | real x => exact absurd h.symm hnull
      | float =>
          cases n with
          | whole i => exact .inl (h ▸ .whole i)
          | real x => exact .inl (h ▸ .real x)
      | _ => exact absurd h.symm hnull
  | string t =>
      rw [ofNode] at h
      cases hread : coerce drawn none type t with
      | error fault => rw [hread] at h; exact absurd h.symm hnull
      | ok w =>
          rw [hread] at h
          cases h
          rcases denotes_of_coerce hread with hdenotes | ⟨⟨htype, hnone⟩, hfresh⟩
          · exact .inl (.string hdenotes)
          · exact .inr ⟨⟨htype, t, rfl, hnone⟩, hfresh⟩

theorem ofNode_of_stray {node : Option Json} (h : Json.Stray type node) (drawn : Uuid) :
    ofNode drawn type node = .uuid drawn := by
  obtain ⟨rfl, t, rfl, hnone⟩ := h
  have hread : coerce drawn none .uuid t = .ok (.uuid drawn) := by
    rw [coerce_eq_ok_iff (by decide), readTrimmed?, Uuid.read, hnone, Option.getD_none]
  rw [ofNode, hread]
  rfl

theorem denotes_type? {node : Json} (h : node.Denotes type v) : v.type? = some type := by
  cases h with
  | string hliteral => cases hliteral <;> rfl
  | _ => rfl

theorem ofNode_eq_iff {node : Option Json} (h : ¬ Json.Stray type node) (hnull : v ≠ null)
    (drawn : Uuid) :
    ofNode drawn type node = v ↔ ∃ found, node = some found ∧ found.Denotes type v := by
  cases node with
  | none => exact ⟨fun hnone => absurd hnone.symm hnull, nofun⟩
  | some found =>
      constructor
      · intro hread
        rcases denotes_of_ofNode hread hnull with hdenotes | ⟨hstray, -⟩
        · exact ⟨found, rfl, hdenotes⟩
        · exact absurd hstray h
      · rintro ⟨_, ⟨⟩, hdenotes⟩
        exact ofNode_of_denotes hdenotes drawn

/-- Where nothing is drawn it does not matter who draws. -/
theorem ofNode_draw {node : Option Json} (h : ¬ Json.Stray type node) (drawn drawn' : Uuid) :
    ofNode drawn type node = ofNode drawn' type node := by
  by_cases hnull : ofNode drawn' type node = null
  · rw [hnull]
    refine Decidable.byContradiction fun hvalue => hvalue ?_
    have hread := (ofNode_eq_iff h hvalue drawn').2 ((ofNode_eq_iff h hvalue drawn).1 rfl)
    exact hread.symm.trans hnull
  · exact (ofNode_eq_iff h hnull drawn).2 ((ofNode_eq_iff h hnull drawn').1 rfl)

theorem isNull_ofNode (drawn drawn' : Uuid) (type : FieldType) (node : Option Json) :
    (ofNode drawn type node).isNull = (ofNode drawn' type node).isNull := by
  by_cases hstray : Json.Stray type node
  · rw [ofNode_of_stray hstray, ofNode_of_stray hstray]
    rfl
  · rw [ofNode_draw hstray drawn drawn']

theorem ofType_ofNode (drawn : Uuid) (type : FieldType) (node : Option Json) :
    (ofNode drawn type node).OfType type := by
  by_cases hstray : Json.Stray type node
  · rw [ofNode_of_stray hstray, hstray.1]
    exact .inr rfl
  · by_cases hnull : ofNode drawn type node = null
    · exact .inl hnull
    · obtain ⟨found, -, hdenotes⟩ := (ofNode_eq_iff hstray hnull drawn).1 rfl
      exact .inr (denotes_type? hdenotes)

/--
A node is read as null or as a value of the type, and a missing one or null itself as null. But for stray texts
it is read as just that value which it denotes, and as null if it denotes none, and so it is at every reading.
A stray text is never read as null, but at every reading as the identifier that is drawn there.
-/
theorem ofNode_faithful (type : FieldType) (node : Option Json) :
    (∀ drawn, (ofNode drawn type node).OfType type) ∧
    (node = none ∨ node = some .null → ∀ drawn, ofNode drawn type node = null) ∧
    (¬ Json.Stray type node →
      (∀ drawn v, v ≠ null →
        (ofNode drawn type node = v ↔ ∃ found, node = some found ∧ found.Denotes type v)) ∧
      (∀ drawn, ofNode drawn type node = null ↔ ¬ ∃ found v, node = some found ∧ found.Denotes type v) ∧
      ∀ drawn drawn', ofNode drawn type node = ofNode drawn' type node) ∧
    (Json.Stray type node → ∀ drawn, ofNode drawn type node = .uuid drawn) := by
  refine ⟨fun drawn => ofType_ofNode drawn type node, ?_, fun h => ⟨fun drawn v hnull => ofNode_eq_iff h hnull drawn,
    fun drawn => ⟨?_, ?_⟩, ofNode_draw h⟩, ofNode_of_stray⟩
  · rintro (rfl | rfl) drawn
    · exact ofNode_none drawn type
    · exact ofNode_null drawn type
  · rintro hnull ⟨found, v, rfl, hdenotes⟩
    have htype := denotes_type? hdenotes
    rw [← ofNode_of_denotes hdenotes drawn, hnull] at htype
    cases htype
  · intro hnothing
    refine Decidable.byContradiction fun hnull => ?_
    obtain ⟨found, hfound, hdenotes⟩ := (ofNode_eq_iff h hnull drawn).1 rfl
    exact hnothing ⟨found, _, hfound, hdenotes⟩

end Value

end Reading

namespace Value

open scoped Run.Counting

theorem ofNode_faithful_words :
    (∀ drawn, ofNode drawn .int (some (.string " -7 ")) = .int (-7)) ∧
    (∀ drawn, ofNode drawn .dateTime (some (.string "soon")) = null) ∧
    Json.Stray .uuid (some (.string "soon")) ∧
    ∀ drawn, ofNode drawn .uuid (some (.string "soon")) = .uuid drawn := by
  have hstray : Json.Stray .uuid (some (.string "soon")) := ⟨rfl, _, rfl, by decide⟩
  have hint : ¬ Json.Stray .int (some (.string " -7 ")) := nofun
  have hdate : ¬ Json.Stray .dateTime (some (.string "soon")) := nofun
  have hseven : Text.SpellsInt (Text.trim " -7 ") (Int64.toInt (-7)) :=
    .minus (Text.isDigits_iff.2 rfl)
  refine ⟨fun drawn => ?_, fun drawn => ?_, hstray, (ofNode_faithful .uuid _).2.2.2 hstray⟩
  · exact (((ofNode_faithful .int _).2.2.1 hint).1 drawn (.int (-7)) nofun).2 ⟨_, rfl, .string (.int hseven)⟩
  · refine (((ofNode_faithful .dateTime _).2.2.1 hdate).2.1 drawn).2 ?_
    rintro ⟨_, v, ⟨⟩, hdenotes⟩
    cases hdenotes with
    | string hliteral =>
        cases hliteral with
        | dateTime hread => cases hread

/-- A text that is no identifier is not read as null, and no two readings of it are the same. -/
theorem ofNode_uuid_word :
    Uuid.read? (Text.trim "abc") = none ∧ ofNode (Uuid.numbered 1) .uuid (some (.string "abc")) ≠ null ∧
      ofNode (Uuid.numbered 1) .uuid (some (.string "abc")) ≠
        ofNode (Uuid.numbered 2) .uuid (some (.string "abc")) := by
  decide

end Value

end FilterLang
