import FilterLang.Proofs.Calendar.Writing
import FilterLang.Proofs.Sql.Quoting
import FilterLang.Proofs.Uuid.Writing
import FilterLang.Sql.Column

/-!
Literals can be told from their texts, but for doubles. A literal is at most one quoted text with plain
characters around it, and these tell the kind.
-/

namespace FilterLang.Sql

structure Spelling where
  before : Text
  quoted : Option Text
  after : Text

namespace Spelling

def text (s : Spelling) : Text :=
  s.before ++ ((s.quoted.map (enclosed '\'')).getD [] ++ s.after)

def isPlain (c : Char) : Bool := c ≠ '\'' && c ≠ ')'

structure Plain (s : Spelling) : Prop where
  before : ∀ c ∈ s.before, isPlain c = true
  after : ∀ c ∈ s.after, isPlain c = true
  unquoted : s.quoted = none → s.after = []

theorem head_closing {t : Text} : ∀ c ∈ (')' :: t).head?, isPlain c = false := by
  intro c hc
  cases hc
  rfl

theorem head_quoted {quoted : Option Text} {after t : Text} (h : quoted = none → after = []) :
    ∀ c ∈ ((quoted.map (enclosed '\'')).getD [] ++ after ++ ')' :: t).head?, isPlain c = false := by
  intro c hc
  cases quoted with
  | none =>
      rw [h rfl] at hc
      exact head_closing c hc
  | some u =>
      cases hc
      rfl

theorem head_ne_quote {after t : Text} (h : ∀ c ∈ after, isPlain c = true) :
    (after ++ ')' :: t).head? ≠ some '\'' := by
  intro hquote
  cases after with
  | nil => cases hquote
  | cons c after =>
      cases hquote
      exact absurd (h _ List.mem_cons_self) (by decide)

theorem text_append_inj {s s' : Spelling} (hs : s.Plain) (hs' : s'.Plain) {rest rest' : Text}
    (h : s.text ++ ')' :: rest = s'.text ++ ')' :: rest') : s = s' ∧ rest = rest' := by
  obtain ⟨before, quoted, after⟩ := s
  obtain ⟨before', quoted', after'⟩ := s'
  simp only [text, List.append_assoc before, List.append_assoc before'] at h
  obtain ⟨(rfl : before = before'), h⟩ := Text.run_append_inj hs.before hs'.before
    (head_quoted hs.unquoted) (head_quoted hs'.unquoted) h
  cases quoted with
  | none =>
      obtain rfl : after = [] := hs.unquoted rfl
      cases quoted' with
      | none =>
          obtain rfl : after' = [] := hs'.unquoted rfl
          exact ⟨rfl, (List.cons.inj h).2⟩
      | some t' => cases (List.cons.inj h).1
  | some t =>
      cases quoted' with
      | none =>
          obtain rfl : after' = [] := hs'.unquoted rfl
          cases (List.cons.inj h).1
      | some t' =>
          simp only [Option.map_some, Option.getD_some, List.append_assoc] at h
          obtain ⟨rfl, h⟩ := enclosed_append_inj (head_ne_quote hs.after) (head_ne_quote hs'.after) h
          obtain ⟨(rfl : after = after'), hrest⟩ := Text.run_append_inj hs.after hs'.after
            head_closing head_closing h
          exact ⟨rfl, (List.cons.inj hrest).2⟩

end Spelling

def spelling : Value → Spelling
  | .null => ⟨"NULL", none, []⟩
  | .bool b => ⟨if b then "TRUE" else "FALSE", none, []⟩
  | .int n => ⟨Text.decimalInt n.toInt, none, []⟩
  | .float _ => ⟨[], none, []⟩
  | .text t => ⟨[], some t, []⟩
  | .uuid u => ⟨[], some u.text, "::UUID"⟩
  | .dateTime t => ⟨"TIMESTAMP ", some (t.textWith ' '), []⟩
  | .date d => ⟨"DATE ", some d.text, []⟩

theorem text_quoted {before t after : Text} (h : '\'' ∉ t) :
    Spelling.text ⟨before, some t, after⟩ = before ++ ['\''] ++ t ++ '\'' :: after := by
  simp [Spelling.text, enclosed, doubled_of_not_mem h]

theorem text_spelling {v : Value} (h : v.type? ≠ some .float) : (spelling v).text = literal v := by
  cases v with
  | null => rfl
  | bool b => cases b <;> rfl
  | int n => exact List.append_nil _
  | float x => exact absurd rfl h
  | text t => exact List.append_nil _
  | uuid u => exact text_quoted (Uuid.quote_not_mem_text u)
  | dateTime t => exact text_quoted (DateTime.quote_not_mem_textWith t)
  | date d => exact text_quoted (DateTime.quote_not_mem_date d)

theorem plain_spelling (v : Value) : (spelling v).Plain := by
  have hnone : ∀ c ∈ ([] : Text), Spelling.isPlain c = true := by simp
  cases v with
  | null => exact ⟨List.all_eq_true.1 rfl, hnone, fun _ => rfl⟩
  | bool b => cases b <;> exact ⟨List.all_eq_true.1 rfl, hnone, fun _ => rfl⟩
  | int n =>
      refine ⟨?_, hnone, fun _ => rfl⟩
      intro c hc
      rcases Text.mem_decimalInt hc with hdigit | rfl
      · have hne : c ≠ '\'' ∧ c ≠ ')' := by
          constructor <;> rintro rfl <;> exact absurd hdigit (by decide)
        simp [Spelling.isPlain, hne]
      · rfl
  | float x => exact ⟨hnone, hnone, fun _ => rfl⟩
  | text t => exact ⟨hnone, hnone, fun _ => rfl⟩
  | uuid u => exact ⟨hnone, List.all_eq_true.1 rfl, nofun⟩
  | dateTime t => exact ⟨List.all_eq_true.1 rfl, hnone, fun _ => rfl⟩
  | date d => exact ⟨List.all_eq_true.1 rfl, hnone, fun _ => rfl⟩

def Spelling.type (s : Spelling) : FieldType :=
  if s.quoted.isNone then
    if s.before = ("TRUE" : String).toList ∨ s.before = ("FALSE" : String).toList then .bool else .int
  else if s.after = ("::UUID" : String).toList then .uuid
  else if s.before = ("TIMESTAMP " : String).toList then .dateTime
  else if s.before = ("DATE " : String).toList then .date
  else .text

theorem decimalInt_ne {n : Int} {word : Text} (h : 'E' ∈ word) : Text.decimalInt n ≠ word := by
  intro hequal
  rw [← hequal] at h
  rcases Text.mem_decimalInt h with hdigit | hminus
  · exact absurd hdigit (by decide)
  · exact absurd hminus (by decide)

theorem type_spelling {v : Value} {type : FieldType} (hv : v.type? = some type)
    (hfloat : type ≠ .float) : (spelling v).type = type := by
  cases v with
  | null => cases hv
  | bool b =>
      cases hv
      cases b <;> rfl
  | int n =>
      cases hv
      have hword : ¬(Text.decimalInt n.toInt = ("TRUE" : String).toList ∨
          Text.decimalInt n.toInt = ("FALSE" : String).toList) := by
        rintro (htrue | hfalse)
        · exact decimalInt_ne (by decide) htrue
        · exact decimalInt_ne (by decide) hfalse
      exact if_neg hword
  | float x =>
      cases hv
      exact absurd rfl hfloat
  | text t =>
      cases hv
      rfl
  | uuid u =>
      cases hv
      rfl
  | dateTime t =>
      cases hv
      rfl
  | date d =>
      cases hv
      rfl

theorem spelling_inj {v v' : Value} {type type' : FieldType} (hv : v.type? = some type)
    (hv' : v'.type? = some type') (htells : v.Tells) (htells' : v'.Tells) (hfloat : type ≠ .float)
    (hfloat' : type' ≠ .float) (h : spelling v = spelling v') : v = v' := by
  have htype : type = type' := by
    rw [← type_spelling hv hfloat, h, type_spelling hv' hfloat']
  subst htype
  have hbefore := congrArg Spelling.before h
  have hquoted := congrArg Spelling.quoted h
  cases v <;> cases hv <;> cases v' <;> cases hv'
  case bool.refl.bool.refl b b' =>
    cases b <;> cases b' <;> first | rfl | exact absurd hbefore (by decide)
  case int.refl.int.refl n n' =>
    exact congrArg Value.int (Int64.toInt_inj.1 (Text.decimalInt_injective hbefore))
  case float.refl.float.refl => exact absurd rfl hfloat
  case text.refl.text.refl => exact congrArg Value.text (Option.some.inj hquoted)
  case uuid.refl.uuid.refl =>
    exact congrArg Value.uuid (Uuid.text_injective (Option.some.inj hquoted))
  case dateTime.refl.dateTime.refl =>
    have htext := Option.some.inj hquoted
    exact congrArg Value.dateTime (DateTime.textWith_injective htells htells' rfl htext)
  case date.refl.date.refl d d' =>
    have htext : d.text ++ [] = d'.text ++ [] := congrArg (· ++ []) (Option.some.inj hquoted)
    exact congrArg Value.date (Date.text_append_inj (by simp) (by simp) htext).1

theorem literal_append_inj {v v' : Value} {type type' : FieldType} (hv : v.type? = some type)
    (hv' : v'.type? = some type') (htells : v.Tells) (htells' : v'.Tells) (hfloat : type ≠ .float)
    (hfloat' : type' ≠ .float) {rest rest' : Text}
    (h : literal v ++ ')' :: rest = literal v' ++ ')' :: rest') : v = v' ∧ rest = rest' := by
  have hsome : v.type? ≠ some .float := by
    rw [hv]
    exact fun hequal => hfloat (Option.some.inj hequal)
  have hsome' : v'.type? ≠ some .float := by
    rw [hv']
    exact fun hequal => hfloat' (Option.some.inj hequal)
  rw [← text_spelling hsome, ← text_spelling hsome'] at h
  obtain ⟨hspelling, hrest⟩ := Spelling.text_append_inj (plain_spelling v) (plain_spelling v') h
  exact ⟨spelling_inj hv hv' htells htells' hfloat hfloat' hspelling, hrest⟩

end FilterLang.Sql
