import FilterLang.Proofs.Path.Reached
import FilterLang.Proofs.Sql.Literal

/-!
Lists in SQL name their collections: two collections that a written path can lead to have one and the
same column expression only if they are the same.
-/

namespace FilterLang.Sql

open FilterLang.Path

def dotted (names : List Text) : Text := names.flatMap fun name => '.' :: identifier name

theorem dotted_cons (name : Text) (names : List Text) :
    dotted (name :: names) = '.' :: (identifier name ++ dotted names) := by
  simp [dotted]

theorem hop_member (base name : Text) :
    hop (some base) (.member name) = base ++ '.' :: identifier name := rfl

theorem hop_key (base : Text) (k : Value) :
    hop (some base) (.key (some k)) =
      "map_extract(" ++ base ++ ", " ++ literal k ++ ')' :: ("[1]" : String).toList := rfl

theorem column_ofNames_append (base : Text) (names : List Text) (p : Path) :
    column (some base) (ofNames names ++ p) = column (some (base ++ dotted names)) p := by
  induction names generalizing base with
  | nil => rw [dotted, List.flatMap_nil, List.append_nil]; rfl
  | cons name names ih =>
      rw [ofNames, List.map_cons, List.cons_append, column_cons, hop_member, ← ofNames, ih,
        dotted_cons, List.append_assoc, List.cons_append]

theorem column_ofNames (base : Text) (names : List Text) :
    column (some base) (ofNames names) = base ++ dotted names := by
  have happended := column_ofNames_append base names []
  rw [List.append_nil] at happended
  exact happended

theorem column_members (name : Text) (names : List Text) :
    column none (ofNames (name :: names)) = identifier name ++ dotted names :=
  column_ofNames (identifier name) names

theorem column_keyed (name : Text) (names after : List Text) (k : Value) :
    column none (ofNames (name :: names) ++ .key (some k) :: ofNames after) =
      "map_extract(" ++ (identifier name ++ (dotted names ++ (", " ++ (literal k ++
        ')' :: ("[1]" ++ dotted after))))) := by
  have hmembers : column none (ofNames (name :: names) ++ .key (some k) :: ofNames after) =
      column (some (identifier name ++ dotted names)) (.key (some k) :: ofNames after) :=
    column_ofNames_append (identifier name) names _
  rw [hmembers, column_cons, column_ofNames, hop_key]
  simp only [List.append_assoc, List.cons_append]

theorem head_dotted_ne_quote {names : List Text} {t : Text} (h : t.head? ≠ some '"') :
    (dotted names ++ t).head? ≠ some '"' := by
  cases names with
  | nil => exact h
  | cons name names =>
      rw [dotted_cons]
      intro hequal
      cases hequal

theorem dotted_append_inj {names names' : List Text} {rest rest' : Text}
    (hrest : rest.head? ≠ some '.' ∧ rest.head? ≠ some '"')
    (hrest' : rest'.head? ≠ some '.' ∧ rest'.head? ≠ some '"')
    (h : dotted names ++ rest = dotted names' ++ rest') : names = names' ∧ rest = rest' := by
  induction names generalizing names' with
  | nil =>
      cases names' with
      | nil => exact ⟨rfl, h⟩
      | cons name' names' =>
          rw [dotted_cons] at h
          exact absurd (congrArg List.head? h) hrest.1
  | cons name names ih =>
      cases names' with
      | nil =>
          rw [dotted_cons] at h
          exact absurd (congrArg List.head? h).symm hrest'.1
      | cons name' names' =>
          rw [dotted_cons, dotted_cons, List.cons_append, List.cons_append, List.append_assoc,
            List.append_assoc] at h
          obtain ⟨hname, htail⟩ := enclosed_append_inj (head_dotted_ne_quote hrest.2)
            (head_dotted_ne_quote hrest'.2) (List.cons.inj h).2
          obtain ⟨hnames, hequal⟩ := ih htail
          exact ⟨by rw [hname, hnames], hequal⟩

theorem members_append_inj {name name' : Text} {names names' : List Text} {rest rest' : Text}
    (hrest : rest.head? ≠ some '.' ∧ rest.head? ≠ some '"')
    (hrest' : rest'.head? ≠ some '.' ∧ rest'.head? ≠ some '"')
    (h : identifier name ++ (dotted names ++ rest) = identifier name' ++ (dotted names' ++ rest')) :
    name :: names = name' :: names' ∧ rest = rest' := by
  have hdotted : dotted (name :: names) ++ rest = dotted (name' :: names') ++ rest' := by
    rw [dotted_cons, dotted_cons, List.cons_append, List.cons_append, List.append_assoc,
      List.append_assoc, h]
  exact dotted_append_inj hrest hrest' hdotted

theorem members_ne_keyed {name : Text} {names : List Text} {t : Text} :
    identifier name ++ dotted names ≠ "map_extract(" ++ t := by
  intro h
  cases (List.cons.inj h).1

theorem column_inj {type type' : FieldType} {p p' : Path} (hp : Reached type p) (hp' : Reached type' p')
    (hfloat : type ≠ .float) (hfloat' : type' ≠ .float) (h : column none p = column none p') : p = p' := by
  cases hp with
  | members name names =>
      cases hp' with
      | members name' names' =>
          rw [column_members, column_members, ← List.append_nil (dotted names),
            ← List.append_nil (dotted names')] at h
          rw [(members_append_inj (by simp) (by simp) h).1]
      | keyed name' names' after' _ =>
          rw [column_members, column_keyed] at h
          exact absurd h members_ne_keyed
  | @keyed name names after k hk =>
      cases hp' with
      | members name' names' =>
          rw [column_members, column_keyed] at h
          exact absurd h.symm members_ne_keyed
      | @keyed name' names' after' k' hk' =>
          have hcomma : ∀ t : Text, (", " ++ t : Text).head? ≠ some '.' ∧
              (", " ++ t : Text).head? ≠ some '"' := by
            intro t
            exact ⟨by simp, by simp⟩
          rw [column_keyed, column_keyed, List.append_cancel_left_eq] at h
          obtain ⟨hnames, htext⟩ := members_append_inj (hcomma _) (hcomma _) h
          rw [List.append_cancel_left_eq] at htext
          obtain ⟨hkeys, hafter⟩ := literal_append_inj hk.1 hk'.1 hk.2 hk'.2 hfloat hfloat' htext
          rw [List.append_cancel_left_eq, ← List.append_nil (dotted after),
            ← List.append_nil (dotted after')] at hafter
          obtain ⟨rfl, _⟩ := dotted_append_inj (by simp) (by simp) hafter
          rw [hkeys, hnames]

end FilterLang.Sql
