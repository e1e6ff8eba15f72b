import FilterLang.Path.Reading
import FilterLang.Proofs.Outcome
import FilterLang.Proofs.Text.Runs

/-!
The grammar of paths. A text is read as a path exactly if it is made of parts with points between them, and then it
is the only text of that path: writing the path gives it back.
-/

namespace FilterLang

namespace Text

theorem splitAt_eq_splitOn (separator : Char) (t : Text) : splitAt separator t = t.splitOn separator := by
  induction t with
  | nil => rfl
  | cons c t ih =>
      rw [splitAt, ih, List.splitOn, List.splitOn, List.splitOnP_cons_eq_if_modifyHead]
      by_cases hc : c = separator
      · simp [hc]
      · rw [if_neg hc, if_neg (by simpa using hc)]
        generalize hpieces : List.splitOnP (· == separator) t = pieces
        cases pieces with
        | nil => exact absurd hpieces (List.splitOnP_ne_nil _ _)
        | cons piece pieces => rfl

theorem joined_cons (separator t : Text) (ts : List Text) :
    joined separator (t :: ts) = t ++ ts.flatMap (separator ++ ·) := by
  induction ts generalizing t with
  | nil => simp [joined]
  | cons u ts ih =>
      rw [joined, ih u, List.flatMap_cons, List.append_assoc, List.append_assoc]
      exact List.cons_ne_nil u ts

theorem joined_eq_intercalate (separator : Text) (ts : List Text) :
    joined separator ts = separator.intercalate ts := by
  induction ts with
  | nil => rfl
  | cons t ts ih =>
      cases ts with
      | nil => simp [joined, List.intercalate]
      | cons u ts =>
          rw [joined, ih]
          · simp [List.intercalate]
          · exact List.cons_ne_nil u ts

end Text

namespace Path

inductive Bracket
  | each
  | slot
deriving DecidableEq

namespace Bracket

def text : Bracket → Text
  | each => "[*]"
  | slot => "[]"

def segment : Bracket → Segment
  | each => .each
  | slot => .key none

end Bracket

structure Part where
  name : Text
  brackets : List Bracket
deriving DecidableEq

namespace Part

def text (part : Part) : Text := part.name ++ part.brackets.flatMap Bracket.text

def path (part : Part) : Path := .member part.name :: part.brackets.map Bracket.segment

structure WellFormed (part : Part) : Prop where
  name_ne_nil : part.name ≠ []
  name_chars : ∀ c ∈ part.name, Text.isAlphanumeric c = true ∨ c = '_'

end Part

/-- The parts of a path in writing, with one slot at most among the brackets of them all. -/
structure Written where
  parts : List Part
  parts_ne_nil : parts ≠ []
  wellFormed : ∀ part ∈ parts, part.WellFormed
  slots_le_one : (parts.flatMap Part.brackets).count .slot ≤ 1

namespace Written

def text (w : Written) : Text := Text.joined ['.'] (w.parts.map Part.text)

def path (w : Written) : Path := w.parts.flatMap Part.path

end Written

open Outcome

variable {slot : Bool} {t : Text} {ts : List Text} {p : Path} {part : Part} {parts : List Part}

theorem isNameChar_iff {c : Char} : isNameChar c = true ↔ Text.isAlphanumeric c = true ∨ c = '_' := by
  simp [isNameChar]

theorem head?_brackets (brackets : List Bracket) : ∀ c ∈ (brackets.flatMap Bracket.text).head?, c = '[' := by
  rcases brackets with _ | ⟨_ | _, brackets⟩
  · simp
  · simp [Bracket.text]
  · simp [Bracket.text]

theorem ne_bracket_of_isNameChar {c : Char} (h : isNameChar c = true) : c ≠ '[' := by
  rintro rfl
  exact absurd h (by decide)

theorem point_not_mem_text (h : part.WellFormed) : '.' ∉ part.text := by
  rw [Part.text, List.mem_append, not_or]
  constructor
  · intro hmem
    exact absurd (isNameChar_iff.2 (h.name_chars '.' hmem)) (by decide)
  · intro hmem
    obtain ⟨bracket, -, hbracket⟩ := List.mem_flatMap.1 hmem
    cases bracket <;> exact absurd hbracket (by decide)

theorem countP_isKey_path (part : Part) : part.path.countP Segment.isKey = part.brackets.count .slot := by
  rw [Part.path, List.countP_cons_of_neg (by simp [Segment.isKey]), List.countP_map, List.count]
  congr 1
  funext bracket
  cases bracket <;> rfl

theorem hasKeySlot_path (part : Part) : part.path.hasKeySlot = decide (0 < part.brackets.count .slot) := by
  rw [Bool.eq_iff_iff, decide_eq_true_iff, ← countP_isKey_path, List.countP_pos_iff, hasKeySlot, List.any_eq_true]

theorem slots_le_one_iff {slot : Bool} (part : Part) (parts : List Part) :
    slot.toNat + (part.brackets.count .slot + (parts.flatMap Part.brackets).count .slot) ≤ 1 ↔
      slot.toNat + part.brackets.count .slot ≤ 1 ∧
        (slot || part.path.hasKeySlot).toNat + (parts.flatMap Part.brackets).count .slot ≤ 1 := by
  rw [hasKeySlot_path]
  cases slot with
  | true =>
      rw [Bool.true_or, Bool.toNat_true]
      omega
  | false =>
      rw [Bool.false_or, Bool.toNat_false]
      by_cases hpos : 0 < part.brackets.count .slot
      · rw [decide_eq_true hpos, Bool.toNat_true]
        omega
      · rw [decide_eq_false hpos, Bool.toNat_false]
        omega

/-! What is read, part by part. `slot` says at each of them whether a slot came before. -/

theorem readBrackets_eq_ok_iff :
    readBrackets slot t = .ok p ↔ ∃ brackets : List Bracket,
      brackets.flatMap Bracket.text = t ∧ brackets.map Bracket.segment = p ∧
        slot.toNat + brackets.count .slot ≤ 1 := by
  constructor
  · intro h
    fun_induction readBrackets slot t generalizing p with
    | case1 slot =>
        cases h
        exact ⟨[], rfl, rfl, by cases slot <;> decide⟩
    | case2 slot t ih =>
        obtain ⟨rest, hrest, rfl⟩ := map_eq_ok_iff.1 h
        obtain ⟨brackets, rfl, rfl, hslots⟩ := ih hrest
        exact ⟨.each :: brackets, rfl, rfl, by simpa using hslots⟩
    | case3 => cases h
    | case4 slot t hslot ih =>
        obtain ⟨rest, hrest, rfl⟩ := map_eq_ok_iff.1 h
        obtain ⟨brackets, rfl, rfl, hslots⟩ := ih hrest
        refine ⟨.slot :: brackets, rfl, rfl, ?_⟩
        simp only [Bool.not_eq_true] at hslot
        simp only [hslot, Bool.toNat_true, Bool.toNat_false, List.count_cons_self] at hslots ⊢
        omega
    | case5 => cases h
  · rintro ⟨brackets, rfl, rfl, hslots⟩
    induction brackets generalizing slot with
    | nil => rfl
    | cons bracket brackets ih =>
        cases bracket with
        | each =>
            have hrest : readBrackets slot (brackets.flatMap Bracket.text) = .ok (brackets.map Bracket.segment) :=
              ih (by simpa using hslots)
            simp [Bracket.text, Bracket.segment, readBrackets, hrest, Except.map]
        | slot =>
            rw [List.count_cons_self] at hslots
            obtain rfl : slot = false := by
              cases slot with
              | false => rfl
              | true =>
                  rw [Bool.toNat_true] at hslots
                  omega
            have hrest : readBrackets true (brackets.flatMap Bracket.text) = .ok (brackets.map Bracket.segment) :=
              ih (by simpa [Nat.add_comm] using hslots)
            simp [Bracket.text, Bracket.segment, readBrackets, hrest, Except.map]

theorem readPart_eq_ok_iff :
    readPart slot t = .ok p ↔ ∃ part : Part, part.WellFormed ∧ part.text = t ∧ part.path = p ∧
      slot.toNat + part.brackets.count .slot ≤ 1 := by
  constructor
  · intro h
    unfold readPart at h
    dsimp only at h
    split at h
    · cases h
    · rename_i hname
      obtain ⟨rest, hrest, rfl⟩ := map_eq_ok_iff.1 h
      obtain ⟨brackets, hbrackets, rfl, hslots⟩ := readBrackets_eq_ok_iff.1 hrest
      simp only [Bool.or_eq_true, Bool.not_eq_true', not_or, Bool.not_eq_true, Bool.not_eq_false,
        List.isEmpty_eq_false_iff, List.all_eq_true] at hname
      refine ⟨⟨t.takeWhile (· ≠ '['), brackets⟩, ⟨hname.1, fun c hc => isNameChar_iff.1 (hname.2 c hc)⟩, ?_, rfl,
        hslots⟩
      rw [Part.text, hbrackets]
      exact List.takeWhile_append_dropWhile
  · rintro ⟨part, hpart, rfl, rfl, hslots⟩
    have hchars : ∀ c ∈ part.name, isNameChar c = true := fun c hc => isNameChar_iff.2 (hpart.name_chars c hc)
    have hrun : ∀ c ∈ part.name, decide (c ≠ '[') = true :=
      fun c hc => decide_eq_true (ne_bracket_of_isNameChar (hchars c hc))
    have hstop : ∀ c ∈ (part.brackets.flatMap Bracket.text).head?, decide (c ≠ '[') = false :=
      fun c hc => by simp [head?_brackets _ c hc]
    have hname : part.text.takeWhile (· ≠ '[') = part.name := Text.takeWhile_run hrun hstop
    have hrest : part.text.dropWhile (· ≠ '[') = part.brackets.flatMap Bracket.text := Text.dropWhile_run hrun hstop
    have hread : readBrackets slot (part.brackets.flatMap Bracket.text) = .ok (part.brackets.map Bracket.segment) :=
      readBrackets_eq_ok_iff.2 ⟨part.brackets, rfl, rfl, hslots⟩
    have hnonempty : part.name.isEmpty = false := List.isEmpty_eq_false_iff.2 hpart.name_ne_nil
    have hall : part.name.all isNameChar = true := List.all_eq_true.2 hchars
    simp only [readPart, hname, hrest, hread, hnonempty, hall]
    rfl

theorem readParts_eq_ok_iff :
    readParts slot ts = .ok p ↔ ∃ parts : List Part, (∀ part ∈ parts, part.WellFormed) ∧
      parts.map Part.text = ts ∧ parts.flatMap Part.path = p ∧
        slot.toNat + (parts.flatMap Part.brackets).count .slot ≤ 1 := by
  induction ts generalizing slot p with
  | nil =>
      constructor
      · intro h
        cases h
        exact ⟨[], List.forall_mem_nil _, rfl, rfl, by cases slot <;> decide⟩
      · rintro ⟨parts, -, htexts, rfl, -⟩
        rw [List.map_eq_nil_iff.1 htexts]
        rfl
  | cons t ts ih =>
      constructor
      · intro h
        obtain ⟨first, hfirst, h⟩ := bind_eq_ok_iff.1 h
        obtain ⟨rest, hrest, h⟩ := bind_eq_ok_iff.1 h
        cases h
        obtain ⟨part, hpart, rfl, rfl, hslots⟩ := readPart_eq_ok_iff.1 hfirst
        obtain ⟨parts, hparts, rfl, rfl, hmore⟩ := ih.1 hrest
        refine ⟨part :: parts, List.forall_mem_cons.2 ⟨hpart, hparts⟩, rfl, rfl, ?_⟩
        rw [List.flatMap_cons, List.count_append]
        exact (slots_le_one_iff part parts).2 ⟨hslots, hmore⟩
      · rintro ⟨parts, hparts, htexts, rfl, hslots⟩
        obtain ⟨part, parts, rfl, rfl, rfl⟩ := List.map_eq_cons_iff.1 htexts
        obtain ⟨hpart, hparts⟩ := List.forall_mem_cons.1 hparts
        rw [List.flatMap_cons, List.count_append] at hslots
        obtain ⟨hfirst, hmore⟩ := (slots_le_one_iff part parts).1 hslots
        have hread : readPart slot part.text = .ok part.path :=
          readPart_eq_ok_iff.2 ⟨part, hpart, rfl, rfl, hfirst⟩
        have hrest : readParts (slot || part.path.hasKeySlot) (parts.map Part.text) = .ok (parts.flatMap Part.path) :=
          ih.2 ⟨parts, hparts, rfl, rfl, hmore⟩
        rw [readParts, hread]
        simp only [bind, Except.bind, hrest]
        rfl

theorem read_eq_ok_iff : read t = .ok p ↔ ∃ w : Written, w.text = t ∧ w.path = p := by
  rw [read, readParts_eq_ok_iff, Text.splitAt_eq_splitOn]
  constructor
  · rintro ⟨parts, hparts, htexts, rfl, hslots⟩
    have hne : parts ≠ [] := by
      rintro rfl
      exact List.splitOn_ne_nil _ _ htexts.symm
    refine ⟨⟨parts, hne, hparts, by simpa using hslots⟩, ?_, rfl⟩
    rw [Written.text, htexts, Text.joined_eq_intercalate, List.intercalate_splitOn]
  · rintro ⟨w, rfl, rfl⟩
    refine ⟨w.parts, w.wellFormed, ?_, rfl, by simpa using w.slots_le_one⟩
    rw [Written.text, Text.joined_eq_intercalate, List.splitOn_intercalate]
    · intro piece hpiece
      obtain ⟨part, hpart, rfl⟩ := List.mem_map.1 hpiece
      exact point_not_mem_text (w.wellFormed part hpart)
    · simpa using w.parts_ne_nil

theorem flatMap_text_brackets (part : Part) :
    (part.brackets.map Bracket.segment).flatMap Segment.text = part.brackets.flatMap Bracket.text := by
  rw [List.flatMap_map]
  congr 1
  funext bracket
  cases bracket <;> rfl

theorem flatMap_text_path (part : Part) : part.path.flatMap Segment.text = ['.'] ++ part.text := by
  rw [Part.path, Part.text, List.flatMap_cons, flatMap_text_brackets]
  rfl

theorem text_path (w : Written) : w.path.text = w.text := by
  obtain ⟨parts, hne, -, -⟩ := w
  cases parts with
  | nil => exact absurd rfl hne
  | cons part parts =>
      have hlater : (parts.flatMap Part.path).flatMap Segment.text = (parts.map Part.text).flatMap (['.'] ++ ·) := by
        simp only [List.flatMap_assoc, List.flatMap_map, flatMap_text_path]
      rw [Written.path, Written.text, List.flatMap_cons, List.map_cons, Text.joined_cons, Part.path, List.cons_append,
        text, List.flatMap_append, flatMap_text_brackets, hlater, Part.text, List.append_assoc]

theorem countP_isKey_written (w : Written) :
    w.path.countP Segment.isKey = (w.parts.flatMap Part.brackets).count .slot := by
  simp only [Written.path, List.countP_flatMap, List.count_flatMap, Function.comp_def, countP_isKey_path]

theorem text_of_read (h : read t = .ok p) : p.text = t := by
  obtain ⟨w, rfl, rfl⟩ := read_eq_ok_iff.1 h
  exact text_path w

/--
The texts that are read as paths are those in writing, each as the path that it writes. Writing a path that was read
gives its text back and reading that gives the path back, so that no two texts are read as the same path.
-/
theorem read_accepts_exactly (t : Text) :
    ((∃ p, read t = .ok p) ↔ ∃ w : Written, w.text = t) ∧
      (∀ w : Written, w.text = t → read t = .ok w.path) ∧
      (∀ p, read t = .ok p → p.text = t ∧ read p.text = .ok p) ∧
      ∀ u p, read t = .ok p → read u = .ok p → t = u := by
  refine ⟨?_, ?_, ?_, ?_⟩
  · constructor
    · rintro ⟨p, h⟩
      obtain ⟨w, hw, -⟩ := read_eq_ok_iff.1 h
      exact ⟨w, hw⟩
    · rintro ⟨w, hw⟩
      exact ⟨w.path, read_eq_ok_iff.2 ⟨w, hw, rfl⟩⟩
  · intro w hw
    exact read_eq_ok_iff.2 ⟨w, hw, rfl⟩
  · intro p h
    have htext := text_of_read h
    exact ⟨htext, by rw [htext, h]⟩
  · intro u p h hu
    rw [← text_of_read h, text_of_read hu]

/-- Of slots for keys there is one at most. -/
example : (read "a[*][*].b[]").isOk = true ∧ (read "a[].b[]").isOk = false := by decide

end Path

end FilterLang
