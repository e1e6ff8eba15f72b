import FilterLang.Proofs.Outcome
import FilterLang.Proofs.Text.Trim
import FilterLang.Token.Filter
import FilterLang.Token.Ordering

/-!
Scanning item by item: behind the blanks of a text either nothing is left or an item begins, and what follows that is
scanned by itself.
-/

namespace FilterLang.Token

open Outcome

variable {symbols : List Text} {c : Char} {t u rest : Text} {ls : List Lexeme}

theorem scan_blanks (h : Text.skipBlanks t = []) : scan symbols t = .ok [] := by
  rw [scan]
  split
  · rfl
  · rename_i hcons
    rw [h] at hcons
    cases hcons

theorem scan_nil (symbols : List Text) : scan symbols [] = .ok [] := scan_blanks rfl

theorem scan_behind_blanks (hblanks : Text.skipBlanks t = c :: u) (hitem : scanItem symbols c u = .ok (ls, rest)) :
    scan symbols t = (scan symbols rest).map (ls ++ ·) := by
  rw [scan]
  split
  · rename_i hempty
    rw [hblanks] at hempty
    cases hempty
  · rename_i hcons
    rw [hblanks] at hcons
    cases hcons
    split
    · rename_i hfault
      rw [hitem] at hfault
      cases hfault
    · rename_i hfound
      rw [hitem] at hfound
      cases hfound
      rfl

theorem scan_item (hblank : Text.isBlank c = false) (hitem : scanItem symbols c t = .ok (ls, rest)) :
    scan symbols (c :: t) = (scan symbols rest).map (ls ++ ·) :=
  scan_behind_blanks (Text.skipBlanks_cons hblank) hitem

theorem exists_item_of_scan (hblanks : Text.skipBlanks t = c :: u) (h : scan symbols t = .ok ls) :
    ∃ found rest more, scanItem symbols c u = .ok (found, rest) ∧ scan symbols rest = .ok more ∧
      ls = found ++ more := by
  cases hitem : scanItem symbols c u with
  | error fault =>
      rw [scan] at h
      split at h
      · rename_i hempty
        rw [hblanks] at hempty
        cases hempty
      · rename_i hcons
        rw [hblanks] at hcons
        cases hcons
        rw [hitem] at h
        cases h
  | ok scanned =>
      obtain ⟨found, rest⟩ := scanned
      rw [scan_behind_blanks hblanks hitem] at h
      obtain ⟨more, hmore, rfl⟩ := map_eq_ok_iff.1 h
      exact ⟨found, rest, more, rfl, hmore, rfl⟩

theorem wordKind_cases (word : Text) :
    wordKind word = .ascending ∨ wordKind word = .descending ∨ wordKind word = .identifier := by
  unfold wordKind
  split
  · exact .inl rfl
  · split
    · exact .inr (.inl rfl)
    · exact .inr (.inr rfl)

theorem scanOrder_blanks (h : Text.skipBlanks t = []) : scanOrder t = .ok [] := by
  rw [scanOrder]
  split
  · rfl
  · rename_i hcons
    rw [h] at hcons
    cases hcons

theorem scanOrder_nil : scanOrder [] = .ok [] := scanOrder_blanks rfl

theorem scanOrder_behind_blanks (hblanks : Text.skipBlanks t = c :: u)
    (hitem : scanOrderItem c u = .ok (ls, rest)) : scanOrder t = (scanOrder rest).map (ls ++ ·) := by
  rw [scanOrder]
  split
  · rename_i hempty
    rw [hblanks] at hempty
    cases hempty
  · rename_i hcons
    rw [hblanks] at hcons
    cases hcons
    split
    · rename_i hfault
      rw [hitem] at hfault
      cases hfault
    · rename_i hfound
      rw [hitem] at hfound
      cases hfound
      rfl

theorem scanOrder_item (hblank : Text.isBlank c = false) (hitem : scanOrderItem c t = .ok (ls, rest)) :
    scanOrder (c :: t) = (scanOrder rest).map (ls ++ ·) :=
  scanOrder_behind_blanks (Text.skipBlanks_cons hblank) hitem

theorem scanOrder_blank (hblank : Text.isBlank c = true) (t : Text) : scanOrder (c :: t) = scanOrder t := by
  have hskip : Text.skipBlanks (c :: t) = Text.skipBlanks t := List.dropWhile_cons_of_pos hblank
  rw [scanOrder, scanOrder, hskip]

theorem exists_item_of_scanOrder (hblanks : Text.skipBlanks t = c :: u) (h : scanOrder t = .ok ls) :
    ∃ found rest more, scanOrderItem c u = .ok (found, rest) ∧ scanOrder rest = .ok more ∧
      ls = found ++ more := by
  cases hitem : scanOrderItem c u with
  | error fault =>
      rw [scanOrder] at h
      split at h
      · rename_i hempty
        rw [hblanks] at hempty
        cases hempty
      · rename_i hcons
        rw [hblanks] at hcons
        cases hcons
        rw [hitem] at h
        cases h
  | ok scanned =>
      obtain ⟨found, rest⟩ := scanned
      rw [scanOrder_behind_blanks hblanks hitem] at h
      obtain ⟨more, hmore, rfl⟩ := map_eq_ok_iff.1 h
      exact ⟨found, rest, more, rfl, hmore, rfl⟩

end FilterLang.Token
