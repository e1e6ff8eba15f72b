import FilterLang.Calendar.Reading
import FilterLang.Proofs.Calendar.Writing
import FilterLang.Proofs.Text.Trim

/-!
Days and times are read back from their texts. The literals of a date are those of a date-time without an
offset and those of a day alone: none is of both kinds, and none of either kind has an offset.
-/

namespace FilterLang

theorem Text.isBlank_of_isDigit {c : Char} (h : c.isDigit = true) : isBlank c = false :=
  isBlank_of_isAlphanumeric (isAlphanumeric_of_isAlphanum (by simp [Char.isAlphanum, h]))

namespace Calendar

open Text

variable {least most width n v : Nat} {run rest t : Text}

theorem digits?_run (hrun : ∀ c ∈ run, c.isDigit = true) (hleast : least ≤ run.length)
    (hmost : run.length ≤ most) (hrest : run.length = most ∨ ∀ c ∈ rest.head?, c.isDigit = false) :
    digits? least most (run ++ rest) = some (ofDecimal run, rest) := by
  have hhead : ∀ c ∈ (rest.take (most - run.length)).head?, c.isDigit = false := by
    intro c hc
    rcases hrest with hfull | hrest
    · simp [hfull] at hc
    · apply hrest
      cases hroom : most - run.length with
      | zero => simp [hroom] at hc
      | succ k => simpa [List.head?_take, hroom] using hc
  have htaken : ((run ++ rest).take most).takeWhile Char.isDigit = run := by
    rw [List.take_append, List.take_of_length_le hmost]
    exact takeWhile_run hrun hhead
  simp [digits?, htaken, Nat.not_lt.2 hleast]

theorem run_of_digits? (h : digits? least most t = some (v, rest)) :
    ∃ run, t = run ++ rest ∧ v = ofDecimal run ∧ (∀ c ∈ run, c.isDigit = true) ∧
      least ≤ run.length ∧ run.length ≤ most := by
  have hprefix : (t.take most).takeWhile Char.isDigit <+: t :=
    (List.takeWhile_prefix _).trans (List.take_prefix _ _)
  unfold digits? at h
  dsimp only at h
  split at h
  · cases h
  · rename_i hleast
    cases h
    refine ⟨_, (List.prefix_iff_eq_append.1 hprefix).symm, rfl, ?_, Nat.not_lt.1 hleast, ?_⟩
    · exact List.all_eq_true.1 List.all_takeWhile
    · exact Nat.le_trans (List.takeWhile_prefix _).length_le (List.length_take_le _ _)

@[simp] theorem char?_cons (c : Char) (t : Text) : char? c (c :: t) = some t := by
  simp [char?]

theorem eq_of_char? {c : Char} (h : char? c t = some rest) : t = c :: rest := by
  cases t with
  | nil => cases h
  | cons d t =>
      simp only [char?] at h
      split at h
      · rename_i hsame
        cases h
        rw [hsame]
      · cases h

theorem skipBlanks_run (hrun : ∀ c ∈ run, c.isDigit = true) (hne : run ≠ []) :
    skipBlanks (run ++ rest) = run ++ rest := by
  cases run with
  | nil => exact absurd rfl hne
  | cons c run => exact skipBlanks_cons (isBlank_of_isDigit (hrun c List.mem_cons_self))

theorem number?_of_digits? (hmost : 0 < most) (h : digits? most most t = some (v, rest)) :
    number? most t = some (v, rest) := by
  obtain ⟨run, rfl, rfl, hrun, hleast, hlength⟩ := run_of_digits? h
  have hne : run ≠ [] := by
    rintro rfl
    simp at hleast
    omega
  rw [number?, skipBlanks_run hrun hne]
  exact digits?_run hrun (by omega) hlength (.inl (by omega))

theorem year?_of_digits? (h : digits? 4 4 t = some (v, rest)) : year? t = some ((v : Int), rest) := by
  obtain ⟨run, rfl, rfl, hrun, hleast, hmost⟩ := run_of_digits? h
  cases run with
  | nil => simp at hleast
  | cons c run =>
      have hc : c.isDigit = true := hrun c List.mem_cons_self
      have hminus : c ≠ '-' := by
        rintro rfl
        cases hc
      have hplus : c ≠ '+' := by
        rintro rfl
        cases hc
      rw [year?, skipBlanks_run hrun (List.cons_ne_nil _ _), List.cons_append]
      split
      · rename_i heq
        exact absurd (List.cons.inj heq).1 hminus
      · rename_i heq
        exact absurd (List.cons.inj heq).1 hplus
      · rw [← List.cons_append, digits?_run hrun (by omega) hmost (.inl (by omega))]
        rfl

theorem tells_of_ofWritten? {date : Date} {hour minute second nanosecond : Nat} {x : DateTime}
    (h : DateTime.ofWritten? date hour minute second nanosecond = some x) : x.Tells := by
  unfold DateTime.ofWritten? DateTime.of? at h
  split at h
  · rename_i hfraction
    split at h <;> split at h <;> cases h
    · exact .inr rfl
    · exact .inl hfraction
  · cases h

theorem tells_of_later? {x y : DateTime} (hx : x.Tells) {minutes : Int}
    (h : x.later? (-60 * minutes) = some y) : y.Tells := by
  obtain ⟨date, -, hof⟩ := Option.bind_eq_some_iff.1 h
  unfold DateTime.of? at hof
  dsimp only at hof
  split at hof <;> cases hof
  have hsecond := x.second.isLt
  unfold DateTime.Tells at hx ⊢
  dsimp only
  omega

theorem tells_of_readFormat? {format : Separator × Bool} {x : DateTime} (h : readFormat? format t = some x) :
    x.Tells := by
  have hend : ∀ {rest : Text} {y : Option DateTime}, (if rest.isEmpty then y else none) = some x → y = some x := by
    intro rest y h
    split at h
    · exact h
    · cases h
  obtain ⟨_, -, h⟩ := Option.bind_eq_some_iff.1 h
  obtain ⟨_, -, h⟩ := Option.bind_eq_some_iff.1 h
  obtain ⟨_, -, h⟩ := Option.bind_eq_some_iff.1 h
  obtain ⟨_, -, h⟩ := Option.bind_eq_some_iff.1 h
  obtain ⟨_, -, h⟩ := Option.bind_eq_some_iff.1 h
  dsimp only at h
  split at h
  · obtain ⟨_, -, h⟩ := Option.bind_eq_some_iff.1 h
    obtain ⟨_, -, h⟩ := Option.bind_eq_some_iff.1 h
    obtain ⟨_, -, h⟩ := Option.bind_eq_some_iff.1 h
    exact tells_of_ofWritten? (hend h)
  · exact tells_of_ofWritten? (hend h)

theorem tells_of_readZoneless? {x : DateTime} (h : DateTime.readZoneless? t = some x) : x.Tells := by
  rcases Option.or_eq_some_iff.1 h with hread | ⟨-, hdate⟩
  · obtain ⟨format, -, hformat⟩ := List.exists_of_findSome?_eq_some hread
    exact tells_of_readFormat? hformat
  · obtain ⟨date, -, rfl⟩ := Option.map_eq_some_iff.1 hdate
    exact .inl (show (0 : Nat) < 1000000000 by decide)

/--
A literal with an offset begins with a day, a letter or a blank, and a time to the second, also for those who
read numbers leniently, and something comes behind them.
-/
theorem parts_of_readWithOffset? {x : DateTime} (h : readWithOffset? t = some x) :
    ∃ date separator hour minute second nanosecond, ∃ u v w z tail : Text,
      date? t = some (date, separator :: u) ∧ (separator = 'T' ∨ separator = 't' ∨ separator = ' ') ∧
      number? 2 u = some (hour, ':' :: v) ∧ number? 2 v = some (minute, ':' :: w) ∧
      number? 2 w = some (second, z) ∧ fraction? z = some (nanosecond, tail) ∧ tail ≠ [] ∧
      ∃ offset y, DateTime.ofWritten? date hour minute second nanosecond = some y ∧
        y.later? (-60 * offset) = some x := by
  obtain ⟨⟨year, a⟩, hyear, h⟩ := Option.bind_eq_some_iff.1 h
  obtain ⟨b, hb, h⟩ := Option.bind_eq_some_iff.1 h
  obtain ⟨⟨month, c⟩, hmonth, h⟩ := Option.bind_eq_some_iff.1 h
  obtain ⟨d, hd, h⟩ := Option.bind_eq_some_iff.1 h
  obtain ⟨⟨day, e⟩, hday, h⟩ := Option.bind_eq_some_iff.1 h
  dsimp only at h
  split at h
  · rename_i separator u
    split at h
    · rename_i hseparator
      obtain ⟨_, hu, h⟩ := Option.bind_eq_some_iff.1 h
      cases hu
      obtain ⟨⟨hour, v'⟩, hhour, h⟩ := Option.bind_eq_some_iff.1 h
      obtain ⟨v, hv, h⟩ := Option.bind_eq_some_iff.1 h
      obtain ⟨⟨minute, w'⟩, hminute, h⟩ := Option.bind_eq_some_iff.1 h
      obtain ⟨w, hw, h⟩ := Option.bind_eq_some_iff.1 h
      obtain ⟨⟨second, z⟩, hsecond, h⟩ := Option.bind_eq_some_iff.1 h
      obtain ⟨⟨nanosecond, tail⟩, hfraction, h⟩ := Option.bind_eq_some_iff.1 h
      obtain ⟨⟨offset, rest⟩, hoffset, h⟩ := Option.bind_eq_some_iff.1 h
      dsimp only at h
      split at h
      · obtain ⟨date, hfound, h⟩ := Option.bind_eq_some_iff.1 h
        obtain ⟨y, hwritten, hlater⟩ := Option.bind_eq_some_iff.1 h
        obtain rfl := eq_of_char? hb
        obtain rfl := eq_of_char? hd
        obtain rfl := eq_of_char? hv
        obtain rfl := eq_of_char? hw
        refine ⟨date, separator, hour, minute, second, nanosecond, u, v, w, z, tail, ?_, hseparator,
          number?_of_digits? (by decide) hhour, number?_of_digits? (by decide) hminute,
          number?_of_digits? (by decide) hsecond, hfraction, ?_, offset, y, hwritten, hlater⟩
        · simp [date?, year?_of_digits? hyear, number?_of_digits? _ hmonth, number?_of_digits? _ hday, hfound]
        · rintro rfl
          cases hoffset
      · cases h
    · cases h
  · cases h

theorem hour_of_separator {kind : Separator} {separator : Char} {u r : Text}
    (hseparator : separator = 'T' ∨ separator = 't' ∨ separator = ' ')
    (h : kind.read? (separator :: u) = some r) : number? 2 r = none ∨ number? 2 r = number? 2 u := by
  cases kind with
  | letter =>
      obtain ⟨-, rfl⟩ := List.cons.inj (eq_of_char? h)
      exact .inr rfl
  | blanks =>
      cases h
      rcases hseparator with rfl | rfl | rfl
      · exact .inl rfl
      · exact .inl rfl
      · right
        change number? 2 (skipBlanks u) = number? 2 u
        rw [number?, number?, skipBlanks_skipBlanks]

theorem readWithoutOffset?_of_readWithOffset? {x : DateTime} (h : readWithOffset? t = some x) :
    readWithoutOffset? t = none := by
  obtain ⟨date, separator, hour, minute, second, nanosecond, u, v, w, z, tail, hdate, hseparator, hhour, hminute,
    hsecond, hfraction, htail, -⟩ := parts_of_readWithOffset? h
  rw [readWithoutOffset?, List.findSome?_eq_none_iff]
  rintro ⟨kind, seconds⟩ -
  cases hread : kind.read? (separator :: u) with
  | none => simp [readFormat?, hdate, hread]
  | some r =>
      rcases hour_of_separator hseparator hread with hnone | hsame
      · simp [readFormat?, hdate, hread, hnone]
      · cases seconds <;> simp [readFormat?, hdate, hread, hsame, hhour, hminute, hsecond, hfraction, htail]

theorem readDateAlone?_of_readWithOffset? {x : DateTime} (h : readWithOffset? t = some x) :
    readDateAlone? t = none := by
  obtain ⟨date, separator, _, _, _, _, u, _, _, _, _, hdate, -⟩ := parts_of_readWithOffset? h
  rw [readDateAlone?, hdate]

theorem readWithoutOffset?_of_readDateAlone? {d : Date} (h : readDateAlone? t = some d) :
    readWithoutOffset? t = none := by
  have hdate : date? t = some (d, []) := by
    unfold readDateAlone? at h
    split at h
    · cases h
      assumption
    · cases h
  rw [readWithoutOffset?, List.findSome?_eq_none_iff]
  rintro ⟨kind, seconds⟩ -
  cases kind <;> simp [readFormat?, hdate, Separator.read?, char?, number?, skipBlanks, digits?]

end Calendar

open Calendar

variable [Zone]

theorem DateTime.tells_of_read? {t : Text} {x : DateTime} (h : DateTime.read? none t = some x) : x.Tells := by
  rcases Option.or_eq_some_iff.1 h with hoffset | ⟨-, hzoneless⟩
  · obtain ⟨_, _, _, _, _, _, _, _, _, _, _, -, -, -, -, -, -, -, _, _, hwritten, hlater⟩ :=
      parts_of_readWithOffset? hoffset
    exact tells_of_later? (tells_of_ofWritten? hwritten) hlater
  · obtain ⟨y, hread, hsame⟩ := Option.bind_eq_some_iff.1 hzoneless
    cases hsame
    exact tells_of_readZoneless? hread

theorem Date.read?_eq_map {t : Text} (h : readWithOffset? t = none) :
    Date.read? t = (DateTime.read? none t).map DateTime.date := by
  cases halone : readDateAlone? t with
  | none =>
      cases hread : readWithoutOffset? t <;>
        simp [Date.read?, DateTime.read?, DateTime.readZoneless?, DateTime.normalise?, h, halone, hread]
  | some d =>
      have hread := readWithoutOffset?_of_readDateAlone? halone
      simp [Date.read?, DateTime.read?, DateTime.readZoneless?, DateTime.normalise?, h, halone, hread,
        DateTime.midnight]

theorem Date.read?_of_readWithOffset? {t : Text} {x : DateTime} (h : readWithOffset? t = some x) :
    Date.read? t = none ∧ DateTime.read? none t = some x := by
  constructor
  · simp [Date.read?, readDateAlone?_of_readWithOffset? h, readWithoutOffset?_of_readWithOffset? h]
  · simp [DateTime.read?, h]

end FilterLang
