import Mathlib.Algebra.BigOperators.Group.List.Basic
import Specimen.Calendar
import Specimen.Proofs.Decimal.Digits

/-!
# Instants and seconds

Counting seconds up to an instant needs no loop over years: there is a leap year among every
four, but not in the last of every hundred unless it is the last of four hundred
(`daysBeforeYear`). What `Calendar.ofSeconds` finds by taking off years and months is the
instant that lies that many seconds after the start of 1970 (`toSeconds_ofSeconds`), and it is a
real one, with a month of the year, a day of that month and a time of the day
(`isReal_ofSeconds`).

An instant is written with four digits for the year and two for everything else; the texts are
told from the numbers by what their digits denote (`Instant.WritesDate`, `Instant.WritesTime`).
-/

namespace Specimen

namespace Calendar

/-! ## Counting days -/

/-- The days from the start of the year one to the start of a year. -/
def daysBeforeYear (year : Nat) : Nat :=
  365 * (year - 1) + ((year - 1) / 4 - (year - 1) / 100 + (year - 1) / 400)

/-- The number of days of a month. -/
def monthLength (year month : Nat) : Nat :=
  if month = 2 then (if 4 ∣ year ∧ (100 ∣ year → 400 ∣ year) then 29 else 28)
  else if month = 4 ∨ month = 6 ∨ month = 9 ∨ month = 11 then 30
  else 31

/-- The days from the start of a year to the start of a month in it. -/
def daysBeforeMonth (year month : Nat) : Nat :=
  ((List.range' 1 (month - 1)).map (monthLength year)).sum

end Calendar

namespace Instant

open Calendar

/-- The month is one of the year, the day one of that month, and the time one of the day. -/
structure IsReal (t : Instant) : Prop where
  month : 1 ≤ t.month ∧ t.month ≤ 12
  day : 1 ≤ t.day ∧ t.day ≤ monthLength t.year t.month
  hour : t.hour < 24
  minute : t.minute < 60
  second : t.second < 60

/-- The seconds from the start of 1970 to an instant that is not before it. -/
def toSeconds (t : Instant) : Nat :=
  (daysBeforeYear t.year - daysBeforeYear 1970 + daysBeforeMonth t.year t.month + (t.day - 1))
    * 86400 + t.hour * 3600 + t.minute * 60 + t.second

end Instant

namespace Calendar

theorem isLeap_iff (year : Nat) :
    isLeap year = true ↔ 4 ∣ year ∧ (100 ∣ year → 400 ∣ year) := by
  unfold isLeap
  simp only [Bool.or_eq_true, Bool.and_eq_true, bne_iff_ne, beq_iff_eq]
  omega

/-! ## Years -/

theorem daysBeforeYear_succ {year : Nat} (h : 1 ≤ year) :
    daysBeforeYear (year + 1) = daysBeforeYear year + yearLength year := by
  obtain ⟨before, rfl⟩ : ∃ before, year = before + 1 := ⟨year - 1, by omega⟩
  have hle : before / 100 ≤ before / 4 := Nat.div_le_div_left (by decide) (by decide)
  unfold daysBeforeYear
  simp only [Nat.add_sub_cancel, Nat.succ_div]
  -- a quotient grows by one where the year is a multiple: by four, then by a hundred
  by_cases hleap : isLeap (before + 1) = true
  · rw [yearLength, if_pos hleap]
    obtain ⟨hfour, hcentury⟩ := (isLeap_iff _).mp hleap
    by_cases hhundred : 100 ∣ before + 1
    · rw [if_pos hfour, if_pos hhundred, if_pos (hcentury hhundred)]
      omega
    · have hfourHundred : ¬400 ∣ before + 1 := fun h400 =>
        hhundred (Nat.dvd_trans (by decide) h400)
      rw [if_pos hfour, if_neg hhundred, if_neg hfourHundred]
      omega
  · rw [yearLength, if_neg hleap]
    rw [isLeap_iff] at hleap
    by_cases hfour : 4 ∣ before + 1
    · have hhundred : 100 ∣ before + 1 := by
        by_contra hnot
        exact hleap ⟨hfour, fun h100 => absurd h100 hnot⟩
      rw [if_pos hfour, if_pos hhundred, if_neg fun h400 => hleap ⟨hfour, fun _ => h400⟩]
      omega
    · rw [if_neg hfour, if_neg fun h100 => hfour (Nat.dvd_trans (by decide) h100),
        if_neg fun h400 => hfour (Nat.dvd_trans (by decide) h400)]
      omega

theorem daysBeforeYear_mono {year year' : Nat} (hpos : 1 ≤ year) (h : year ≤ year') :
    daysBeforeYear year ≤ daysBeforeYear year' := by
  induction year', h using Nat.le_induction with
  | base => exact Nat.le_refl _
  | succ later hlater ih =>
      rw [daysBeforeYear_succ (Nat.le_trans hpos hlater)]
      exact Nat.le_add_right_of_le ih

/-- Years are taken off as long as a whole one is left. -/
theorem splitYear_spec (year days : Nat) (h : 1 ≤ year) :
    year ≤ (splitYear year days).1
      ∧ (splitYear year days).2 < yearLength (splitYear year days).1
      ∧ daysBeforeYear (splitYear year days).1 + (splitYear year days).2
        = daysBeforeYear year + days := by
  fun_induction splitYear year days with
  | case1 year days hlt => exact ⟨Nat.le_refl year, hlt, rfl⟩
  | case2 year days hge ih =>
      obtain ⟨hle, hlt, hdays⟩ := ih (by omega)
      refine ⟨by omega, hlt, ?_⟩
      rw [hdays, daysBeforeYear_succ h]
      omega

/-! ## Months -/

theorem monthLength_february (year : Nat) :
    monthLength year 2 = if isLeap year = true then 29 else 28 := by
  simp only [monthLength, if_true, isLeap_iff]

theorem monthLengths_eq (year : Nat) :
    monthLengths year = (List.range' 1 12).map (monthLength year) := by
  show _ = [31, monthLength year 2, 31, 30, 31, 30, 31, 31, 30, 31, 30, 31]
  rw [monthLength_february]
  rfl

theorem sum_monthLengths (year : Nat) : (monthLengths year).sum = yearLength year := by
  unfold monthLengths yearLength
  split <;> rfl

/-- Months are taken off as long as a whole one is left, which none is past the last. -/
theorem splitMonth_spec : ∀ (lengths : List Nat) (month days : Nat), days < lengths.sum →
    ∃ k length, lengths[k]? = some length ∧ (splitMonth month days lengths).1 = month + k
      ∧ (splitMonth month days lengths).2 < length
      ∧ (lengths.take k).sum + (splitMonth month days lengths).2 = days
  | [], _, _, h => by simp at h
  | length :: rest, month, days, h => by
      by_cases hlt : days < length
      · rw [splitMonth, if_pos hlt]
        exact ⟨0, length, rfl, rfl, hlt, by simp⟩
      · rw [List.sum_cons] at h
        obtain ⟨k, length', hk, hmonth, hless, hdays⟩ :=
          splitMonth_spec rest (month + 1) (days - length) (by omega)
        rw [splitMonth, if_neg hlt]
        refine ⟨k + 1, length', hk, by omega, hless, ?_⟩
        rw [List.take_succ_cons, List.sum_cons]
        omega

/-- The month of a day of a year, and the day's place in it. -/
theorem splitMonth_monthLengths {year days : Nat} (h : days < yearLength year) :
    1 ≤ (splitMonth 1 days (monthLengths year)).1
      ∧ (splitMonth 1 days (monthLengths year)).1 ≤ 12
      ∧ (splitMonth 1 days (monthLengths year)).2
        < monthLength year (splitMonth 1 days (monthLengths year)).1
      ∧ daysBeforeMonth year (splitMonth 1 days (monthLengths year)).1
        + (splitMonth 1 days (monthLengths year)).2 = days := by
  rw [← sum_monthLengths] at h
  obtain ⟨k, length, hk, hmonth, hlt, hdays⟩ := splitMonth_spec (monthLengths year) 1 days h
  obtain ⟨hk12, hlength⟩ : k < 12 ∧ monthLength year (1 + k) = length := by
    rw [monthLengths_eq, List.getElem?_map, Option.map_eq_some_iff] at hk
    obtain ⟨month, hrange, hlength⟩ := hk
    obtain ⟨hlt, hmonth⟩ := List.getElem?_eq_some_iff.mp hrange
    rw [List.getElem_range'] at hmonth
    simp only [List.length_range'] at hlt
    exact ⟨hlt, by rw [← hlength, ← hmonth, Nat.one_mul]⟩
  have hsum : ((monthLengths year).take k).sum = daysBeforeMonth year (1 + k) := by
    unfold daysBeforeMonth
    rw [monthLengths_eq, ← List.map_take, List.take_range'_of_length_ge hk12.le,
      Nat.add_sub_cancel_left]
  rw [hmonth]
  exact ⟨by omega, by omega, hlength ▸ hlt, by omega⟩

/-! ## Instants -/

theorem le_year_ofSeconds (seconds : Nat) : 1970 ≤ (ofSeconds seconds).year :=
  (splitYear_spec 1970 (seconds / 86400) (by decide)).1

theorem dayOfYear_lt (seconds : Nat) :
    (splitYear 1970 (seconds / 86400)).2 < yearLength (ofSeconds seconds).year :=
  (splitYear_spec 1970 (seconds / 86400) (by decide)).2.1

theorem isReal_ofSeconds (seconds : Nat) : (ofSeconds seconds).IsReal := by
  obtain ⟨hfirst, hlast, hday, -⟩ := splitMonth_monthLengths (dayOfYear_lt seconds)
  refine ⟨⟨hfirst, hlast⟩, ⟨Nat.succ_pos _, hday⟩, ?_, ?_, ?_⟩
  · show seconds % 86400 / 3600 < 24
    omega
  · show seconds % 3600 / 60 < 60
    omega
  · exact Nat.mod_lt seconds (by decide)

theorem daysBeforeYear_ofSeconds (seconds : Nat) :
    daysBeforeYear (ofSeconds seconds).year + (splitYear 1970 (seconds / 86400)).2
      = daysBeforeYear 1970 + seconds / 86400 :=
  (splitYear_spec 1970 (seconds / 86400) (by decide)).2.2

theorem daysBeforeMonth_ofSeconds (seconds : Nat) :
    daysBeforeMonth (ofSeconds seconds).year (ofSeconds seconds).month
      + ((ofSeconds seconds).day - 1) = (splitYear 1970 (seconds / 86400)).2 :=
  (splitMonth_monthLengths (dayOfYear_lt seconds)).2.2.2

/-- The instant that lies a number of seconds after the start of 1970. -/
theorem toSeconds_ofSeconds (seconds : Nat) : (ofSeconds seconds).toSeconds = seconds := by
  have hyear := daysBeforeYear_ofSeconds seconds
  have hmonth := daysBeforeMonth_ofSeconds seconds
  have hstart := daysBeforeYear_mono (by decide) (le_year_ofSeconds seconds)
  unfold Instant.toSeconds
  rw [show daysBeforeYear (ofSeconds seconds).year - daysBeforeYear 1970
    + daysBeforeMonth (ofSeconds seconds).year (ofSeconds seconds).month
    + ((ofSeconds seconds).day - 1) = seconds / 86400 by omega]
  show seconds / 86400 * 86400 + seconds % 86400 / 3600 * 3600 + seconds % 3600 / 60 * 60
    + seconds % 60 = seconds
  omega

-- the last second of a leap day
example : (⟨2000, 2, 29, 23, 59, 59⟩ : Instant).toSeconds = 951868799 := by decide

end Calendar

/-! ## Texts -/

/-- A text of a number of digits that denote a number. -/
structure Digits.Writes (width n : Nat) (text : List Char) : Prop where
  length : text.length = width
  isDigit : ∀ c ∈ text, c.isDigit = true
  decimal : Digits.decimal text = n

namespace Instant

/-- A text is the date of an instant: `YYYY-MM-DD`. -/
def WritesDate (t : Instant) (text : List Char) : Prop :=
  ∃ year month day, Digits.Writes 4 t.year year ∧ Digits.Writes 2 t.month month
    ∧ Digits.Writes 2 t.day day ∧ text = year ++ '-' :: month ++ '-' :: day

/-- A text is the time of an instant: `HH:MM:SSZ`. -/
def WritesTime (t : Instant) (text : List Char) : Prop :=
  ∃ hour minute second, Digits.Writes 2 t.hour hour ∧ Digits.Writes 2 t.minute minute
    ∧ Digits.Writes 2 t.second second ∧ text = hour ++ ':' :: minute ++ ':' :: second ++ ['Z']

theorem writes_padded {width n : Nat} (hwidth : 0 < width) (h : n < 10 ^ width) :
    Digits.Writes width n (padded width n).toList := by
  have htext : (padded width n).toList
      = List.replicate (width - (Decimal.digits n).length) '0' ++ Decimal.digits n :=
    String.toList_ofList
  have hlength : (Decimal.digits n).length ≤ width := by
    rw [Decimal.length_digits]
    exact (Decimal.digitCount_le_iff hwidth).mpr h
  rw [htext]
  refine ⟨?_, fun c hc => ?_, ?_⟩
  · rw [List.length_append, List.length_replicate, Nat.sub_add_cancel hlength]
  · rcases List.mem_append.mp hc with hzero | hdigit
    · rw [List.eq_of_mem_replicate hzero]
      rfl
    · exact Decimal.isDigit_of_mem_digits hdigit
  · rw [Digits.decimal_append, Digits.decimal_zeros, Nat.mul_zero, Nat.zero_add,
      Decimal.decimal_digits]

variable {t : Instant}

/-- Years have four digits for a long time. -/
theorem year_lt_of_toSeconds_lt (h : t.toSeconds < 2 ^ 37) : t.year < 10000 := by
  have hstart : Calendar.daysBeforeYear 1970 = 719162 := by decide
  have hle : 365 * (t.year - 1) ≤ Calendar.daysBeforeYear t.year := Nat.le_add_right _ _
  unfold toSeconds at h
  omega

theorem IsReal.writesDate (h : t.IsReal) (hyear : t.year < 10000) :
    t.WritesDate t.dateText.toList := by
  have hday : t.day < 100 := by
    have hle := h.day.2
    unfold Calendar.monthLength at hle
    split at hle
    · split at hle <;> omega
    · split at hle <;> omega
  have hmonth := h.month
  refine ⟨_, _, _, writes_padded (by decide) hyear, writes_padded (by decide) ?_,
    writes_padded (by decide) hday, ?_⟩
  · show t.month < 100
    omega
  · simp [dateText]

theorem IsReal.writesTime (h : t.IsReal) : t.WritesTime t.timeText.toList := by
  refine ⟨_, _, _, writes_padded (by decide) (h.hour.trans (by decide)),
    writes_padded (by decide) (h.minute.trans (by decide)),
    writes_padded (by decide) (h.second.trans (by decide)), ?_⟩
  simp [timeText]

end Instant

end Specimen
