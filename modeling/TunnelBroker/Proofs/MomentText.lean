/-
  TunnelBroker.Proofs.MomentText — dates and moments that are written and read back.

  - `yearOf_spec`: a day lies in the year that is found for it; `ofDayNumber_spec`: its date has its number.
  - `readYear?_yearChars`, `readPart?_padded`, `readNanos?_fractionChars`: the parts of a moment's text.
  - `Timestamp.read?_chars`: a moment is read back from its text, also one in a leap second.
-/

import TunnelBroker.Proofs.Digits
import TunnelBroker.Time.Timestamp

namespace TunnelBroker.Time

open TunnelBroker.Text (Stops isDigit ofDigits digitsOf isBlank powerOfTen stops_cons takeWhile_append
  takeWhile_of_all dropWhile_append)

/-! ## Days and dates -/

theorem yearStart_succ (year : Int) : yearStart (year + 1) = yearStart year + if isLeap year then 366 else 365 := by
  unfold yearStart isLeap
  simp only [Bool.and_eq_true, Bool.or_eq_true, decide_eq_true_eq, bne_iff_ne, ne_eq]
  split <;> omega

theorem yearStart_mono {a b : Int} (h : a ≤ b) : yearStart a ≤ yearStart b := by
  unfold yearStart
  dsimp only
  omega

/-- A day lies in its year. -/
theorem yearOf_spec (n : Int) : yearStart (yearOf n) ≤ n ∧ n < yearStart (yearOf n + 1) := by
  unfold yearOf yearStart
  dsimp only
  split
  · omega
  · split
    · omega
    · omega

/-- The month is found in which a day lies, by the lengths of the months from some month on. -/
theorem monthAndDay_spec {month days : Nat} {lengths : List Nat} (h : days < lengths.sum) :
    ∃ k, k < lengths.length ∧ (lengths.take k).sum ≤ days ∧ days - (lengths.take k).sum < lengths[k]?.getD 0 ∧
      monthAndDay month days lengths = (month + k, days - (lengths.take k).sum + 1) := by
  induction lengths generalizing month days with
  | nil => cases h
  | cons length rest ih =>
    rw [List.sum_cons] at h
    unfold monthAndDay
    by_cases hday : days < length
    · rw [if_pos hday]
      exact ⟨0, by simp, by simp, by simpa using hday, rfl⟩
    · rw [if_neg hday]
      obtain ⟨k, hk, hle, hlt, he⟩ := @ih (month + 1) (days - length) (by omega)
      refine ⟨k + 1, by simpa using hk, ?_, ?_, ?_⟩
      · rw [List.take_succ_cons, List.sum_cons]
        omega
      · rw [List.take_succ_cons, List.sum_cons, List.getElem?_cons_succ]
        omega
      · rw [he, List.take_succ_cons, List.sum_cons, Nat.sub_sub, Nat.add_assoc, Nat.add_comm 1 k]

theorem sum_monthLengths (leap : Bool) : (monthLengths leap).sum = if leap then 366 else 365 := by
  cases leap <;> rfl

/-- The date of a day is one of the calendar, in the year of the day. -/
theorem ofDayNumber_spec (n : Int) :
    (Date.ofDayNumber n).year = yearOf n ∧ (Date.ofDayNumber n).isValid = true ∧ dayNumber (Date.ofDayNumber n) = n := by
  obtain ⟨hstart, hend⟩ := yearOf_spec n
  have hday : (n - yearStart (yearOf n)).toNat < (monthLengths (isLeap (yearOf n))).sum := by
    rw [yearStart_succ] at hend
    rw [sum_monthLengths]
    cases hleap : isLeap (yearOf n) with
    | false => simp only [hleap, Bool.false_eq_true, if_false] at hend ⊢; omega
    | true => simp only [hleap, if_true] at hend ⊢; omega
  obtain ⟨k, hk, hle, hlt, he⟩ := @monthAndDay_spec 1 _ _ hday
  have hk' : k < 12 := hk
  unfold Date.ofDayNumber Date.isValid dayNumber daysBefore
  simp only [he, Nat.add_sub_cancel_left, ← List.sum_eq_foldl]
  refine ⟨trivial, ?_, ?_⟩
  · simp only [Bool.and_eq_true, decide_eq_true_eq]
    omega
  · omega

/-! ## Parts of a text -/

variable {rest : List Char}

theorem skipBlanks_cons {c : Char} (h : isBlank c = false) : skipBlanks (c :: rest) = c :: rest :=
  Text.dropWhile_of_stops (stops_cons.mpr h)

theorem isBlank_of_isDigit {c : Char} (h : isDigit c = true) : isBlank c = false := by
  obtain ⟨hlow, hhigh⟩ := Text.isDigit_iff.mp h
  simp only [isBlank, Bool.or_eq_false_iff, Bool.and_eq_false_iff, decide_eq_false_iff_not, beq_eq_false_iff_ne]
  omega

theorem readMark?_cons {c : Char} (h : isBlank c = false) : readMark? c (c :: rest) = some rest := by
  unfold readMark?
  rw [skipBlanks_cons h]
  exact if_pos rfl

namespace Timestamp

theorem skipBlanks_padded (width n : Nat) : skipBlanks (padded width n ++ rest) = padded width n ++ rest := by
  cases he : padded width n with
  | nil => exact absurd he (padded_ne_nil width n)
  | cons c cs =>
    have hc : isDigit c = true := isDigit_of_mem_padded (show c ∈ padded width n by rw [he]; exact List.mem_cons_self ..)
    exact skipBlanks_cons (isBlank_of_isDigit hc)

/-- A number of a known width is read back, whatever follows. -/
theorem readDigits?_padded {width n : Nat} (hwidth : 0 < width) (h : n < 10 ^ width) :
    readDigits? width (padded width n ++ rest) = some (n, rest) := by
  have hlength : (padded width n).length = width := length_padded hwidth h
  have htake : (padded width n ++ rest).take width = padded width n := by
    rw [List.take_append_of_le_length (Nat.le_of_eq hlength.symm), List.take_of_length_le (Nat.le_of_eq hlength)]
  have hdigits : (padded width n).takeWhile isDigit = padded width n :=
    
    takeWhile_of_all fun c hc => isDigit_of_mem_padded hc
  unfold readDigits?
  simp only [skipBlanks_padded, htake, hdigits, List.isEmpty_iff, padded_ne_nil, if_false, ofDigits_padded,
    List.drop_left]

theorem readPart?_padded {low high n : Nat} (hn : low ≤ n ∧ n ≤ high) (h : n < 100) :
    readPart? low high (padded 2 n ++ rest) = some (n, rest) := by
  unfold readPart?
  rw [readDigits?_padded (by decide) h]
  exact if_pos hn

theorem readAllDigits?_padded {width n : Nat} (hrest : Stops isDigit rest) :
    readAllDigits? (padded width n ++ rest) = some (n, rest) := by
  have hdigits : ∀ c ∈ padded width n, isDigit c = true := fun c hc => isDigit_of_mem_padded hc
  unfold readAllDigits?
  simp only [takeWhile_append hdigits hrest, dropWhile_append hdigits hrest, List.isEmpty_iff, padded_ne_nil, if_false,
    ofDigits_padded]

/-- A year is read back, with its sign if it has one. -/
theorem readYear?_yearChars (year : Int) (hrest : Stops isDigit rest) :
    readYear? (yearChars year ++ rest) = some (year, rest) := by
  unfold yearChars
  split
  · rename_i hplain
    have hread : readDigits? 4 (padded 4 year.toNat ++ rest) = some (year.toNat, rest) :=
      readDigits?_padded (by decide) (by omega)
    -- A digit is no sign.
    have hdigit : Stops (fun c => c == '-' || c == '+') (padded 4 year.toNat ++ rest) := by
      refine (Stops.of_mem fun c hc => ?_).append (padded_ne_nil _ _)
      obtain ⟨hlow, -⟩ := Text.isDigit_iff.mp (isDigit_of_mem_padded hc)
      rw [Bool.or_eq_false_iff, beq_eq_false_iff_ne, beq_eq_false_iff_ne]
      constructor
      · rintro rfl
        exact absurd hlow (by decide)
      · rintro rfl
        exact absurd hlow (by decide)
    unfold readYear?
    rw [skipBlanks_padded]
    split
    · rename_i more he
      exact absurd (hdigit _ _ he) (by decide)
    · rename_i more he
      exact absurd (hdigit _ _ he) (by decide)
    · rw [hread]
      simp only [Option.map_some, Int.toNat_of_nonneg hplain.1]
  · have hread : readAllDigits? (padded 4 year.natAbs ++ rest) = some (year.natAbs, rest) := readAllDigits?_padded hrest
    by_cases hneg : year < 0
    · rw [if_pos hneg, List.cons_append]
      unfold readYear?
      rw [skipBlanks_cons (by decide)]
      simp only [hread, Option.map_some]
      rw [show -(year.natAbs : Int) = year by omega]
    · rw [if_neg hneg, List.cons_append]
      unfold readYear?
      rw [skipBlanks_cons (by decide)]
      simp only [hread, Option.map_some]
      rw [show (year.natAbs : Int) = year by omega]

/-- The digits of a fraction that is not zero, a group of three or more. -/
theorem readNanos?_padded {width n : Nat} (hwidth : 0 < width ∧ width ≤ 9) (h : n < 10 ^ width)
    (hrest : Stops isDigit rest) :
    readNanos? ('.' :: (padded width n ++ rest)) = some (n * powerOfTen (9 - width), rest) := by
  have hdigits : ∀ c ∈ padded width n, isDigit c = true := fun c hc => isDigit_of_mem_padded hc
  have hlength : (padded width n).length = width := length_padded hwidth.1 h
  have htake : (padded width n).take 9 = padded width n := List.take_of_length_le (by omega)
  unfold readNanos?
  simp only [takeWhile_append hdigits hrest, dropWhile_append hdigits hrest, htake, List.isEmpty_iff, padded_ne_nil,
    if_false, ofDigits_padded, hlength]

theorem readNanos?_fractionChars {nanos : Nat} (h : nanos < billion) :
    readNanos? (fractionChars nanos ++ ['Z']) = some (nanos, ['Z']) := by
  have hend : Stops isDigit ['Z'] := stops_cons.mpr (by decide)
  have hlt : nanos < 1000000000 := h
  unfold fractionChars
  split
  · rename_i hzero
    subst hzero
    rfl
  · split
    · rename_i hmillis
      rw [List.cons_append, readNanos?_padded (by decide) (by omega) hend]
      rw [show nanos / 1000000 * powerOfTen (9 - 3) = nanos from Nat.div_mul_cancel (Nat.dvd_of_mod_eq_zero hmillis)]
    · split
      · rename_i hmicros
        rw [List.cons_append, readNanos?_padded (by decide) (by omega) hend]
        rw [show nanos / 1000 * powerOfTen (9 - 6) = nanos from Nat.div_mul_cancel (Nat.dvd_of_mod_eq_zero hmicros)]
      · rw [List.cons_append, readNanos?_padded (by decide) (by omega) hend]
        rw [show nanos * powerOfTen (9 - 9) = nanos from Nat.mul_one nanos]

/-! ## Dates and times -/

theorem day_le {date : Date} (h : date.isValid = true) : date.day ≤ 31 := by
  have hmonths : ∀ leap : Bool, ∀ k < 12, ((monthLengths leap)[k]?).getD 0 ≤ 31 := by decide
  simp only [Date.isValid, Bool.and_eq_true, decide_eq_true_eq] at h
  exact Nat.le_trans h.2 (hmonths _ _ (by omega))

theorem readDate?_of_isValid {date : Date} (h : date.isValid = true) (hyear : -262143 ≤ date.year ∧ date.year ≤ 262142) :
    readDate? (yearChars date.year ++ '-' :: (padded 2 date.month ++ '-' :: (padded 2 date.day ++ rest))) =
      some (date, rest) := by
  have hday := day_le h
  have hparts := h
  simp only [Date.isValid, Bool.and_eq_true, decide_eq_true_eq] at hparts
  obtain ⟨⟨⟨hmonth, hmonth'⟩, hfirst⟩, -⟩ := hparts
  unfold readDate?
  rw [readYear?_yearChars _ (stops_cons.mpr (by decide))]
  simp only [Option.bind_eq_bind, Option.bind_some, readMark?_cons (show isBlank '-' = false by decide),
    readPart?_padded ⟨hmonth, hmonth'⟩ (by omega), readPart?_padded ⟨hfirst, hday⟩ (by omega)]
  rw [if_pos]
  simp only [Bool.and_eq_true, decide_eq_true_eq]
  exact ⟨⟨h, hyear.1⟩, hyear.2⟩

/-- The time of a day: the second of the minute is 60 in a leap second. -/
theorem readTime?_padded {hour minute second nanos : Nat} (hhour : hour ≤ 23) (hminute : minute ≤ 59) (hsecond : second ≤ 60)
    (hnanos : nanos < billion) :
    readTime? (padded 2 hour ++ ':' :: (padded 2 minute ++ ':' :: (padded 2 second ++ (fractionChars nanos ++ ['Z'])))) =
      some (if second = 60 then (hour * 3600 + minute * 60 + 59, nanos + billion)
        else (hour * 3600 + minute * 60 + second, nanos), ['Z']) := by
  unfold readTime?
  simp only [Option.bind_eq_bind, Option.bind_some, readMark?_cons (show isBlank ':' = false by decide),
    readPart?_padded ⟨Nat.zero_le _, hhour⟩ (by omega), readPart?_padded ⟨Nat.zero_le _, hminute⟩ (by omega),
    readPart?_padded ⟨Nat.zero_le _, hsecond⟩ (by omega), readNanos?_fractionChars hnanos]
  rfl

/-! ## Moments -/

variable (t : Timestamp)

/-- The days of moments lie in the years that can be read. -/
theorem yearOf_mem : -262143 ≤ yearOf (t.seconds / 86400) ∧ yearOf (t.seconds / 86400) ≤ 262142 := by
  obtain ⟨hstart, hend⟩ := yearOf_spec (t.seconds / 86400)
  obtain ⟨hfirst, hlast⟩ := t.inRange
  unfold firstSecond at hfirst
  unfold lastSecond at hlast
  constructor
  · by_cases h : -262143 ≤ yearOf (t.seconds / 86400)
    · exact h
    · have hmono : yearStart (yearOf (t.seconds / 86400) + 1) ≤ yearStart (-262143) := yearStart_mono (by omega)
      omega
  · by_cases h : yearOf (t.seconds / 86400) ≤ 262142
    · exact h
    · have hmono : yearStart 262143 ≤ yearStart (yearOf (t.seconds / 86400)) := yearStart_mono (by omega)
      omega

/-- Reading the second and its fraction gives the second of the minute and the nanoseconds. -/
theorem secondParts_spec :
    t.secondParts.1 ≤ 60 ∧ t.secondParts.2 < billion ∧
      ∀ start : Nat, (if t.secondParts.1 = 60 then (start + 59, t.secondParts.2 + billion)
        else (start + t.secondParts.1, t.secondParts.2)) = (start + (t.seconds % 60).toNat, t.nanos) := by
  have hnanos := t.nanos_lt
  unfold secondParts
  dsimp only
  by_cases h : billion ≤ t.nanos
  · obtain ⟨hlt, hlast⟩ : t.nanos < 2 * billion ∧ t.seconds % 60 = 59 := hnanos.resolve_left (Nat.not_lt.mpr h)
    rw [if_pos h, hlast]
    refine ⟨Nat.le_refl 60, by omega, ?_⟩
    intro start
    have hleap : Int.toNat 59 + 1 = 60 := rfl
    simp only [hleap, if_true, Nat.sub_add_cancel h]
    rfl
  · rw [if_neg h]
    have hsecond : (t.seconds % 60).toNat < 60 := by omega
    refine ⟨by omega, by omega, ?_⟩
    intro start
    rw [if_neg (by omega)]

/-- A moment is read back from its text. -/
theorem read?_chars : Timestamp.read? t.chars = some t := by
  obtain ⟨hyear, hvalid, hnumber⟩ := ofDayNumber_spec (t.seconds / 86400)
  obtain ⟨hsecond, hnanos, hparts⟩ := t.secondParts_spec
  have hrange := t.yearOf_mem
  rw [← hyear] at hrange
  unfold chars Timestamp.read?
  dsimp only
  simp only [List.append_assoc, List.cons_append]
  rw [readDate?_of_isValid hvalid hrange]
  simp only [Option.bind_eq_bind, Option.bind_some, readSeparator?, true_or, if_true]
  rw [readTime?_padded (by omega) (by omega) hsecond hnanos, hparts]
  simp only [Option.bind_some, skipBlanks_cons (show isBlank 'Z' = false by decide), readOffset?, hnumber]
  have hseconds : 86400 * (t.seconds / 86400) +
      ((t.seconds % 86400).toNat / 3600 * 3600 + (t.seconds % 86400).toNat / 60 % 60 * 60 + (t.seconds % 60).toNat : Nat) - 0 =
        t.seconds := by
    omega
  rw [if_pos (by decide), hseconds]
  unfold make?
  rw [dif_pos t.inRange, dif_pos t.nanos_lt]

end Timestamp

end TunnelBroker.Time
