import PoolPlanner.Proofs.Fallible
import PoolPlanner.Time.DateTime

/-!
# Written date-times are read back

An instant is read back from its text as it was; one that is written in whole seconds is read back
without the fraction of its second.
-/

namespace PoolPlanner

namespace DateTime

section Digits

theorem numberOf_eq_ofDigitChars (digits : List Char) :
    numberOf digits = Nat.ofDigitChars 10 digits 0 := by
  simp only [numberOf, Nat.ofDigitChars_eq_foldl, digitValue, Nat.mul_comm]

@[simp]
theorem numberOf_padded (width value : Nat) : numberOf (padded width value) = value := by
  simp [numberOf_eq_ofDigitChars, padded, Nat.ofDigitChars_append]

theorem isDigit_of_mem_padded {width value : Nat} {character : Char}
    (member : character ∈ padded width value) : character.isDigit = true := by
  rcases List.mem_append.1 member with padding | digit
  · rw [List.eq_of_mem_replicate padding]
    decide
  · exact Nat.isDigit_of_mem_toDigits (by decide) (by decide) digit

theorem padded_ne_nil (width value : Nat) : padded width value ≠ [] := by
  simp [padded, Nat.toDigits_ne_nil]

/-- A number that fits is padded to exactly the width. -/
theorem length_padded {width value : Nat} (positive : 0 < width) (fits : value < 10 ^ width) :
    (padded width value).length = width := by
  have atMost := (Nat.length_toDigits_le_iff (b := 10) (by decide) positive).2 fits
  rw [padded, List.length_append, List.length_replicate]
  omega

theorem isBlank_of_isDigit {character : Char} (digit : character.isDigit = true) :
    Text.isBlank character = false := by
  have bounds : 48 ≤ character.toNat ∧ character.toNat ≤ 57 := by
    simpa [Char.isDigit, UInt32.le_iff_toNat_le] using digit
  simp [Text.isBlank]
  omega

end Digits

section Parts

variable {digits : List Char}

theorem takeWhile_isDigit_eq (allDigits : ∀ character ∈ digits, character.isDigit = true) :
    digits.takeWhile Char.isDigit = digits := by
  have window : (digits ++ []).takeWhile Char.isDigit = digits ++ [].takeWhile Char.isDigit :=
    List.takeWhile_append_of_pos allDigits
  simpa using window

theorem skipBlanks_append (allDigits : ∀ character ∈ digits, character.isDigit = true)
    (nonempty : digits ≠ []) (rest : List Char) :
    skipBlanks (digits ++ rest) = digits ++ rest := by
  cases digits with
  | nil => exact absurd rfl nonempty
  | cons first others =>
      have notBlank := isBlank_of_isDigit (allDigits first List.mem_cons_self)
      simp [skipBlanks, notBlank]

theorem readDigits_some (allDigits : ∀ character ∈ digits, character.isDigit = true)
    (nonempty : digits ≠ []) (rest : List Char) :
    readDigits (some digits.length) (digits ++ rest) = .ok (digits, rest) := by
  cases digits with
  | nil => exact absurd rfl nonempty
  | cons first others =>
      simp only [readDigits, List.take_left, takeWhile_isDigit_eq allDigits]
      simp

/-- Without a width, digits are read up to the first other character. -/
theorem readDigits_none (allDigits : ∀ character ∈ digits, character.isDigit = true)
    (nonempty : digits ≠ []) (mark : Char) (rest : List Char) (noDigit : mark.isDigit = false) :
    readDigits none (digits ++ mark :: rest) = .ok (digits, mark :: rest) := by
  have window : (digits ++ mark :: rest).takeWhile Char.isDigit = digits := by
    rw [List.takeWhile_append_of_pos allDigits]
    simp [noDigit]
  cases digits with
  | nil => exact absurd rfl nonempty
  | cons first others =>
      simp only [readDigits, window]
      simp

/-- Within a width, digits are read up to the first other character too. -/
theorem readDigits_within {width : Nat}
    (allDigits : ∀ character ∈ digits, character.isDigit = true) (nonempty : digits ≠ [])
    (fits : digits.length ≤ width) (mark : Char) (rest : List Char)
    (noDigit : mark.isDigit = false) :
    readDigits (some width) (digits ++ mark :: rest) = .ok (digits, mark :: rest) := by
  have window : ((digits ++ mark :: rest).take width).takeWhile Char.isDigit = digits := by
    rw [List.take_append, List.take_of_length_le fits, List.takeWhile_append_of_pos allDigits]
    cases width - digits.length with
    | zero => simp
    | succ more => simp [noDigit]
  cases digits with
  | nil => exact absurd rfl nonempty
  | cons first others =>
      simp only [readDigits, window]
      simp

/-- A fraction that is written in some digits is read back. -/
theorem readFraction_padded (width : Nat) {nanosecond : Nat} (positive : 0 < width)
    (atMost : width ≤ 9) (fits : nanosecond < 10 ^ 9)
    (whole : nanosecond % 10 ^ (9 - width) = 0) :
    readFraction ('.' :: (padded width (nanosecond / 10 ^ (9 - width)) ++ ['Z'])) =
      .ok (nanosecond, ['Z']) := by
  let shown := nanosecond / 10 ^ (9 - width)
  have shownFits : shown < 10 ^ width := by
    have powers : 10 ^ width * 10 ^ (9 - width) = 10 ^ 9 := by
      rw [← Nat.pow_add, Nat.add_sub_cancel' atMost]
    exact Nat.div_lt_of_lt_mul (by rwa [Nat.mul_comm, powers])
  have lengthEq : (padded width shown).length = width := length_padded positive shownFits
  have window := readDigits_within (fun _ => isDigit_of_mem_padded) (padded_ne_nil width shown)
    (lengthEq.symm ▸ atMost) 'Z' [] (by decide)
  have value : shown * 10 ^ (9 - width) = nanosecond :=
    Nat.div_mul_cancel (Nat.dvd_of_mod_eq_zero whole)
  have behind : ['Z'].dropWhile Char.isDigit = ['Z'] := rfl
  rw [readFraction, window, ok_bind]
  simp only [numberOf_padded, lengthEq, value, behind]

theorem readFraction_fractionText {nanosecond : Nat} (fits : nanosecond < 10 ^ 9) :
    readFraction (fractionText nanosecond ++ ['Z']) = .ok (nanosecond, ['Z']) := by
  unfold fractionText
  split
  next zero =>
    rw [zero]
    rfl
  next =>
    split
    next milli => exact readFraction_padded 3 (by decide) (by decide) fits milli
    next =>
      split
      next micro => exact readFraction_padded 6 (by decide) (by decide) fits micro
      next =>
        have nano := readFraction_padded 9 (by decide) (by decide) fits (Nat.mod_one _)
        simpa using nano

theorem readField_padded {least greatest value : Nat} (atLeast : least ≤ value)
    (atMost : value ≤ greatest) (twoDigits : value < 100) (rest : List Char) :
    readField least greatest (padded 2 value ++ rest) = .ok (value, rest) := by
  have window := readDigits_some (fun _ => isDigit_of_mem_padded) (padded_ne_nil 2 value) rest
  rw [length_padded (by decide) twoDigits] at window
  rw [readField, skipBlanks_append (fun _ => isDigit_of_mem_padded) (padded_ne_nil 2 value),
    window]
  have inBounds : ¬ (value < least ∨ greatest < value) := by omega
  simp [inBounds]

theorem readMark_cons (mark : Char) (rest : List Char) (notBlank : Text.isBlank mark = false) :
    readMark mark (mark :: rest) = .ok rest := by
  simp [readMark, skipBlanks, notBlank]

/-- A year is read back in all of its forms. -/
theorem readYear_yearText (year : Int) (rest : List Char) :
    readYear (yearText year ++ '-' :: rest) = .ok (year, '-' :: rest) := by
  unfold yearText
  split
  next plain =>
    have fits : year.toNat < 10 ^ 4 := by omega
    have window := readDigits_some (fun _ => isDigit_of_mem_padded)
      (padded_ne_nil 4 year.toNat) ('-' :: rest)
    rw [length_padded (by decide) fits] at window
    have unsigned : ∀ first others, padded 4 year.toNat ++ '-' :: rest = first :: others →
        first ≠ '-' ∧ first ≠ '+' := by
      intro first others split
      have digit : first.isDigit = true := by
        obtain ⟨head, tail, same⟩ := List.exists_cons_of_ne_nil (padded_ne_nil 4 year.toNat)
        rw [same, List.cons_append] at split
        obtain ⟨rfl, -⟩ := List.cons.inj split
        exact isDigit_of_mem_padded (same ▸ List.mem_cons_self)
      constructor <;> rintro rfl <;> simp at digit
    rw [readYear, skipBlanks_append (fun _ => isDigit_of_mem_padded)
      (padded_ne_nil 4 year.toNat)]
    split
    next others same => exact absurd rfl (unsigned _ _ same).1
    next others same => exact absurd rfl (unsigned _ _ same).2
    next =>
      have value : (year.toNat : Int) = year := Int.toNat_of_nonneg plain.1
      rw [window]
      simp only [ok_bind, numberOf_padded, value]
  next signed =>
    have window := readDigits_none (fun _ => isDigit_of_mem_padded)
      (padded_ne_nil 4 year.natAbs) '-' rest (by decide)
    split
    next negative =>
      have value : -(year.natAbs : Int) = year := by omega
      have read : readYear ('-' :: (padded 4 year.natAbs ++ '-' :: rest)) =
          .ok (-(year.natAbs : Int), '-' :: rest) := by
        simp [readYear, skipBlanks, window, Text.isBlank]
      rwa [value] at read
    next =>
      have value : (year.natAbs : Int) = year := by omega
      have read : readYear ('+' :: (padded 4 year.natAbs ++ '-' :: rest)) =
          .ok ((year.natAbs : Int), '-' :: rest) := by
        simp [readYear, skipBlanks, window, Text.isBlank]
      rwa [value] at read

theorem toUniversal_zero {moment : Moment} (valid : moment.IsValid) :
    moment.toUniversal 0 = moment := by
  obtain ⟨-, -, -, -, -, -, hour, minute, -⟩ := valid
  have notBefore : ¬ ((moment.hour : Int) * 60 + moment.minute - 0 < 0) := by omega
  have notAfter : ¬ (1440 ≤ (moment.hour : Int) * 60 + moment.minute - 0) := by omega
  have ofDay : (((moment.hour : Int) * 60 + moment.minute - 0) % 1440).toNat =
      moment.hour * 60 + moment.minute := by omega
  have hours : (moment.hour * 60 + moment.minute) / 60 = moment.hour := by omega
  have minutes : (moment.hour * 60 + moment.minute) % 60 = moment.minute := by omega
  simp only [Moment.toUniversal, notBefore, notAfter, if_false, ofDay, hours, minutes]

end Parts
end DateTime

namespace Instant

/-- The instant without the fraction of its second. -/
def whole (instant : Instant) : Instant where
  moment := { instant.moment with nanosecond := 0 }
  valid := by
    obtain ⟨earliest, latest, month, months, day, days, hour, minute, second, -⟩ := instant.valid
    exact ⟨earliest, latest, month, months, day, days, hour, minute, second, by simp⟩

/-- An instant is read back from its date and time and a text of its fraction. -/
theorem readChars_secondsText (instant : Instant) {fraction : List Char}
    (fractionRead : DateTime.readFraction (fraction ++ ['Z']) =
      .ok (instant.moment.nanosecond, ['Z'])) :
    DateTime.readChars (DateTime.secondsText instant.moment ++ fraction ++ ['Z']) =
      .ok instant := by
  obtain ⟨earliest, latest, month, months, day, days, hour, minute, second, -⟩ := instant.valid
  have dayAtMost : instant.moment.day ≤ 31 := by
    refine Nat.le_trans days ?_
    unfold daysInMonth
    split
    · split <;> decide
    · split <;> decide
  have readMonth := DateTime.readField_padded month months (by omega)
  have readDay := DateTime.readField_padded day dayAtMost (by omega)
  have readHour := DateTime.readField_padded (Nat.zero_le instant.moment.hour)
    (Nat.le_of_lt_succ hour) (by omega)
  have readMinute := DateTime.readField_padded (Nat.zero_le instant.moment.minute)
    (Nat.le_of_lt_succ minute) (by omega)
  have readSecond := DateTime.readField_padded (Nat.zero_le instant.moment.second) second (by omega)
  have readDash (rest : List Char) := DateTime.readMark_cons '-' rest rfl
  have readColon (rest : List Char) := DateTime.readMark_cons ':' rest rfl
  have readT (rest : List Char) : DateTime.readTimeMark ('T' :: rest) = .ok rest := rfl
  have offset : DateTime.readOffset (DateTime.skipBlanks ['Z']) = .ok (0, []) := rfl
  have inYears : ¬ (instant.moment.year < -2147483648 ∨ 2147483647 < instant.moment.year) := by
    omega
  have valid : instant.moment.IsValid := instant.valid
  have there : Moment.mk instant.moment.year instant.moment.month instant.moment.day
      instant.moment.hour instant.moment.minute instant.moment.second instant.moment.nanosecond =
        instant.moment := rfl
  simp only [DateTime.secondsText, DateTime.readChars, List.append_assoc, List.cons_append,
    DateTime.readYear_yearText, ok_bind, inYears, if_false, readDash, readMonth, readDay, readT,
    readHour, readColon, readMinute, readSecond, fractionRead, offset, there,
    DateTime.toUniversal_zero valid]
  simp [valid, ofMoment?, DateTime.skipBlanks]

/-- An instant written in whole seconds is read back. -/
theorem read_wholeText (instant : Instant) : read instant.wholeText = .ok instant.whole := by
  have fraction : DateTime.readFraction ([] ++ ['Z']) =
      .ok (instant.whole.moment.nanosecond, ['Z']) := rfl
  have wasRead := readChars_secondsText instant.whole fraction
  rw [List.append_nil] at wasRead
  rw [read, wholeText, String.toList_ofList]
  exact wasRead

/-- An instant is read back from its text. -/
theorem read_text (instant : Instant) : read instant.text = .ok instant := by
  obtain ⟨-, -, -, -, -, -, -, -, -, nanosecond⟩ := instant.valid
  rw [read, text, String.toList_ofList]
  exact readChars_secondsText instant (DateTime.readFraction_fractionText nanosecond)

end Instant
end PoolPlanner
