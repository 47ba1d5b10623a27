/-
This file proves that a point in time is read from its own text: every number is written with the
digits that its reader takes, no more and no fewer, and each mark is the one that comes next. The
text is in UTC, so the date that is read needs no correction.
-/

import Entitlement.Timestamp.Reader
import Mathlib.Algebra.Group.Nat.Defs
import Mathlib.Data.List.TakeWhile

namespace Entitlement

namespace Text

/-! ### Digits at the front -/

/-- The characters do not go on with a digit. -/
def EndsNumber (rest : List Char) : Prop :=
  ∀ first ∈ rest.head?, first.isDigit = false

theorem endsNumber_cons {first : Char} {rest : List Char} (noDigit : first.isDigit = false) :
    EndsNumber (first :: rest) := by
  intro other isFirst
  cases isFirst
  exact noDigit

theorem takeWhile_isDigit {digits rest : List Char} (areDigits : ∀ digit ∈ digits, digit.isDigit)
    (ends : EndsNumber rest) : (digits ++ rest).takeWhile Char.isDigit = digits := by
  rw [List.takeWhile_append_of_pos areDigits]
  cases rest with
  | nil => rw [List.takeWhile_nil, List.append_nil]
  | cons first rest =>
    rw [List.takeWhile_cons_of_neg (by rw [ends first rfl]; decide), List.append_nil]

theorem dropWhile_isDigit {digits rest : List Char} (areDigits : ∀ digit ∈ digits, digit.isDigit)
    (ends : EndsNumber rest) : (digits ++ rest).dropWhile Char.isDigit = rest := by
  rw [List.dropWhile_append_of_pos areDigits]
  cases rest with
  | nil => rfl
  | cons first rest => exact List.dropWhile_cons_of_neg (by rw [ends first rfl]; decide)

/-- A short number ends after as many digits as count, or before that where no digit follows. -/
theorem shortNumber?_append {most : Nat} {digits rest : List Char} (nonempty : digits ≠ [])
    (areDigits : ∀ digit ∈ digits, digit.isDigit) (fits : digits.length ≤ most)
    (ends : digits.length = most ∨ EndsNumber rest) :
    shortNumber? most (digits ++ rest) = some (Nat.ofDigitChars 10 digits 0, rest) := by
  have counted : ((digits ++ rest).take most).takeWhile Char.isDigit = digits := by
    rw [List.take_append, List.take_of_length_le fits]
    refine takeWhile_isDigit areDigits ?_
    rcases ends with full | ends
    · rw [full, Nat.sub_self, List.take_zero]
      exact fun first isFirst => nomatch isFirst
    · intro first isFirst
      refine ends first ?_
      rw [List.head?_take] at isFirst
      split at isFirst
      · exact nomatch isFirst
      · exact isFirst
  simp only [shortNumber?, counted, List.isEmpty_eq_false_iff.2 nonempty, Bool.false_eq_true,
    if_false, List.drop_left]

/-! ### Padded numbers -/

theorem isDigit_digitChar {digit : Nat} (small : digit < 10) : (Nat.digitChar digit).isDigit := by
  have all : ∀ digit < 10, (Nat.digitChar digit).isDigit := by decide
  exact all digit small

theorem toNat_digitChar {digit : Nat} (small : digit < 10) :
    (Nat.digitChar digit).toNat - '0'.toNat = digit := by
  have all : ∀ digit < 10, (Nat.digitChar digit).toNat - '0'.toNat = digit := by decide
  exact all digit small

@[simp] theorem length_padded (width value : Nat) : (padded width value).length = width := by
  induction width generalizing value with
  | zero => rfl
  | succ width inductionHypothesis => rw [padded, List.length_append, inductionHypothesis]; rfl

theorem isDigit_of_mem_padded {width value : Nat} :
    ∀ digit ∈ padded width value, digit.isDigit := by
  induction width generalizing value with
  | zero => exact fun digit member => nomatch member
  | succ width inductionHypothesis =>
    intro digit member
    rw [padded, List.mem_append, List.mem_singleton] at member
    rcases member with front | rfl
    · exact inductionHypothesis digit front
    · exact isDigit_digitChar (Nat.mod_lt _ (by decide))

theorem ofDigitChars_padded {width value : Nat} (fits : value < 10 ^ width) :
    Nat.ofDigitChars 10 (padded width value) 0 = value := by
  induction width generalizing value with
  | zero => exact (Nat.lt_one_iff.1 fits).symm
  | succ width inductionHypothesis =>
    have front : value / 10 < 10 ^ width := by
      rw [Nat.pow_succ] at fits
      exact Nat.div_lt_of_lt_mul (by rwa [Nat.mul_comm] at fits)
    rw [padded, Nat.ofDigitChars_append, inductionHypothesis front, Nat.ofDigitChars_cons,
      toNat_digitChar (Nat.mod_lt _ (by decide)), Nat.ofDigitChars_nil]
    exact Nat.div_add_mod value 10

theorem shortNumber?_padded {width value : Nat} {rest : List Char} (positive : 0 < width)
    (fits : value < 10 ^ width) :
    shortNumber? width (padded width value ++ rest) = some (value, rest) := by
  have nonempty : padded width value ≠ [] := by
    rw [← List.length_pos_iff, length_padded]
    exact positive
  rw [shortNumber?_append nonempty isDigit_of_mem_padded (length_padded ..).le
    (Or.inl (length_padded ..)), ofDigitChars_padded fits]

theorem not_isBlank_of_isDigit {character : Char} (digit : character.isDigit) :
    isBlank character = false := by
  have range : 48 ≤ character.toNat ∧ character.toNat ≤ 57 := by
    simpa [Char.isDigit, UInt32.le_iff_toNat_le] using digit
  simp only [isBlank, Bool.or_eq_false_iff, Bool.and_eq_false_iff, decide_eq_false_iff_not,
    beq_eq_false_iff_ne]
  omega

end Text

namespace Timestamp

open Text

/-! ### The parts of a text -/

theorem skipBlanks_cons {first : Char} {rest : List Char} (noBlank : isBlank first = false) :
    skipBlanks (first :: rest) = first :: rest :=
  List.dropWhile_cons_of_neg (by rw [noBlank]; decide)

theorem skipBlanks_digits {digits rest : List Char} (nonempty : digits ≠ [])
    (areDigits : ∀ digit ∈ digits, digit.isDigit) :
    skipBlanks (digits ++ rest) = digits ++ rest := by
  cases digits with
  | nil => exact absurd rfl nonempty
  | cons first digits =>
    exact skipBlanks_cons (not_isBlank_of_isDigit (areDigits first List.mem_cons_self))

theorem pair?_padded {value : Nat} {rest : List Char} (fits : value < 100) :
    pair? (padded 2 value ++ rest) = some (value, rest) := by
  have nonempty : padded 2 value ≠ [] := List.ne_nil_of_length_eq_add_one (length_padded ..)
  rw [pair?, skipBlanks_digits nonempty isDigit_of_mem_padded, shortNumber?_padded (by decide) fits]

theorem markedPair?_padded (mark : Char) {value : Nat} {rest : List Char}
    (noBlank : isBlank mark = false) (fits : value < 100) :
    markedPair? mark (mark :: (padded 2 value ++ rest)) = some (value, rest) := by
  rw [markedPair?, skipBlanks_cons noBlank, after?, if_pos rfl, Option.bind_some, pair?_padded fits]

/-- A year of four digits has no sign unless it is negative. -/
theorem year?_unsigned {first : Char} {rest : List Char} (digit : first.isDigit) :
    year? (first :: rest) =
      (Text.shortNumber? 4 (first :: rest)).map fun found => ((found.1 : Int), found.2) := by
  rw [year?, skipBlanks_cons (not_isBlank_of_isDigit digit)]
  split
  · next same =>
    cases (List.cons.inj same).1
    exact absurd digit (by decide)
  · next same =>
    cases (List.cons.inj same).1
    exact absurd digit (by decide)
  · rfl

/-- The digits after the sign of a year are a number of any length. -/
theorem shortNumber?_signed {digits rest : List Char} (nonempty : digits ≠ [])
    (areDigits : ∀ digit ∈ digits, digit.isDigit) (ends : EndsNumber rest) :
    shortNumber? (digits ++ rest).length (digits ++ rest) =
      some (Nat.ofDigitChars 10 digits 0, rest) :=
  shortNumber?_append nonempty areDigits (by simp) (Or.inr ends)

/-- The digits of a year: four of them, or as many as it needs. -/
def yearDigits (size : Nat) : List Char :=
  if size < 10000 then padded 4 size else Nat.toDigits 10 size

theorem yearDigits_ne_nil (size : Nat) : yearDigits size ≠ [] := by
  unfold yearDigits
  split
  · exact List.ne_nil_of_length_eq_add_one (length_padded ..)
  · exact Nat.toDigits_ne_nil

theorem isDigit_of_mem_yearDigits {size : Nat} : ∀ digit ∈ yearDigits size, digit.isDigit := by
  intro digit member
  unfold yearDigits at member
  split at member
  · exact isDigit_of_mem_padded digit member
  · exact Nat.isDigit_of_mem_toDigits (by decide) (by decide) member

theorem ofDigitChars_yearDigits (size : Nat) : Nat.ofDigitChars 10 (yearDigits size) 0 = size := by
  unfold yearDigits
  split
  · next short => exact ofDigitChars_padded short
  · exact Nat.ofDigitChars_toDigits (by decide) (by decide)

theorem year?_yearChars (year : Int) {rest : List Char} (ends : EndsNumber rest) :
    year? (yearChars year ++ rest) = some (year, rest) := by
  have signed := shortNumber?_signed (yearDigits_ne_nil year.natAbs) isDigit_of_mem_yearDigits ends
  rw [ofDigitChars_yearDigits] at signed
  show year? ((if year < 0 then '-' :: yearDigits year.natAbs
    else if year.natAbs < 10000 then yearDigits year.natAbs
    else '+' :: yearDigits year.natAbs) ++ rest) = _
  split
  · next negative =>
    have size : -(year.natAbs : Int) = year := by omega
    rw [List.cons_append, year?, skipBlanks_cons (by decide)]
    simp only [signed, Option.map_some, size]
  · next notNegative =>
    have size : (year.natAbs : Int) = year := by omega
    split
    · next short =>
      cases digits : padded 4 year.natAbs with
      | nil => exact absurd digits (List.ne_nil_of_length_eq_add_one (length_padded ..))
      | cons first others =>
        have isDigit : first.isDigit :=
          isDigit_of_mem_padded first (digits ▸ List.mem_cons_self)
        rw [yearDigits, if_pos short, digits, List.cons_append, year?_unsigned isDigit,
          ← List.cons_append, ← digits, shortNumber?_padded (by decide) short, Option.map_some,
          size]
    · rw [List.cons_append, year?, skipBlanks_cons (by decide)]
      simp only [signed, Option.map_some, size]

/-! ### Fractions -/

theorem fraction?_digits {digits rest : List Char} (nonempty : digits ≠ [])
    (areDigits : ∀ digit ∈ digits, digit.isDigit) (ends : EndsNumber rest) :
    fraction? ('.' :: (digits ++ rest)) = some (nanosecondsOf digits, rest) := by
  simp only [fraction?, takeWhile_isDigit areDigits ends, dropWhile_isDigit areDigits ends,
    List.isEmpty_eq_false_iff.2 nonempty, Bool.false_eq_true, if_false]

theorem ofDigitChars_zeros (count start : Nat) :
    Nat.ofDigitChars 10 (List.replicate count '0') start = start * 10 ^ count := by
  induction count generalizing start with
  | zero => simp
  | succ count inductionHypothesis =>
    rw [List.replicate_succ, Nat.ofDigitChars_cons, inductionHypothesis, Nat.pow_succ]
    simp only [Nat.sub_self, Nat.add_zero]
    rw [Nat.mul_comm 10 start, Nat.mul_assoc, Nat.mul_comm 10]

/-- The digits of a fraction count from its front, so zeros fill it up at its end. -/
theorem nanosecondsOf_padded {width value : Nat} (narrow : width ≤ 9) (fits : value < 10 ^ width) :
    nanosecondsOf (padded width value) = value * 10 ^ (9 - width) := by
  unfold nanosecondsOf
  have full : (padded width value ++ List.replicate (9 - width) '0').length ≤ 9 := by
    rw [List.length_append, length_padded, List.length_replicate]
    omega
  rw [length_padded, List.take_of_length_le full, Nat.ofDigitChars_append, ofDigitChars_padded fits,
    ofDigitChars_zeros]

theorem fraction?_padded {width value : Nat} {rest : List Char} (positive : 0 < width)
    (narrow : width ≤ 9) (fits : value < 10 ^ width) (ends : EndsNumber rest) :
    fraction? ('.' :: padded width value ++ rest) = some (value * 10 ^ (9 - width), rest) := by
  have nonempty : padded width value ≠ [] := by
    rw [← List.length_pos_iff, length_padded]
    exact positive
  rw [List.cons_append, fraction?_digits nonempty isDigit_of_mem_padded ends,
    nanosecondsOf_padded narrow fits]

theorem fraction?_fractionChars {nanosecond : Nat} {rest : List Char}
    (small : nanosecond < 1000000000) (noPoint : rest.head? ≠ some '.') (ends : EndsNumber rest) :
    fraction? (fractionChars nanosecond ++ rest) = some (nanosecond, rest) := by
  unfold fractionChars
  split
  · next zero =>
    subst zero
    rw [List.nil_append, fraction?]
    rintro others rfl
    exact noPoint rfl
  split
  · next millis =>
    rw [fraction?_padded (by decide) (by decide) (by omega) ends]
    exact congrArg some (Prod.ext (by omega) rfl)
  split
  · next micros =>
    rw [fraction?_padded (by decide) (by decide) (by omega) ends]
    exact congrArg some (Prod.ext (by omega) rfl)
  · rw [fraction?_padded (by decide) (by decide) small ends]
    exact congrArg some (Prod.ext (by omega) rfl)

/-! ### The whole text -/

theorem daysInMonth_le (year : Int) (month : Nat) : Date.daysInMonth year month ≤ 31 := by
  unfold Date.daysInMonth
  split
  · split <;> decide
  all_goals decide

theorem ofLocal?_utc (timestamp : Timestamp) :
    ofLocal? timestamp.date timestamp.hour timestamp.minute timestamp.second
      timestamp.nanosecond 0 = some timestamp := by
  obtain ⟨date, hour, minute, second, nanosecond, valid⟩ := timestamp
  have bounds := valid
  simp only [isTime, Bool.and_eq_true, decide_eq_true_eq] at bounds
  obtain ⟨⟨⟨hourSmall, minuteSmall⟩, -⟩, -⟩ := bounds
  have hours : ((60 * hour + minute : Int) - 0) % 1440 = (60 * hour + minute : Nat) := by omega
  have sameHour : (60 * hour + minute) / 60 = hour := by omega
  have sameMinute : (60 * hour + minute) % 60 = minute := by omega
  have notBefore : ¬(60 * hour + minute : Int) - 0 < 0 := by omega
  have notAfter : (60 * hour + minute : Int) - 0 < 1440 := by omega
  simp only [ofLocal?, hours, notBefore, notAfter, if_true, if_false, Option.bind_eq_bind,
    Option.bind_some, Int.toNat_natCast, sameHour, sameMinute, valid, dite_true]
  rfl

/-- A point in time is read from its own text. -/
theorem ofText?_text (timestamp : Timestamp) : ofText? timestamp.text = some timestamp := by
  have utc := ofLocal?_utc timestamp
  obtain ⟨⟨year, month, day, validDate⟩, hour, minute, second, nanosecond, validTime⟩ := timestamp
  have date := validDate
  simp only [Date.isValid, Bool.and_eq_true, decide_eq_true_eq] at date
  have time := validTime
  simp only [isTime, Bool.and_eq_true, decide_eq_true_eq] at time
  have days := daysInMonth_le year month
  have found : Date.of? year month day = some ⟨year, month, day, validDate⟩ := dif_pos validDate
  have mark : EndsNumber ['Z'] := endsNumber_cons (by decide)
  have zoneMark : skipBlanks ['Z'] = ['Z'] := skipBlanks_cons (by decide)
  simp only [ofText?, text, String.toList_ofList, List.append_assoc, List.cons_append]
  rw [year?_yearChars year (endsNumber_cons (by decide))]
  simp only [Option.bind_eq_bind, Option.bind_some, afterDate?,
    markedPair?_padded '-' (by decide) (show month < 100 by omega),
    markedPair?_padded '-' (by decide) (show day < 100 by omega),
    pair?_padded (show hour < 100 by omega),
    markedPair?_padded ':' (by decide) (show minute < 100 by omega),
    markedPair?_padded ':' (by decide) (show second < 100 by omega),
    fraction?_fractionChars time.2 (by decide) mark, found,
    zoneMark, zone?, List.all_nil, Bool.true_and, validTime, if_true]
  exact utc

end Timestamp

end Entitlement
