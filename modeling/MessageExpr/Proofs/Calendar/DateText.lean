import MessageExpr.Proofs.Calendar.Civil
import MessageExpr.Proofs.Number.Decimal
import MessageExpr.Proofs.Run.Answers

/-!
# Dates read back from their texts

The text of a date is a row of numbers with one character between any two. Each reader takes the
digits of its number and stops at that character, so reading goes through the text part by part
(`readYear?_append`, `readNumber?_twoDigits`). The parts are those of the date, whose day has the
number of its day in the calendar, so they make the second of the date again
(`toInstant?_parts`). What the text does not show is the part of the second that has passed:
a date is read back as the start of its second (`dateFromString_display`).
-/

set_option autoImplicit false

namespace MessageExpr

open Text

namespace Instant

/-- The instant lies in one of the representable years, and a leap second only ends a minute. -/
structure IsProper (instant : Instant) : Prop where
  representable : isRepresentable instant.seconds = true
  /-- A second and the leap second after it are two seconds long. -/
  short : instant.nanoseconds < 2 * nanosecondsPerSecond
  leap : nanosecondsPerSecond ≤ instant.nanoseconds → instant.seconds % 60 = 59

/-- The instant without the part of its second that has passed. -/
def startOfSecond (instant : Instant) : Instant :=
  ⟨instant.seconds, instant.nanoseconds - instant.subsecond⟩

/-- A leap second is shown as second 60, after the last second of its minute. -/
theorem second_eq {instant : Instant} (proper : instant.IsProper) :
    instant.nanoseconds < nanosecondsPerSecond ∧ instant.second = instant.secondOfDay % 60 ∧
        instant.nanoseconds - instant.subsecond = 0 ∨
      nanosecondsPerSecond ≤ instant.nanoseconds ∧ instant.second = 60 ∧
        instant.secondOfDay % 60 = 59 ∧
        instant.nanoseconds - instant.subsecond = nanosecondsPerSecond := by
  have short := proper.short
  rw [second, subsecond]
  rcases Nat.lt_or_ge instant.nanoseconds nanosecondsPerSecond with ordinary | inLeap
  · left
    rw [Nat.div_eq_of_lt ordinary, Nat.mod_eq_of_lt ordinary]
    omega
  · right
    have endsMinute := proper.leap inLeap
    have one : instant.nanoseconds / nanosecondsPerSecond = 1 :=
      Nat.div_eq_of_lt_le (by omega) (by omega)
    have rest := Nat.div_add_mod instant.nanoseconds nanosecondsPerSecond
    have last : instant.secondOfDay % 60 = 59 := by
      rw [secondOfDay, secondsPerDay]
      omega
    rw [one] at rest ⊢
    omega

end Instant

namespace DateText

open Decimal

/-! ## Digits -/

/-- Digits are read up to what follows them, if they are not too many. -/
theorem readDigits?_append {limit : Nat} {digits rest : List Char} (isDigits : Digits digits)
    (fits : digits.length ≤ limit) (stops : StopsAt Char.isDigit rest) :
    readDigits? limit (digits ++ rest) = some (valueOfDigits digits, rest) := by
  have cutStops : StopsAt Char.isDigit (rest.take (limit - digits.length)) := by
    intro character first
    apply stops
    rw [List.head?_take] at first
    split at first
    · cases first
    · exact first
  have taken : ((digits ++ rest).take limit).takeWhile Char.isDigit = digits := by
    rw [List.take_append, List.take_of_length_le fits, takeWhile_span isDigits.2 cutStops]
  have nonempty : digits.isEmpty = false := by
    rw [List.isEmpty_eq_false_iff]
    exact isDigits.1
  rw [readDigits?, taken]
  simp only [nonempty, Bool.false_eq_true, if_false, List.drop_left]

theorem isBlank_of_isDigit {character : Char} (isDigit : character.isDigit = true) :
    isBlank character = false := by
  have range : 48 ≤ character.toNat ∧ character.toNat ≤ 57 := Char.isDigit_iff_toNat.mp isDigit
  simp only [isBlank, inRanges, blankRanges, List.any_cons, List.any_nil, Bool.or_false,
    Bool.or_eq_false_iff, Bool.and_eq_false_iff, decide_eq_false_iff_not]
  omega

/-- No blank stands before digits. -/
theorem dropWhile_isBlank_digits {digits : List Char} (isDigits : Digits digits)
    (rest : List Char) : (digits ++ rest).dropWhile isBlank = digits ++ rest := by
  obtain ⟨nonempty, areDigits⟩ := isDigits
  obtain ⟨first, more, rfl⟩ := List.exists_cons_of_ne_nil nonempty
  have visible := isBlank_of_isDigit (areDigits first List.mem_cons_self)
  exact StopsAt.dropWhile_eq (stopsAt_cons visible)

/-! ## Numbers of two digits -/

theorem ofNat_eq_digitChar : ∀ digit < 10, Char.ofNat ('0'.toNat + digit) = digit.digitChar := by
  decide

theorem toList_twoDigits {number : Nat} (below : number < 100) :
    (DatePattern.twoDigits .zeros number).toList =
      [(number / 10).digitChar, (number % 10).digitChar] := by
  have ones := ofNat_eq_digitChar (number % 10) (by omega)
  have tens := ofNat_eq_digitChar (number / 10) (by omega)
  rw [DatePattern.twoDigits, ones, tens]
  split
  · rename_i none
    rw [none]
    exact String.toList_ofList
  · exact String.toList_ofList

/-- Two digits write a number below a hundred. -/
theorem twoDigits_digits {number : Nat} (below : number < 100) :
    Digits (DatePattern.twoDigits .zeros number).toList ∧
      valueOfDigits (DatePattern.twoDigits .zeros number).toList = number := by
  rw [toList_twoDigits below]
  refine ⟨⟨List.cons_ne_nil _ _, ?_⟩, ?_⟩
  · simp only [List.mem_cons, List.not_mem_nil, or_false]
    rintro character (rfl | rfl) <;> simp only [Nat.isDigit_digitChar, decide_eq_true_eq] <;> omega
  · have tens : (number / 10).digitChar.toNat - '0'.toNat = number / 10 :=
      Nat.toNat_digitChar_sub_48_of_lt_ten (by omega)
    have ones : (number % 10).digitChar.toNat - '0'.toNat = number % 10 :=
      Nat.toNat_digitChar_sub_48_of_lt_ten (by omega)
    simp only [valueOfDigits, List.foldl_cons, List.foldl_nil, tens, ones]
    omega

theorem readNumber?_twoDigits {bound number : Nat} (inBound : number ≤ bound) (below : bound < 100)
    {rest : List Char} (stops : StopsAt Char.isDigit rest) :
    readNumber? bound ((DatePattern.twoDigits .zeros number).toList ++ rest) =
      some (number, rest) := by
  obtain ⟨isDigits, value⟩ := twoDigits_digits (Nat.lt_of_le_of_lt inBound below)
  have fits : (DatePattern.twoDigits .zeros number).toList.length ≤ 2 := by
    rw [toList_twoDigits (Nat.lt_of_le_of_lt inBound below)]
    exact Nat.le_refl 2
  rw [readNumber?, dropWhile_isBlank_digits isDigits, readDigits?_append isDigits fits stops, value]
  simp only [if_pos inBound]

/-- A blank may stand before a number. -/
theorem readNumber?_blank (bound : Nat) (characters : List Char) :
    readNumber? bound (' ' :: characters) = readNumber? bound characters := by
  rfl

/-! ## Years -/

/-- Zeros in front of digits change nothing. -/
theorem padded_digits (count number : Nat) :
    Digits (List.replicate count '0' ++ Nat.toDigits 10 number) ∧
      valueOfDigits (List.replicate count '0' ++ Nat.toDigits 10 number) = number := by
  obtain ⟨nonempty, areDigits⟩ := digits_toDigits number
  refine ⟨⟨List.append_ne_nil_of_right_ne_nil _ nonempty, ?_⟩, ?_⟩
  · intro character member
    rcases List.mem_append.mp member with zero | digit
    · rw [List.eq_of_mem_replicate zero]
      rfl
    · exact areDigits character digit
  · change Nat.ofDigitChars 10 _ 0 = number
    induction count with
    | zero => exact Nat.ofDigitChars_ten_toDigits
    | succ count ih => exact ih

/-- A padded number is a sign and digits of its absolute value. -/
theorem toList_padded (width : Nat) (signed : Bool) {number : Int} {sign : String}
    (isSign : (if number < 0 then "-" else if signed then "+" else "") = sign) :
    ∃ digits, (DatePattern.padded .zeros width signed number).toList = sign.toList ++ digits ∧
      Digits digits ∧ valueOfDigits digits = number.natAbs ∧
      digits.length ≤ max width (Nat.toDigits 10 number.natAbs).length := by
  have digits := toList_toString_natural number.natAbs
  obtain ⟨missing, isMissing⟩ :
      ∃ missing, missing = width - (sign.length + (toString number.natAbs).length) := ⟨_, rfl⟩
  obtain ⟨isDigits, value⟩ := padded_digits missing number.natAbs
  refine ⟨_, ?written, isDigits, value, ?short⟩
  case written =>
    simp only [DatePattern.padded, isSign, ← isMissing, String.toList_append, String.toList_ofList,
      digits, List.append_assoc]
  case short =>
    have places : (toString number.natAbs).length = (Nat.toDigits 10 number.natAbs).length := by
      rw [← digits, String.length_toList]
    rw [List.length_append, List.length_replicate]
    omega

/-- The characters of a year: digits with a sign, or at most four digits without one. -/
inductive WritesYear : List Char → Int → Prop where
  | minus {digits : List Char} (isDigits : Digits digits) :
      WritesYear ('-' :: digits) (-(valueOfDigits digits : Int))
  | plus {digits : List Char} (isDigits : Digits digits) :
      WritesYear ('+' :: digits) (valueOfDigits digits)
  | unsigned {digits : List Char} (isDigits : Digits digits) (short : digits.length ≤ 4) :
      WritesYear digits (valueOfDigits digits)

/-- **The text of a year writes this year**: years below 0 and beyond 9999 have a sign. -/
theorem writesYear_yearText (year : Int) :
    WritesYear (DatePattern.yearText .zeros year).toList year := by
  rw [DatePattern.yearText]
  rcases Int.lt_or_le year 0 with negative | nonnegative
  · have beyond : ¬ (0 ≤ year && year ≤ 9999) = true := by simp [Int.not_le.mpr negative]
    obtain ⟨digits, written, isDigits, value, -⟩ := toList_padded 5 true (if_pos negative)
    have writes := WritesYear.minus isDigits
    rw [value, Int.ofNat_natAbs_of_nonpos (Int.le_of_lt negative), Int.neg_neg] at writes
    rw [if_neg beyond, written]
    exact writes
  · have notNegative : ¬ year < 0 := Int.not_lt.mpr nonnegative
    rcases Int.lt_or_le 9999 year with beyond | below
    · have signs : ¬ (0 ≤ year && year ≤ 9999) = true := by simp [beyond]
      obtain ⟨digits, written, isDigits, value, -⟩ := toList_padded 5 true (if_neg notNegative)
      have writes := WritesYear.plus isDigits
      rw [value, Int.natAbs_of_nonneg nonnegative] at writes
      rw [if_neg signs, written]
      exact writes
    · have bare : (0 ≤ year && year ≤ 9999) = true := by simp [nonnegative, below]
      obtain ⟨digits, written, isDigits, value, short⟩ :=
        toList_padded 4 false (if_neg notNegative)
      have places : (Nat.toDigits 10 year.natAbs).length ≤ 4 :=
        (Nat.length_toDigits_le_iff (by decide) (by decide)).mpr (by omega)
      have writes := WritesYear.unsigned isDigits (by omega)
      rw [value, Int.natAbs_of_nonneg nonnegative] at writes
      rw [if_pos bare, written]
      exact writes

/-- **A year is read up to what follows it.** -/
theorem readYear?_append {characters rest : List Char} {year : Int}
    (writes : WritesYear characters year) (stops : StopsAt Char.isDigit rest) :
    readYear? (characters ++ rest) = some (year, rest) := by
  have fits : ∀ digits : List Char, digits.length ≤ (digits ++ rest).length := fun digits =>
    (List.prefix_append digits rest).length_le
  cases writes with
  | @minus digits isDigits =>
      change (readDigits? (digits ++ rest).length (digits ++ rest)).map _ = _
      rw [readDigits?_append isDigits (fits digits) stops]
      rfl
  | @plus digits isDigits =>
      change (readDigits? (digits ++ rest).length (digits ++ rest)).map _ = _
      rw [readDigits?_append isDigits (fits digits) stops]
      rfl
  | unsigned isDigits short =>
      rw [readYear?.eq_def, dropWhile_isBlank_digits isDigits]
      obtain ⟨nonempty, areDigits⟩ := isDigits
      obtain ⟨first, more, rfl⟩ := List.exists_cons_of_ne_nil nonempty
      have isDigit : first.isDigit = true := areDigits first List.mem_cons_self
      split
      · rename_i minus
        rw [(List.cons.inj minus).1] at isDigit
        cases isDigit
      · rename_i plus
        rw [(List.cons.inj plus).1] at isDigit
        cases isDigit
      · rw [readDigits?_append ⟨nonempty, areDigits⟩ short stops]
        rfl

/-! ## The parts of a date -/

/-- What the text of a date shows, character by character. -/
theorem toList_write (instant : Instant) :
    (write instant).toList = (DatePattern.yearText .zeros instant.date.year).toList ++
      '-' :: ((DatePattern.twoDigits .zeros instant.date.month).toList ++
      '-' :: ((DatePattern.twoDigits .zeros instant.date.day).toList ++
      ' ' :: ((DatePattern.twoDigits .zeros instant.hour).toList ++
      ':' :: ((DatePattern.twoDigits .zeros instant.minute).toList ++
      ':' :: ((DatePattern.twoDigits .zeros instant.second).toList ++ " +0000".toList))))) := by
  rw [write, DatePattern.write, String.toList_join]
  simp [items, DatePattern.hyphenatedItems, DatePattern.clockItems, DatePattern.writeItem,
    DatePattern.writeNumeric, DatePattern.writeText]

theorem readOffset?_zero : readOffset? " +0000".toList = some (0, []) := by
  decide

/-- The parts of a time of day are below their bounds. -/
theorem parts_le {instant : Instant} (proper : instant.IsProper) :
    instant.hour ≤ 23 ∧ instant.minute ≤ 59 ∧ instant.second ≤ 60 := by
  have ofDay : instant.secondOfDay < 86400 := by
    rw [Instant.secondOfDay, Instant.secondsPerDay]
    omega
  rw [Instant.hour, Instant.minute]
  rcases Instant.second_eq proper with ⟨-, second, -⟩ | ⟨-, second, -⟩ <;> omega

/-- **The parts of an instant make the start of its second.** -/
theorem toInstant?_parts {instant : Instant} (proper : instant.IsProper) :
    toInstant? instant.date instant.hour instant.minute instant.second 0 =
      some instant.startOfSecond := by
  have ofDay : (instant.secondOfDay : Int) = instant.seconds % 86400 :=
    Int.toNat_of_nonneg (Int.emod_nonneg _ (by decide))
  have daysAndRest : instant.dayNumber * Instant.secondsPerDay + instant.secondOfDay =
      instant.seconds := by
    rw [Instant.dayNumber, Instant.secondsPerDay, ofDay]
    omega
  have clock : instant.hour * 3600 + instant.minute * 60 + min instant.second 59 =
        instant.secondOfDay ∧
      (instant.second - min instant.second 59) * Instant.nanosecondsPerSecond =
        instant.nanoseconds - instant.subsecond := by
    rw [Instant.hour, Instant.minute]
    rcases Instant.second_eq proper with ⟨-, second, start⟩ | ⟨-, second, last, start⟩
    · have ordinary : min instant.second 59 = instant.second := by omega
      rw [start, ordinary, Nat.sub_self, Nat.zero_mul]
      omega
    · rw [start, second, Nat.min_eq_right (by decide), Nat.one_mul]
      omega
  have dayNumber : instant.date.toDayNumber = instant.dayNumber :=
    CivilDate.toDayNumber_ofDayNumber instant.dayNumber
  have isValid : instant.date.isValid = true := CivilDate.isValid_ofDayNumber instant.dayNumber
  rw [toInstant?]
  simp only [dayNumber, clock.1, clock.2, daysAndRest, isValid, proper.representable, Int.sub_zero,
    Bool.and_self, if_true]
  rfl

theorem expect?_cons (expected : Char) (rest : List Char) :
    expect? expected (expected :: rest) = some rest :=
  if_pos rfl

/-- **The text of a date is read as the start of the second that it shows.** -/
theorem read?_of_write {instant : Instant} (proper : instant.IsProper) :
    read? (write instant) = some instant.startOfSecond := by
  obtain ⟨hour, minute, second⟩ := parts_le proper
  have isValid : instant.date.isValid = true := CivilDate.isValid_ofDayNumber instant.dayNumber
  obtain ⟨⟨-, month⟩, -, inMonth⟩ := CivilDate.isValid_iff.mp isValid
  have day : instant.date.day ≤ 31 := Nat.le_trans inMonth (CivilDate.daysInMonth_le _ _)
  have year := writesYear_yearText instant.date.year
  have hyphen : ∀ rest, StopsAt Char.isDigit ('-' :: rest) := fun _ => stopsAt_cons rfl
  have space : ∀ rest, StopsAt Char.isDigit (' ' :: rest) := fun _ => stopsAt_cons rfl
  have colon : ∀ rest, StopsAt Char.isDigit (':' :: rest) := fun _ => stopsAt_cons rfl
  have offset : StopsAt Char.isDigit " +0000".toList := space "+0000".toList
  rw [read?, readCharacters?, toList_write, readYear?_append year (hyphen _)]
  simp only [Option.bind_eq_bind, Option.bind_some, expect?_cons, readNumber?_blank,
    readNumber?_twoDigits month (by decide) (hyphen _),
    readNumber?_twoDigits day (by decide) (space _),
    readNumber?_twoDigits hour (by decide) (colon _),
    readNumber?_twoDigits minute (by decide) (colon _),
    readNumber?_twoDigits second (by decide) offset, readOffset?_zero, List.isEmpty_nil, if_true]
  exact toInstant?_parts proper

/-- A leap second is shown as second 60. -/
theorem write_leap {instant : Instant} (proper : instant.IsProper)
    (leap : Instant.nanosecondsPerSecond ≤ instant.nanoseconds) :
    ":60 +0000".toList <:+ (write instant).toList := by
  have isLast : instant.second = 60 := by
    rcases Instant.second_eq proper with ⟨ordinary, -⟩ | ⟨-, second, -⟩
    · omega
    · exact second
  have shown : ":60 +0000".toList =
      ':' :: ((DatePattern.twoDigits .zeros 60).toList ++ " +0000".toList) := by decide
  have grows : ∀ (part : List Char) (separator : Char) {ending more : List Char},
      ending <:+ more → ending <:+ part ++ separator :: more := fun part separator _ _ ends =>
    (ends.trans (List.suffix_cons separator _)).trans (List.suffix_append part _)
  rw [toList_write, isLast, shown]
  exact grows _ _ (grows _ _ (grows _ _ (grows _ _ (List.suffix_append _ _))))

end DateText

/-! ## Sending a date its text -/

theorem answersWith_dateFromString {World : Type} (context : Context World) (receiver : Instant)
    (text : String) :
    AnswersWith context (.date receiver) "dateFromString:" (some (.string text))
      (Temporal.reading text) := by
  refine answersWith_of_entry rfl (by simp [Temporal.describing, Temporal.measuring])
    (List.mem_of_getElem? (i := 1) rfl) rfl (by simp) rfl rfl ?_
  intro value isValue
  rw [Temporal.reading] at isValue
  split at isValue
  · cases isValue
    rfl
  · cases isValue

/-- **A date is read back from its own text as the start of its second.** The text shows the year,
month, day, hour, minute and second, a leap second as second 60; the message is answered, whatever
the date that it is sent to, with the second that the text shows. -/
theorem dateFromString_display {World : Type} (context : Context World) (receiver : Instant)
    {date : Instant} (proper : date.IsProper) :
    AnswersWith context (.date receiver) "dateFromString:"
        (some (.string (Value.date date).display)) (.ok (.date date.startOfSecond)) ∧
      (Instant.nanosecondsPerSecond ≤ date.nanoseconds →
        ":60 +0000".toList <:+ (Value.date date).display.toList) := by
  have display : (Value.date date).display = DateText.write date := by
    rw [Value.display, Value.textWithin]
  have reads : Temporal.reading (DateText.write date) = .ok (.date date.startOfSecond) := by
    rw [Temporal.reading, DateText.read?_of_write proper]
  rw [display, ← reads]
  exact ⟨answersWith_dateFromString context receiver _, DateText.write_leap proper⟩

/-- A moment in the leap second at the end of a February in a year before year 0. -/
theorem dateFromString_display_leap :
    let date : Instant := ⟨CivilDate.toDayNumber ⟨-4, 2, 29⟩ * 86400 + 86399, 1250000000⟩
    date.IsProper ∧ Instant.nanosecondsPerSecond ≤ date.nanoseconds ∧
      (Value.date date).display = "-0004-02-29 23:59:60 +0000" ∧
      (send plainContext (.date default) "dateFromString:"
        (some (.string "-0004-02-29 23:59:60 +0000")) ()).outcome =
          .value (.date ⟨date.seconds, 1000000000⟩) := by
  intro date
  have proper : date.IsProper := ⟨by decide, by decide, by decide⟩
  have display : (Value.date date).display = "-0004-02-29 23:59:60 +0000" := by
    rw [Value.display, Value.textWithin]
    decide
  have start : date.startOfSecond = ⟨date.seconds, 1000000000⟩ := by decide
  obtain ⟨answers, -⟩ := dateFromString_display plainContext default proper
  rw [display, start] at answers
  exact ⟨proper, by decide, display, answers.outcome rfl ()⟩

end MessageExpr
