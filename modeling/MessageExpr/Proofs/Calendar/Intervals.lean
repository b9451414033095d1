import MessageExpr.Proofs.Number.Exact
import MessageExpr.Proofs.Run.Answers

/-!
# Dates whole seconds apart

A count of seconds goes through three bounds: that of 64-bit integers, that of durations and that of
the representable years. The last one is by far the narrowest, so only whether the later second is
representable decides whether there is a later date (`Instant.add?_whole`).

All representable seconds and the distances between them have fewer than 53 bits, so no step of
binary64 arithmetic on them rounds. So a date is moved by exactly the whole seconds that a number
stands for (`adding_of_integer`), and the distance of two dates on whole seconds leads from one to
the other (`dateAddingTimeInterval_exact`).
-/

set_option autoImplicit false

namespace MessageExpr

/-! ## Durations of whole seconds -/

namespace Duration

theorem longest_eq : longest = 9223372036854775807000000 := by
  decide

theorem toInt_saturatedCount (integer : ℤ) :
    (saturatedCount integer).toInt =
      max (-9223372036854775808) (min 9223372036854775807 integer) := by
  have least : Int64.minValue.toInt = -9223372036854775808 := by decide
  have greatest : Int64.maxValue.toInt = 9223372036854775807 := by decide
  rw [saturatedCount, Int64.toInt_ofInt_of_le, least, greatest]
  · rw [least]
    omega
  · rw [greatest]
    omega

theorem add?_zero (duration : Duration) : duration.add? (ofNanoseconds 0) = some duration := by
  have same : duration.nanoseconds + (ofNanoseconds 0).nanoseconds = duration.nanoseconds :=
    Int.add_zero _
  rw [add?, same, ofNanoseconds?, dif_pos duration.bounded]

theorem ofNanoseconds?_of_bounded {nanoseconds : ℤ}
    (bounded : -longest ≤ nanoseconds ∧ nanoseconds ≤ longest) :
    ofNanoseconds? nanoseconds = some ⟨nanoseconds, bounded⟩ :=
  dif_pos bounded

theorem ofNanoseconds?_of_longer {nanoseconds : ℤ}
    (longer : ¬ (-longest ≤ nanoseconds ∧ nanoseconds ≤ longest)) :
    ofNanoseconds? nanoseconds = none :=
  dif_neg longer

/-- **Whole seconds are a duration unless they are too long for one.** A count of seconds of more
than 64 bits is too long in any case. -/
theorem ofParts?_whole (count : ℤ) :
    ofParts? count 0 = ofNanoseconds? (count * Instant.nanosecondsPerSecond) := by
  have none : saturatedCount 0 = 0 := by decide
  have added : ∀ whole : Duration, whole.add? (ofNanoseconds (saturatedCount 0)) = some whole := by
    rw [none]
    exact add?_zero
  rw [ofParts?, funext added, Option.bind_fun_some, ofSeconds?, toInt_saturatedCount]
  by_cases fits : -9223372036854775808 ≤ count ∧ count ≤ 9223372036854775807
  · have kept : max (-9223372036854775808) (min 9223372036854775807 count) = count := by omega
    rw [kept]
  · -- The count stands in for a larger one, but so many seconds are too long as well.
    have perSecond : Instant.nanosecondsPerSecond = 1000000000 := rfl
    rw [ofNanoseconds?_of_longer, ofNanoseconds?_of_longer]
    · rw [longest_eq, perSecond]
      omega
    · rw [longest_eq, perSecond]
      omega

end Duration

/-! ## Instants whole seconds later -/

namespace Instant

theorem isRepresentable_iff {seconds : ℤ} :
    isRepresentable seconds = true ↔ -8334601228800 ≤ seconds ∧ seconds ≤ 8210266876799 := by
  have first : firstSecond = -8334601228800 := by decide
  have last : lastSecond = 8210266876799 := by decide
  simp only [isRepresentable, first, last, Bool.and_eq_true, decide_eq_true_eq]

/-- The instant lies in the representable years and in no leap second. -/
structure IsOrdinary (instant : Instant) : Prop where
  representable : isRepresentable instant.seconds = true
  short : instant.nanoseconds < nanosecondsPerSecond

theorem addNanoseconds?_whole {instant : Instant} (ordinary : instant.IsOrdinary) (count : ℤ) :
    instant.addNanoseconds? (count * nanosecondsPerSecond) =
      if isRepresentable (instant.seconds + count) then
        some ⟨instant.seconds + count, instant.nanoseconds⟩
      else none := by
  have whole : (count * nanosecondsPerSecond).tdiv nanosecondsPerSecond = count :=
    Int.mul_tdiv_cancel count (by decide)
  have rest : (count * nanosecondsPerSecond).tmod nanosecondsPerSecond = 0 :=
    Int.mul_tmod_left count nanosecondsPerSecond
  have stays : instant.ordinary? count 0 = some instant :=
    if_neg (Nat.not_le.mpr ordinary.short)
  have carried : carry (instant.seconds + count) (instant.nanoseconds + 0) =
      (instant.seconds + count, instant.nanoseconds) := by
    have short := ordinary.short
    have notBelow : ¬ (instant.nanoseconds + 0 : ℤ) < 0 := by omega
    have notBeyond : ¬ (nanosecondsPerSecond : ℤ) ≤ instant.nanoseconds + 0 := by omega
    rw [carry, if_neg notBelow, if_neg notBeyond, Int.add_zero, Int.toNat_natCast]
  simp only [addNanoseconds?, whole, rest, stays, carried]

/-- **An instant whole seconds later is there exactly if its second is representable.** Seconds that
are too long for a duration lead out of the representable years. -/
theorem add?_whole {instant : Instant} (ordinary : instant.IsOrdinary) (count : ℤ) :
    (Duration.ofParts? count 0).bind instant.add? =
      if isRepresentable (instant.seconds + count) then
        some ⟨instant.seconds + count, instant.nanoseconds⟩
      else none := by
  rw [Duration.ofParts?_whole]
  by_cases fits : -Duration.longest ≤ count * nanosecondsPerSecond ∧
      count * nanosecondsPerSecond ≤ Duration.longest
  · rw [Duration.ofNanoseconds?_of_bounded fits]
    exact addNanoseconds?_whole ordinary count
  · have leaves : ¬ isRepresentable (instant.seconds + count) = true := by
      have perSecond : nanosecondsPerSecond = 1000000000 := rfl
      have representable := isRepresentable_iff.mp ordinary.representable
      rw [Duration.longest_eq, perSecond] at fits
      rw [isRepresentable_iff]
      omega
    rw [Duration.ofNanoseconds?_of_longer fits, if_neg leaves]
    rfl

end Instant

/-! ## Dates and numbers of seconds -/

namespace Temporal

open Binary64

theorem rational?_nanosecondsPerSecond :
    Temporal.nanosecondsPerSecond.rational? = some (Instant.nanosecondsPerSecond : ℤ) :=
  rational?_ofInt (by decide)

/-- **A date is moved by exactly the whole seconds that a number stands for.** -/
theorem adding_of_integer {date : Instant} (ordinary : date.IsOrdinary) {seconds : Binary64}
    {whole : ℤ} (isInteger : seconds.rational? = some (whole : ℚ)) :
    adding date seconds =
      if Instant.isRepresentable (date.seconds + whole) then
        .ok (.date ⟨date.seconds + whole, date.nanoseconds⟩)
      else .error .dateOutOfRange := by
  obtain ⟨truncated, -, same⟩ := truncate_of_integer isInteger
  have fraction : (seconds.subtract seconds.truncate).rational? = some 0 := by
    have exact : |(whole : ℚ) - whole| = Magnitude.zero.toRat := by
      rw [sub_self, abs_zero, Magnitude.toRat_zero]
    rw [same, rational?_subtract isInteger isInteger exact, sub_self]
  have nanoseconds : ((seconds.subtract seconds.truncate).multiply
      Temporal.nanosecondsPerSecond).round? = some 0 := by
    have exact : |(0 : ℚ) * (Instant.nanosecondsPerSecond : ℤ)| = Magnitude.zero.toRat := by
      rw [zero_mul, abs_zero, Magnitude.toRat_zero]
    have product := rational?_multiply fraction rational?_nanosecondsPerSecond exact
    rw [zero_mul, ← Int.cast_zero] at product
    exact (truncate_of_integer product).2.1
  have later := Instant.add?_whole ordinary whole
  by_cases representable : Instant.isRepresentable (date.seconds + whole) = true
  · rw [if_pos representable] at later ⊢
    simp only [adding, truncated, nanoseconds, later]
  · rw [if_neg representable] at later ⊢
    simp only [adding, truncated, nanoseconds, later]

/-- A number that is not finite moves no date. -/
theorem adding_of_not_finite (date : Instant) {seconds : Binary64}
    (notFinite : seconds.isFinite = false) :
    adding date seconds = .error .dateOutOfRange := by
  cases seconds with
  | nan => rfl
  | infinity => rfl
  | finite => cases notFinite

/-- **The seconds of a date on a whole second are counted exactly.** -/
theorem rational?_secondsSince1970 {date : Instant}
    (representable : Instant.isRepresentable date.seconds = true) (whole : date.nanoseconds = 0) :
    (secondsSince1970 date).rational? = some (date.seconds : ℚ) := by
  obtain ⟨above, below⟩ := Instant.isRepresentable_iff.mp representable
  have small : date.seconds.natAbs < Nat.pow 2 53 := by
    have power : Nat.pow 2 53 = 9007199254740992 := by decide
    omega
  have seconds := rational?_ofInt small
  have none : (ofInt date.nanoseconds).rational? = some 0 := by
    rw [whole]
    exact rational?_ofInt (by decide)
  have fraction : ((ofInt date.nanoseconds).divide Temporal.nanosecondsPerSecond).rational? =
      some 0 := by
    have exact : |(0 : ℚ) / (Instant.nanosecondsPerSecond : ℤ)| = Magnitude.zero.toRat := by
      rw [zero_div, abs_zero, Magnitude.toRat_zero]
    have nonzero : ((Instant.nanosecondsPerSecond : ℤ) : ℚ) ≠ 0 := Int.cast_ne_zero.mpr (by decide)
    rw [rational?_divide none rational?_nanosecondsPerSecond nonzero exact, zero_div]
  obtain ⟨magnitude, exact⟩ := exists_toRat_eq_abs small
  rw [← add_zero (date.seconds : ℚ)] at exact ⊢
  exact rational?_add seconds fraction exact

/-- **The distance of two dates on whole seconds is exact.** -/
theorem rational?_distance {later earlier : Instant}
    (laterRepresentable : Instant.isRepresentable later.seconds = true)
    (laterWhole : later.nanoseconds = 0)
    (earlierRepresentable : Instant.isRepresentable earlier.seconds = true)
    (earlierWhole : earlier.nanoseconds = 0) :
    ((secondsSince1970 later).subtract (secondsSince1970 earlier)).rational? =
      some ((later.seconds - earlier.seconds : ℤ) : ℚ) := by
  have laterBounds := Instant.isRepresentable_iff.mp laterRepresentable
  have earlierBounds := Instant.isRepresentable_iff.mp earlierRepresentable
  have small : (later.seconds - earlier.seconds).natAbs < Nat.pow 2 53 := by
    have power : Nat.pow 2 53 = 9007199254740992 := by decide
    omega
  obtain ⟨magnitude, exact⟩ := exists_toRat_eq_abs small
  rw [Int.cast_sub] at exact ⊢
  exact rational?_subtract (rational?_secondsSince1970 laterRepresentable laterWhole)
    (rational?_secondsSince1970 earlierRepresentable earlierWhole) exact

end Temporal

/-! ## Sending the messages -/

section Sends

variable {World : Type} (context : Context World)

theorem answersWith_dateAdding (date : Instant) (seconds : Binary64) :
    AnswersWith context (.date date) "dateAddingTimeInterval:" (some (.double seconds))
      (Temporal.adding date seconds) := by
  refine answersWith_of_entry rfl (by simp [Temporal.describing, Temporal.measuring])
    (List.mem_of_getElem? (i := 0) rfl) rfl (by simp) rfl rfl ?_
  intro value isValue
  simp only [Temporal.adding] at isValue
  split at isValue
  · split at isValue
    · cases isValue
      rfl
    · cases isValue
  · cases isValue

theorem answersWith_timeIntervalSinceDate (later earlier : Instant) :
    AnswersWith context (.date later) "timeIntervalSinceDate:" (some (.date earlier))
      (.ok (.double
        ((Temporal.secondsSince1970 later).subtract (Temporal.secondsSince1970 earlier)))) := by
  refine answersWith_of_entry rfl (by simp [Temporal.describing, Temporal.measuring])
    (List.mem_of_getElem? (i := 11) rfl) rfl (by simp) rfl rfl ?_
  rintro _ ⟨⟩
  rfl

/-- **Dates are moved by whole seconds and measured in them exactly.** A number that stands for
whole seconds, however many, moves a date outside leap seconds to the second that many later if that
is representable, and fails otherwise; so does a number that is not finite. The distance of two
dates on whole seconds is the exact difference, and moves the one date to the other. -/
theorem dateAddingTimeInterval_exact :
    (∀ date : Instant, date.IsOrdinary → ∀ (seconds : Binary64) (whole : ℤ),
      seconds.rational? = some (whole : ℚ) →
        AnswersWith context (.date date) "dateAddingTimeInterval:" (some (.double seconds))
          (if Instant.isRepresentable (date.seconds + whole) then
            .ok (.date ⟨date.seconds + whole, date.nanoseconds⟩)
          else .error .dateOutOfRange)) ∧
      (∀ (date : Instant) (seconds : Binary64), seconds.isFinite = false →
        AnswersWith context (.date date) "dateAddingTimeInterval:" (some (.double seconds))
          (.error .dateOutOfRange)) ∧
      ∀ later earlier : Instant, later.IsOrdinary → later.nanoseconds = 0 →
        earlier.IsOrdinary → earlier.nanoseconds = 0 →
          ∃ distance : Binary64,
            distance.rational? = some ((later.seconds - earlier.seconds : ℤ) : ℚ) ∧
            AnswersWith context (.date later) "timeIntervalSinceDate:" (some (.date earlier))
              (.ok (.double distance)) ∧
            AnswersWith context (.date earlier) "dateAddingTimeInterval:"
              (some (.double distance)) (.ok (.date later)) := by
  refine ⟨?whole, ?infinite, ?between⟩
  case whole =>
    intro date ordinary seconds whole isInteger
    rw [← Temporal.adding_of_integer ordinary isInteger]
    exact answersWith_dateAdding context date seconds
  case infinite =>
    intro date seconds notFinite
    rw [← Temporal.adding_of_not_finite date notFinite]
    exact answersWith_dateAdding context date seconds
  case between =>
    intro later earlier laterOrdinary laterWhole earlierOrdinary earlierWhole
    have exact := Temporal.rational?_distance laterOrdinary.representable laterWhole
      earlierOrdinary.representable earlierWhole
    have moved := Temporal.adding_of_integer earlierOrdinary exact
    have arrives : earlier.seconds + (later.seconds - earlier.seconds) = later.seconds := by omega
    have isLater : (⟨later.seconds, earlier.nanoseconds⟩ : Instant) = later := by
      rw [earlierWhole, ← laterWhole]
    rw [arrives, isLater, if_pos laterOrdinary.representable] at moved
    refine ⟨_, exact, answersWith_timeIntervalSinceDate context later earlier, ?_⟩
    rw [← moved]
    exact answersWith_dateAdding context earlier _

end Sends

/-- From the first representable second to the last one, and out of the years by more seconds than
64 bits count. -/
theorem dateAddingTimeInterval_exact_extremes :
    let first : Instant := ⟨Instant.firstSecond, 0⟩
    let last : Instant := ⟨Instant.lastSecond, 0⟩
    let huge : Binary64 := .finite false ⟨4503599627370496, 20, by decide⟩
    first.IsOrdinary ∧ last.IsOrdinary ∧
      huge.rational? = some ((4722366482869645213696 : ℤ) : ℚ) ∧
      AnswersWith plainContext (.date first) "dateAddingTimeInterval:" (some (.double huge))
        (.error .dateOutOfRange) ∧
      AnswersWith plainContext (.date first) "dateAddingTimeInterval:"
        (some (.double (.infinity false))) (.error .dateOutOfRange) ∧
      ∃ distance : Binary64, distance.rational? = some ((16544868105599 : ℤ) : ℚ) ∧
        (send plainContext (.date last) "timeIntervalSinceDate:" (some (.date first)) ()).outcome =
          .value (.double distance) ∧
        (send plainContext (.date first) "dateAddingTimeInterval:"
          (some (.double distance)) ()).outcome = .value (.date last) := by
  intro first last huge
  have firstOrdinary : first.IsOrdinary := ⟨by decide, by decide⟩
  have lastOrdinary : last.IsOrdinary := ⟨by decide, by decide⟩
  have isHuge : huge.rational? = some ((4722366482869645213696 : ℤ) : ℚ) := by
    rw [Binary64.rational?, Binary64.signed, Magnitude.toRat]
    norm_num
  obtain ⟨moves, fails, between⟩ := dateAddingTimeInterval_exact plainContext
  obtain ⟨distance, exact, measured, arrives⟩ :=
    between last first lastOrdinary rfl firstOrdinary rfl
  have apart : last.seconds - first.seconds = 16544868105599 := by decide
  rw [apart] at exact
  have beyond := moves first firstOrdinary huge _ isHuge
  exact ⟨firstOrdinary, lastOrdinary, isHuge, beyond, fails first _ rfl, distance, exact,
    measured.outcome rfl (), arrives.outcome rfl ()⟩

end MessageExpr
