import Mathlib.Algebra.Order.Floor.Ring
import Mathlib.Data.Rat.Floor

/-!
Contract: the text that says how long ago a post or comment was written.

Owns the split of an elapsed time by the calendar, the six tests of `updateView` that
the three cells share word for word, and the ages such a text can state. Each test
overwrites what the tests before it have left; the last one that applies decides.

A time is a number of seconds since 1970. Does not own time zones, nor the rounding of
`Double`: weeks, days and hours are of one length.
-/

set_option autoImplicit false

namespace Familog.Cells

/-! ## The calendar -/

/-- The components that `dateComponents` is asked for. -/
structure DateComponents where
  weekOfMonth : Int
  day : Int
  hour : Int
  minute : Int
  second : Int
deriving DecidableEq

/-- The whole seconds from one time to another; a begun second does not count. -/
def wholeSeconds (start now : ℚ) : Int :=
  if start ≤ now then ⌊now - start⌋ else ⌈now - start⌉

/-- `Calendar.current.dateComponents` of so many seconds. -/
def dateComponents (elapsed : Int) : DateComponents where
  weekOfMonth := elapsed.tdiv 604800
  day := (elapsed.tmod 604800).tdiv 86400
  hour := (elapsed.tmod 86400).tdiv 3600
  minute := (elapsed.tmod 3600).tdiv 60
  second := elapsed.tmod 60

/-- Where nothing is negative the components are quotients and remainders. -/
theorem dateComponents_natCast (elapsed : ℕ) : dateComponents elapsed =
    ⟨elapsed / 604800, elapsed % 604800 / 86400, elapsed % 86400 / 3600, elapsed % 3600 / 60,
      elapsed % 60⟩ := by
  simp [dateComponents, Int.tdiv_eq_ediv_of_nonneg, Int.tmod_eq_emod_of_nonneg,
    Int.emod_nonneg]

/-- A time in the future is split like one in the past, with the other sign. -/
theorem dateComponents_neg (elapsed : Int) :
    let diff := dateComponents elapsed
    dateComponents (-elapsed) =
      ⟨-diff.weekOfMonth, -diff.day, -diff.hour, -diff.minute, -diff.second⟩ := by
  simp [dateComponents, Int.neg_tdiv, Int.neg_tmod]

/-- The components are a split of the seconds, with one common sign. -/
theorem dateComponents_splits (elapsed : Int) :
    let diff := dateComponents elapsed
    elapsed = 604800 * diff.weekOfMonth + 86400 * diff.day + 3600 * diff.hour +
        60 * diff.minute + diff.second ∧
      |diff.day| < 7 ∧ |diff.hour| < 24 ∧ |diff.minute| < 60 ∧ |diff.second| < 60 ∧
      ∀ component ∈ [diff.weekOfMonth, diff.day, diff.hour, diff.minute, diff.second],
        0 ≤ elapsed * component := by
  have natural : ∀ count : ℕ,
      let diff := dateComponents count
      (count : Int) = 604800 * diff.weekOfMonth + 86400 * diff.day + 3600 * diff.hour +
          60 * diff.minute + diff.second ∧
        |diff.day| < 7 ∧ |diff.hour| < 24 ∧ |diff.minute| < 60 ∧ |diff.second| < 60 ∧
        ∀ component ∈ [diff.weekOfMonth, diff.day, diff.hour, diff.minute, diff.second],
          0 ≤ component := by
    intro count
    rw [dateComponents_natCast]
    simp only [abs_lt, List.mem_cons, List.not_mem_nil, or_false, forall_eq_or_imp, forall_eq]
    omega
  rcases Int.eq_nat_or_neg elapsed with ⟨count, rfl | rfl⟩
  · obtain ⟨sum, day, hour, minute, second, positive⟩ := natural count
    exact ⟨sum, day, hour, minute, second, fun component member =>
      mul_nonneg (Int.natCast_nonneg count) (positive component member)⟩
  · obtain ⟨sum, day, hour, minute, second, positive⟩ := natural count
    rw [dateComponents_neg]
    simp only [abs_neg]
    refine ⟨by omega, day, hour, minute, second, fun component member => ?_⟩
    have opposite : -component ∈ [(dateComponents count).weekOfMonth, (dateComponents count).day,
        (dateComponents count).hour, (dateComponents count).minute,
        (dateComponents count).second] := by
      simpa [eq_comm, neg_eq_iff_eq_neg] using member
    have product := mul_nonneg (Int.natCast_nonneg count) (positive _ opposite)
    rwa [mul_neg, ← neg_mul] at product

theorem wholeSeconds_mono {start now later : ℚ} (order : now ≤ later) :
    wholeSeconds start now ≤ wholeSeconds start later := by
  have difference : now - start ≤ later - start := sub_le_sub_right order start
  unfold wholeSeconds
  split_ifs with begun begunLater begunLater
  · exact Int.floor_mono difference
  · exact absurd (begun.trans order) begunLater
  · have before : ⌈now - start⌉ ≤ 0 := Int.ceil_le.mpr (by simpa using (not_le.mp begun).le)
    exact before.trans (Int.floor_nonneg.mpr (sub_nonneg.mpr begunLater))
  · exact Int.ceil_mono difference

/-! ## The text -/

/-- The text for one unit: `(count == 1) ? "\(count) second ago" : "\(count) seconds ago"`. -/
def ago (count : Int) (one more : String) : String :=
  if count = 1 then toString count ++ one else toString count ++ more

/-- `timeText` after the six tests of `updateView`. -/
def timeText (diff : DateComponents) : String :=
  let timeText := ""
  let timeText := if diff.second ≤ 0 then "Now" else timeText
  let timeText := if 0 < diff.second ∧ diff.minute = 0 then
    ago diff.second " second ago" " seconds ago" else timeText
  let timeText := if 0 < diff.minute ∧ diff.hour = 0 then
    ago diff.minute " minute ago" " minutes ago" else timeText
  let timeText := if 0 < diff.hour ∧ diff.day = 0 then
    ago diff.hour " hour ago" " hours ago" else timeText
  let timeText := if 0 < diff.day ∧ diff.weekOfMonth = 0 then
    ago diff.day " day ago" " days ago" else timeText
  if 0 < diff.weekOfMonth then ago diff.weekOfMonth " week ago" " weeks ago" else timeText

/-- The text for a timestamp. -/
def timeTextAt (now : ℚ) (timestamp : Int) : String :=
  timeText (dateComponents (wholeSeconds timestamp now))

/-! ## Ages -/

inductive TimeUnit where
  | second
  | minute
  | hour
  | day
  | week
deriving DecidableEq

namespace TimeUnit

def seconds : TimeUnit → ℕ
  | second => 1
  | minute => 60
  | hour => 3600
  | day => 86400
  | week => 604800

/-- The unit in words, for one of it and for any other number. -/
def one : TimeUnit → String
  | second => " second ago"
  | minute => " minute ago"
  | hour => " hour ago"
  | day => " day ago"
  | week => " week ago"

def more : TimeUnit → String
  | second => " seconds ago"
  | minute => " minutes ago"
  | hour => " hours ago"
  | day => " days ago"
  | week => " weeks ago"

/-- The unit fits into the elapsed time, and no larger one does. -/
def LargestIn (unit : TimeUnit) (elapsed : Int) : Prop :=
  unit.seconds ≤ elapsed ∧ ∀ other : TimeUnit, other.seconds ≤ elapsed →
    other.seconds ≤ unit.seconds

end TimeUnit

/-- What a text can state. -/
inductive Age where
  | now
  | ago (count : ℕ) (unit : TimeUnit)
deriving DecidableEq

namespace Age

/-- The age in words. -/
def text : Age → String
  | now => "Now"
  | ago count unit => toString count ++ if count = 1 then unit.one else unit.more

/-- The age in seconds. -/
def seconds : Age → ℕ
  | now => 0
  | ago count unit => count * unit.seconds

end Age

/-- The age that is to be stated for an elapsed time: how often the largest unit that
fits goes into it. -/
inductive Describes (elapsed : Int) : Age → Prop where
  | now : elapsed ≤ 0 → Describes elapsed .now
  | ago {unit : TimeUnit} : unit.LargestIn elapsed →
      Describes elapsed (.ago (elapsed / unit.seconds).toNat unit)

/-! ## The text states the age -/

section Tests

variable {week day hour minute second : Int}

theorem timeText_now (weeks : week ≤ 0) (days : day ≤ 0) (hours : hour ≤ 0) (minutes : minute ≤ 0)
    (seconds : second ≤ 0) : timeText ⟨week, day, hour, minute, second⟩ = "Now" := by
  simp [timeText, weeks.not_gt, days.not_gt, hours.not_gt, minutes.not_gt, seconds.not_gt, seconds]

theorem timeText_second (positive : 0 < second) :
    timeText ⟨0, 0, 0, 0, second⟩ = ago second " second ago" " seconds ago" := by
  simp [timeText, positive]

/-- From here on a larger unit is there: what is said about the smaller ones is overwritten. -/
theorem timeText_minute (positive : 0 < minute) :
    timeText ⟨0, 0, 0, minute, second⟩ = ago minute " minute ago" " minutes ago" := by
  simp [timeText, positive]

theorem timeText_hour (positive : 0 < hour) :
    timeText ⟨0, 0, hour, minute, second⟩ = ago hour " hour ago" " hours ago" := by
  simp [timeText, positive]

theorem timeText_day (positive : 0 < day) :
    timeText ⟨0, day, hour, minute, second⟩ = ago day " day ago" " days ago" := by
  simp [timeText, positive]

theorem timeText_week (positive : 0 < week) :
    timeText ⟨week, day, hour, minute, second⟩ = ago week " week ago" " weeks ago" := by
  simp [timeText, positive]

end Tests

/-- The text for one unit is the age in words. -/
theorem ago_eq_text (count : ℕ) (unit : TimeUnit) :
    ago count unit.one unit.more = (Age.ago count unit).text := by
  have digits : toString (count : Int) = toString count := rfl
  simp only [ago, Age.text, digits, Nat.cast_eq_one]
  split_ifs
  · rfl
  · rfl

/-- A positive time has a largest unit. -/
theorem exists_largestIn {elapsed : Int} (positive : 0 < elapsed) :
    ∃ unit : TimeUnit, unit.LargestIn elapsed := by
  have larger : ∀ unit : TimeUnit, unit.seconds ≤ elapsed →
      (∀ other : TimeUnit, unit.seconds < other.seconds → ¬ other.seconds ≤ elapsed) →
      ∃ unit : TimeUnit, unit.LargestIn elapsed := by
    intro unit fits none
    exact ⟨unit, fits, fun other otherFits => not_lt.mp fun above => none other above otherFits⟩
  by_cases week : 604800 ≤ elapsed
  · exact larger .week week fun other => by cases other <;> simp [TimeUnit.seconds]
  by_cases day : 86400 ≤ elapsed
  · refine larger .day day fun other => ?_
    cases other <;> simp [TimeUnit.seconds]
    omega
  by_cases hour : 3600 ≤ elapsed
  · exact larger .hour hour fun other => by cases other <;> simp [TimeUnit.seconds] <;> omega
  by_cases minute : 60 ≤ elapsed
  · exact larger .minute minute fun other => by cases other <;> simp [TimeUnit.seconds] <;> omega
  · refine larger .second ?_ fun other => by cases other <;> simp [TimeUnit.seconds] <;> omega
    show (1 : Int) ≤ elapsed
    omega

/-- The test for the largest unit is the last one that applies. -/
theorem timeText_of_largestIn {elapsed : Int} {unit : TimeUnit}
    (largest : unit.LargestIn elapsed) :
    timeText (dateComponents elapsed) = (Age.ago (elapsed / unit.seconds).toNat unit).text := by
  obtain ⟨fits, above⟩ := largest
  obtain ⟨count, rfl⟩ := Int.eq_ofNat_of_zero_le ((Int.natCast_nonneg _).trans fits)
  have below : ∀ other : TimeUnit, unit.seconds < other.seconds → count < other.seconds := by
    intro other larger
    by_contra otherFits
    exact absurd (above other (by omega)) (by omega)
  rw [← ago_eq_text, dateComponents_natCast]
  cases unit with
  | second =>
      have positive : (1 : Int) ≤ count := fits
      have minute : count < 60 := below .minute (by decide)
      have split : (⟨count / 604800, count % 604800 / 86400, count % 86400 / 3600,
          count % 3600 / 60, count % 60⟩ : DateComponents) = ⟨0, 0, 0, 0, count⟩ := by
        simp only [DateComponents.mk.injEq]
        omega
      rw [split, timeText_second (by omega : (0 : Int) < count)]
      simp [TimeUnit.seconds, TimeUnit.one, TimeUnit.more]
  | minute =>
      have positive : (60 : Int) ≤ count := fits
      have hour : count < 3600 := below .hour (by decide)
      have split : (⟨count / 604800, count % 604800 / 86400, count % 86400 / 3600,
          count % 3600 / 60, count % 60⟩ : DateComponents) =
            ⟨0, 0, 0, count / 60, count % 60⟩ := by
        simp only [DateComponents.mk.injEq, and_true]
        omega
      rw [split, timeText_minute (by omega : (0 : Int) < count / 60)]
      rfl
  | hour =>
      have positive : (3600 : Int) ≤ count := fits
      have day : count < 86400 := below .day (by decide)
      have split : (⟨count / 604800, count % 604800 / 86400, count % 86400 / 3600,
          count % 3600 / 60, count % 60⟩ : DateComponents) =
            ⟨0, 0, count / 3600, count % 3600 / 60, count % 60⟩ := by
        simp only [DateComponents.mk.injEq, and_true]
        omega
      rw [split, timeText_hour (by omega : (0 : Int) < count / 3600)]
      rfl
  | day =>
      have positive : (86400 : Int) ≤ count := fits
      have week : count < 604800 := below .week (by decide)
      have split : (⟨count / 604800, count % 604800 / 86400, count % 86400 / 3600,
          count % 3600 / 60, count % 60⟩ : DateComponents) =
            ⟨0, count / 86400, count % 86400 / 3600, count % 3600 / 60, count % 60⟩ := by
        simp only [DateComponents.mk.injEq, and_true]
        omega
      rw [split, timeText_day (by omega : (0 : Int) < count / 86400)]
      rfl
  | week =>
      have positive : (604800 : Int) ≤ count := fits
      rw [timeText_week (by omega : (0 : Int) < count / 604800)]
      rfl

/-- Whatever time has elapsed, the text states its age. -/
theorem exists_describes (elapsed : Int) :
    ∃ age, Describes elapsed age ∧ timeText (dateComponents elapsed) = age.text := by
  by_cases positive : 0 < elapsed
  · obtain ⟨unit, largest⟩ := exists_largestIn positive
    exact ⟨_, .ago largest, timeText_of_largestIn largest⟩
  · refine ⟨.now, .now (not_lt.mp positive), ?_⟩
    obtain ⟨count, rfl⟩ : ∃ count : ℕ, elapsed = -count := ⟨elapsed.natAbs, by omega⟩
    rw [dateComponents_neg, dateComponents_natCast]
    dsimp only
    exact timeText_now (by omega) (by omega) (by omega) (by omega) (by omega)

/-! ## Older is never stated as younger -/

/-- The seconds that a description states. -/
theorem seconds_of_largestIn {elapsed : Int} {unit : TimeUnit} (largest : unit.LargestIn elapsed) :
    ((Age.ago (elapsed / unit.seconds).toNat unit).seconds : Int) =
      elapsed / unit.seconds * unit.seconds := by
  have nonneg : 0 ≤ elapsed := (Int.natCast_nonneg _).trans largest.1
  have quotient : 0 ≤ elapsed / unit.seconds := Int.ediv_nonneg nonneg (Int.natCast_nonneg _)
  rw [Age.seconds, Nat.cast_mul, Int.toNat_of_nonneg quotient]

theorem TimeUnit.seconds_pos (unit : TimeUnit) : (0 : Int) < unit.seconds := by
  cases unit <;> decide

theorem TimeUnit.eq_of_seconds {left right : TimeUnit} (same : left.seconds = right.seconds) :
    left = right := by
  cases left <;> cases right <;> first | rfl | exact absurd same (by decide)

/-- Where more time has elapsed, the age is no smaller. Either the unit is the same, or the
smaller time does not even reach the larger unit. -/
theorem seconds_mono {elapsed later : Int} {age older : Age} (describes : Describes elapsed age)
    (describesLater : Describes later older) (order : elapsed ≤ later) :
    age.seconds ≤ older.seconds := by
  cases describes with
  | now past => exact Nat.zero_le _
  | @ago unit largest =>
      cases describesLater with
      | now past =>
          have positive := unit.seconds_pos.trans_le (largest.1.trans order)
          omega
      | @ago larger largestLater =>
          apply Int.ofNat_le.mp
          rw [seconds_of_largestIn largest, seconds_of_largestIn largestLater]
          rcases (largestLater.2 unit (largest.1.trans order)).eq_or_lt with same | less
          · obtain rfl := TimeUnit.eq_of_seconds same
            exact mul_le_mul_of_nonneg_right (Int.ediv_le_ediv unit.seconds_pos order)
              unit.seconds_pos.le
          · have short : elapsed < larger.seconds := by
              by_contra reaches
              exact absurd (largest.2 larger (not_lt.mp reaches)) (not_le.mpr less)
            have once : 1 ≤ later / larger.seconds :=
              (Int.le_ediv_iff_mul_le larger.seconds_pos).mpr (by simpa using largestLater.1)
            calc elapsed / unit.seconds * unit.seconds
                ≤ elapsed := Int.ediv_mul_le elapsed unit.seconds_pos.ne'
              _ ≤ 1 * larger.seconds := by simpa using short.le
              _ ≤ later / larger.seconds * larger.seconds :=
                mul_le_mul_of_nonneg_right once larger.seconds_pos.le

/-! ## The words determine the age -/

/-- No age is stated by the empty text. -/
theorem Age.text_ne_empty (age : Age) : age.text ≠ "" := by
  cases age with
  | now => decide
  | ago count unit =>
      intro empty
      have scalars := congrArg String.toList empty
      simp [Age.text] at scalars

/-- The number is what the text has before the first blank. -/
theorem Age.takeWhile_text (count : ℕ) (unit : TimeUnit) :
    (Age.ago count unit).text.toList.takeWhile Char.isDigit = Nat.toDigits 10 count := by
  have digits : ∀ scalar ∈ Nat.toDigits 10 count, scalar.isDigit = true := fun scalar member =>
    Nat.isDigit_of_mem_toDigits (by decide) (by decide) member
  have words : (if count = 1 then unit.one else unit.more).toList.takeWhile Char.isDigit = [] := by
    split_ifs
    · cases unit <;> decide
    · cases unit <;> decide
  rw [Age.text, String.toList_append, Nat.toString_eq_repr, Nat.toList_repr,
    List.takeWhile_append_of_pos digits, words, List.append_nil]

/-- Two ages with the same words are the same age. -/
theorem Age.text_injective {left right : Age} (same : left.text = right.text) : left = right := by
  have starts := congrArg (fun text : String => text.toList.takeWhile Char.isDigit) same
  cases left with
  | now =>
      cases right with
      | now => rfl
      | ago count unit =>
          simp only [Age.takeWhile_text] at starts
          exact absurd starts.symm Nat.toDigits_ne_nil
  | ago count unit =>
      cases right with
      | now =>
          simp only [Age.takeWhile_text] at starts
          exact absurd starts Nat.toDigits_ne_nil
      | ago other otherUnit =>
          simp only [Age.takeWhile_text] at starts
          have counts := congrArg (fun digits => Nat.ofDigitChars 10 digits 0) starts
          simp only [Nat.ofDigitChars_ten_toDigits] at counts
          obtain rfl := counts
          have words := (String.append_right_inj _).mp same
          congr 1
          split_ifs at words
          · cases unit <;> cases otherUnit <;> first | rfl | exact absurd words (by decide)
          · cases unit <;> cases otherUnit <;> first | rfl | exact absurd words (by decide)

end Familog.Cells
