import Mathlib.Tactic
import OptionChainSimulator.Domain.Numeric
import OptionChainSimulator.Domain.Expiry.Inventory

namespace OptionChainSimulator.Domain.Expiry

open Foundation Utils Domain

/-! The days an active expiration has left.  The planner compares instants to the
nanosecond, the conversion counts whole seconds. -/

def secondsPerDay : Decimal := 86400

namespace ActiveExpiry

def daysToExpiration (entry : ActiveExpiry) (simulatedAt : UtcDateTime) :
    Except ChainError Decimal :=
  let seconds := NaiveDateTime.numSeconds (entry.expiresAt.nanosecondsSince simulatedAt)
  if seconds ≤ 0 then
    .error (.internal <|
      s!"expiration {entry.expiresAt.utcToString} is not after" ++
        s!" the simulated instant {simulatedAt.utcToString}")
  else
    okOr (Decimal.checkedDiv seconds secondsPerDay)
      (.internal
        s!"days to expiration for {entry.expiresAt.utcToString} does not fit in a decimal")

/-- The interval to the expiration, as an exact number of days. -/
def exactDays (entry : ActiveExpiry) (simulatedAt : UtcDateTime) : ℚ :=
  (entry.expiresAt.nanosecondsSince simulatedAt : ℚ) / 1000000000 / 86400

/-- The conversion succeeds with a positive, exact number of days. -/
def PricedAt (entry : ActiveExpiry) (simulatedAt : UtcDateTime) : Prop :=
  ∃ days, entry.daysToExpiration simulatedAt = .ok days ∧ 0 < days ∧
    days = entry.exactDays simulatedAt

end ActiveExpiry

theorem secondsFit {seconds : Int} (lower : 0 ≤ seconds) (upper : seconds ≤ 10 ^ 15) :
    -decimalMax ≤ (seconds : ℚ) / secondsPerDay ∧ (seconds : ℚ) / secondsPerDay ≤ decimalMax := by
  have lowerRat : (0 : ℚ) ≤ seconds := by exact_mod_cast lower
  have upperRat : (seconds : ℚ) ≤ 10 ^ 15 := by exact_mod_cast upper
  unfold decimalMax secondsPerDay
  constructor
  · have := div_nonneg lowerRat (show (0 : ℚ) ≤ 86400 by norm_num)
    norm_num at this ⊢
    linarith
  · rw [div_le_iff₀ (by norm_num)]
    norm_num at upperRat ⊢
    linarith

/-- An expiration after a whole second is converted exactly when it falls on a whole
second itself: a fraction is cut off, and below a second nothing is left. -/
theorem pricedAt_iff {entry : ActiveExpiry} {simulatedAt : UtcDateTime}
    (whole : simulatedAt.time.frac = 0) (alive : simulatedAt < entry.expiresAt) :
    entry.PricedAt simulatedAt ↔ entry.expiresAt.time.WholeSecond := by
  have positive := NaiveDateTime.nanosecondsSince_pos whole alive
  have fraction := entry.expiresAt.nanosecondsSince_emod simulatedAt whole
  have bounded := entry.expiresAt.nanosecondsSince_le simulatedAt whole
  unfold ActiveExpiry.PricedAt ActiveExpiry.daysToExpiration ActiveExpiry.exactDays
    NaiveTime.WholeSecond
  generalize entry.expiresAt.nanosecondsSince simulatedAt = nanoseconds at *
  have truncated : NaiveDateTime.numSeconds nanoseconds = nanoseconds / 1000000000 := by
    unfold NaiveDateTime.numSeconds
    exact Int.tdiv_eq_ediv_of_nonneg positive.le
  have seconds : 0 ≤ nanoseconds / 1000000000 ∧ nanoseconds / 1000000000 ≤ 10 ^ 15 := by omega
  simp only [truncated]
  constructor
  · rintro ⟨days, counted, -, exact⟩
    split_ifs at counted with nothing
    have divided := (Decimal.checkedDiv_eq_some.mp (okOr_eq_ok.mp counted)).2.2
    have equal : ((nanoseconds / 1000000000 : Int) : ℚ) * 1000000000 = nanoseconds := by
      unfold secondsPerDay at divided
      rw [divided] at exact
      field_simp at exact
      linarith
    have multiple : nanoseconds / 1000000000 * 1000000000 = nanoseconds := by exact_mod_cast equal
    omega
  · intro whole
    have multiple : nanoseconds / 1000000000 * 1000000000 = nanoseconds := by omega
    have equal : ((nanoseconds / 1000000000 : Int) : ℚ) * 1000000000 = nanoseconds := by
      exact_mod_cast multiple
    have positiveSeconds : 0 < nanoseconds / 1000000000 := by omega
    refine ⟨((nanoseconds / 1000000000 : Int) : ℚ) / secondsPerDay, ?_, ?_, ?_⟩
    · rw [if_neg (not_le.mpr positiveSeconds), okOr_eq_ok, Decimal.checkedDiv_eq_some]
      exact ⟨by decide, secondsFit seconds.1 seconds.2, rfl⟩
    · unfold secondsPerDay
      positivity
    · rw [← equal]
      unfold secondsPerDay
      ring

/-- UTC offsets are whole seconds: resolving a local time keeps its fraction, and a
transition happens on a whole second. -/
structure WholeSecondOffsets (zones : TzDatabase) : Prop where
  keeps : ∀ {zone : Tz} {localTime : NaiveDateTime} {instant : UtcDateTime},
    (zones.fromLocalDatetime zone localTime).earliest = some instant →
      instant.time.frac = localTime.time.frac
  gapEnd : ∀ {zone : Tz} {localTime : NaiveDateTime} {instant : UtcDateTime},
    zones.gapEnd localTime zone = some instant → instant.time.WholeSecond

namespace RollingPlanner

variable {planner : RollingPlanner} {simulatedAt : UtcDateTime}

/-- The expiration time does not occur on the date. -/
def InGap (planner : RollingPlanner) (date : NaiveDate) : Prop :=
  (planner.zones.fromLocalDatetime planner.schedule.timezone
    ⟨date, planner.schedule.expirationTime⟩).earliest = none

/-- Every expiration the rules keep available resolves through a gap. -/
def OnlyGaps (planner : RollingPlanner) (simulatedAt : UtcDateTime) : Prop :=
  ∀ rule ∈ planner.schedule.rules, ∀ (date : NaiveDate) (instant : UtcDateTime),
    rule.kind.ExpiresOn date → planner.resolution date = some instant →
      planner.Claims simulatedAt rule instant → planner.InGap date

theorem resolution_in_gap (offsets : WholeSecondOffsets planner.zones) {date : NaiveDate}
    {instant : UtcDateTime} (resolves : planner.resolution date = some instant)
    (gap : planner.InGap date) : instant.time.WholeSecond := by
  unfold resolution at resolves
  simp only at resolves
  rw [gap] at resolves
  exact offsets.gapEnd resolves

theorem resolution_outside_gap (offsets : WholeSecondOffsets planner.zones) {date : NaiveDate}
    {instant : UtcDateTime} (resolves : planner.resolution date = some instant)
    (outside : ¬ planner.InGap date) :
    instant.time.WholeSecond ↔ planner.schedule.expirationTime.WholeSecond := by
  unfold resolution at resolves
  unfold InGap at outside
  simp only at resolves
  obtain ⟨resolved, found⟩ := Option.ne_none_iff_exists'.mp outside
  rw [found] at resolves
  cases resolves
  have kept := offsets.keeps found
  unfold NaiveTime.WholeSecond
  rw [kept]

/-- At a whole second, which no leap second is, every expiration is priced exactly when the
expiration time is a whole second, or when all that is left of the schedule falls in gaps, whose
ends are. -/
theorem activeAt_pricedAt_iff (offsets : WholeSecondOffsets planner.zones)
    (ordered : planner.ResolvesInOrder simulatedAt) (whole : simulatedAt.time.frac = 0)
    {active : List ActiveExpiry} (succeeded : planner.activeAt simulatedAt = .ok active) :
    (∀ entry ∈ active, entry.PricedAt simulatedAt) ↔
      planner.schedule.expirationTime.WholeSecond ∨ planner.OnlyGaps simulatedAt := by
  have priced : ∀ entry ∈ active,
      entry.PricedAt simulatedAt ↔ entry.expiresAt.time.WholeSecond := by
    intro entry member
    obtain ⟨rule, -, claims⟩ := exists_claim ordered succeeded member
    exact pricedAt_iff whole claims.after
  constructor
  · intro allPriced
    by_contra neither
    obtain ⟨fractional, someOutside⟩ := not_or.mp neither
    simp only [OnlyGaps, not_forall, exists_prop] at someOutside
    obtain ⟨rule, ruleMember, date, instant, -, resolves, claims, outside⟩ := someOutside
    obtain ⟨entry, member, rfl, -⟩ :=
      (exists_labelled_iff ordered succeeded instant rule.ruleId).mpr
        ⟨rule, ruleMember, rfl, claims⟩
    have wholeEntry := (priced entry member).mp (allPriced entry member)
    exact fractional ((resolution_outside_gap offsets resolves outside).mp wholeEntry)
  · intro condition entry member
    rw [priced entry member]
    obtain ⟨rule, ruleMember, claims⟩ := exists_claim ordered succeeded member
    obtain ⟨values, first, claimed⟩ := id claims
    obtain ⟨date, expires, resolves⟩ := mem_expirationsOf.mp (first.mem_source _ claimed)
    by_cases gap : planner.InGap date
    · exact resolution_in_gap offsets resolves gap
    · rw [resolution_outside_gap offsets resolves gap]
      cases condition with
      | inl wholeTime => exact wholeTime
      | inr onlyGaps =>
          exact absurd (onlyGaps rule ruleMember date _ expires resolves claims) gap

end RollingPlanner

theorem utc_wholeSecondOffsets : WholeSecondOffsets TzDatabase.utc where
  keeps := by
    intro zone localTime instant resolved
    cases resolved
    rfl
  gapEnd := by
    intro zone localTime instant impossible
    cases impossible

theorem activeAt_pricedAt_iff_five_pm :
    (∀ entry ∈ [thursdayExpiry, lastFridayExpiry], entry.PricedAt thursdayNoon) ↔
      (dailiesAndMonthlies fivePm).expirationTime.WholeSecond ∨
        RollingPlanner.OnlyGaps ⟨TzDatabase.utc, dailiesAndMonthlies fivePm⟩ thursdayNoon :=
  RollingPlanner.activeAt_pricedAt_iff utc_wholeSecondOffsets (utc_resolvesInOrder _ _) rfl rfl

def halfSecondPastFive : NaiveTime :=
  { fivePm with frac := 500000000, frac_lt := Nat.le_of_ble_eq_true rfl }

def thursdayFivePm : UtcDateTime := ⟨thursday, fivePm⟩

/-- Half a second before it expires, an active expiration has zero whole seconds left. -/
theorem half_second_left_not_priced :
    ∃ active, RollingPlanner.activeAt ⟨TzDatabase.utc, dailiesAndMonthlies halfSecondPastFive⟩
        thursdayFivePm = .ok active ∧
      ∃ entry ∈ active,
        entry.daysToExpiration thursdayFivePm = .error (.internal <|
          "expiration 2026-03-26 17:00:00.500 UTC is not after" ++
            " the simulated instant 2026-03-26 17:00:00 UTC") ∧
        ¬ entry.PricedAt thursdayFivePm := by
  have expired : ActiveExpiry.daysToExpiration
      ⟨⟨thursday, halfSecondPastFive⟩, ["dailies"]⟩ thursdayFivePm =
        .error (.internal <| "expiration 2026-03-26 17:00:00.500 UTC is not after" ++
          " the simulated instant 2026-03-26 17:00:00 UTC") := by rfl
  refine ⟨_, rfl, _, List.mem_cons_self, expired, ?_⟩
  rintro ⟨days, priced, -⟩
  cases expired.symm.trans priced

end OptionChainSimulator.Domain.Expiry
