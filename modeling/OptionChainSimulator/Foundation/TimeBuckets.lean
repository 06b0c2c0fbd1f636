import Mathlib.Tactic
import Mathlib.Order.GaloisConnection.Basic
import Mathlib.Data.Set.Card
import Mathlib.Data.Int.Interval
import OptionChainSimulator.Foundation.CivilCalendar

namespace OptionChainSimulator.Foundation

/-! Numbered stretches of a time line, each beginning where the one before it ends. -/

structure TimeBuckets where
  /-- The bucket a time lies in. -/
  number : Int → Int
  start : Int → Int
  galois : GaloisConnection start number
  number_start : ∀ index, number (start index) = index

namespace TimeBuckets

variable (buckets : TimeBuckets)

theorem number_mono : Monotone buckets.number := buckets.galois.monotone_u

/-- The buckets that hold a time of the closed range. -/
def met (first last : Int) : Set Int := buckets.number '' Set.Icc first last

theorem met_eq_Icc {first last : Int} (ordered : first ≤ last) :
    buckets.met first last = Set.Icc (buckets.number first) (buckets.number last) := by
  ext index
  constructor
  · rintro ⟨time, ⟨lower, upper⟩, rfl⟩
    exact ⟨buckets.number_mono lower, buckets.number_mono upper⟩
  · rintro ⟨lower, upper⟩
    obtain same | later := lower.eq_or_lt
    · exact ⟨first, ⟨le_refl first, ordered⟩, same⟩
    · have after : first < buckets.start index := by
        rw [← not_le]
        intro early
        exact not_le.mpr later ((buckets.galois index first).mp early)
      exact ⟨buckets.start index, ⟨after.le, (buckets.galois index last).mpr upper⟩,
        buckets.number_start index⟩

theorem ncard_met {first last : Int} (ordered : first ≤ last) :
    ((buckets.met first last).ncard : Int) = buckets.number last - buckets.number first + 1 := by
  have grows := buckets.number_mono ordered
  rw [buckets.met_eq_Icc ordered, ← Finset.coe_Icc, Set.ncard_coe_finset, Int.card_Icc]
  omega

/-- Buckets of one width, the bucket zero beginning `offset` before the origin. -/
def ofWidth (width offset : Int) (positive : 0 < width) : TimeBuckets where
  number time := (time + offset) / width
  start index := index * width - offset
  galois index time := by
    rw [sub_le_iff_le_add, Int.le_ediv_iff_mul_le positive]
  number_start index := by
    rw [sub_add_cancel, Int.mul_ediv_cancel _ positive.ne']

/-- A range as long as so many buckets, to a second, meets as many. -/
theorem ofWidth_count {width offset : Int} {positive : 0 < width} {first last : Int} {count : Nat}
    (long : first + count * width ≤ last + 1) :
    (ofWidth width offset positive).number first + count ≤
      (ofWidth width offset positive).number last + 1 := by
  change (first + offset) / width + count ≤ (last + offset) / width + 1
  calc
    (first + offset) / width + count = (first + offset + count * width) / width :=
      (Int.add_mul_ediv_right _ _ positive.ne').symm
    _ ≤ (last + offset + 1 * width) / width := Int.ediv_le_ediv positive (by omega)
    _ = (last + offset) / width + 1 := Int.add_mul_ediv_right _ _ positive.ne'

end TimeBuckets

namespace CivilCalendar

/-- Leap days up to the end of February of the year. -/
def leapDays (year : Int) : Int := year / 4 - year / 100 + year / 400

theorem leapDays_succ (year : Int) :
    leapDays (year + 1) = leapDays year + (if IsLeap (year + 1) then 1 else 0) := by
  unfold leapDays IsLeap
  split_ifs with leap <;> omega

/-- The first days of the months with the year counted from March, where a leap day comes last. -/
theorem firstOfMonth_eq (index : Int) :
    firstOfMonth index = 365 * ((index - 2) / 12) + (153 * ((index - 2) % 12) + 2) / 5 +
      leapDays ((index - 2) / 12) - 719468 := by
  obtain ⟨year, month, bound, rfl⟩ :
      ∃ (year : Int) (month : Nat), month < 12 ∧ index = 12 * year + month :=
    ⟨index / 12, (index % 12).toNat, by omega, by omega⟩
  have quotient : (12 * year + (month : Int)) / 12 = year := by omega
  have remainder : (12 * year + (month : Int)) % 12 = month := by omega
  have leaps := leapDays_succ (year - 1)
  rw [sub_add_cancel] at leaps
  have first : firstOfYear year = 365 * (year - 1) + leapDays (year - 1) - 719162 := by
    unfold firstOfYear leapDays
    ring
  rw [firstOfMonth, quotient, remainder, Int.toNat_natCast, first, leapDay]
  obtain early | late := lt_or_ge month 2
  · have yearBefore : (12 * year + (month : Int) - 2) / 12 = year - 1 := by omega
    have place : (12 * year + (month : Int) - 2) % 12 = month + 10 := by omega
    rw [yearBefore, place, if_neg (fun both => absurd both.2 (not_le.mpr early))]
    interval_cases month <;> simp only [daysBeforeMonth] <;> omega
  · have sameYear : (12 * year + (month : Int) - 2) / 12 = year := by omega
    have place : (12 * year + (month : Int) - 2) % 12 = month - 2 := by omega
    rw [sameYear, place, leaps]
    by_cases leap : IsLeap year
    · rw [if_pos ⟨leap, late⟩, if_pos leap]
      interval_cases month <;> simp only [daysBeforeMonth] <;> omega
    · rw [if_neg (fun both => leap both.1), if_neg leap]
      interval_cases month <;> simp only [daysBeforeMonth] <;> omega

theorem leapDays_add_le {year : Int} {years : Nat} (few : years ≤ 6) :
    leapDays (year + years) ≤ leapDays year + (years + 3) / 4 := by
  unfold leapDays
  omega

/-- Up to 65 months hold at most a month of thirty days more than as many of them. -/
theorem firstOfMonth_add_le {index : Int} {months : Nat} (few : months ≤ 65) :
    firstOfMonth (index + months) ≤ firstOfMonth index + 30 * (months + 1) := by
  obtain ⟨year, place, within, rfl⟩ :
      ∃ (year : Int) (place : Nat), place < 12 ∧ index = 12 * year + place + 2 :=
    ⟨(index - 2) / 12, ((index - 2) % 12).toNat, by omega, by omega⟩
  obtain ⟨years, last, lastWithin, split⟩ :
      ∃ years last : Nat, last < 12 ∧ place + months = 12 * years + last :=
    ⟨(place + months) / 12, (place + months) % 12, Nat.mod_lt _ (by decide),
      (Nat.div_add_mod _ _).symm⟩
  have leaps := @leapDays_add_le year years (by omega)
  rw [firstOfMonth_eq, firstOfMonth_eq]
  have yearOf : (12 * year + (place : Int) + 2 - 2) / 12 = year := by omega
  have placeOf : (12 * year + (place : Int) + 2 - 2) % 12 = place := by omega
  have lastYear : (12 * year + (place : Int) + 2 + months - 2) / 12 = year + years := by omega
  have lastPlace : (12 * year + (place : Int) + 2 + months - 2) % 12 = last := by omega
  rw [yearOf, placeOf, lastYear, lastPlace]
  have bounded : years ≤ 6 := by omega
  interval_cases years <;> omega

end CivilCalendar

end OptionChainSimulator.Foundation
