import Mathlib.Tactic

namespace OptionChainSimulator.Foundation

/-! Checked arithmetic of fixed-width integers on unbounded ones. -/

def u32Limit : Nat := 2 ^ 32
def u64Limit : Nat := 2 ^ 64
def i32Limit : Int := 2 ^ 31
def i64Limit : Int := 2 ^ 63

/-- `value` if an unsigned integer below `limit` can hold it. -/
def unsigned? (limit value : Nat) : Option Nat :=
  if value < limit then some value else none

/-- `value` if a two's complement integer of half-range `limit` can hold it. -/
def signed? (limit value : Int) : Option Int :=
  if -limit ≤ value ∧ value < limit then some value else none

theorem unsigned?_eq_some {limit value result : Nat} :
    unsigned? limit value = some result ↔ value < limit ∧ result = value := by
  unfold unsigned?
  split_ifs with fits
  · simp [fits, eq_comm]
  · simp [fits]

theorem signed?_eq_some {limit value result : Int} :
    signed? limit value = some result ↔
      (-limit ≤ value ∧ value < limit) ∧ result = value := by
  unfold signed?
  split_ifs with fits
  · simp [fits, eq_comm]
  · simp [fits]

/-- What two's complement arithmetic of sixty-four bits makes of an exact result. -/
def wrapI64 (value : Int) : Int := Int.bmod value (2 ^ 64)

theorem wrapI64_of_fits {value : Int} (lower : -i64Limit ≤ value) (upper : value < i64Limit) :
    wrapI64 value = value := by
  unfold i64Limit at lower upper
  apply Int.bmod_eq_of_le
  · omega
  · omega

def i128Limit : Int := 2 ^ 127

/-- A two's complement integer of half-range `limit`. -/
structure SignedInt (limit : Int) where
  value : Int
  lower : -limit ≤ value
  upper : value < limit
  deriving DecidableEq

abbrev I64 := SignedInt i64Limit
abbrev I128 := SignedInt i128Limit

namespace SignedInt

variable {limit : Int}

theorem value_injective : Function.Injective fun signed : SignedInt limit => signed.value := by
  intro left right equal
  cases left
  cases right
  cases equal
  rfl

instance : LinearOrder (SignedInt limit) := LinearOrder.lift' SignedInt.value value_injective

theorem lt_iff {left right : SignedInt limit} : left < right ↔ left.value < right.value := Iff.rfl

def ofInt? (limit value : Int) : Option (SignedInt limit) :=
  if fits : -limit ≤ value ∧ value < limit then some ⟨value, fits.1, fits.2⟩ else none

theorem ofInt?_eq_some {value : Int} {result : SignedInt limit} :
    ofInt? limit value = some result ↔ result.value = value := by
  unfold ofInt?
  split_ifs with fits
  · constructor
    · intro equal
      cases equal
      rfl
    · intro equal
      cases equal
      rfl
  · constructor
    · intro impossible
      cases impossible
    · intro equal
      exact absurd ⟨equal ▸ result.lower, equal ▸ result.upper⟩ fits

end SignedInt

end OptionChainSimulator.Foundation
