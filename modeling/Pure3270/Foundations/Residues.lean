import Mathlib.Algebra.Group.Nat.Defs
import Mathlib.Data.Int.ModEq
import Mathlib.Data.Nat.Basic

/-!
# Counting modulo a number

A mask of low bits is a remainder, two fields without common bits are joined by addition,
and a byte holds what its mask leaves.  Places that are counted modulo their number lie on
a circle: a range runs from one of them up to another, over the end if need be, and the
distance of two numbers is the shorter way round, which depends on their residues only.
-/

namespace Foundations

theorem low_six (value : Nat) : value &&& 0x3F = value % 64 :=
  Nat.and_two_pow_sub_one_eq_mod value 6

theorem low_eight (value : Nat) : value &&& 0xFF = value % 256 :=
  Nat.and_two_pow_sub_one_eq_mod value 8

theorem low_fourteen (value : Nat) : value &&& 0x3FFF = value % 16384 :=
  Nat.and_two_pow_sub_one_eq_mod value 14

theorem join_bits {high low bits : Nat} (below : low < 2 ^ bits) :
    high <<< bits ||| low = high * 2 ^ bits + low := by
  rw [← Nat.shiftLeft_add_eq_or_of_lt below, Nat.shiftLeft_eq]

theorem toNat_lowSix (value : Nat) : (UInt8.ofNat (value &&& 0x3F)).toNat = value % 64 := by
  rw [low_six, UInt8.toNat_ofNat']
  exact Nat.mod_eq_of_lt (by omega)

theorem toNat_lowEight (value : Nat) : (UInt8.ofNat (value &&& 0xFF)).toNat = value % 256 := by
  rw [low_eight, UInt8.toNat_ofNat']
  exact Nat.mod_mod _ _

section Ranges

/-- The places from `start` on that come before `stop`. -/
def UpTo (start stop pos : Nat) : Prop :=
  if start ≤ stop then start ≤ pos ∧ pos < stop else start ≤ pos ∨ pos < stop

instance (start stop pos : Nat) : Decidable (UpTo start stop pos) := by
  unfold UpTo
  infer_instance

/-- How many places a range has. -/
def stepsUpTo (size start stop : Nat) : Nat :=
  if start ≤ stop then stop - start else size - start + stop

variable {size start stop pos : Nat}

theorem stepsUpTo_lt (startInside : start < size) (stopInside : stop < size) :
    stepsUpTo size start stop < size := by
  unfold stepsUpTo
  split <;> omega

theorem add_mod_lap (startInside : start < size) {step : Nat} (lap : step < size) :
    (start + step) % size =
      if start + step < size then start + step else start + step - size := by
  split
  · exact Nat.mod_eq_of_lt ‹_›
  · rw [Nat.mod_eq_sub_mod (by omega), Nat.mod_eq_of_lt (by omega)]

theorem upTo_iff_exists_step (startInside : start < size) (stopInside : stop < size)
    (inside : pos < size) :
    UpTo start stop pos ↔ ∃ step < stepsUpTo size start stop, (start + step) % size = pos := by
  have lap := stepsUpTo_lt startInside stopInside
  constructor
  · intro within
    unfold UpTo at within
    unfold stepsUpTo
    refine ⟨if start ≤ pos then pos - start else size - start + pos, ?_, ?_⟩
    · split at within <;> split <;> omega
    · rw [add_mod_lap startInside (by split <;> omega)]
      split <;> split <;> omega
  · rintro ⟨step, walked, here⟩
    rw [add_mod_lap startInside (by omega)] at here
    unfold stepsUpTo at walked
    unfold UpTo
    split at walked <;> split at here <;> split <;> omega

end Ranges

section Distances

/-- How far one number is from another, the shorter way round. -/
def circularDistance (modulus : Nat) (left right : Int) : Nat :=
  min ((left - right) % modulus).toNat ((right - left) % modulus).toNat

variable {modulus : Nat} {left right : Int}

theorem circularDistance_comm (modulus : Nat) (left right : Int) :
    circularDistance modulus left right = circularDistance modulus right left :=
  Nat.min_comm _ _

theorem circularDistance_congr {left' right' : Int}
    (sameLeft : left ≡ left' [ZMOD modulus]) (sameRight : right ≡ right' [ZMOD modulus]) :
    circularDistance modulus left right = circularDistance modulus left' right' := by
  unfold circularDistance
  rw [(sameLeft.sub sameRight).eq, (sameRight.sub sameLeft).eq]

/-- Going the same way from both ends keeps the distance. -/
theorem circularDistance_shift (modulus : Nat) (left right shift : Int) :
    circularDistance modulus ((left + shift) % modulus) ((right + shift) % modulus) =
      circularDistance modulus left right := by
  have moved : circularDistance modulus ((left + shift) % modulus)
      ((right + shift) % modulus) =
        circularDistance modulus (left + shift) (right + shift) :=
    circularDistance_congr (Int.mod_modEq _ _) (Int.mod_modEq _ _)
  rw [moved]
  unfold circularDistance
  rw [Int.add_sub_add_right, Int.add_sub_add_right]

/-- A number ahead of another by one lap at most is as far from it as the shorter
part of the lap. -/
theorem circularDistance_of_ahead {gap : Nat} (lap : gap ≤ modulus) :
    circularDistance modulus (right + gap) right = min gap (modulus - gap) := by
  have there : right + gap - right = gap := by omega
  have back : right - (right + gap) = -gap := by omega
  unfold circularDistance
  rw [there, back]
  rcases Nat.lt_or_eq_of_le lap with below | rfl
  · rcases Nat.eq_zero_or_pos gap with rfl | some
    · simp
    · have rest : (-(gap : Int)) % modulus = (modulus : Int) - gap := by
        rw [← Int.add_emod_right]
        exact (congrArg (· % (modulus : Int)) (by omega)).trans
          (Int.emod_eq_of_lt (a := (modulus : Int) - gap) (by omega) (by omega))
      rw [rest, Int.emod_eq_of_lt (Int.natCast_nonneg gap) (Int.ofNat_lt.mpr below)]
      omega
  · simp

/-- The distance of numbers that are one lap apart at most. -/
theorem circularDistance_of_near (lap : (left - right).natAbs ≤ modulus) :
    circularDistance modulus left right =
      min (left - right).natAbs (modulus - (left - right).natAbs) := by
  rcases Int.le_total right left with ahead | behind
  · have split : left = right + ((left - right).natAbs : Int) := by omega
    conv_lhs => rw [split]
    exact circularDistance_of_ahead lap
  · have split : right = left + ((left - right).natAbs : Int) := by omega
    rw [circularDistance_comm]
    conv_lhs => rw [split]
    exact circularDistance_of_ahead lap

end Distances

end Foundations
