import Mathlib.Logic.Basic

/-!
# Buffer addressing

Orders carry two address bytes.  The addressing mode of the session decides
how they are decoded and how many positions can be named; an address beyond
the mode is clamped by the order handlers.
-/

namespace Pure3270

inductive AddressingMode where
  | mode12Bit
  | mode14Bit
  deriving DecidableEq, Repr

namespace AddressCalculator

def validateAddress (address : Nat) : AddressingMode → Bool
  | .mode12Bit => decide (address ≤ 0xFFF)
  | .mode14Bit => decide (address ≤ 0x3FFF)

def getMaxPositions : AddressingMode → Nat
  | .mode12Bit => 4096
  | .mode14Bit => 16384

def addressToCoords (address cols : Nat) (mode : AddressingMode) :
    Option (Nat × Nat) :=
  if validateAddress address mode then some (address / cols, address % cols)
  else none

/-- The clamp the order handlers apply to an address beyond the mode. -/
def clampAddress (address : Nat) (mode : AddressingMode) : Nat :=
  if validateAddress address mode then address
  else min address (getMaxPositions mode - 1)

theorem validateAddress_iff {address : Nat} {mode : AddressingMode} :
    validateAddress address mode = true ↔ address < getMaxPositions mode := by
  cases mode <;> simp [validateAddress, getMaxPositions] <;> omega

@[simp] theorem validateAddress_clampAddress
    (address : Nat) (mode : AddressingMode) :
    validateAddress (clampAddress address mode) mode = true := by
  unfold clampAddress
  split
  · assumption
  · rw [validateAddress_iff]
    cases mode <;> simp only [getMaxPositions] <;> omega

theorem addressToCoords_clampAddress
    (address cols : Nat) (mode : AddressingMode) :
    addressToCoords (clampAddress address mode) cols mode =
      some (clampAddress address mode / cols, clampAddress address mode % cols) := by
  simp [addressToCoords]

end AddressCalculator

/-- The address in two order bytes: six bits of each in 12-bit mode, all
sixteen bits in 14-bit mode. -/
def decodeAddress (mode : AddressingMode) (high low : UInt8) : Nat :=
  match mode with
  | .mode14Bit => high.toNat <<< 8 ||| low.toNat
  | .mode12Bit => (high.toNat &&& 0x3F) <<< 6 ||| (low.toNat &&& 0x3F)

end Pure3270
