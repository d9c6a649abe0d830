import Pure3270.Emulation.Addressing

/-!
# Positions with an addressing mode

A position is kept with the number of columns and the mode it is counted in, and it has
an address that the mode can name.
-/

namespace Pure3270

def AddressingMode.value : AddressingMode → String
  | .mode12Bit => "12-bit"
  | .mode14Bit => "14-bit"

/-- A position whose address the mode can name. -/
structure ExtendedPosition where
  row : Nat
  col : Nat
  cols : Nat
  addressingMode : AddressingMode
  cols_pos : 0 < cols
  valid : AddressCalculator.validateAddress (row * cols + col) addressingMode = true

def ExtendedPosition.convertAddressingMode (newMode : AddressingMode)
    (position : ExtendedPosition) : Except String ExtendedPosition :=
  let address := position.row * position.cols + position.col
  let maxPositions := AddressCalculator.getMaxPositions newMode
  let mode := newMode.value
  if valid : AddressCalculator.validateAddress address newMode = true then
    .ok { position with addressingMode := newMode, valid }
  else
    .error s!"Position ({position.row}, {position.col}) with {position.cols} columns exceeds {mode} addressing limits (address {address} >= {maxPositions})"

namespace AddressCalculator

/-- `validate_address` of any integer. -/
def validateInteger (address : Int) (mode : AddressingMode) : Bool :=
  0 ≤ address && validateAddress address.toNat mode

def coordsToAddress (row col cols : Nat) (mode : AddressingMode) : Option Nat :=
  if validateAddress (row * cols + col) mode then some (row * cols + col) else none

/-- `address_to_coords` of any integer. -/
def integerToCoords (address : Int) (cols : Nat) (mode : AddressingMode) :
    Option (Nat × Nat) :=
  if validateInteger address mode then
    some (address.toNat / cols, address.toNat % cols)
  else none

end AddressCalculator

namespace ExtendedPosition

open AddressCalculator

/-- The constructor, on a screen with columns. -/
def init (row col : Int) (cols : Nat) (cols_pos : 0 < cols) (mode : AddressingMode) :
    Except String ExtendedPosition :=
  let address := row.toNat * cols + col.toNat
  let maxPositions := getMaxPositions mode
  let modeValue := mode.value
  if row < 0 ∨ col < 0 then
    .error s!"Coordinates must be non-negative: row={row}, col={col}"
  else if valid : validateAddress address mode = true then
    .ok {
      row := row.toNat
      col := col.toNat
      cols
      addressingMode := mode
      cols_pos
      valid }
  else
    .error s!"Position ({row}, {col}) with {cols} columns exceeds {modeValue} addressing limits (address {address} >= {maxPositions})"

def coordinates (position : ExtendedPosition) : Nat × Nat := (position.row, position.col)

def linearAddress (position : ExtendedPosition) : Nat :=
  (coordsToAddress position.row position.col position.cols position.addressingMode).getD 0

theorem linearAddress_eq (position : ExtendedPosition) :
    position.linearAddress = position.row * position.cols + position.col := by
  unfold linearAddress coordsToAddress
  rw [if_pos position.valid]
  rfl

theorem valid_coords {address cols : Nat} {mode : AddressingMode}
    (valid : validateAddress address mode = true) :
    validateAddress (address / cols * cols + address % cols) mode = true := by
  rw [Nat.mul_comm, Nat.div_add_mod]
  exact valid

def setFromAddress (address : Int) (position : ExtendedPosition) :
    Except String ExtendedPosition :=
  let modeValue := position.addressingMode.value
  if valid : validateInteger address position.addressingMode = true then
    .ok { position with
      row := address.toNat / position.cols
      col := address.toNat % position.cols
      valid := valid_coords (Bool.and_eq_true_iff.mp valid).2 }
  else .error s!"Invalid address {address} for {modeValue} mode"

end ExtendedPosition

end Pure3270
