import Pure3270.Protocol.AddressLaw
import Pure3270.Session.EnterRecord

/-!
# Addresses that the sender writes

`build_sba` and `build_input_stream` split an address at the eighth bit in both
addressing modes, and `build_sba` counts 80 columns on every screen.  The order
handlers of 12-bit mode join six bits of each byte, and all of them count the
columns of the screen.  What comes back is the address only on a few positions.
-/

namespace Pure3270

open Foundations

namespace DataStreamSender

/-- `build_sba`: the order and the address of a position on 80 columns. -/
def buildSba (row col : Nat) (addressingMode : AddressingMode) : List UInt8 :=
  match addressingMode with
  | .mode14Bit =>
      let address := (row * 80 + col) &&& 0x3FFF
      [0x11, UInt8.ofNat ((address >>> 8) &&& 0xFF), UInt8.ofNat (address &&& 0xFF)]
  | .mode12Bit =>
      let address := row * 80 + col
      [0x11, UInt8.ofNat ((address >>> 8) &&& 0x3F), UInt8.ofNat (address &&& 0xFF)]

/-- The part of an address that survives the way through two bytes: in 12-bit
mode the two bits above the lowest six are lost. -/
def carriedAddress (mode : AddressingMode) (address : Nat) : Nat :=
  match mode with
  | .mode14Bit => address % 16384
  | .mode12Bit => address / 256 % 64 * 64 + address % 64

theorem carriedAddress_lt (mode : AddressingMode) (address : Nat) :
    carriedAddress mode address < AddressCalculator.getMaxPositions mode := by
  cases mode <;> simp only [carriedAddress, AddressCalculator.getMaxPositions] <;> omega

theorem carriedAddress_le (mode : AddressingMode) (address : Nat) :
    carriedAddress mode address ≤ address := by
  cases mode with
  | mode14Bit => exact Nat.mod_le _ _
  | mode12Bit =>
      have high := Nat.mod_le (address / 256) 64
      simp only [carriedAddress]
      omega

/-- In 12-bit mode exactly the first 64 addresses come back. -/
theorem carriedAddress_mode12Bit_eq_iff (address : Nat) :
    carriedAddress .mode12Bit address = address ↔ address < 64 := by
  have bound : carriedAddress .mode12Bit address < 4096 :=
    carriedAddress_lt .mode12Bit address
  constructor
  · intro same
    have below : address < 4096 := same ▸ bound
    have high : address / 256 % 64 = address / 256 := Nat.mod_eq_of_lt (by omega)
    simp only [carriedAddress, high] at same
    omega
  · intro small
    simp only [carriedAddress]
    omega

theorem decodeAddress_addressBytes (address : Nat) :
    decodeAddress .mode12Bit (UInt8.ofNat ((address >>> 8) &&& 0x3F))
        (UInt8.ofNat (address &&& 0xFF)) =
      carriedAddress .mode12Bit address := by
  have joined : (address / 256 % 64) <<< 6 ||| address % 64 =
      address / 256 % 64 * 2 ^ 6 + address % 64 := join_bits (Nat.mod_lt _ (Nat.succ_pos 63))
  unfold decodeAddress
  simp only [toNat_lowSix, toNat_lowEight, Nat.shiftRight_eq_div_pow]
  rw [low_six, low_six, Nat.mod_mod, Nat.mod_mod_of_dvd _ (by decide : 64 ∣ 256), joined]
  rfl

/-- The order of `build_sba` is an SBA item, and its address is what the mode
carries of the address on 80 columns. -/
theorem buildSba_eq_encode (row col : Nat) (mode : AddressingMode) :
    ∃ high low, buildSba row col mode = (Item.sba high low).encode ∧
      decodeAddress mode high low = carriedAddress mode (row * 80 + col) := by
  cases mode with
  | mode12Bit => exact ⟨_, _, rfl, decodeAddress_addressBytes _⟩
  | mode14Bit =>
      refine ⟨_, _, rfl, ?_⟩
      generalize row * 80 + col = place
      have joined : (place % 16384 / 256) <<< 8 ||| place % 16384 % 256 =
          place % 16384 / 256 * 2 ^ 8 + place % 16384 % 256 :=
        join_bits (Nat.mod_lt _ (Nat.succ_pos 255))
      have high : place % 16384 / 256 % 256 = place % 16384 / 256 :=
        Nat.mod_eq_of_lt (by omega)
      simp only [decodeAddress, carriedAddress, toNat_lowEight, low_fourteen,
        Nat.shiftRight_eq_div_pow]
      rw [high, joined]
      omega

/-- The carried address names the position: it is the address of the position,
or the position is in the last row and the handler's clamp brings an address
below the screen back to it. -/
def SbaFits (mode : AddressingMode) (rows cols row col : Nat) : Prop :=
  carriedAddress mode (row * 80 + col) = row * cols + col ∨
    (row + 1 = rows ∧ row * cols ≤ carriedAddress mode (row * 80 + col) ∧
      carriedAddress mode (row * 80 + col) % cols = col)

instance (mode : AddressingMode) (rows cols row col : Nat) :
    Decidable (SbaFits mode rows cols row col) :=
  inferInstanceAs (Decidable (_ ∨ _))

/-- On 80 columns an address of 14 bits always fits. -/
theorem sbaFits_mode14Bit {rows row col : Nat} (fits : rows * 80 ≤ 16384)
    (rowInside : row < rows) (colInside : col < 80) :
    SbaFits .mode14Bit rows 80 row col := by
  left
  exact Nat.mod_eq_of_lt (by omega)

theorem sbaFits_mode12Bit_iff {rows row col : Nat} (fits : rows * 80 ≤ 4096)
    (rowInside : row < rows) (colInside : col < 80) :
    SbaFits .mode12Bit rows 80 row col ↔ row = 0 ∧ col < 64 := by
  have same := carriedAddress_mode12Bit_eq_iff (row * 80 + col)
  have lower := carriedAddress_le .mode12Bit (row * 80 + col)
  unfold SbaFits
  rw [same]
  constructor
  · rintro (small | ⟨-, above, column⟩)
    · omega
    · -- at or above its row and not above itself, the address is the position
      have whole : carriedAddress .mode12Bit (row * 80 + col) = row * 80 + col := by
        omega
      have small := same.mp whole
      omega
  · rintro ⟨rfl, small⟩
    exact Or.inl (by omega)

end DataStreamSender

namespace ScreenBuffer

/-- Where an SBA order leaves the buffer address. -/
theorem targetPosition_eq_iff {screen : ScreenBuffer} {mode : AddressingMode}
    {address row col : Nat} (named : address < AddressCalculator.getMaxPositions mode)
    (rowInside : row < screen.rows) (colInside : col < screen.cols) :
    screen.targetPosition address mode = (row, col) ↔
      address = row * screen.cols + col ∨
        (row + 1 = screen.rows ∧ row * screen.cols ≤ address ∧
          address % screen.cols = col) := by
  have column : address % screen.cols < screen.cols := Nat.mod_lt _ screen.cols_pos
  have split := Nat.div_add_mod' address screen.cols
  have whole : AddressCalculator.clampAddress address mode = address := by
    unfold AddressCalculator.clampAddress
    rw [if_pos (AddressCalculator.validateAddress_iff.mpr named)]
  have rowOf : address / screen.cols = row ∧ address % screen.cols = col ↔
      address = row * screen.cols + col := by
    constructor
    · rintro ⟨rfl, rfl⟩
      exact split.symm
    · rintro rfl
      rw [Nat.mul_add_mod', Nat.mod_eq_of_lt colInside, Nat.mul_comm,
        Nat.mul_add_div screen.cols_pos, Nat.div_eq_of_lt colInside]
      exact ⟨rfl, rfl⟩
  have below : row ≤ address / screen.cols ↔ row * screen.cols ≤ address :=
    Nat.le_div_iff_mul_le screen.cols_pos
  unfold targetPosition
  rw [whole, Prod.mk.injEq, Nat.min_eq_left (by omega : address % screen.cols ≤ _),
    ← rowOf, ← below]
  omega

end ScreenBuffer

namespace DataStreamParser

/-- One round on the order of `build_sba` sets the buffer address exactly where
the carried address names the position. -/
theorem parseRound_buildSba_iff {parser : DataStreamParser} {rest : List UInt8}
    {row col : Nat} (snapshot : Option ScreenSnapshot)
    (before : Before (DataStreamSender.buildSba row col parser.addressingMode ++ rest)
      parser)
    (rowInside : row < parser.screen.rows) (colInside : col < parser.screen.cols) :
    (∃ after, parseRound snapshot parser = .ok none after ∧
        after.screen.getPosition = (row, col)) ↔
      DataStreamSender.SbaFits parser.addressingMode parser.screen.rows
        parser.screen.cols row col := by
  obtain ⟨high, low, encoded, decoded⟩ :=
    DataStreamSender.buildSba_eq_encode row col parser.addressingMode
  rw [encoded] at before
  have round := (@Before.item _ (.sba high low) _ before trivial nofun snapshot).1
  have target := @ScreenBuffer.targetPosition_eq_iff parser.screen _ _ _ _
    (DataStreamSender.carriedAddress_lt parser.addressingMode (row * 80 + col))
    rowInside colInside
  have reached : ((Item.sba high low).after parser).screen.getPosition =
      parser.screen.targetPosition
        (DataStreamSender.carriedAddress parser.addressingMode (row * 80 + col))
        parser.addressingMode := by
    rw [← decoded]
    show (min _ (min _ _), min _ (min _ _)) = _
    unfold ScreenBuffer.targetPosition
    simp only [Prod.mk.injEq]
    omega
  unfold DataStreamSender.SbaFits
  rw [← target, ← reached, round]
  constructor
  · rintro ⟨after, same, position⟩
    cases same
    exact position
  · exact fun position => ⟨_, rfl, position⟩

end DataStreamParser

namespace DataStreamSender

/-- The addresses of an input stream behind its AID, read in 12-bit mode by
somebody who knows how much data each order has. -/
def readAddresses : List Nat → List UInt8 → Option (List Nat)
  | [], stream => if stream = [0x0D] then some [] else none
  | size :: sizes, 0x11 :: high :: low :: stream =>
      (readAddresses sizes (stream.drop size)).map
        (decodeAddress .mode12Bit high low :: ·)
  | _ :: _, _ => none

theorem readAddresses_fieldInputs (cols : Nat)
    (modifiedFields : List (Nat × List UInt8)) :
    readAddresses (modifiedFields.map (·.2.length))
        (modifiedFields.flatMap (fun (pos, fieldData) => fieldInput cols pos fieldData) ++
          [0x0D]) =
      some (modifiedFields.map fun field => carriedAddress .mode12Bit field.1) := by
  induction modifiedFields with
  | nil => rfl
  | cons field modifiedFields ih =>
      obtain ⟨pos, fieldData⟩ := field
      simp only [List.map_cons, List.flatMap_cons, fieldInput_eq cols pos fieldData,
        List.cons_append, List.append_assoc, readAddresses, List.drop_left,
        decodeAddress_addressBytes]
      rw [ih]
      rfl

/-- The input stream names the positions it was given exactly when they are
among the first 64. -/
theorem readAddresses_buildInputStream_iff (aid : UInt8) (cols : Nat)
    (modifiedFields : List (Nat × List UInt8)) :
    readAddresses (modifiedFields.map (·.2.length))
          (buildInputStream modifiedFields aid cols).tail =
        some (modifiedFields.map Prod.fst) ↔
      ∀ field ∈ modifiedFields, field.1 < 64 := by
  unfold buildInputStream
  rw [List.cons_append, List.tail_cons, readAddresses_fieldInputs, Option.some.injEq,
    List.map_inj_left]
  simp only [carriedAddress_mode12Bit_eq_iff]

/-- An address survives the way through an SBA order where the carried address
names the position, and the way through an input stream below 64. -/
theorem addresses_roundTrip_iff (snapshot : Option ScreenSnapshot)
    {parser : DataStreamParser} {row col : Nat} {rest : List UInt8}
    (before : DataStreamParser.Before (buildSba row col parser.addressingMode ++ rest) parser)
    (_fits : parser.screen.rows * parser.screen.cols ≤
      AddressCalculator.getMaxPositions parser.addressingMode)
    (rowInside : row < parser.screen.rows) (colInside : col < parser.screen.cols)
    (modifiedFields : List (Nat × List UInt8)) (aid : UInt8) (cols : Nat) (_cols_pos : 0 < cols) :
    ((∃ after, DataStreamParser.parseRound snapshot parser = .ok none after ∧
        after.screen.getPosition = (row, col)) ↔
      SbaFits parser.addressingMode parser.screen.rows parser.screen.cols row col) ∧
    (readAddresses (modifiedFields.map (·.2.length))
          (buildInputStream modifiedFields aid cols).tail =
        some (modifiedFields.map Prod.fst) ↔
      ∀ field ∈ modifiedFields, field.1 < 64) :=
  ⟨DataStreamParser.parseRound_buildSba_iff snapshot before rowInside colInside,
    readAddresses_buildInputStream_iff aid cols modifiedFields⟩

/-- A position in the first row of a small screen, and a field of two bytes. -/
theorem addresses_roundTrip_small :
    (∃ after, DataStreamParser.parseRound none
        { DataStreamParser.smallParser 1 1 with data := buildSba 0 2 .mode12Bit } =
          .ok none after ∧ after.screen.getPosition = (0, 2)) ∧
      readAddresses [2] (buildInputStream [(5, [0xC1, 0xC2])] 0x7D 3).tail = some [5] := by
  have trips := @addresses_roundTrip_iff none
    { DataStreamParser.smallParser 1 1 with data := buildSba 0 2 .mode12Bit } 0 2 []
    (DataStreamParser.smallParser_before 1 1 _) (by decide) (by decide) (by decide)
    [(5, [0xC1, 0xC2])] 0x7D 3 (by decide)
  exact ⟨trips.1.mpr (by decide), trips.2.mpr (by decide)⟩

/-- The second row of a small screen starts at 3, but the order names 80, which
12-bit mode reads as 16. -/
theorem not_addresses_roundTrip :
    ¬ ((∀ (snapshot : Option ScreenSnapshot) (parser : DataStreamParser)
          (row col : Nat) (rest : List UInt8),
        DataStreamParser.Before (buildSba row col parser.addressingMode ++ rest) parser →
          parser.screen.rows * parser.screen.cols ≤
              AddressCalculator.getMaxPositions parser.addressingMode →
            row < parser.screen.rows → col < parser.screen.cols →
              ∃ after, DataStreamParser.parseRound snapshot parser = .ok none after ∧
                after.screen.getPosition = (row, col)) ∧
        ∀ (modifiedFields : List (Nat × List UInt8)) (aid : UInt8) (cols : Nat),
          0 < cols →
            readAddresses (modifiedFields.map (·.2.length))
                (buildInputStream modifiedFields aid cols).tail =
              some (modifiedFields.map Prod.fst)) := by
  rintro ⟨orders, -⟩
  let parser : DataStreamParser :=
    { DataStreamParser.smallParser 0 0 with data := buildSba 1 0 .mode12Bit ++ [] }
  have before : DataStreamParser.Before (buildSba 1 0 parser.addressingMode ++ []) parser :=
    DataStreamParser.smallParser_before 0 0 (buildSba 1 0 .mode12Bit ++ [])
  have reached := orders none parser 1 0 [] before (by decide) (by decide) (by decide)
  have fits := (DataStreamParser.parseRound_buildSba_iff none before (by decide)
    (by decide)).mp reached
  exact absurd fits (by decide)

end DataStreamSender

end Pure3270
