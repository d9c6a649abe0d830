import Pure3270.Protocol.ParserSafety
import Pure3270.Session.LocalEditing

/-!
# Attributes painted over a field

`set_field_attribute` walks the rows of a field and in each of them the columns from that
of its start to that of its end.  The field itself runs from its start to its end, over
whole rows in between.
-/

namespace Pure3270

open Foundations

namespace ScreenBuffer

/-- An assignment to an element of a byte array. -/
def assignByte (offset : Nat) (value : Int) (bytes : List UInt8) :
    Except String (List UInt8) :=
  if 0 ≤ value ∧ value < 256 then .ok (bytes.set offset (UInt8.ofNat value.toNat))
  else .error "byte must be in range(0, 256)"

/-- The loops over the rows and columns of a field, for one of the three attribute bytes of
a cell. -/
def paintField (part : Nat) (field : Field) (value : Int) (screen : ScreenBuffer) :
    Except String ScreenBuffer := do
  let attributes ←
    (List.range' field.start.1 (field.finish.1 + 1 - field.start.1)).foldlM
      (fun attributes row =>
        (List.range' field.start.2 (field.finish.2 + 1 - field.start.2)).foldlM
          (fun attributes col =>
            let pos := row * screen.cols + col
            let attrOffset := pos * 3 + part
            if attrOffset < attributes.length then assignByte attrOffset value attributes
            else .ok attributes)
          attributes)
      screen.attributes
  .ok { screen with attributes }

/-- `set_field_attribute`.  A value that is no byte is raised at the first assignment,
before anything is changed. -/
def setFieldAttribute (fieldIndex : Int) (attr : String) (value : Int)
    (screen : ScreenBuffer) : Except String ScreenBuffer :=
  if 0 ≤ fieldIndex ∧ fieldIndex < screen.fields.length then
    match screen.fields[fieldIndex.toNat]? with
    | none => .ok screen
    | some field =>
        if attr = "color" then screen.paintField 1 field value
        else if attr = "highlight" then screen.paintField 2 field value
        else .ok screen
  else .ok screen

/-- The attributes that are painted, with their names. -/
inductive PaintedAttribute where
  | color
  | highlight

namespace PaintedAttribute

def name : PaintedAttribute → String
  | color => "color"
  | highlight => "highlight"

/-- Its place among the three attribute bytes of a cell. -/
def part : PaintedAttribute → Nat
  | color => 1
  | highlight => 2

end PaintedAttribute

/-- The attribute byte of each position of the field, and no other, holds the value. -/
structure Painted (part : Nat) (field : Field) (value : Int) (before after : ScreenBuffer) :
    Prop where
  positions : ∀ pos, containsIndex before.cols pos field = true →
    (after.attributes[3 * pos + part]?).map (fun byte => (byte.toNat : Int)) = some value
  others : ∀ offset,
    (∀ pos, containsIndex before.cols pos field = true → offset ≠ 3 * pos + part) →
    after.attributes[offset]? = before.attributes[offset]?
  frame : after = { before with attributes := after.attributes }

/-- A column that the loops leave out. -/
def OutsideColumns (field : Field) (col : Nat) : Prop :=
  col < field.start.2 ∨ field.finish.2 < col

/-- The field is in one row, or it covers whole rows, or the positions that the loops leave
out hold the value already. -/
def Covered (part : Nat) (field : Field) (value : Int) (screen : ScreenBuffer) : Prop :=
  field.start.1 = field.finish.1 ∨
    (field.start.2 = 0 ∧ field.finish.2 + 1 = screen.cols) ∨
    ∀ pos, containsIndex screen.cols pos field = true →
      OutsideColumns field (pos % screen.cols) →
      (screen.attributes[3 * pos + part]?).map (fun byte => (byte.toNat : Int)) = some value

variable {screen after : ScreenBuffer} {field : Field} {part : Nat} {value : Int}

/-- Linear addresses are ordered as positions are. -/
theorem address_le_iff {cols : Nat} {first second : Nat × Nat} (firstInside : first.2 < cols)
    (secondInside : second.2 < cols) :
    first.1 * cols + first.2 ≤ second.1 * cols + second.2 ↔ Position.le first second := by
  unfold Position.le
  rcases Nat.lt_trichotomy first.1 second.1 with below | same | above
  · have rows : (first.1 + 1) * cols ≤ second.1 * cols := Nat.mul_le_mul_right cols below
    rw [Nat.add_mul, Nat.one_mul] at rows
    exact iff_of_true (by omega) (.inl below)
  · rw [same]
    omega
  · have rows : (second.1 + 1) * cols ≤ first.1 * cols := Nat.mul_le_mul_right cols above
    rw [Nat.add_mul, Nat.one_mul] at rows
    exact iff_of_false (by omega) (by omega)

/-- A field holds a position if it lies between its ends. -/
theorem containsIndex_address_iff {row col : Nat} (inside : field.InBounds screen.rows screen.cols)
    (within : col < screen.cols) :
    containsIndex screen.cols (row * screen.cols + col) field = true ↔
      Position.le field.start (row, col) ∧ Position.le (row, col) field.finish := by
  unfold containsIndex Field.startIndex Field.endIndex
  rw [Bool.and_eq_true, decide_eq_true_eq, decide_eq_true_eq]
  exact and_congr (@address_le_iff _ _ (row, col) inside.1.2 within)
    (@address_le_iff _ (row, col) _ within inside.2.2)

/-- Every position is one of a row and a column. -/
theorem exists_row_col (pos : Nat) (screen : ScreenBuffer) :
    ∃ row col, pos = row * screen.cols + col ∧ col < screen.cols ∧
      pos % screen.cols = col := by
  refine ⟨pos / screen.cols, pos % screen.cols, ?_, Nat.mod_lt _ screen.cols_pos, rfl⟩
  rw [Nat.mul_comm, Nat.div_add_mod]

/-- The positions that the loops visit. -/
def rectangle (field : Field) (screen : ScreenBuffer) : List Nat :=
  (List.range' field.start.1 (field.finish.1 + 1 - field.start.1)).flatMap fun row =>
    (List.range' field.start.2 (field.finish.2 + 1 - field.start.2)).map fun col =>
      row * screen.cols + col

theorem mem_rectangle {pos : Nat} (inside : field.InBounds screen.rows screen.cols) :
    pos ∈ screen.rectangle field ↔
      containsIndex screen.cols pos field = true ∧
        ¬ OutsideColumns field (pos % screen.cols) := by
  have finish := inside.2.2
  unfold rectangle OutsideColumns
  simp only [List.mem_flatMap, List.mem_map, List.mem_range'_1]
  constructor
  · rintro ⟨row, rows, col, cols, rfl⟩
    have within : col < screen.cols := by omega
    rw [containsIndex_address_iff inside within, Nat.mul_comm, Nat.mul_add_mod,
      Nat.mod_eq_of_lt within]
    unfold Position.le
    omega
  · rintro ⟨contains, between⟩
    obtain ⟨row, col, rfl, within, remainder⟩ := exists_row_col pos screen
    rw [containsIndex_address_iff inside within] at contains
    rw [remainder] at between
    unfold Position.le at contains
    exact ⟨row, by omega, col, by omega, rfl⟩

/-- The loops leave nothing out of a field in one row or of whole rows. -/
theorem covered_iff (inside : field.InBounds screen.rows screen.cols) :
    screen.Covered part field value ↔
      ∀ pos, containsIndex screen.cols pos field = true →
        OutsideColumns field (pos % screen.cols) →
        (screen.attributes[3 * pos + part]?).map (fun byte => (byte.toNat : Int)) =
          some value := by
  refine ⟨fun covered pos contains outside => ?_, fun already => .inr (.inr already)⟩
  rcases covered with oneRow | wholeRows | already
  · obtain ⟨row, col, rfl, within, remainder⟩ := exists_row_col pos screen
    rw [containsIndex_address_iff inside within] at contains
    rw [remainder] at outside
    unfold Position.le at contains
    unfold OutsideColumns at outside
    omega
  · have within := Nat.mod_lt pos screen.cols_pos
    unfold OutsideColumns at outside
    omega
  · exact already pos contains outside

theorem assignByte_byte (offset : Nat) (byte : UInt8) (bytes : List UInt8) :
    assignByte offset byte.toNat bytes = .ok (bytes.set offset byte) := by
  have bound := byte.toNat_lt
  unfold assignByte
  rw [if_pos (by omega), Int.toNat_natCast, UInt8.ofNat_toNat]

/-- The loops with a byte store it in one place of each position of the rectangle. -/
theorem paintField_byte (byte : UInt8) :
    screen.paintField part field byte.toNat = .ok { screen with
      attributes := ((screen.rectangle field).map fun pos => pos * 3 + part).foldl
        (fun bytes offset => bytes.set offset byte) screen.attributes } := by
  have stored : ∀ (bytes : List UInt8) (row col : Nat),
      (if (row * screen.cols + col) * 3 + part < bytes.length then
        assignByte ((row * screen.cols + col) * 3 + part) byte.toNat bytes
      else .ok bytes) =
        (pure (bytes.set ((row * screen.cols + col) * 3 + part) byte) :
          Except String (List UInt8)) := by
    intro bytes row col
    rw [assignByte_byte]
    split
    · rfl
    · rename_i outside
      rw [List.set_eq_of_length_le (Nat.le_of_not_lt outside)]
      rfl
  unfold paintField rectangle
  simp only [stored, List.foldlM_pure, List.foldl_map, List.foldl_flatMap]
  rfl

theorem attributes_paintField {byte : UInt8}
    (made : screen.paintField part field byte.toNat = .ok after) (offset : Nat) :
    after.attributes[offset]? =
      if (∃ pos ∈ screen.rectangle field, pos * 3 + part = offset) ∧
        offset < screen.attributes.length then some byte
      else screen.attributes[offset]? := by
  rw [paintField_byte] at made
  cases made
  rw [getElem?_foldl_set]
  exact if_congr (and_congr_left fun _ => List.mem_map) rfl rfl

section Painting

variable (valid : screen.Valid) (member : field ∈ screen.fields) (last : part < 3)

include valid member last in
/-- Every position of the field has its attribute byte. -/
theorem offset_lt {pos : Nat} (contains : containsIndex screen.cols pos field = true) :
    pos * 3 + part < screen.attributes.length := by
  have finish := Field.endIndex_lt (valid.fields_inBounds field member)
  unfold containsIndex at contains
  rw [Bool.and_eq_true, decide_eq_true_eq, decide_eq_true_eq] at contains
  rw [valid.attributes_length]
  unfold size
  omega

include valid member last in
theorem painted_byte_iff {byte : UInt8}
    (made : screen.paintField part field byte.toNat = .ok after) :
    Painted part field byte.toNat screen after ↔
      screen.Covered part field byte.toNat := by
  have inside := valid.fields_inBounds field member
  have attributes := attributes_paintField made
  have frame : after = { screen with attributes := after.attributes } := by
    rw [paintField_byte] at made
    cases made
    rfl
  have at_iff : ∀ pos, containsIndex screen.cols pos field = true →
      ((after.attributes[3 * pos + part]?).map (fun byte => (byte.toNat : Int)) =
          some (byte.toNat : Int) ↔
        (OutsideColumns field (pos % screen.cols) →
          (screen.attributes[3 * pos + part]?).map (fun byte => (byte.toNat : Int)) =
            some (byte.toNat : Int))) := by
    intro pos contains
    have below := offset_lt valid member last contains
    rw [Nat.mul_comm 3 pos, attributes]
    by_cases visited : pos ∈ screen.rectangle field
    · rw [if_pos ⟨⟨pos, visited, rfl⟩, below⟩]
      have between := ((mem_rectangle inside).mp visited).2
      exact iff_of_true rfl fun outside => absurd outside between
    · have passed : ¬ ((∃ other ∈ screen.rectangle field,
          other * 3 + part = pos * 3 + part) ∧ pos * 3 + part < screen.attributes.length) := by
        rintro ⟨⟨other, listed, same⟩, _⟩
        have equal : other = pos := by omega
        exact visited (equal ▸ listed)
      rw [if_neg passed]
      have outside : OutsideColumns field (pos % screen.cols) := by
        by_contra between
        exact visited ((mem_rectangle inside).mpr ⟨contains, between⟩)
      exact ⟨fun already _ => already, fun already => already outside⟩
  rw [covered_iff inside]
  refine ⟨fun painted pos contains => (at_iff pos contains).mp (painted.positions pos contains),
    fun already => ⟨fun pos contains => (at_iff pos contains).mpr (already pos contains), ?_,
      frame⟩⟩
  intro offset apart
  rw [attributes, if_neg]
  rintro ⟨⟨pos, visited, same⟩, _⟩
  refine apart pos ((mem_rectangle inside).mp visited).1 ?_
  rw [Nat.mul_comm]
  exact same.symm

include valid member in
theorem Painted.exists_byte (painted : Painted part field value screen after) :
    ∃ byte : UInt8, value = byte.toNat := by
  have first : containsIndex screen.cols (field.startIndex screen.cols) field = true := by
    have ordered := Field.startIndex_le_endIndex (valid.fields_inBounds field member)
    unfold containsIndex
    rw [Bool.and_eq_true, decide_eq_true_eq, decide_eq_true_eq]
    exact ⟨Nat.le_refl _, ordered⟩
  obtain ⟨byte, _, same⟩ := Option.map_eq_some_iff.mp (painted.positions _ first)
  exact ⟨byte, same.symm⟩

end Painting

/-- `set_field_attribute` paints exactly the field if and only if the value is a byte and
the loops leave out only what holds the value already. -/
theorem setFieldAttribute_iff (valid : screen.Valid) {index : Nat}
    (found : screen.fields[index]? = some field) (painted : PaintedAttribute) (value : Int) :
    (∃ after, screen.setFieldAttribute index painted.name value = .ok after ∧
      Painted painted.part field value screen after) ↔
      (0 ≤ value ∧ value < 256) ∧ screen.Covered painted.part field value := by
  have member := List.mem_of_getElem? found
  have below := (List.getElem?_eq_some_iff.mp found).1
  have last : painted.part < 3 := by cases painted <;> decide
  have called : screen.setFieldAttribute index painted.name value =
      screen.paintField painted.part field value := by
    have known : (0 : Int) ≤ index ∧ (index : Int) < screen.fields.length := by omega
    unfold setFieldAttribute
    rw [if_pos known, Int.toNat_natCast, found]
    cases painted <;> rfl
  rw [called]
  constructor
  · rintro ⟨after, made, exactly⟩
    obtain ⟨byte, rfl⟩ := exactly.exists_byte valid member
    have bound := byte.toNat_lt
    exact ⟨⟨by omega, by omega⟩, (painted_byte_iff valid member last made).mp exactly⟩
  · rintro ⟨⟨low, high⟩, covered⟩
    obtain ⟨byte, rfl⟩ : ∃ byte : UInt8, value = byte.toNat := by
      have small : value.toNat < 256 := by omega
      exact ⟨UInt8.ofNat value.toNat, by rw [UInt8.toNat_ofNat_of_lt' small]; omega⟩
    exact ⟨_, paintField_byte byte,
      (painted_byte_iff valid member last (paintField_byte byte)).mpr covered⟩

/-- A screen of one field, from the second cell on. -/
def wrappedField : ScreenBuffer :=
  (DataStreamParser.smallParser 0 1).screen.setAttribute 0x40 none

/-- A field of whole rows. -/
theorem setFieldAttribute_wholeRows :
    ∃ after, ((DataStreamParser.smallParser 0 0).screen.setAttribute 0x40
        none).setFieldAttribute 0 "color" 0xF2 = .ok after ∧
      ∃ field, ((DataStreamParser.smallParser 0 0).screen.setAttribute 0x40
          none).fields[0]? = some field ∧
        Painted 1 field 0xF2
          ((DataStreamParser.smallParser 0 0).screen.setAttribute 0x40 none) after := by
  have valid := (DataStreamParser.smallParser_valid 0 0).setAttribute 0x40 none
  obtain ⟨field, found⟩ : ∃ field, ((DataStreamParser.smallParser 0 0).screen.setAttribute 0x40
      none).fields[0]? = some field := ⟨_, rfl⟩
  have shape : field.start.2 = 0 ∧ field.finish.2 + 1 = 3 := by
    cases found
    decide +kernel
  obtain ⟨after, made, exactly⟩ :=
    (setFieldAttribute_iff valid found .color 0xF2).mpr ⟨by decide, .inr (.inl shape)⟩
  exact ⟨after, made, field, found, exactly⟩

/-- A field that starts in the second column leaves the first column of its later rows
as it was. -/
theorem not_painted_wrapped :
    ∃ field after, wrappedField.fields[0]? = some field ∧
      wrappedField.setFieldAttribute 0 "color" 0xF2 = .ok after ∧
      ¬ Painted 1 field 0xF2 wrappedField after := by
  refine ⟨_, _, rfl, rfl, fun painted => ?_⟩
  have home := painted.positions 3 (by decide +kernel)
  revert home
  decide +kernel

end ScreenBuffer

end Pure3270
