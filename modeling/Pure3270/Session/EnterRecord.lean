import Pure3270.Emulation.ModifiedData
import Pure3270.Foundations.Residues
import Pure3270.Session.FittedContents

/-!
# The record of Enter

Enter sends the contents of the modified fields, decoded and encoded again, each
behind the address of the field's attribute.  What a host is to get has the
cursor address in front, names the first character positions and leaves nulls
out.  The two never agree.
-/

namespace Pure3270

open Foundations

/-- The two bytes of an address: six bits each in 12-bit mode, the upper six and
the lower eight in 14-bit mode. -/
def encodeAddress (mode : AddressingMode) (address : Nat) : UInt8 × UInt8 :=
  match mode with
  | .mode14Bit =>
      (UInt8.ofNat ((address >>> 8) &&& 0x3F), UInt8.ofNat (address &&& 0xFF))
  | .mode12Bit =>
      (UInt8.ofNat ((address >>> 6) &&& 0x3F), UInt8.ofNat (address &&& 0x3F))

/-- The order handlers read back the addresses that the mode can name. -/
theorem decodeAddress_encodeAddress {mode : AddressingMode} {address : Nat}
    (inside : address < AddressCalculator.getMaxPositions mode) :
    decodeAddress mode (encodeAddress mode address).1 (encodeAddress mode address).2 =
      address := by
  cases mode with
  | mode14Bit =>
      have below : address < 16384 := inside
      have high : (address >>> 8) % 64 = address / 256 := by
        rw [Nat.shiftRight_eq_div_pow]
        exact Nat.mod_eq_of_lt (by omega)
      have joined : (address / 256) <<< 8 ||| address % 256 =
          address / 256 * 2 ^ 8 + address % 256 := join_bits (Nat.mod_lt _ (by decide))
      simp only [decodeAddress, encodeAddress, toNat_lowSix, toNat_lowEight, high, joined]
      omega
  | mode12Bit =>
      have below : address < 4096 := inside
      have high : (address >>> 6) % 64 = address / 64 := by
        rw [Nat.shiftRight_eq_div_pow]
        exact Nat.mod_eq_of_lt (by omega)
      have joined : (address / 64) <<< 6 ||| address % 64 =
          address / 64 * 2 ^ 6 + address % 64 := join_bits (Nat.mod_lt _ (by decide))
      simp only [decodeAddress, encodeAddress, toNat_lowSix]
      rw [low_six, low_six, Nat.mod_mod, Nat.mod_mod, high, joined]
      omega

namespace DataStreamSender

/-- The bytes for one field: SBA, its address and its data. -/
def fieldInput (cols pos : Nat) (fieldData : List UInt8) : List UInt8 :=
  let row := pos / cols
  let col := pos % cols
  let address := row * cols + col
  0x11 :: UInt8.ofNat ((address >>> 8) &&& 0x3F) :: UInt8.ofNat (address &&& 0xFF) ::
    fieldData

theorem fieldInput_eq (cols pos : Nat) (fieldData : List UInt8) :
    fieldInput cols pos fieldData =
      0x11 :: UInt8.ofNat ((pos >>> 8) &&& 0x3F) :: UInt8.ofNat (pos &&& 0xFF) ::
        fieldData := by
  unfold fieldInput
  simp only [Nat.div_add_mod']

/-- `build_input_stream`: the AID, the fields, and the byte EOA. -/
def buildInputStream (modifiedFields : List (Nat × List UInt8)) (aid : UInt8)
    (cols : Nat) : List UInt8 :=
  aid :: modifiedFields.flatMap (fun (pos, fieldData) => fieldInput cols pos fieldData) ++
    [0x0D]

end DataStreamSender

namespace AsyncSession

/-- The record that `key("Enter")` passes to the handler. -/
def enterRecord (pages : Ebcdic.Codepages) (session : AsyncSession) : List UInt8 :=
  let screen := session.screenBuffer
  let modified := (screen.readModifiedFields pages).map fun ((row, col), content) =>
    (row * screen.cols + col, Ebcdic.encode content)
  DataStreamSender.buildInputStream modified 0x7D screen.cols

end AsyncSession

namespace ScreenBuffer

/-- The bytes that Enter sends for a field. -/
def fieldSent (pages : Ebcdic.Codepages) (cols : Nat) (field : Field) : List UInt8 :=
  DataStreamSender.fieldInput cols (field.startIndex cols)
    (Ebcdic.encode (field.getContent pages))

end ScreenBuffer

namespace AsyncSession

theorem enterRecord_eq (pages : Ebcdic.Codepages) (session : AsyncSession) :
    session.enterRecord pages =
      0x7D :: (session.screenBuffer.fields.filter (·.modified)).flatMap
        (ScreenBuffer.fieldSent pages session.screenBuffer.cols) ++ [0x0D] := by
  unfold enterRecord DataStreamSender.buildInputStream ScreenBuffer.readModifiedFields
  simp only [List.map_map, List.flatMap_map]
  rfl

end AsyncSession

namespace ScreenBuffer

/-- SBA to the first character position of a field and its characters without
the nulls. -/
def fieldData (mode : AddressingMode) (screen : ScreenBuffer) (field : Field) :
    List UInt8 :=
  let first := encodeAddress mode ((field.startIndex screen.cols + 1) % screen.size)
  0x11 :: first.1 :: first.2 ::
    (slice (field.startIndex screen.cols + 1) (field.endIndex screen.cols)
      screen.buffer).filter (· ≠ 0)

/-- What a host is to get: AID, cursor address, and the modified fields in the
order of the screen. -/
def modifiedData (mode : AddressingMode) (screen : ScreenBuffer) : List UInt8 :=
  let cursor := encodeAddress mode screen.cursorAddress
  0x7D :: cursor.1 :: cursor.2 ::
    (sortByStart screen.cols (screen.fields.filter (·.modified))).flatMap
      (screen.fieldData mode)

end ScreenBuffer

/-- What is longer by a byte for each item is longer by their number. -/
private theorem length_flatMap_add_le {α β : Type} {short long : α → List β}
    {list : List α}
    (each : ∀ item ∈ list, (short item).length + 1 ≤ (long item).length) :
    (list.flatMap short).length + list.length ≤ (list.flatMap long).length := by
  induction list with
  | nil => exact Nat.le_refl _
  | cons item list ih =>
      have here := each item List.mem_cons_self
      have later := ih fun other member => each other (.tail _ member)
      simp only [List.flatMap_cons, List.length_append, List.length_cons]
      omega

namespace ScreenBuffer

variable {screen : ScreenBuffer} {field : Field}

theorem length_fieldSent (pages : Ebcdic.Codepages) (cols : Nat) (field : Field) :
    (fieldSent pages cols field).length = 3 + field.content.length := by
  unfold fieldSent
  rw [DataStreamSender.fieldInput_eq]
  simp only [List.length_cons, Ebcdic.encode, Field.getContent, Ebcdic.decode,
    List.length_map]
  omega

theorem length_fieldData_lt (pages : Ebcdic.Codepages) (mode : AddressingMode)
    (inside : field.InBounds screen.rows screen.cols)
    (fits : field.content.length =
      field.endIndex screen.cols + 1 - field.startIndex screen.cols) :
    (screen.fieldData mode field).length + 1 ≤
      (fieldSent pages screen.cols field).length := by
  have ordered := Field.startIndex_le_endIndex inside
  have kept : ((slice (field.startIndex screen.cols + 1) (field.endIndex screen.cols)
      screen.buffer).filter (· ≠ 0)).length ≤
        field.endIndex screen.cols - field.startIndex screen.cols := by
    refine (List.length_filter_le _ _).trans ?_
    unfold slice
    rw [List.length_take]
    omega
  rw [length_fieldSent, fits]
  simp only [fieldData, List.length_cons]
  omega

/-- The address behind one that ends in the byte of SBA. -/
theorem encodeAddress_next {mode : AddressingMode} {pos : Nat}
    (ends : pos % 256 = 0x11) : (encodeAddress mode (pos + 1)).2 = 0x12 := by
  cases mode with
  | mode14Bit =>
      have low : (pos + 1) % 256 = 0x12 := by omega
      simp only [encodeAddress, low_eight, low]
      rfl
  | mode12Bit =>
      have low : (pos + 1) % 64 = 0x12 := by omega
      simp only [encodeAddress, low_six, low]
      rfl

/-- A single field is never sent as it is to be: the bytes of the SBA come where
the cursor address and the order are expected. -/
theorem fieldSent_ne_fieldData (pages : Ebcdic.Codepages) (mode : AddressingMode)
    (inside : field.InBounds screen.rows screen.cols)
    (fits : field.content.length =
      field.endIndex screen.cols + 1 - field.startIndex screen.cols)
    (cursor : UInt8 × UInt8) :
    fieldSent pages screen.cols field ++ [0x0D] ≠
      cursor.1 :: cursor.2 :: screen.fieldData mode field := by
  have ordered := Field.startIndex_le_endIndex inside
  have below : field.endIndex screen.cols < screen.size := Field.endIndex_lt inside
  intro same
  unfold fieldSent at same
  rw [DataStreamSender.fieldInput_eq] at same
  simp only [fieldData, List.cons_append, List.cons.injEq] at same
  obtain ⟨-, -, low, rest⟩ := same
  have ends : field.startIndex screen.cols % 256 = 0x11 := by
    have value := congrArg UInt8.toNat low
    rwa [toNat_lowEight] at value
  have length : (Ebcdic.encode (field.getContent pages)).length = field.content.length := by
    simp [Ebcdic.encode, Field.getContent, Ebcdic.decode]
  have encoded : ∀ byte ∈ Ebcdic.encode (field.getContent pages), byte ≠ 0x12 := by
    intro byte member
    obtain ⟨char, decoded, rfl⟩ := List.mem_map.mp member
    obtain ⟨stored, _, rfl⟩ := List.mem_map.mp decoded
    exact Ebcdic.encodeChar_cleanChar_ne _
  cases data : Ebcdic.encode (field.getContent pages) with
  | nil =>
      rw [data] at length
      simp only [List.length_nil] at length
      omega
  | cons first others =>
      rw [data] at rest length encoded
      obtain ⟨-, behind⟩ := List.cons.inj rest
      cases others with
      | nil =>
          -- the field has no character, and its next cell may be the first one
          obtain ⟨second, -⟩ := List.cons.inj behind
          by_cases wraps : field.startIndex screen.cols + 1 = screen.size
          · rw [wraps, Nat.mod_self] at second
            cases mode <;> cases second
          · rw [Nat.mod_eq_of_lt (by omega), encodeAddress_next ends] at second
            cases second
      | cons second others =>
          obtain ⟨same, -⟩ := List.cons.inj behind
          simp only [List.length_cons] at length
          rw [Nat.mod_eq_of_lt (by omega), encodeAddress_next ends] at same
          exact encoded second (by simp) same

end ScreenBuffer

namespace AsyncSession

/-- Enter never passes on exactly the modified data, whatever the screen, the
cursor, the code page and the addressing mode. -/
theorem enterRecord_ne_modifiedData (pages : Ebcdic.Codepages) (mode : AddressingMode)
    {session : AsyncSession} (valid : session.screenBuffer.Valid)
    (fitted : session.screenBuffer.Fitted) :
    session.enterRecord pages ≠ session.screenBuffer.modifiedData mode := by
  intro same
  rw [enterRecord_eq] at same
  unfold ScreenBuffer.modifiedData at same
  generalize session.screenBuffer = screen at *
  have member : ∀ field ∈ screen.fields.filter (·.modified), field ∈ screen.fields :=
    fun field listed => List.mem_of_mem_filter listed
  generalize screen.fields.filter (·.modified) = modified at *
  have lengths := congrArg List.length same
  have sorted := ((List.perm_insertionSort (fun left right : Field =>
    left.startIndex screen.cols ≤ right.startIndex screen.cols) modified).flatMap_right
      (screen.fieldData mode)).length_eq
  have longer := @length_flatMap_add_le _ _ (screen.fieldData mode)
    (ScreenBuffer.fieldSent pages screen.cols) modified fun field listed =>
      ScreenBuffer.length_fieldData_lt pages mode
        (valid.fields_inBounds field (member field listed))
        (fitted field (member field listed))
  simp only [ScreenBuffer.sortByStart, List.cons_append, List.length_cons,
    List.length_append, List.length_nil, sorted] at lengths
  match modified with
  | [] => simp at lengths
  | [field] =>
      have inScreen := member field List.mem_cons_self
      refine ScreenBuffer.fieldSent_ne_fieldData pages mode
        (valid.fields_inBounds field inScreen) (fitted field inScreen)
        (encodeAddress mode screen.cursorAddress) ?_
      simpa [ScreenBuffer.sortByStart] using same
  | first :: second :: others =>
      simp only [List.length_cons] at longer
      omega

/-- A session on a small screen with one input field and a letter in it. -/
def typedForm : AsyncSession :=
  (HostSession.small.handle (.record HostSession.inputRecord)).session.press (.char 'a')

theorem typedForm_fitted : typedForm.screenBuffer.ValidFitted :=
  HostSession.fitted_run [.record HostSession.inputRecord, .key (.char 'a')]
    ⟨HostSession.small_mirrored.valid, nofun⟩

theorem enterRecord_ne_modifiedData_typed :
    typedForm.enterRecord ScreenBuffer.cp037Pages ≠
      typedForm.screenBuffer.modifiedData .mode12Bit :=
  enterRecord_ne_modifiedData _ _ typedForm_fitted.1 typedForm_fitted.2

/-- The letter is sent behind the attribute and to its address, and no cursor
address comes before it. -/
theorem not_enterRecord_modifiedData :
    ¬ ∀ (pages : Ebcdic.Codepages) (mode : AddressingMode) (session : AsyncSession),
      session.screenBuffer.Valid → session.screenBuffer.Fitted →
        session.enterRecord pages = session.screenBuffer.modifiedData mode := by
  intro claimed
  have same := claimed ScreenBuffer.cp037Pages .mode12Bit typedForm typedForm_fitted.1
    typedForm_fitted.2
  have sent : typedForm.enterRecord ScreenBuffer.cp037Pages =
      [0x7D, 0x11, 0x00, 0x00, 0x00, 0x81, 0x40, 0x40, 0x40, 0x40, 0x0D] := by
    decide +kernel
  have expected : typedForm.screenBuffer.modifiedData .mode12Bit =
      [0x7D, 0x00, 0x02, 0x11, 0x00, 0x01, 0x81, 0x40, 0x40, 0x40, 0x40] := by
    decide +kernel
  rw [sent, expected] at same
  cases same

end AsyncSession

end Pure3270
