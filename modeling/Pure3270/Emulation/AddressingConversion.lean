import Mathlib.Logic.Relation
import Pure3270.Emulation.ExtendedScreenBuffer
import Pure3270.Emulation.ModifiedData
import Pure3270.Emulation.Snapshot
import Pure3270.Foundations.ObjectHeap
import Pure3270.Protocol.SharedScreen

/-!
# Converting the addressing mode

A conversion makes a new buffer and copies some of the attributes of the old one.  The
dictionary of the attribute sets and the list of the fields are copied, the sets and the
fields in them are not: both buffers refer to the same objects.
-/

namespace Pure3270

open Foundations AddressCalculator

namespace ExtendedScreenBuffer

/-- `convert_addressing_mode`. -/
def convertAddressingMode (newMode : AddressingMode) (buffer : ExtendedScreenBuffer) :
    Except String ExtendedScreenBuffer :=
  let screen := buffer.screen
  let totalPositions := screen.rows * screen.cols
  let modeValue := newMode.value
  if validateAddress (totalPositions - 1) newMode then do
    let newBuffer ← init screen.rows screen.cols screen.rows_pos screen.cols_pos 0x40 newMode
    let extendedCursor ← buffer.extendedCursor.convertAddressingMode newMode
    .ok {
      screen := { newBuffer.screen with
        buffer := screen.buffer
        attributes := screen.attributes
        extendedAttributes := screen.extendedAttributes
        fields := screen.fields
        cursorRow := extendedCursor.row
        cursorCol := extendedCursor.col }
      extendedCursor }
  else
    .error s!"Cannot convert to {modeValue} mode: buffer size {totalPositions} exceeds limits"

end ExtendedScreenBuffer

structure BufferObjects where
  sets : ObjectHeap ExtendedAttributeSet
  fields : ObjectHeap Field

/-- A buffer that refers to its attribute sets and its fields.  All else is its own. -/
structure HeldBuffer where
  own : ExtendedScreenBuffer
  sets : Nat × Nat → Option Nat
  fields : List Nat

namespace HeldBuffer

/-- The buffer with the objects that it refers to. -/
def view (objects : BufferObjects) (held : HeldBuffer) : ExtendedScreenBuffer :=
  held.own.onScreen fun screen =>
    { screen with
      extendedAttributes := fun position =>
        (held.sets position).map objects.sets.object
      fields := held.fields.map objects.fields.object }

/-- `convert_addressing_mode`: `copy()` of a dictionary or a list copies references. -/
def convertAddressingMode (newMode : AddressingMode) (held : HeldBuffer) :
    Except String HeldBuffer :=
  (held.own.convertAddressingMode newMode).map fun own =>
    { own, sets := held.sets, fields := held.fields }

def RefersToSet (held : HeldBuffer) (reference : Nat) : Prop :=
  ∃ position, held.sets position = some reference

def RefersToField (held : HeldBuffer) (reference : Nat) : Prop :=
  reference ∈ held.fields

/-- A write to a buffer. -/
inductive Write (objects : BufferObjects) (held : HeldBuffer) :
    BufferObjects → HeldBuffer → Prop
  /-- The buffer gets other containers, of objects it refers to and new ones. -/
  | renew {newObjects : BufferObjects} {newHeld : HeldBuffer}
      (moreSets : objects.sets.Extends newObjects.sets)
      (moreFields : objects.fields.Extends newObjects.fields)
      (sets : ∀ reference, newHeld.RefersToSet reference → held.RefersToSet reference ∨
        (¬ objects.sets.Holds reference ∧ newObjects.sets.Holds reference))
      (fields : ∀ reference, newHeld.RefersToField reference →
        held.RefersToField reference ∨
          (¬ objects.fields.Holds reference ∧ newObjects.fields.Holds reference)) :
      Write objects held newObjects newHeld
  /-- `set_extended_attribute_sfe` at a position that has an attribute set. -/
  | setAttribute {position : Nat × Nat} {reference : Nat}
      (found : held.sets position = some reference) (attrType : AttributeType)
      (value : UInt8) :
      Write objects held
        { objects with
          sets := objects.sets.store reference
            ((objects.sets.object reference).setAttribute attrType value.toNat) }
        held
  /-- `set_content` of a field, with what the text is encoded to. -/
  | setContent {reference : Nat} (found : reference ∈ held.fields)
      (content : List UInt8) :
      Write objects held
        { objects with
          fields := objects.fields.store reference
            { objects.fields.object reference with content, modified := true } }
        held

end HeldBuffer

/-- Two buffers and all the objects that there are. -/
structure BufferPair where
  objects : BufferObjects
  first : HeldBuffer
  second : HeldBuffer

namespace BufferPair

/-- A write to one of the two buffers. -/
inductive Step : BufferPair → BufferPair → Prop
  | first {pair : BufferPair} {objects : BufferObjects} {first : HeldBuffer}
      (write : pair.first.Write pair.objects objects first) :
      Step pair { pair with objects, first }
  | second {pair : BufferPair} {objects : BufferObjects} {second : HeldBuffer}
      (write : pair.second.Write pair.objects objects second) :
      Step pair { pair with objects, second }

/-- A write to one buffer does not change the other. -/
structure Undisturbed (pair : BufferPair) : Prop where
  byFirst : ∀ objects first, pair.first.Write pair.objects objects first →
    pair.second.view objects = pair.second.view pair.objects
  bySecond : ∀ objects second, pair.second.Write pair.objects objects second →
    pair.first.view objects = pair.first.view pair.objects

/-- Whatever is written to the two buffers, no write to one changes the other. -/
def Independent (pair : BufferPair) : Prop :=
  ∀ reached, Relation.ReflTransGen Step pair reached → reached.Undisturbed

/-- The buffers share neither a set nor a field. -/
structure Apart (pair : BufferPair) : Prop where
  sets : pair.objects.sets.Apart pair.first.RefersToSet pair.second.RefersToSet
  fields : pair.objects.fields.Apart pair.first.RefersToField pair.second.RefersToField

end BufferPair

namespace HeldBuffer

variable {objects newObjects : BufferObjects} {held newHeld : HeldBuffer}

theorem Write.sets (write : held.Write objects newObjects newHeld) :
    ObjectHeap.HolderStep held.RefersToSet newHeld.RefersToSet objects.sets
      newObjects.sets := by
  cases write with
  | renew moreSets _ sets _ => exact moreSets.holderStep sets
  | setAttribute found attrType value =>
      exact ObjectHeap.HolderStep.store ⟨_, found⟩ _ objects.sets
  | setContent found content => exact ObjectHeap.HolderStep.refl objects.sets

theorem Write.fields (write : held.Write objects newObjects newHeld) :
    ObjectHeap.HolderStep held.RefersToField newHeld.RefersToField objects.fields
      newObjects.fields := by
  cases write with
  | renew _ moreFields _ fields => exact moreFields.holderStep fields
  | setAttribute found attrType value =>
      exact ObjectHeap.HolderStep.refl objects.fields
  | setContent found content => exact ObjectHeap.HolderStep.store found _ objects.fields

/-- A buffer looks the same as long as the objects it refers to are the same. -/
theorem view_congr
    (sets : ∀ reference, held.RefersToSet reference →
      newObjects.sets.object reference = objects.sets.object reference)
    (fields : ∀ reference, held.RefersToField reference →
      newObjects.fields.object reference = objects.fields.object reference) :
    held.view newObjects = held.view objects := by
  have sameSets : (fun position => (held.sets position).map newObjects.sets.object) =
      fun position => (held.sets position).map objects.sets.object := by
    funext position
    cases found : held.sets position with
    | none => rfl
    | some reference => exact congrArg some (sets reference ⟨position, found⟩)
  have sameFields : held.fields.map newObjects.fields.object =
      held.fields.map objects.fields.object :=
    List.map_congr_left fields
  unfold view
  rw [sameSets, sameFields]

end HeldBuffer

namespace BufferPair

variable {pair reached : BufferPair}

theorem Apart.undisturbed (apart : pair.Apart) : pair.Undisturbed where
  byFirst _ _ write :=
    HeldBuffer.view_congr (fun _ held => apart.sets.unchanged write.sets held)
      fun _ held => apart.fields.unchanged write.fields held
  bySecond _ _ write :=
    HeldBuffer.view_congr (fun _ held => apart.sets.symm.unchanged write.sets held)
      fun _ held => apart.fields.symm.unchanged write.fields held

theorem Apart.step (apart : pair.Apart) (step : Step pair reached) : reached.Apart := by
  cases step with
  | first write => exact ⟨apart.sets.step write.sets, apart.fields.step write.fields⟩
  | second write =>
      exact ⟨(apart.sets.symm.step write.sets).symm,
        (apart.fields.symm.step write.fields).symm⟩

/-- Buffers that share nothing stay independent of each other. -/
theorem Apart.independent (apart : pair.Apart) : pair.Independent := by
  intro reached writes
  have still : reached.Apart := by
    induction writes with
    | refl => exact apart
    | tail _ step ih => exact ih.step step
  exact still.undisturbed

/-- A set that both refer to is changed for both. -/
theorem not_independent_of_set {position other : Nat × Nat} {reference : Nat}
    (first : pair.first.sets position = some reference)
    (second : pair.second.sets other = some reference) : ¬ pair.Independent := by
  intro independent
  let value : UInt8 :=
    if (pair.objects.sets.object reference).get .color = some 0 then 1 else 0
  have differs : (pair.objects.sets.object reference).get .color ≠ some value.toNat := by
    by_cases zero : (pair.objects.sets.object reference).get .color = some 0
    · simp [value, zero]
    · simp [value, zero]
  have same := (independent pair .refl).byFirst _ _ (.setAttribute first .color value)
  have sameSet := congrArg (·.screen.extendedAttributes other) same
  simp only [HeldBuffer.view, ExtendedScreenBuffer.onScreen, second, Option.map_some,
    ObjectHeap.object_store, Option.some.injEq] at sameSet
  apply differs
  rw [← sameSet]
  simp [ExtendedAttributeSet.get, ExtendedAttributeSet.setAttribute]

/-- A field that both refer to is changed for both. -/
theorem not_independent_of_field {reference : Nat} (first : reference ∈ pair.first.fields)
    (second : reference ∈ pair.second.fields) : ¬ pair.Independent := by
  intro independent
  let content : List UInt8 :=
    if (pair.objects.fields.object reference).content = [] then [0x40] else []
  have differs : (pair.objects.fields.object reference).content ≠ content := by
    by_cases empty : (pair.objects.fields.object reference).content = []
    · simp [content, empty]
    · simp [content, empty]
  have same := (independent pair .refl).byFirst _ _ (.setContent first content)
  have sameFields := congrArg (·.screen.fields) same
  have sameField := List.map_inj_left.mp sameFields reference second
  simp only [ObjectHeap.object_store] at sameField
  exact differs (by rw [← sameField])

end BufferPair

namespace ExtendedScreenBuffer

variable {pages : Ebcdic.Codepages} {newMode : AddressingMode}
  {buffer converted back : ExtendedScreenBuffer}

/-- The buffer that a conversion makes: a new one with the copied attributes. -/
def copied (buffer : ExtendedScreenBuffer) (cursor : ExtendedPosition) :
    ExtendedScreenBuffer where
  screen := (ScreenObject.converted cursor buffer.screen).screen
  extendedCursor := cursor

/-- A conversion to a mode that can name all cells fails only for the cursor. -/
theorem convertAddressingMode_eq (fits : buffer.screen.size ≤ getMaxPositions newMode) :
    buffer.convertAddressingMode newMode =
      (buffer.extendedCursor.convertAddressingMode newMode).map buffer.copied := by
  have positive : 0 < buffer.screen.rows * buffer.screen.cols :=
    Nat.mul_pos buffer.screen.rows_pos buffer.screen.cols_pos
  have last : validateAddress (buffer.screen.rows * buffer.screen.cols - 1) newMode = true :=
    validateAddress_iff.mpr (Nat.lt_of_lt_of_le (Nat.sub_lt positive Nat.one_pos) fits)
  have origin : validateAddress ((0 : Int).toNat * buffer.screen.cols + (0 : Int).toNat)
      newMode = true := by
    rw [validateAddress_iff, Int.toNat_zero, Nat.zero_mul]
    exact Nat.lt_of_lt_of_le positive fits
  unfold convertAddressingMode init ExtendedPosition.init
  dsimp only
  rw [if_pos last, if_pos last, if_neg (by decide), dif_pos origin]
  cases buffer.extendedCursor.convertAddressingMode newMode <;> rfl

/-- Two buffers with the same contents, size, cursors, code page and attribute sets, the
same texts, and the same fields before and after a field detection. -/
structure LooksLike (pages : Ebcdic.Codepages) (buffer other : ExtendedScreenBuffer) : Prop where
  rows : buffer.screen.rows = other.screen.rows
  cols : buffer.screen.cols = other.screen.cols
  codepage : buffer.screen.codepage = other.screen.codepage
  sets : buffer.screen.extendedAttributes = other.screen.extendedAttributes
  cursor : buffer.extendedCursor.coordinates = other.extendedCursor.coordinates
  screen : Snapshot.observe pages buffer.screen = Snapshot.observe pages other.screen

theorem LooksLike.trans {other third : ExtendedScreenBuffer}
    (first : buffer.LooksLike pages other) (second : other.LooksLike pages third) :
    buffer.LooksLike pages third where
  rows := first.rows.trans second.rows
  cols := first.cols.trans second.cols
  codepage := first.codepage.trans second.codepage
  sets := first.sets.trans second.sets
  cursor := first.cursor.trans second.cursor
  screen := first.screen.trans second.screen

/-- A buffer that has nothing of what a conversion loses or shares: it is in EBCDIC mode
under the code page of a new buffer, both cursors are one, and it has no field starts, no
attribute sets and no fields. -/
structure Plain (buffer : ExtendedScreenBuffer) : Prop where
  ebcdic : buffer.screen.asciiMode = false
  codepage : buffer.screen.codepage = "cp037"
  cursor : buffer.extendedCursor.coordinates = buffer.screen.getPosition
  starts : buffer.screen.fieldStarts = SortedSet.empty
  sets : ∀ position, buffer.screen.extendedAttributes position = none
  fields : buffer.screen.fields = []

end ExtendedScreenBuffer

namespace ExtendedPosition

variable {newMode : AddressingMode} {position converted : ExtendedPosition}

theorem convertAddressingMode_ok
    (made : position.convertAddressingMode newMode = .ok converted) :
    converted.coordinates = position.coordinates ∧ converted.cols = position.cols ∧
      converted.addressingMode = newMode := by
  unfold convertAddressingMode at made
  dsimp only at made
  split at made
  · cases made
    exact ⟨rfl, rfl, rfl⟩
  · cases made

theorem convertAddressingMode_of_lt
    (named : position.row * position.cols + position.col < getMaxPositions newMode) :
    ∃ converted, position.convertAddressingMode newMode = .ok converted := by
  unfold convertAddressingMode
  dsimp only
  rw [dif_pos (validateAddress_iff.mpr named)]
  exact ⟨_, rfl⟩

end ExtendedPosition

namespace ScreenBuffer

theorem detectedFields_eq_nil {screen : ScreenBuffer}
    (starts : ∀ start ∈ screen.fieldStarts, start < screen.size) :
    screen.detectFields.fields = [] ↔ screen.fieldStarts = SortedSet.empty := by
  have ranged := detectFields_spans starts
  constructor
  · intro none
    have noSpans : screen.detectFields.spans = [] :=
      congrArg (List.map (Field.span screen.cols)) none
    have noStarts := map_fst_ranges (screen.size - 1) screen.fieldStarts.toList
    rw [← ranged, noSpans] at noStarts
    exact SortedSet.eq_empty_iff.mpr noStarts.symm
  · intro empty
    show screen.detectedFields = []
    unfold detectedFields
    rw [empty]
    rfl

end ScreenBuffer

namespace ExtendedScreenBuffer

variable {pages : Ebcdic.Codepages} {newMode : AddressingMode}
  {buffer : ExtendedScreenBuffer}

theorem WellFormed.copied (formed : buffer.WellFormed)
    (fits : buffer.screen.size ≤ getMaxPositions newMode) {cursor : ExtendedPosition}
    (made : buffer.extendedCursor.convertAddressingMode newMode = .ok cursor)
    (synced : buffer.extendedCursor.coordinates = buffer.screen.getPosition) :
    (buffer.copied cursor).WellFormed := by
  obtain ⟨coordinates, cols, mode⟩ := ExtendedPosition.convertAddressingMode_ok made
  obtain ⟨row, col⟩ := Prod.mk.inj (coordinates.trans synced)
  have valid := formed.valid
  refine ⟨⟨valid.buffer_length, valid.attributes_length, ?_, ?_, ?_, valid.fields_inBounds,
    ?_, ?_, ?_⟩, cols.trans formed.cols, ?_⟩
  · exact lt_of_eq_of_lt row valid.cursorRow_lt
  · exact lt_of_eq_of_lt col valid.cursorCol_lt
  · intro start member
    exact absurd member (SortedSet.not_mem_empty start)
  · intro pos field cached
    cases cached
  · intro field member
    cases member
  · intro position member
    cases member
  · exact le_of_le_of_eq fits (congrArg getMaxPositions mode.symm)

theorem Plain.copied (plain : buffer.Plain) {cursor : ExtendedPosition}
    (same : cursor.coordinates = buffer.extendedCursor.coordinates) :
    (buffer.copied cursor).Plain ∧ (buffer.copied cursor).LooksLike pages buffer := by
  obtain ⟨row, col⟩ := Prod.mk.inj (same.trans plain.cursor)
  refine ⟨⟨rfl, rfl, rfl, rfl, plain.sets, plain.fields⟩,
    rfl, rfl, plain.codepage.symm, rfl, same, ?_⟩
  have screen : buffer.screen = { (buffer.copied cursor).screen with
      lightPenSelectedPosition := buffer.screen.lightPenSelectedPosition
      suspendFieldDetection := buffer.screen.suspendFieldDetection
      asciiFields := buffer.screen.asciiFields
      fieldPositionCache := buffer.screen.fieldPositionCache
      inputFieldsCache := buffer.screen.inputFieldsCache
      navigationCacheValid := buffer.screen.navigationCacheValid
      keyboardLocked := buffer.screen.keyboardLocked } := by
    have mode := plain.ebcdic
    have codepage := plain.codepage
    have starts := plain.starts
    unfold ExtendedScreenBuffer.copied ScreenObject.converted ScreenBuffer.init
    dsimp only
    cases cells : buffer.screen
    rw [cells] at mode codepage starts row col
    dsimp only at mode codepage starts row col
    simp only [ScreenBuffer.mk.injEq, true_and, and_true]
    exact ⟨codepage, mode, row.symm, col.symm, starts⟩
  rw [screen]
  rfl

theorem Plain.converts (plain : buffer.Plain) (formed : buffer.WellFormed)
    (fits : buffer.screen.size ≤ getMaxPositions newMode) :
    ∃ cursor, buffer.extendedCursor.convertAddressingMode newMode = .ok cursor := by
  obtain ⟨row, col⟩ := Prod.mk.inj plain.cursor
  have inside := formed.valid.cursorAddress_lt
  refine ExtendedPosition.convertAddressingMode_of_lt (Nat.lt_of_lt_of_le ?_ fits)
  rw [formed.cols, row, col]
  exact inside

end ExtendedScreenBuffer

namespace HeldBuffer

variable {pages : Ebcdic.Codepages} {newMode : AddressingMode} {objects : BufferObjects}
  {held converted : HeldBuffer}

theorem convertAddressingMode_ok_iff
    (fits : held.own.screen.size ≤ getMaxPositions newMode) :
    held.convertAddressingMode newMode = .ok converted ↔
      ∃ cursor, held.own.extendedCursor.convertAddressingMode newMode = .ok cursor ∧
        converted = { held with own := held.own.copied cursor } := by
  unfold convertAddressingMode
  rw [ExtendedScreenBuffer.convertAddressingMode_eq fits]
  cases held.own.extendedCursor.convertAddressingMode newMode with
  | error message =>
      refine iff_of_false (fun made => by cases made) ?_
      rintro ⟨cursor, made, _⟩
      cases made
  | ok cursor =>
      constructor
      · intro made
        cases made
        exact ⟨cursor, rfl, rfl⟩
      · rintro ⟨other, made, rfl⟩
        cases made
        rfl

/-- The conversion succeeds with a buffer that looks the same and is independent of the
original, and so does the conversion back. -/
def Preserves (pages : Ebcdic.Codepages) (newMode : AddressingMode) (objects : BufferObjects)
    (held : HeldBuffer) : Prop :=
  ∃ converted, held.convertAddressingMode newMode = .ok converted ∧
    (converted.view objects).addressingMode = newMode ∧
    (converted.view objects).LooksLike pages (held.view objects) ∧
    BufferPair.Independent { objects, first := held, second := converted } ∧
    ∃ back, converted.convertAddressingMode (held.view objects).addressingMode = .ok back ∧
      (back.view objects).addressingMode = (held.view objects).addressingMode ∧
      (back.view objects).LooksLike pages (held.view objects)

/-- What was converted without a loss is plain. -/
theorem plain_of_preserves (valid : (held.view objects).screen.Valid)
    (fits : (held.view objects).screen.size ≤ getMaxPositions newMode)
    (preserves : held.Preserves pages newMode objects) : (held.view objects).Plain := by
  obtain ⟨converted, made, _, looks, independent, _⟩ := preserves
  obtain ⟨cursor, moved, rfl⟩ := (convertAddressingMode_ok_iff fits).mp made
  obtain ⟨coordinates, _, _⟩ := ExtendedPosition.convertAddressingMode_ok moved
  have redetected := congrArg Snapshot.Observation.redetected looks.screen
  constructor
  · exact (congrArg Snapshot.Observation.asciiMode looks.screen).symm
  · exact looks.codepage.symm
  · exact coordinates.symm.trans (congrArg Snapshot.Observation.cursor looks.screen)
  · refine (ScreenBuffer.detectedFields_eq_nil valid.starts_lt).mp (redetected.symm.trans ?_)
    refine (ScreenBuffer.detectedFields_eq_nil ?_).mpr rfl
    exact fun start member => absurd member (SortedSet.not_mem_empty start)
  · intro position
    cases found : held.sets position with
    | none =>
        show (held.sets position).map _ = none
        rw [found]
        rfl
    | some reference =>
        exact absurd independent (BufferPair.not_independent_of_set found found)
  · show held.fields.map _ = []
    cases found : held.fields with
    | nil => rfl
    | cons reference rest =>
        have member : reference ∈ held.fields := found ▸ List.mem_cons_self
        exact absurd independent (BufferPair.not_independent_of_field member member)

/-- A plain buffer refers to nothing that a conversion could share. -/
theorem apart_of_plain (plain : (held.view objects).Plain) (own : ExtendedScreenBuffer) :
    BufferPair.Apart { objects, first := held, second := { held with own } } := by
  have noSet : ∀ reference, ¬ held.RefersToSet reference := by
    rintro reference ⟨position, found⟩
    have none : (held.sets position).map objects.sets.object = none := plain.sets position
    rw [found] at none
    cases none
  have noField : ∀ reference, ¬ held.RefersToField reference := by
    intro reference member
    have none : held.fields.map objects.fields.object = [] := plain.fields
    have listed : reference ∈ held.fields := member
    rw [List.map_eq_nil_iff.mp none] at listed
    cases listed
  exact ⟨⟨fun _ refers => absurd refers (noSet _), fun _ refers => absurd refers (noSet _),
      fun _ refers => absurd refers (noSet _)⟩,
    fun _ refers => absurd refers (noField _), fun _ refers => absurd refers (noField _),
      fun _ refers => absurd refers (noField _)⟩

/-- The conversion preserves exactly the buffers that have nothing to lose. -/
theorem preserves_iff (formed : (held.view objects).WellFormed)
    (fits : (held.view objects).screen.size ≤ getMaxPositions newMode) :
    held.Preserves pages newMode objects ↔ (held.view objects).Plain := by
  refine ⟨plain_of_preserves formed.valid fits, fun plain => ?_⟩
  obtain ⟨cursor, moved⟩ := plain.converts formed fits
  obtain ⟨coordinates, _, mode⟩ := ExtendedPosition.convertAddressingMode_ok moved
  have again : (held.view objects |>.copied cursor).Plain ∧
      (held.view objects |>.copied cursor).LooksLike pages (held.view objects) :=
    plain.copied coordinates
  obtain ⟨plainAgain, looks⟩ := again
  have formedAgain := formed.copied fits moved plain.cursor
  obtain ⟨cursorBack, movedBack⟩ := plainAgain.converts formedAgain formed.fits
  obtain ⟨coordinatesBack, _, modeBack⟩ :=
    ExtendedPosition.convertAddressingMode_ok movedBack
  let converted := { held with own := held.own.copied cursor }
  let back := { held with own := converted.own.copied cursorBack }
  have first : held.convertAddressingMode newMode = .ok converted :=
    (convertAddressingMode_ok_iff fits).mpr ⟨cursor, moved, rfl⟩
  have second : converted.convertAddressingMode (held.view objects).addressingMode = .ok back :=
    (@convertAddressingMode_ok_iff _ converted _ formed.fits).mpr ⟨cursorBack, movedBack, rfl⟩
  exact ⟨converted, first, mode, looks, (apart_of_plain plain _).independent,
    back, second, modeBack, (plainAgain.copied coordinatesBack).2.trans looks⟩

/-- A buffer with a character and a moved cursor. -/
theorem preserves_small :
    let screen := (DataStreamParser.smallParser 0 0).screen
    ∃ buffer field,
      ExtendedScreenBuffer.init 2 3 screen.rows_pos screen.cols_pos 0x40 .mode12Bit =
        .ok buffer ∧
      let written := (buffer.step (.writeChar 0xC1 none false false false)).step
        (.setPosition 1 2 false false)
      let objects : BufferObjects := {
        sets := ObjectHeap.single ExtendedAttributeSet.empty
        fields := ObjectHeap.single field }
      let held : HeldBuffer := { own := written, sets := fun _ => none, fields := [] }
      held.Preserves ScreenBuffer.cp037Pages .mode14Bit objects := by
  let screen := (DataStreamParser.smallParser 0 0).screen
  have formed := (@ExtendedScreenBuffer.init_wellFormed _ 2 3 screen.rows_pos
    screen.cols_pos 0x40 .mode12Bit rfl).1
  have moved := (formed.step (.writeChar 0xC1 none false false false)).step
    (.setPosition 1 2 false false)
  refine ⟨_, Field.init { start := (0, 0), finish := (0, 0) }, rfl, ?_⟩
  intro written objects held
  have noFields : written.screen.fields = [] := rfl
  have noSets : written.screen.extendedAttributes = fun _ => none := rfl
  have looked : held.view objects = written := by
    have same : written = written.onScreen fun screen =>
        { screen with fields := [], extendedAttributes := fun _ => none } := by
      rw [← noFields, ← noSets]
      rfl
    exact same.symm
  refine (preserves_iff ?_ ?_).mpr ?_
  · exact looked ▸ moved
  · decide +kernel
  · exact ⟨rfl, rfl, rfl, rfl, fun _ => rfl, rfl⟩

/-- After `set_attribute` the buffer has a field, and a conversion loses its start. -/
theorem not_preserves_attribute :
    let screen := (DataStreamParser.smallParser 0 0).screen
    ∃ buffer field,
      ExtendedScreenBuffer.init 2 3 screen.rows_pos screen.cols_pos 0x40 .mode12Bit =
        .ok buffer ∧
      let attributed := buffer.onScreen (·.setAttribute 0x60 none)
      let objects : BufferObjects := {
        sets := ObjectHeap.single ExtendedAttributeSet.empty
        fields := ObjectHeap.single field }
      let held : HeldBuffer := { own := attributed, sets := fun _ => none, fields := [0] }
      held.view objects = attributed ∧
        ¬ held.Preserves ScreenBuffer.cp037Pages .mode14Bit objects := by
  intro screen
  obtain ⟨buffer, made⟩ : ∃ buffer, ExtendedScreenBuffer.init 2 3 screen.rows_pos
      screen.cols_pos 0x40 .mode12Bit = .ok buffer := ⟨_, rfl⟩
  have formed := (ExtendedScreenBuffer.init_wellFormed made).1
  have valid := formed.valid.setAttribute 0x60 none
  cases made
  obtain ⟨field, detected⟩ : ∃ field, (screen.setAttribute 0x60 none).fields = [field] :=
    ⟨_, rfl⟩
  refine ⟨_, field, rfl, ?_⟩
  intro attributed objects held
  have looked : held.view objects = attributed := by
    have same : attributed = attributed.onScreen fun screen =>
        { screen with fields := [field] } := by rw [← detected]; rfl
    exact same.symm
  refine ⟨looked, fun preserves => ?_⟩
  have fits : attributed.screen.size ≤ getMaxPositions .mode14Bit := by decide +kernel
  have plain := plain_of_preserves (by rwa [looked]) (by rwa [looked]) preserves
  rw [looked] at plain
  have starts : attributed.screen.fieldStarts = SortedSet.empty := plain.starts
  revert starts
  decide +kernel

end HeldBuffer

end Pure3270
