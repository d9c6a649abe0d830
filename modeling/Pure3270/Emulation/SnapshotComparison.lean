import Pure3270.Emulation.RestoredScreens
import Pure3270.Foundations.Ledger

/-!
# Comparing snapshots

A comparison lists the parts in which two snapshots differ, one after another.  The
first of them holds the time of the snapshot beside the size and the mode of the screen,
and the last holds of each field what its dictionary holds.
-/

namespace Pure3270

open Foundations

deriving instance DecidableEq for FieldDict

instance : DecidableEq (AttributeType → Option Nat) := fun first second =>
  decidable_of_iff (∀ attrType ∈ AttributeType.all, first attrType = second attrType)
    ⟨fun same => funext fun attrType => same attrType (AttributeType.mem_all attrType),
      fun same attrType _ => congrFun same attrType⟩

/-- `ScreenSnapshot` with all of its metadata. -/
structure StampedSnapshot where
  version : String
  timestamp : String
  content : Snapshot

/-- `ScreenSnapshot.__init__` at the time that `utcnow_iso_z` gives. -/
def StampedSnapshot.init (timestamp : String) (keys : List (Nat × Nat))
    (screen : ScreenBuffer) : Option StampedSnapshot := do
  let content ← Snapshot.init keys screen
  some { version := "1.0", timestamp, content }

/-- The keys of `differences`. -/
inductive Difference where
  | metadata
  | buffer
  | attributes
  | cursor
  | extendedAttributes
  | fieldsCount
  | fields (indices : List Nat)
  deriving DecidableEq, Repr

structure SnapshotComparison where
  isIdentical : Bool
  differences : List Difference

namespace SnapshotComparison

/-- The `metadata` dictionary. -/
def metadata (snapshot : StampedSnapshot) : String × String × Bool × Nat × Nat :=
  (snapshot.version, snapshot.timestamp, snapshot.content.asciiMode, snapshot.content.rows,
    snapshot.content.cols)

def cursor (snapshot : StampedSnapshot) : Nat × Nat :=
  (snapshot.content.cursorRow, snapshot.content.cursorCol)

/-- The places where two lists of fields differ. -/
def differingFields (first second : List FieldDict) : List Nat :=
  ((first.zip second).zipIdx.filter fun entry => entry.1.1 ≠ entry.1.2).map Prod.snd

/-- A difference is entered where the parts are not the same. -/
def noted (same : Bool) (difference : Difference) : List Difference :=
  if same then [] else [difference]

/-- The comparison of the fields. -/
def notedFields (first second : List FieldDict) : List Difference :=
  if first.length ≠ second.length then [.fieldsCount]
  else noted (differingFields first second = []) (.fields (differingFields first second))

def differencesOf (first second : StampedSnapshot) : List Difference :=
  noted (metadata first = metadata second) .metadata ++
    noted (first.content.buffer = second.content.buffer) .buffer ++
    noted (first.content.attributes = second.content.attributes) .attributes ++
    noted (cursor first = cursor second) .cursor ++
    noted (sameEntries first.content.extendedAttributes second.content.extendedAttributes)
      .extendedAttributes ++
    notedFields first.content.fields second.content.fields

/-- `compare_snapshots`.  The flag falls wherever a difference is entered. -/
def compareSnapshots (first second : StampedSnapshot) : SnapshotComparison where
  isIdentical := differencesOf first second = []
  differences := differencesOf first second

theorem noted_eq_nil {same : Bool} {difference : Difference} :
    noted same difference = [] ↔ same = true := by
  cases same with
  | true => exact ⟨fun _ => rfl, fun _ => rfl⟩
  | false =>
      constructor
      · intro empty
        cases empty
      · intro same
        cases same

theorem differingFields_eq_nil {first second : List FieldDict}
    (lengths : first.length = second.length) :
    differingFields first second = [] ↔ first = second := by
  unfold differingFields
  rw [List.map_eq_nil_iff, List.filter_eq_nil_iff]
  constructor
  · intro none
    refine List.ext_getElem lengths fun index inFirst inSecond => ?_
    have inside : index < (first.zip second).length := by
      rw [List.length_zip, ← lengths, Nat.min_self]
      exact inFirst
    have same := none ((first.zip second)[index], index)
      (List.mk_mem_zipIdx_iff_getElem?.mpr (List.getElem?_eq_getElem inside))
    rw [List.getElem_zip, decide_eq_true_eq, not_not] at same
    exact same
  · rintro rfl entry member
    obtain ⟨pair, index⟩ := entry
    have found := List.mk_mem_zipIdx_iff_getElem?.mp member
    obtain ⟨left, right⟩ := pair
    obtain ⟨one, two⟩ := List.getElem?_zip_eq_some.mp found
    rw [decide_eq_true_eq, not_not]
    exact Option.some.inj (one.symm.trans two)

theorem notedFields_eq_nil {first second : List FieldDict} :
    notedFields first second = [] ↔ first = second := by
  unfold notedFields
  split
  · rename_i lengths
    constructor
    · intro empty
      cases empty
    · rintro rfl
      exact absurd rfl lengths
  · rename_i lengths
    rw [noted_eq_nil, decide_eq_true_eq]
    exact differingFields_eq_nil (not_not.mp lengths)

theorem isIdentical_iff {first second : StampedSnapshot} :
    (compareSnapshots first second).isIdentical = true ↔
      metadata first = metadata second ∧
        first.content.buffer = second.content.buffer ∧
        first.content.attributes = second.content.attributes ∧
        cursor first = cursor second ∧
        sameEntries first.content.extendedAttributes second.content.extendedAttributes = true ∧
        first.content.fields = second.content.fields := by
  show decide (differencesOf first second = []) = true ↔ _
  unfold differencesOf
  simp only [decide_eq_true_eq, List.append_eq_nil_iff, noted_eq_nil, notedFields_eq_nil,
    and_assoc]

end SnapshotComparison

/-- Two screens of the same size, mode, contents, cursor, attributes and fields. -/
structure EqualScreens (first second : ScreenBuffer) : Prop where
  rows : first.rows = second.rows
  cols : first.cols = second.cols
  asciiMode : first.asciiMode = second.asciiMode
  buffer : first.buffer = second.buffer
  attributes : first.attributes = second.attributes
  cursor : first.getPosition = second.getPosition
  extendedAttributes : first.extendedAttributes = second.extendedAttributes
  fields : first.fields = second.fields

/-- The same with the fields as their dictionaries have them. -/
structure EqualRecords (first second : ScreenBuffer) : Prop where
  rows : first.rows = second.rows
  cols : first.cols = second.cols
  asciiMode : first.asciiMode = second.asciiMode
  buffer : first.buffer = second.buffer
  attributes : first.attributes = second.attributes
  cursor : first.getPosition = second.getPosition
  extendedAttributes : first.extendedAttributes = second.extendedAttributes
  fields : first.fields.map FieldDict.ofField = second.fields.map FieldDict.ofField

/-- What the dictionary of a field leaves out. -/
def Field.unrecorded (field : Field) : Bool × Bool × Nat × String :=
  (field.bypass, field.hidden, field.lightPen, field.codepage)

/-- No attribute set holds a raw value. -/
def ScreenBuffer.Serialisable (screen : ScreenBuffer) : Prop :=
  ∀ key set, screen.extendedAttributes key = some set → set.allWrapped = true

theorem Field.eq_iff {first second : Field} :
    first = second ↔ FieldDict.ofField first = FieldDict.ofField second ∧
      first.unrecorded = second.unrecorded := by
  constructor
  · rintro rfl
    exact ⟨rfl, rfl⟩
  · rintro ⟨recorded, unrecorded⟩
    obtain ⟨⟨⟩, _⟩ := first
    obtain ⟨⟨⟩, _⟩ := second
    unfold FieldDict.ofField at recorded
    unfold Field.unrecorded at unrecorded
    simp only [FieldDict.mk.injEq, Base64.encode_injective.eq_iff] at recorded
    simp only [Prod.mk.injEq] at unrecorded
    simp only [Field.mk.injEq, FieldParams.mk.injEq]
    tauto

theorem fields_eq_iff {first second : List Field} :
    first = second ↔ first.map FieldDict.ofField = second.map FieldDict.ofField ∧
      first.map Field.unrecorded = second.map Field.unrecorded := by
  induction first generalizing second with
  | nil => cases second <;> simp
  | cons field first ih =>
      cases second with
      | nil => simp
      | cons other second =>
          simp only [List.map_cons, List.cons.injEq, @Field.eq_iff field other, ih]
          tauto

theorem equalScreens_iff {first second : ScreenBuffer} :
    EqualScreens first second ↔ EqualRecords first second ∧
      first.fields.map Field.unrecorded = second.fields.map Field.unrecorded := by
  constructor
  · intro same
    obtain ⟨recorded, unrecorded⟩ := fields_eq_iff.mp same.fields
    exact ⟨{ same with fields := recorded }, unrecorded⟩
  · rintro ⟨same, unrecorded⟩
    exact { same with fields := fields_eq_iff.mpr ⟨same.fields, unrecorded⟩ }

/-- The dictionaries of the attribute sets. -/
def ScreenBuffer.attributeTable (screen : ScreenBuffer) (key : Nat × Nat) :
    Option (AttributeType → Option Nat) :=
  (screen.extendedAttributes key).map fun set attrType => set.get attrType

/-- A set is given by its values. -/
theorem ExtendedAttributeSet.eq_of_get {first second : ExtendedAttributeSet}
    (same : ∀ attrType, first.get attrType = second.get attrType) : first = second := by
  refine ExtendedAttributeSet.ext fun attrType => ?_
  have value := same attrType
  unfold ExtendedAttributeSet.get at value
  cases one : first.attributes attrType with
  | none =>
      rw [one] at value
      exact (Option.map_eq_none_iff.mp value.symm).symm
  | some stored =>
      rw [one] at value
      obtain ⟨other, two, values⟩ := Option.map_eq_some_iff.mp value.symm
      rw [two, first.wrapped one, second.wrapped two, values]

theorem attributeTable_eq_iff {first second : ScreenBuffer} :
    first.attributeTable = second.attributeTable ↔
      first.extendedAttributes = second.extendedAttributes := by
  constructor
  · intro same
    funext key
    have here := congrFun same key
    unfold ScreenBuffer.attributeTable at here
    refine Option.map_injective (fun one two values => ?_) here
    exact ExtendedAttributeSet.eq_of_get fun attrType => congrFun values attrType
  · intro same
    unfold ScreenBuffer.attributeTable
    rw [same]

theorem positionText_injective : Function.Injective Snapshot.positionText := by
  intro first second same
  have read := congrArg Snapshot.readPosition same
  rw [Snapshot.readPosition_positionText, Snapshot.readPosition_positionText] at read
  exact Option.some.inj read

theorem represents_attributeTable {keys : List (Nat × Nat)} {screen : ScreenBuffer}
    (distinct : keys.Nodup) (enumerates : Snapshot.Enumerates keys screen) :
    Represents screen.attributeTable
      (keys.map fun key => (key, Snapshot.dictOf key screen)) where
  distinct := by
    rw [List.map_map]
    exact (List.map_id keys).symm ▸ distinct
  entry key value := by
    unfold ScreenBuffer.attributeTable
    rw [List.mem_map]
    constructor
    · intro found
      obtain ⟨set, here, rfl⟩ := Option.map_eq_some_iff.mp found
      refine ⟨key, (enumerates key).mpr (by rw [here]; rfl), ?_⟩
      unfold Snapshot.dictOf
      rw [here]
      rfl
    · rintro ⟨_, member, same⟩
      cases same
      obtain ⟨set, here⟩ := Option.isSome_iff_exists.mp ((enumerates key).mp member)
      unfold Snapshot.dictOf
      rw [here]
      rfl

/-- The snapshot of a screen without raw values. -/
theorem stampedSnapshot_init {keys : List (Nat × Nat)} {screen : ScreenBuffer}
    (enumerates : Snapshot.Enumerates keys screen) (objects : screen.Serialisable)
    (timestamp : String) :
    StampedSnapshot.init timestamp keys screen = some {
      version := "1.0"
      timestamp
      content := {
        asciiMode := screen.asciiMode
        rows := screen.rows
        cols := screen.cols
        buffer := Base64.encode screen.buffer
        attributes := Base64.encode screen.attributes
        cursorRow := screen.cursorRow
        cursorCol := screen.cursorCol
        extendedAttributes := (keys.map fun key => (key, Snapshot.dictOf key screen)).map
          fun entry => (Snapshot.positionText entry.1, entry.2)
        fields := screen.fields.map FieldDict.ofField } } := by
  unfold StampedSnapshot.init Snapshot.init
  rw [Snapshot.mapM_dicts enumerates objects]
  rfl

theorem serialisable_of_init {keys : List (Nat × Nat)} {screen : ScreenBuffer}
    (enumerates : Snapshot.Enumerates keys screen) {timestamp : String}
    {snapshot : StampedSnapshot}
    (taken : StampedSnapshot.init timestamp keys screen = some snapshot) :
    screen.Serialisable := by
  intro key set found
  by_contra raw
  have listed : key ∈ keys := (enumerates key).mpr (by rw [found]; rfl)
  have raises := Snapshot.init_raw listed found (Bool.eq_false_iff.mpr raw)
  unfold StampedSnapshot.init at taken
  rw [raises] at taken
  cases taken

section Reported

variable {first second : ScreenBuffer} {firstKeys secondKeys : List (Nat × Nat)}

theorem isIdentical_iff_equalRecords (firstDistinct : firstKeys.Nodup)
    (secondDistinct : secondKeys.Nodup)
    (firstKeyed : Snapshot.Enumerates firstKeys first)
    (secondKeyed : Snapshot.Enumerates secondKeys second)
    (firstObjects : first.Serialisable) (secondObjects : second.Serialisable)
    {firstTime secondTime : String} {one two : StampedSnapshot}
    (firstTaken : StampedSnapshot.init firstTime firstKeys first = some one)
    (secondTaken : StampedSnapshot.init secondTime secondKeys second = some two) :
    (SnapshotComparison.compareSnapshots one two).isIdentical = true ↔
      firstTime = secondTime ∧ EqualRecords first second := by
  rw [stampedSnapshot_init firstKeyed firstObjects] at firstTaken
  rw [stampedSnapshot_init secondKeyed secondObjects] at secondTaken
  cases firstTaken
  cases secondTaken
  rw [SnapshotComparison.isIdentical_iff]
  unfold SnapshotComparison.metadata SnapshotComparison.cursor
  simp only [Prod.mk.injEq, true_and, Base64.encode_injective.eq_iff,
    sameEntries_map positionText_injective,
    sameEntries_iff (represents_attributeTable firstDistinct firstKeyed)
      (represents_attributeTable secondDistinct secondKeyed),
    attributeTable_eq_iff]
  constructor
  · rintro ⟨⟨time, mode, rows, cols⟩, buffer, attributes, cursor, sets, fields⟩
    exact ⟨time, rows, cols, mode, buffer, attributes, Prod.ext cursor.1 cursor.2, sets, fields⟩
  · rintro ⟨time, same⟩
    obtain ⟨row, col⟩ := Prod.mk.inj same.cursor
    exact ⟨⟨time, same.asciiMode, same.rows, same.cols⟩, same.buffer, same.attributes,
      ⟨row, col⟩, same.extendedAttributes, same.fields⟩

/-- The comparison decides whether two screens are the same exactly where snapshots of
both can be taken, the same screens have the same time, and screens with the same time and
the same record have fields that do not differ in what is not recorded. -/
theorem compareSnapshots_iff (firstDistinct : firstKeys.Nodup)
    (secondDistinct : secondKeys.Nodup)
    (firstKeyed : Snapshot.Enumerates firstKeys first)
    (secondKeyed : Snapshot.Enumerates secondKeys second) (firstTime secondTime : String) :
    (∃ one two, StampedSnapshot.init firstTime firstKeys first = some one ∧
      StampedSnapshot.init secondTime secondKeys second = some two ∧
      ((SnapshotComparison.compareSnapshots one two).isIdentical = true ↔
        EqualScreens first second)) ↔
    (first.Serialisable ∧ second.Serialisable) ∧
      (EqualScreens first second → firstTime = secondTime) ∧
      (firstTime = secondTime → EqualRecords first second →
        first.fields.map Field.unrecorded = second.fields.map Field.unrecorded) := by
  constructor
  · rintro ⟨one, two, firstTaken, secondTaken, decides⟩
    have firstObjects := serialisable_of_init firstKeyed firstTaken
    have secondObjects := serialisable_of_init secondKeyed secondTaken
    have record := isIdentical_iff_equalRecords firstDistinct secondDistinct firstKeyed
      secondKeyed firstObjects secondObjects firstTaken secondTaken
    rw [record] at decides
    exact ⟨⟨firstObjects, secondObjects⟩, fun same => (decides.mpr same).1,
      fun time same => (equalScreens_iff.mp (decides.mp ⟨time, same⟩)).2⟩
  · rintro ⟨⟨firstObjects, secondObjects⟩, timed, recorded⟩
    have firstTaken := stampedSnapshot_init firstKeyed firstObjects firstTime
    have secondTaken := stampedSnapshot_init secondKeyed secondObjects secondTime
    refine ⟨_, _, firstTaken, secondTaken, ?_⟩
    rw [isIdentical_iff_equalRecords firstDistinct secondDistinct firstKeyed secondKeyed
      firstObjects secondObjects firstTaken secondTaken]
    constructor
    · rintro ⟨time, same⟩
      exact equalScreens_iff.mpr ⟨same, recorded time same⟩
    · intro same
      exact ⟨timed same, (equalScreens_iff.mp same).1⟩

end Reported

/-- A protected field. -/
def ScreenBuffer.formatted : ScreenBuffer :=
  (DataStreamParser.smallParser 0 0).screen.setAttribute 0x60 none

/-- The field with a red character. -/
def ScreenBuffer.colored : ScreenBuffer :=
  ScreenBuffer.formatted.setExtendedAttributeSfe 0x42 0xF2 (some (0, 1))

theorem enumerates_formatted : Snapshot.Enumerates [] ScreenBuffer.formatted := by
  intro key
  constructor
  · intro listed
    cases listed
  · intro set
    cases set

theorem enumerates_colored : Snapshot.Enumerates [(0, 1)] ScreenBuffer.colored := by
  intro key
  have held : (ScreenBuffer.colored.extendedAttributes key).isSome =
      decide (key = (0, 1)) := by
    change (if key = (0, 1) then some _ else none).isSome = decide (key = (0, 1))
    split <;> simp_all
  rw [held, List.mem_singleton, decide_eq_true_iff]

theorem serialisable_colored : ScreenBuffer.colored.Serialisable := by
  intro key set found
  change (if key = (0, 1) then some _ else none) = some set at found
  split at found
  · cases found
    decide +kernel
  · cases found

/-- The red character is compared with itself, and with the field without it. -/
theorem compareSnapshots_once :
    ∃ one two three,
      StampedSnapshot.init "2026-06-14T16:52:28Z" [(0, 1)] .colored = some one ∧
      StampedSnapshot.init "2026-06-14T16:52:28Z" [(0, 1)] .colored = some two ∧
      StampedSnapshot.init "2026-06-14T16:52:28Z" [] .formatted = some three ∧
      ((SnapshotComparison.compareSnapshots one two).isIdentical = true ↔
        EqualScreens .colored .colored) ∧
      ((SnapshotComparison.compareSnapshots one three).isIdentical = true ↔
        EqualScreens .colored .formatted) := by
  have objects : ScreenBuffer.formatted.Serialisable := by
    intro key set found
    cases found
  have once := List.nodup_singleton (0, 1)
  obtain ⟨one, two, taken, again, same⟩ := (compareSnapshots_iff once once
    enumerates_colored enumerates_colored "2026-06-14T16:52:28Z" "2026-06-14T16:52:28Z").mpr
    ⟨⟨serialisable_colored, serialisable_colored⟩, fun _ => rfl, fun _ _ => rfl⟩
  obtain ⟨first, three, retaken, without, differ⟩ := (compareSnapshots_iff once List.nodup_nil
    enumerates_colored enumerates_formatted "2026-06-14T16:52:28Z" "2026-06-14T16:52:28Z").mpr
    ⟨⟨serialisable_colored, objects⟩, fun _ => rfl, fun _ _ => rfl⟩
  cases taken.symm.trans retaken
  exact ⟨one, two, three, taken, again, without, same, differ⟩

/-- One screen a second later. -/
theorem not_isIdentical_later :
    let screen := (DataStreamParser.smallParser 0 0).screen
    ∃ one two, StampedSnapshot.init "2026-06-14T16:52:28Z" [] screen = some one ∧
      StampedSnapshot.init "2026-06-14T16:52:29Z" [] screen = some two ∧
      (SnapshotComparison.compareSnapshots one two).isIdentical = false ∧
      EqualScreens screen screen :=
  ⟨_, _, rfl, rfl, by decide +kernel, ⟨rfl, rfl, rfl, rfl, rfl, rfl, rfl, rfl⟩⟩

end Pure3270
