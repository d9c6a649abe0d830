import Pure3270.Emulation.ModifiedData
import Pure3270.Emulation.Snapshot

/-!
# When a screen survives its snapshot

The screen made from a snapshot has the arrays and the cursor of the original.
Its field starts are the positions with extended attributes, its fields lose what
their dictionaries do not hold, and its texts are those of code page 037.
-/

namespace Pure3270

open Foundations

namespace ScreenBuffer

/-- The screen under code page 037. -/
def underCp037 (screen : ScreenBuffer) : ScreenBuffer := { screen with codepage := "cp037" }

/-- Of an attribute set only whether it is empty counts for a field. -/
theorem applyExtended_congr {first second : ScreenBuffer} {position : Nat × Nat}
    (same : first.Attributed position ↔ second.Attributed position) (params : FieldParams) :
    applyExtended (first.extendedAttributes position) params =
      applyExtended (second.extendedAttributes position) params := by
  have plain : ∀ screen : ScreenBuffer, ¬ screen.Attributed position →
      applyExtended (screen.extendedAttributes position) params = params := by
    intro screen bare
    unfold applyExtended
    cases found : screen.extendedAttributes position with
    | none => rfl
    | some set =>
        have empty : set.isEmpty = true := by
          by_contra filled
          exact bare ⟨set, found, Bool.eq_false_iff.mpr filled⟩
        exact if_pos empty
  have reset : ∀ set : ExtendedAttributeSet, set.isEmpty = false →
      applyExtended (some set) params = { params with
        color := 0
        background := 0
        sfeHighlight := 0
        validation := 0
        outlining := 0
        characterSet := 0
        lightPen := 0 } := by
    intro set filled
    unfold applyExtended
    dsimp only
    rw [if_neg (by rw [filled]; decide)]
    rfl
  by_cases attributed : first.Attributed position
  · obtain ⟨set, found, filled⟩ := attributed
    obtain ⟨other, foundOther, filledOther⟩ := same.mp ⟨set, found, filled⟩
    rw [found, foundOther, reset set filled, reset other filledOther]
  · rw [plain first attributed, plain second fun held => attributed (same.mpr held)]

end ScreenBuffer

namespace Snapshot

/-- What a screen has to be like to survive its snapshot. -/
structure Restorable (pages : Ebcdic.Codepages) (screen : ScreenBuffer) : Prop where
  objects : ∀ key set, screen.extendedAttributes key = some set → set.allWrapped = true
  starts : ∀ pos, pos ∈ screen.fieldStarts ↔
    ∃ position, (screen.HasCell position ∧ screen.Attributed position) ∧
      position.1 * screen.cols + position.2 = pos
  fields : ∀ field ∈ screen.fields, field.bypass = false ∧ field.hidden = false ∧
    field.lightPen = 0 ∧ field.codepage = "cp037"
  asciiBuffer : screen.underCp037.asciiBuffer pages = screen.asciiBuffer pages
  text : screen.underCp037.toText pages = screen.toText pages

variable {pages : Ebcdic.Codepages} {screen restored : ScreenBuffer}

theorem Restored.cols (same : Restored screen restored) : restored.cols = screen.cols := by
  have cols := congrArg ScreenBuffer.cols same.picture
  exact cols

theorem Restored.size (same : Restored screen restored) : restored.size = screen.size := by
  have size := congrArg ScreenBuffer.size same.picture
  exact size

theorem Restored.buffer (same : Restored screen restored) : restored.buffer = screen.buffer := by
  have buffer := congrArg ScreenBuffer.buffer same.picture
  exact buffer

theorem Restored.attributes (same : Restored screen restored) :
    restored.attributes = screen.attributes := by
  have attributes := congrArg ScreenBuffer.attributes same.picture
  exact attributes

theorem Restored.starts_lt (same : Restored screen restored) :
    ∀ start ∈ restored.fieldStarts, start < restored.size := by
  intro start member
  obtain ⟨position, ⟨inside, _⟩, rfl⟩ := (same.starts start).mp member
  rw [same.size]
  exact ScreenBuffer.address_lt inside.1 inside.2

theorem Restored.createFieldFromRange (same : Restored screen restored) {startIdx : Nat}
    (inside : startIdx < screen.size) (endIdx : Nat) :
    restored.createFieldFromRange startIdx endIdx =
      screen.createFieldFromRange startIdx endIdx := by
  have coords : ∀ index, restored.calculateCoords index = screen.calculateCoords index := by
    intro index
    unfold ScreenBuffer.calculateCoords
    rw [same.cols]
  have attributed : restored.Attributed (screen.calculateCoords startIdx) ↔
      screen.Attributed (screen.calculateCoords startIdx) := by
    rw [same.attributed]
    exact and_iff_right (ScreenBuffer.calculateCoords_inBounds inside)
  unfold ScreenBuffer.createFieldFromRange
  simp only [coords, same.buffer, same.attributes,
    ScreenBuffer.applyExtended_congr attributed]

theorem Restored.detectedFields (same : Restored screen restored) (sound : screen.Sound)
    (starts : restored.fieldStarts = screen.fieldStarts) :
    restored.detectFields.fields = screen.detectFields.fields := by
  show restored.detectedFields = screen.detectedFields
  unfold ScreenBuffer.detectedFields
  rw [starts, same.size]
  refine List.filterMap_congr fun range member => ?_
  refine same.createFieldFromRange (sound.starts_lt range.1 ?_) range.2
  have first : range.1 ∈ (ranges (screen.size - 1) screen.fieldStarts.toList).map Prod.fst :=
    List.mem_map_of_mem member
  rwa [map_fst_ranges] at first

theorem Restored.starts_of_detected (same : Restored screen restored) (sound : screen.Sound)
    (detected : restored.detectFields.fields = screen.detectFields.fields) :
    restored.fieldStarts = screen.fieldStarts := by
  have spans : restored.detectFields.spans = screen.detectFields.spans := by
    show restored.detectFields.fields.map (Field.span restored.cols) = _
    rw [detected, same.cols]
    rfl
  rw [ScreenBuffer.detectFields_spans same.starts_lt,
    ScreenBuffer.detectFields_spans sound.starts_lt, same.size] at spans
  have lists := ScreenBuffer.ranges_injective spans
  exact SortedSet.ext_mem fun value => by
    rw [SortedSet.mem_iff, SortedSet.mem_iff, lists]

/-- With the field starts every view of the arrays, the cursor and the field starts
is restored, but for the code page. -/
theorem Restored.view {β : Type} (same : Restored screen restored)
    (starts : restored.fieldStarts = screen.fieldStarts) (view : ScreenBuffer → β)
    (framed : ∀ other : ScreenBuffer,
      view other = view { other.picture with fieldStarts := other.fieldStarts }) :
    view restored = view { blank screen with fieldStarts := screen.fieldStarts } := by
  rw [framed restored, same.picture, starts]
  exact (framed { blank screen with fieldStarts := screen.fieldStarts }).symm

theorem Restored.asciiBuffer (same : Restored screen restored)
    (starts : restored.fieldStarts = screen.fieldStarts) :
    restored.asciiBuffer pages = screen.underCp037.asciiBuffer pages :=
  same.view starts (ScreenBuffer.asciiBuffer pages) fun _ => rfl

theorem Restored.toText (same : Restored screen restored)
    (starts : restored.fieldStarts = screen.fieldStarts) :
    restored.toText pages = screen.underCp037.toText pages :=
  same.view starts (ScreenBuffer.toText pages) fun _ => rfl

/-- A screen survives its snapshot exactly when its attributes are objects, its
field starts are the positions with attributes, its fields have the values that
their dictionaries leave out, and its texts are those of code page 037. -/
theorem roundTrips_iff {keys : List (Nat × Nat)} (sound : screen.Sound)
    (enumerates : Enumerates keys screen) :
    RoundTrips pages keys screen ↔ Restorable pages screen := by
  unfold RoundTrips
  constructor
  · intro trips
    have objects : ∀ key set, screen.extendedAttributes key = some set →
        set.allWrapped = true := by
      intro key set found
      by_contra raw
      rw [roundTrip_raw ((enumerates key).mpr (by rw [found]; rfl)) found
        (Bool.eq_false_iff.mpr raw)] at trips
      cases trips
    obtain ⟨restored, made, same⟩ := roundTrip_restored enumerates objects
    rw [made, Option.map_some, Option.some.injEq] at trips
    have starts := same.starts_of_detected sound (congrArg Observation.redetected trips)
    have fields : screen.fields.map kept = screen.fields :=
      same.fields.symm.trans (congrArg Observation.fields trips)
    refine ⟨objects, fun pos => ?_, fun field member => ?_, ?_, ?_⟩
    · rw [← starts]
      exact same.starts pos
    · exact kept_eq_iff.mp (List.map_inj_left.mp (fields.trans (List.map_id _).symm) field member)
    · exact (same.asciiBuffer starts).symm.trans (congrArg Observation.asciiBuffer trips)
    · exact (same.toText starts).symm.trans (congrArg Observation.text trips)
  · intro restorable
    obtain ⟨restored, made, same⟩ := roundTrip_restored enumerates restorable.objects
    have starts : restored.fieldStarts = screen.fieldStarts :=
      SortedSet.ext_mem fun pos => (same.starts pos).trans (restorable.starts pos).symm
    have fields : restored.fields = screen.fields := by
      refine same.fields.trans (Eq.trans ?_ (List.map_id _))
      exact List.map_congr_left fun field member =>
        kept_eq_iff.mpr (restorable.fields field member)
    have cursor : restored.getPosition = screen.getPosition := by
      have positions := congrArg ScreenBuffer.getPosition same.picture
      exact positions
    have mode : restored.asciiMode = screen.asciiMode := by
      have modes := congrArg ScreenBuffer.asciiMode same.picture
      exact modes
    rw [made, Option.map_some, Option.some.injEq]
    unfold observe
    rw [same.buffer, same.attributes, cursor, mode,
      (same.asciiBuffer starts).trans restorable.asciiBuffer,
      (same.toText starts).trans restorable.text, fields, same.detectedFields sound starts]

theorem roundTrips_colored :
    Restorable ScreenBuffer.cp037Pages
      (run ScreenBuffer.mutate [.operation (.setExtendedAttribute 0 0 .color 0xF1)]
        (ScreenBuffer.init 2 3 (by decide) (by decide) 0x40 "cp037")) := by
  have sound := (ScreenBuffer.valid_init 2 3 (by decide) (by decide) 0x40 "cp037").sound.mutate
    (.operation (.setExtendedAttribute 0 0 .color 0xF1))
  refine (@roundTrips_iff ScreenBuffer.cp037Pages _ [(0, 0)] sound fun key => ?_).mp ?_
  · by_cases home : key = (0, 0)
    · subst home
      decide +kernel
    · refine iff_of_false (by simpa using home) ?_
      show ¬ (if key = (0, 0) then _ else none : Option ExtendedAttributeSet).isSome = true
      rw [if_neg home]
      decide
  · unfold RoundTrips
    decide +kernel

/-- A field start without an extended attribute is not in the snapshot. -/
theorem not_roundTrips_start :
    ¬ ∀ (pages : Ebcdic.Codepages) (keys : List (Nat × Nat)) (rows cols : Nat)
      (rows_pos : 0 < rows) (cols_pos : 0 < cols) (initValue : UInt8) (codepage : String)
      (mutations : List ScreenBuffer.ScreenMutation),
      Enumerates keys (run ScreenBuffer.mutate mutations
        (ScreenBuffer.init rows cols rows_pos cols_pos initValue codepage)) →
      RoundTrips pages keys (run ScreenBuffer.mutate mutations
        (ScreenBuffer.init rows cols rows_pos cols_pos initValue codepage)) := by
  intro claimed
  have trips := claimed ScreenBuffer.cp037Pages [] 2 3 (by decide) (by decide) 0x40 "cp037"
    [.operation (.setAttribute 0x00 (some (0, 0)))]
    fun key => iff_of_false List.not_mem_nil (by simp [run, ScreenBuffer.mutate,
      ScreenBuffer.operate, ScreenBuffer.setAttribute, ScreenBuffer.storeAttribute,
      ScreenBuffer.init, ScreenBuffer.size, ScreenBuffer.detectFields])
  unfold RoundTrips at trips
  revert trips
  decide +kernel

end Snapshot

end Pure3270
