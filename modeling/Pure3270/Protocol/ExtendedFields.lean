import Pure3270.Foundations.WriteLog
import Pure3270.Emulation.FieldSpans
import Pure3270.Protocol.ScreenChanges

/-!
# Extended attributes of the detected fields

The attribute sets of a screen hold the values that were set last.  Detection reads
them through an accessor that has unwrapped the values already, and unwraps them a
second time: where a position has any attribute, the field there gets zeros.
-/

namespace Pure3270

open Foundations

namespace ScreenBuffer

/-- Something that sets attributes, or writes and moves between: an elementary change
of an order, or a call of a public method. -/
inductive AttributeCall where
  | order (made : ScreenChange)
  | method (operation : ScreenOperation)

namespace AttributeCall

def apply : AttributeCall → ScreenBuffer → ScreenBuffer
  | .order made, screen => screen.change made
  | .method operation, screen => screen.operate operation

/-- The value that a call sets, under position and type. -/
def sets (call : AttributeCall) (screen : ScreenBuffer) :
    List (((Nat × Nat) × AttributeType) × Nat) :=
  match call with
  | .order (.setExtended attrType attrValue position) =>
      match attrMap attrType with
      | some key => [((position.getD screen.getPosition, key), attrValue.toNat)]
      | none => []
  | .method (.setExtendedAttribute row col attrType value) =>
      if row < screen.rows ∧ col < screen.cols then [(((row, col), attrType), value)] else []
  | _ => []

/-- All values that a run sets, the earliest first. -/
def settings : List AttributeCall → ScreenBuffer → List (((Nat × Nat) × AttributeType) × Nat)
  | [], _ => []
  | call :: calls, screen => call.sets screen ++ settings calls (call.apply screen)

end AttributeCall

/-- The value that the attribute set of a position holds. -/
def stored (position : Nat × Nat) (attrType : AttributeType) (screen : ScreenBuffer) :
    Option Nat :=
  (screen.extendedAttributes position).bind fun set => set.get attrType

/-- The value that was set last at a position, in the run or before it. -/
def lastValue (calls : List AttributeCall) (screen : ScreenBuffer) (position : Nat × Nat)
    (attrType : AttributeType) : Option Nat :=
  (lastWrite (position, attrType) (AttributeCall.settings calls screen)).or
    (screen.stored position attrType)

theorem writeChar_extendedAttributes (byte : UInt8) (position : Option (Nat × Nat))
    (isProtected circumventProtection markFieldStart : Bool) (screen : ScreenBuffer) :
    (screen.writeChar byte position isProtected circumventProtection
      markFieldStart).extendedAttributes = screen.extendedAttributes := by
  have refreshed : ∀ (row col : Nat) (screen : ScreenBuffer),
      (screen.refreshFields row col).extendedAttributes = screen.extendedAttributes := by
    intro row col screen
    obtain ⟨_, _, _, _, same⟩ := refreshFields_lists row col screen
    rw [same]
  rw [writeChar_eq]
  split
  · rw [refreshed, typed_extendedAttributes]
  · rfl

theorem setAttribute_extendedAttributes (attr : UInt8) (position : Option (Nat × Nat))
    (screen : ScreenBuffer) :
    (screen.setAttribute attr position).extendedAttributes = screen.extendedAttributes := by
  unfold setAttribute
  simp only
  split
  · split <;> rfl
  · rfl

theorem selectLightPen_extendedAttributes (row col : Nat) (screen : ScreenBuffer) :
    (screen.selectLightPen row col).1.extendedAttributes = screen.extendedAttributes := by
  unfold selectLightPen
  simp only
  split
  · rfl
  · split <;> rfl

theorem moveCursorToFirstInputField_extendedAttributes (screen : ScreenBuffer) :
    screen.moveCursorToFirstInputField.extendedAttributes = screen.extendedAttributes := by
  unfold moveCursorToFirstInputField
  split <;> rfl

theorem moveCursorToNextInputField_extendedAttributes (screen : ScreenBuffer) :
    screen.moveCursorToNextInputField.extendedAttributes = screen.extendedAttributes := by
  unfold moveCursorToNextInputField
  split <;> rfl

theorem stored_put (screen : ScreenBuffer) (target : Nat × Nat) (key : AttributeType)
    (value : Nat) (position : Nat × Nat) (attrType : AttributeType) :
    ((if position = target then
        some (((screen.extendedAttributes target).getD .empty).setAttribute key value)
      else screen.extendedAttributes position).bind fun set => set.get attrType) =
      (lastWrite (position, attrType) [((target, key), value)]).or
        (screen.stored position attrType) := by
  unfold lastWrite lastWrite stored
  rw [Option.none_or]
  by_cases here : position = target
  · subst here
    rw [if_pos rfl, Option.bind_some]
    unfold ExtendedAttributeSet.get ExtendedAttributeSet.setAttribute
    by_cases same : attrType = key
    · subst same
      simp
    · have other : ¬ ((position, key) = (position, attrType)) :=
        fun equal => same (Prod.mk.inj equal).2.symm
      simp only [if_neg same, if_neg other, Option.none_or]
      cases screen.extendedAttributes position with
      | none => rfl
      | some set => rfl
  · have other : ¬ ((target, key) = (position, attrType)) :=
      fun equal => here (Prod.mk.inj equal).1.symm
    rw [if_neg here, if_neg other, Option.none_or]

theorem stored_apply (call : AttributeCall) (screen : ScreenBuffer) (position : Nat × Nat)
    (attrType : AttributeType) :
    (call.apply screen).stored position attrType =
      (lastWrite (position, attrType) (call.sets screen)).or
        (screen.stored position attrType) := by
  have kept : ∀ {after : ScreenBuffer}, after.extendedAttributes = screen.extendedAttributes →
      after.stored position attrType = screen.stored position attrType :=
    fun same => by rw [stored, stored, same]
  cases call with
  | order made =>
      cases made with
      | setExtended type value target =>
          show (screen.setExtendedAttributeSfe type value target).stored position attrType =
            (lastWrite _ (match attrMap type with | some key => _ | none => [])).or _
          unfold setExtendedAttributeSfe
          simp only
          cases attrMap type with
          | none => rfl
          | some key => exact stored_put screen _ key value.toNat position attrType
      | insertByte byte =>
          refine kept ?_
          show (screen.insertByte byte).extendedAttributes = _
          unfold insertByte
          simp only
          split <;> rfl
      | setAttribute attr => exact kept (setAttribute_extendedAttributes attr none screen)
      | eraseCell target => exact kept (writeChar_extendedAttributes _ _ _ _ _ screen)
      | setPosition row col => exact kept rfl
      | firstInput => exact kept (moveCursorToFirstInputField_extendedAttributes screen)
      | programTab => exact kept (moveCursorToNextInputField_extendedAttributes screen)
  | method operation =>
      cases operation with
      | setExtendedAttribute row col type value =>
          show (screen.setExtendedAttribute row col type value).stored position attrType =
            (lastWrite _ (if row < screen.rows ∧ col < screen.cols then _ else [])).or _
          unfold setExtendedAttribute
          by_cases inside : row < screen.rows ∧ col < screen.cols
          · rw [if_pos inside, if_pos inside, ← stored_put]
            simp only
            split <;> rfl
          · rw [if_neg inside, if_neg inside]
            rfl
      | writeChar byte target isProtected circumventProtection markFieldStart =>
          exact kept (writeChar_extendedAttributes _ _ _ _ _ screen)
      | setAttribute attr target => exact kept (setAttribute_extendedAttributes attr target screen)
      | beginBulkUpdate => exact kept rfl
      | endBulkUpdate =>
          refine kept ?_
          show screen.endBulkUpdate.extendedAttributes = _
          unfold endBulkUpdate
          simp only
          split <;> rfl
      | selectLightPen row col => exact kept (selectLightPen_extendedAttributes row col screen)
      | setPosition row col => exact kept rfl
      | moveCursorToFirstInputField =>
          exact kept (moveCursorToFirstInputField_extendedAttributes screen)
      | moveCursorToNextInputField =>
          exact kept (moveCursorToNextInputField_extendedAttributes screen)

theorem stored_run (calls : List AttributeCall) (screen : ScreenBuffer)
    (position : Nat × Nat) (attrType : AttributeType) :
    (run AttributeCall.apply calls screen).stored position attrType =
      screen.lastValue calls position attrType := by
  unfold lastValue
  induction calls generalizing screen with
  | nil => rfl
  | cons call calls ih =>
      rw [run, ih, AttributeCall.settings, lastWrite_append, stored_apply, Option.or_assoc]

/-- The light pen value of an attribute byte. -/
def baseLightPen (basicAttr : Option UInt8) : Nat :=
  (basicAttr.map fun attr => (decodeIntensity attr).2).getD 0

/-- A field has the values that were set last at its start, 0 where none was set, and the
light pen of its attribute byte where no light pen was set. -/
structure Carries (last : AttributeType → Option Nat) (basicAttr : Option UInt8)
    (field : Field) : Prop where
  color : field.color = (last .color).getD 0
  background : field.background = (last .background).getD 0
  sfeHighlight : field.sfeHighlight = (last .highlight).getD 0
  validation : field.validation = (last .validation).getD 0
  outlining : field.outlining = (last .outlining).getD 0
  characterSet : field.characterSet = (last .characterSet).getD 0
  lightPen : field.lightPen = (last .lightPen).getD (baseLightPen basicAttr)

/-- Every value that a field has a place for is 0 or was not set, and where anything but
a light pen was set, the attribute byte gives no light pen either. -/
structure Unset (last : AttributeType → Option Nat) (basicAttr : Option UInt8) : Prop where
  zero : ∀ attrType ∈ [AttributeType.color, .background, .highlight, .validation, .outlining,
    .characterSet, .lightPen], (last attrType).getD 0 = 0
  undetectable : (∃ attrType, last attrType ≠ none) → last .lightPen = none →
    baseLightPen basicAttr = 0

/-- What the parameters of a field are before the attribute set is read. -/
def rangeParams (startIdx endIdx : Nat) (screen : ScreenBuffer) : FieldParams :=
  let params : FieldParams := {
    start := screen.calculateCoords startIdx
    finish := screen.calculateCoords endIdx
    content := slice startIdx endIdx screen.buffer }
  match screen.attributes[startIdx * 3]? with
  | some basicAttr => decodeBasicAttr basicAttr params
  | none => params

@[simp] theorem rangeParams_start (startIdx endIdx : Nat) (screen : ScreenBuffer) :
    (screen.rangeParams startIdx endIdx).start = screen.calculateCoords startIdx := by
  unfold rangeParams
  simp only
  split <;> rfl

@[simp] theorem rangeParams_finish (startIdx endIdx : Nat) (screen : ScreenBuffer) :
    (screen.rangeParams startIdx endIdx).finish = screen.calculateCoords endIdx := by
  unfold rangeParams
  simp only
  split <;> rfl

/-- Without an attribute set everything but the light pen is 0. -/
theorem carries_rangeParams {startIdx endIdx : Nat} {screen : ScreenBuffer} {field : Field}
    (params : field.toFieldParams = screen.rangeParams startIdx endIdx) :
    Carries (fun _ => none) screen.attributes[startIdx * 3]? field := by
  unfold rangeParams at params
  simp only at params
  cases basic : screen.attributes[startIdx * 3]? with
  | none =>
      rw [basic] at params
      constructor <;> rw [params] <;> rfl
  | some attr =>
      rw [basic] at params
      constructor <;> rw [params] <;> rfl

theorem createFieldFromRange_params {screen : ScreenBuffer} {startIdx endIdx : Nat}
    {field : Field} (created : screen.createFieldFromRange startIdx endIdx = some field) :
    field.toFieldParams =
      applyExtended (screen.extendedAttributes (screen.calculateCoords startIdx))
        (screen.rangeParams startIdx endIdx) := by
  have ordered : startIdx ≤ endIdx := by
    by_contra backwards
    unfold createFieldFromRange at created
    rw [if_pos (Nat.lt_of_not_le backwards)] at created
    cases created
  unfold createFieldFromRange at created
  rw [if_neg (by omega)] at created
  cases created
  apply Field.init_start
  rw [applyExtended_start, applyExtended_finish]
  show Position.le (screen.rangeParams startIdx endIdx).start
    (screen.rangeParams startIdx endIdx).finish
  rw [rangeParams_start, rangeParams_finish]
  exact calculateCoords_le screen ordered

theorem ExtendedAttributeSet.isEmpty_iff {set : ExtendedAttributeSet} :
    set.isEmpty = true ↔ ∀ attrType, set.get attrType = none := by
  unfold ExtendedAttributeSet.isEmpty ExtendedAttributeSet.get
  rw [List.all_eq_true]
  simp only [Option.map_eq_none_iff, Option.isNone_iff_eq_none]
  exact ⟨fun every attrType => every attrType (AttributeType.mem_all attrType),
    fun every attrType _ => every attrType⟩

theorem applyExtended_filled {set : ExtendedAttributeSet} {attrType : AttributeType}
    (filled : set.get attrType ≠ none) (params : FieldParams) :
    applyExtended (some set) params = { params with
      color := 0
      background := 0
      sfeHighlight := 0
      validation := 0
      outlining := 0
      characterSet := 0
      lightPen := 0 } := by
  have notEmpty : ¬ set.isEmpty = true := fun empty =>
    filled (ExtendedAttributeSet.isEmpty_iff.mp empty attrType)
  unfold applyExtended
  dsimp only
  rw [if_neg notEmpty]
  rfl

theorem carries_zeros_iff {last : AttributeType → Option Nat} {basicAttr : Option UInt8}
    {field : Field} {params : FieldParams} (present : ∃ attrType, last attrType ≠ none)
    (zeros : field.toFieldParams = { params with
      color := 0
      background := 0
      sfeHighlight := 0
      validation := 0
      outlining := 0
      characterSet := 0
      lightPen := 0 }) : Carries last basicAttr field ↔ Unset last basicAttr := by
  constructor
  · rintro ⟨color, background, sfeHighlight, validation, outlining, characterSet, lightPen⟩
    rw [zeros] at color background sfeHighlight validation outlining characterSet lightPen
    refine ⟨?_, fun _ none => ?_⟩
    · simp only [List.forall_mem_cons, List.not_mem_nil, false_implies, implies_true, and_true]
      refine ⟨color.symm, background.symm, sfeHighlight.symm, validation.symm, outlining.symm,
        characterSet.symm, ?_⟩
      cases pen : last .lightPen with
      | none => rfl
      | some value =>
          rw [pen] at lightPen
          exact lightPen.symm
    · rw [none] at lightPen
      exact lightPen.symm
  · rintro ⟨zero, undetectable⟩
    simp only [List.forall_mem_cons, List.not_mem_nil, false_implies, implies_true,
      and_true] at zero
    obtain ⟨color, background, sfeHighlight, validation, outlining, characterSet, lightPen⟩ :=
      zero
    constructor <;> rw [zeros]
    · exact color.symm
    · exact background.symm
    · exact sfeHighlight.symm
    · exact validation.symm
    · exact outlining.symm
    · exact characterSet.symm
    · cases pen : last .lightPen with
      | none => exact (undetectable present pen).symm
      | some value =>
          rw [pen] at lightPen
          exact lightPen.symm

/-- A detected field has the values of its set exactly when there are none to have. -/
theorem detected_carries_iff {screen : ScreenBuffer} {field : Field}
    (detected : field ∈ screen.detectFields.fields) :
    Carries (screen.stored field.start)
        screen.attributes[field.startIndex screen.cols * 3]? field ↔
      Unset (screen.stored field.start)
        screen.attributes[field.startIndex screen.cols * 3]? := by
  obtain ⟨_, ordered, created⟩ := detectedFields_range detected
  have params := createFieldFromRange_params created
  have start : field.start = screen.calculateCoords (field.startIndex screen.cols) := by
    have same := congrArg FieldParams.start params
    rwa [applyExtended_start, rangeParams_start] at same
  rw [← start] at params
  by_cases filled : ∃ attrType, screen.stored field.start attrType ≠ none
  · obtain ⟨attrType, present⟩ := filled
    cases found : screen.extendedAttributes field.start with
    | none =>
        unfold stored at present
        rw [found] at present
        exact absurd rfl present
    | some set =>
        have held : ∀ other, screen.stored field.start other = set.get other := fun other => by
          unfold stored
          rw [found]
          rfl
        rw [found, applyExtended_filled (held attrType ▸ present)] at params
        exact carries_zeros_iff ⟨attrType, present⟩ params
  · have bare : screen.stored field.start = fun _ => none := by
      funext attrType
      by_contra present
      exact filled ⟨attrType, present⟩
    have plain : applyExtended (screen.extendedAttributes field.start)
        (screen.rangeParams (field.startIndex screen.cols) (field.endIndex screen.cols)) =
          screen.rangeParams (field.startIndex screen.cols) (field.endIndex screen.cols) := by
      cases found : screen.extendedAttributes field.start with
      | none => rfl
      | some set =>
          have empty : set.isEmpty = true := by
            rw [ExtendedAttributeSet.isEmpty_iff]
            intro attrType
            have here := congrFun bare attrType
            unfold stored at here
            rw [found] at here
            exact here
          exact if_pos empty
    rw [bare]
    exact iff_of_true (carries_rangeParams (params.trans plain))
      ⟨fun _ _ => rfl, fun present => absurd present (by simp)⟩

/-- After any run, detection gives a field the values that were set last at its start
exactly when there is nothing to give. -/
theorem lastValues_reach_iff {calls : List AttributeCall} {screen after : ScreenBuffer}
    (ended : run AttributeCall.apply calls screen = after) {field : Field}
    (detected : field ∈ after.detectFields.fields) :
    Carries (screen.lastValue calls field.start)
        after.attributes[field.startIndex after.cols * 3]? field ↔
      Unset (screen.lastValue calls field.start)
        after.attributes[field.startIndex after.cols * 3]? := by
  subst ended
  have held : screen.lastValue calls field.start =
      (run AttributeCall.apply calls screen).stored field.start := by
    funext attrType
    exact (stored_run calls screen field.start attrType).symm
  rw [held]
  exact detected_carries_iff detected

def smallScreen : ScreenBuffer :=
  (DataStreamParser.smallParser 0 0).screen

/-- The first field after a run on the small screen. -/
def firstDetected (calls : List AttributeCall) : Field :=
  (run AttributeCall.apply calls smallScreen).detectFields.fields.headD
    (.init { start := (0, 0), finish := (0, 0) })

/-- A field whose color is set to 0. -/
def uncolored : List AttributeCall :=
  [.order (.setAttribute 0x60), .order (.setExtended 0x42 0 none)]

theorem lastValues_reach_uncolored :
    firstDetected uncolored ∈
        (run AttributeCall.apply uncolored smallScreen).detectFields.fields ∧
      Carries (smallScreen.lastValue uncolored (firstDetected uncolored).start)
        (run AttributeCall.apply uncolored smallScreen).attributes[(firstDetected
          uncolored).startIndex (run AttributeCall.apply uncolored smallScreen).cols * 3]?
        (firstDetected uncolored) := by
  have detected : firstDetected uncolored ∈
      (run AttributeCall.apply uncolored smallScreen).detectFields.fields := by
    decide +kernel
  refine ⟨detected, (lastValues_reach_iff rfl detected).mpr ⟨?_, fun _ _ => ?_⟩⟩
  · decide +kernel
  · decide +kernel

/-- A color that was set does not get to the field. -/
theorem not_lastValues_reach :
    firstDetected [.method (.setExtendedAttribute 0 0 .color 0xF1)] ∈
        (run AttributeCall.apply [.method (.setExtendedAttribute 0 0 .color 0xF1)]
          smallScreen).detectFields.fields ∧
      smallScreen.lastValue [.method (.setExtendedAttribute 0 0 .color 0xF1)]
          (firstDetected [.method (.setExtendedAttribute 0 0 .color 0xF1)]).start .color =
        some 0xF1 ∧
      (firstDetected [.method (.setExtendedAttribute 0 0 .color 0xF1)]).color = 0 := by
  decide +kernel

end ScreenBuffer

end Pure3270
