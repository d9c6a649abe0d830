import Pure3270.Emulation.FieldObjects

/-!
# Screens with their field objects

An operation of the screen keeps the field objects, detects them again, or
replaces one of them.  The list and the caches of the screen are what the objects
behind the references are, after every operation.
-/

namespace Pure3270

open Foundations

/-- What an operation does to the field objects. -/
inductive FieldEffect where
  | keep
  | detect
  | replace (index : Nat)
  deriving DecidableEq

namespace ScreenBuffer

/-- Detection, unless it is suspended. -/
def detectUnless (suspended : Nat) : FieldEffect :=
  if suspended = 0 then .detect else .keep

/-- `write_char` replaces the first field that covers the position; without one it
detects the fields in the first column and where there are none. -/
def writeEffect (byte : UInt8) (position : Option (Nat × Nat))
    (isProtected circumventProtection markFieldStart : Bool) (screen : ScreenBuffer) :
    FieldEffect :=
  let row := (position.getD screen.getPosition).1
  let col := (position.getD screen.getPosition).2
  if screen.Accepts row col circumventProtection then
    let moved := screen.typed byte row col isProtected markFieldStart position.isSome
    match moved.fields.findIdx? fun field => (moved.refreshField row col field).isSome with
    | some index => .replace index
    | none =>
        if moved.suspendFieldDetection = 0 ∧ (col = 0 ∨ moved.fields = []) then .detect
        else .keep
  else .keep

def attributeEffect (position : Option (Nat × Nat)) (screen : ScreenBuffer) : FieldEffect :=
  let target := position.getD screen.getPosition
  if target.1 * screen.cols + target.2 < screen.size then
    detectUnless screen.suspendFieldDetection
  else .keep

def operationEffect : ScreenOperation → ScreenBuffer → FieldEffect
  | .writeChar byte position isProtected circumventProtection markFieldStart =>
      writeEffect byte position isProtected circumventProtection markFieldStart
  | .setAttribute _ position => attributeEffect position
  | .setExtendedAttribute row col _ _ => fun screen =>
      if row < screen.rows ∧ col < screen.cols then
        detectUnless screen.suspendFieldDetection
      else .keep
  | .endBulkUpdate => fun screen => detectUnless (screen.suspendFieldDetection - 1)
  | .selectLightPen _ _ => fun _ => .detect
  | _ => fun _ => .keep

/-- The effect of a mutation but for the replacement of a selected field. -/
def mutationEffect : ScreenMutation → ScreenBuffer → FieldEffect
  | .operation operation => operationEffect operation
  | .clear => fun _ => .detect
  | .repeatAttribute _ _ => fun screen => detectUnless screen.suspendFieldDetection
  | .updateFromStream data => fun _ => if data = [] then .keep else .detect

/-- The same fields and caches on a screen of the same size. -/
structure SameIndex (before after : ScreenBuffer) : Prop where
  fields : after.fields = before.fields
  fieldPositionCache : after.fieldPositionCache = before.fieldPositionCache
  inputFieldsCache : after.inputFieldsCache = before.inputFieldsCache
  rows : after.rows = before.rows
  cols : after.cols = before.cols

/-- The effect says what became of the fields and the caches.  A replacement leaves
the caches without validity. -/
inductive Describes (before after : ScreenBuffer) : FieldEffect → Prop where
  | keep (same : SameIndex before after)
      (valid : after.navigationCacheValid = true → before.navigationCacheValid = true) :
      Describes before after .keep
  | detect (source : ScreenBuffer) (same : SameIndex source.detectFields after) :
      Describes before after .detect
  | replace {index : Nat} (field : Field) (below : index < before.fields.length)
      (same : SameIndex { before with fields := before.fields.set index field } after)
      (invalid : after.navigationCacheValid = false) :
      Describes before after (.replace index)

theorem SameIndex.refl (screen : ScreenBuffer) : SameIndex screen screen :=
  ⟨rfl, rfl, rfl, rfl, rfl⟩

theorem describes_detectUnless {before source : ScreenBuffer} (suspended : Nat)
    (same : SameIndex before source)
    (valid : source.navigationCacheValid = true → before.navigationCacheValid = true) :
    Describes before (if suspended = 0 then source.detectFields else source)
      (detectUnless suspended) := by
  unfold detectUnless
  split
  · exact .detect source (.refl _)
  · exact .keep same valid

section Write

variable {screen : ScreenBuffer}

theorem typed_sameIndex (byte : UInt8) (row col : Nat)
    (isProtected markFieldStart explicitPosition : Bool) :
    SameIndex screen
        (screen.typed byte row col isProtected markFieldStart explicitPosition) ∧
      (screen.typed byte row col isProtected markFieldStart
        explicitPosition).navigationCacheValid = screen.navigationCacheValid := by
  cases markFieldStart <;> cases explicitPosition <;> exact ⟨⟨rfl, rfl, rfl, rfl, rfl⟩, rfl⟩

theorem writeChar_describes (byte : UInt8) (position : Option (Nat × Nat))
    (isProtected circumventProtection markFieldStart : Bool) :
    Describes screen
      (screen.writeChar byte position isProtected circumventProtection markFieldStart)
      (screen.writeEffect byte position isProtected circumventProtection
        markFieldStart) := by
  rw [writeChar_eq]
  unfold writeEffect
  dsimp only
  split
  · rename_i accepted
    generalize (position.getD screen.getPosition).1 = row
    generalize (position.getD screen.getPosition).2 = col
    obtain ⟨same, valid⟩ := @typed_sameIndex screen byte row col isProtected markFieldStart
      position.isSome
    generalize screen.typed byte row col isProtected markFieldStart position.isSome = moved
      at same valid
    unfold refreshFields updateFieldContent
    rw [List.isSome_findSome?]
    cases first : moved.fields.findIdx? fun field =>
        (moved.refreshField row col field).isSome with
    | some index =>
        obtain ⟨below, found, _⟩ := List.findIdx?_eq_some_iff_getElem.mp first
        obtain ⟨new, refreshed⟩ := Option.isSome_iff_exists.mp found
        have any : (moved.fields.any fun field =>
            (moved.refreshField row col field).isSome) = true :=
          List.any_eq_true.mpr ⟨_, List.getElem_mem below, found⟩
        have set := replaceF_eq_set first (List.getElem?_eq_getElem below) refreshed
        rw [if_pos any]
        refine .replace new (by rw [← same.fields]; exact below) ⟨?_, same.fieldPositionCache,
          same.inputFieldsCache, same.rows, same.cols⟩ rfl
        show moved.fields.replaceF _ = _
        rw [set, same.fields]
    | none =>
        have none : ¬ (moved.fields.any fun field =>
            (moved.refreshField row col field).isSome) = true := by
          rw [List.findIdx?_eq_none_iff] at first
          simpa using first
        rw [if_neg none]
        simp only
        split
        · exact .detect moved (.refl _)
        · exact .keep same fun valid' => valid ▸ valid'
  · exact .keep (.refl _) id

end Write

theorem setAttribute_describes (attr : UInt8) (position : Option (Nat × Nat))
    (screen : ScreenBuffer) :
    Describes screen (screen.setAttribute attr position)
      (screen.attributeEffect position) := by
  unfold setAttribute attributeEffect
  dsimp only
  split
  · exact describes_detectUnless _ ⟨rfl, rfl, rfl, rfl, rfl⟩ nofun
  · exact .keep (.refl _) id

theorem operate_describes (operation : ScreenOperation) (screen : ScreenBuffer)
    (pen : ∀ row col, operation ≠ .selectLightPen row col) :
    Describes screen (screen.operate operation) (screen.operationEffect operation) := by
  cases operation with
  | writeChar byte position isProtected circumventProtection markFieldStart =>
      exact writeChar_describes _ _ _ _ _
  | setAttribute attr position => exact setAttribute_describes _ _ _
  | setExtendedAttribute row col attrType value =>
      simp only [operate, setExtendedAttribute, operationEffect]
      split
      · exact describes_detectUnless _ ⟨rfl, rfl, rfl, rfl, rfl⟩ id
      · exact .keep (.refl _) id
  | beginBulkUpdate => exact .keep ⟨rfl, rfl, rfl, rfl, rfl⟩ id
  | endBulkUpdate =>
      exact describes_detectUnless _ ⟨rfl, rfl, rfl, rfl, rfl⟩ id
  | selectLightPen row col => exact absurd rfl (pen row col)
  | setPosition row col => exact .keep ⟨rfl, rfl, rfl, rfl, rfl⟩ id
  | moveCursorToFirstInputField =>
      simp only [operate, moveCursorToFirstInputField]
      split <;> exact .keep ⟨rfl, rfl, rfl, rfl, rfl⟩ id
  | moveCursorToNextInputField =>
      simp only [operate, moveCursorToNextInputField]
      split <;> exact .keep ⟨rfl, rfl, rfl, rfl, rfl⟩ id

theorem SameIndex.trans {first second third : ScreenBuffer}
    (left : SameIndex first second) (right : SameIndex second third) :
    SameIndex first third :=
  ⟨right.fields.trans left.fields,
    right.fieldPositionCache.trans left.fieldPositionCache,
    right.inputFieldsCache.trans left.inputFieldsCache,
    right.rows.trans left.rows, right.cols.trans left.cols⟩

/-- While detection is suspended, attributes only drop the validity of the caches. -/
theorem repeatCells_sameIndex (attr : UInt8) (count : Nat) {screen : ScreenBuffer}
    (suspended : screen.suspendFieldDetection ≠ 0) :
    SameIndex screen (screen.repeatCells attr count) ∧
      (screen.repeatCells attr count).suspendFieldDetection =
        screen.suspendFieldDetection ∧
      ((screen.repeatCells attr count).navigationCacheValid = true →
        screen.navigationCacheValid = true) := by
  induction count generalizing screen with
  | zero => exact ⟨.refl _, rfl, id⟩
  | succ count ih =>
      have cell : SameIndex screen ((screen.setAttribute attr none).advanceCursor 1) ∧
          (screen.setAttribute attr none).suspendFieldDetection =
            screen.suspendFieldDetection ∧
          ((screen.setAttribute attr none).navigationCacheValid = true →
            screen.navigationCacheValid = true) := by
        unfold setAttribute
        dsimp only
        rw [if_neg suspended]
        split
        · exact ⟨⟨rfl, rfl, rfl, rfl, rfl⟩, rfl, nofun⟩
        · exact ⟨⟨rfl, rfl, rfl, rfl, rfl⟩, rfl, id⟩
      obtain ⟨same, kept, valid⟩ := cell
      have later := @ih ((screen.setAttribute attr none).advanceCursor 1)
        (fun resumed => suspended (kept.symm.trans resumed))
      exact ⟨same.trans later.1, later.2.1.trans kept, fun last => valid (later.2.2 last)⟩

theorem mutate_describes (mutation : ScreenMutation) (screen : ScreenBuffer)
    (pen : ∀ row col, mutation ≠ .operation (.selectLightPen row col)) :
    Describes screen (screen.mutate mutation) (screen.mutationEffect mutation) := by
  cases mutation with
  | operation operation =>
      exact operate_describes operation screen fun row col same =>
        pen row col (congrArg ScreenMutation.operation same)
  | clear =>
      exact .detect { screen with
        buffer := List.replicate screen.size screen.blank
        attributes := List.replicate screen.attributes.length 0
        extendedAttributes := fun _ => none
        fieldStarts := SortedSet.empty
        lightPenSelectedPosition := none
        fields := [] } ⟨rfl, rfl, rfl, rfl, rfl⟩
  | repeatAttribute attr count =>
      obtain ⟨same, kept, valid⟩ := @repeatCells_sameIndex attr count
        screen.beginBulkUpdate (Nat.succ_ne_zero _)
      have resumed : (screen.beginBulkUpdate.repeatCells attr count).suspendFieldDetection - 1 =
          screen.suspendFieldDetection := by
        rw [kept]
        rfl
      have ended := describes_detectUnless
        ((screen.beginBulkUpdate.repeatCells attr count).suspendFieldDetection - 1)
        (⟨same.fields, same.fieldPositionCache, same.inputFieldsCache, same.rows,
          same.cols⟩ : SameIndex screen { screen.beginBulkUpdate.repeatCells attr count with
            suspendFieldDetection :=
              (screen.beginBulkUpdate.repeatCells attr count).suspendFieldDetection - 1 })
        valid
      show Describes screen _ (detectUnless screen.suspendFieldDetection)
      rw [← resumed]
      exact ended
  | updateFromStream data =>
      simp only [mutate, mutationEffect, updateFromStream]
      split
      · exact .keep (.refl _) id
      · exact .detect _ (.refl _)

end ScreenBuffer

structure TrackedScreen where
  screen : ScreenBuffer
  objects : FieldObjects

namespace TrackedScreen

/-- `get_field_at_position`, with the identity of its result. -/
def getFieldAtPosition (row col : Nat) (tracked : TrackedScreen) : Option Nat :=
  let screen := tracked.screen
  if row < screen.rows ∧ col < screen.cols then
    let pos := row * screen.cols + col
    let cached :=
      if screen.navigationCacheValid then tracked.objects.positionCache pos else none
    match cached with
    | some field => some field
    | none => tracked.objects.scan screen.cols pos
  else none

/-- The field that `move_cursor_to_first_input_field` chooses. -/
def firstInputField (tracked : TrackedScreen) : Option Nat :=
  match tracked.screen.navigationCacheValid, tracked.objects.inputCache with
  | true, field :: _ => some field
  | _, _ => tracked.objects.scanInput

/-- The tracked screen after an operation with the given effect. -/
def follow (after : ScreenBuffer) (effect : FieldEffect) (tracked : TrackedScreen) :
    TrackedScreen where
  screen := after
  objects :=
    match effect with
    | .keep => tracked.objects
    | .detect => tracked.objects.detect after.cols after.fields
    | .replace index =>
        match after.fields[index]? with
        | some field => tracked.objects.replaceAt index field
        | none => tracked.objects

/-- The objects behind the references are the fields of the screen. -/
structure Coherent (tracked : TrackedScreen) : Prop where
  fields : tracked.screen.fields = tracked.objects.fields.map tracked.objects.heap.object
  cached : ∀ pos, tracked.screen.fieldPositionCache pos =
    (tracked.objects.positionCache pos).map tracked.objects.heap.object
  inputs : tracked.screen.inputFieldsCache =
    tracked.objects.inputCache.map tracked.objects.heap.object
  fields_held : ∀ field ∈ tracked.objects.fields, tracked.objects.heap.Holds field
  cached_held : ∀ pos field, tracked.objects.positionCache pos = some field →
    tracked.objects.heap.Holds field
  inputs_held : ∀ field ∈ tracked.objects.inputCache, tracked.objects.heap.Holds field

/-- The lookups give the same elements of the list as linear searches. -/
structure AgreesWithScan (tracked : TrackedScreen) : Prop where
  lookup : ∀ row col, row < tracked.screen.rows → col < tracked.screen.cols →
    tracked.getFieldAtPosition row col =
      tracked.objects.scan tracked.screen.cols (row * tracked.screen.cols + col)
  firstInput : tracked.firstInputField = tracked.objects.scanInput

/-- A valid cache misses no field of the list. -/
def Covered (tracked : TrackedScreen) : Prop :=
  tracked.screen.navigationCacheValid = true → ∀ pos,
    tracked.objects.positionCache pos = none →
      tracked.objects.scan tracked.screen.cols pos = none

theorem agreesWithScan_of_invalid {tracked : TrackedScreen}
    (invalid : tracked.screen.navigationCacheValid = false) : tracked.AgreesWithScan where
  lookup := by
    intro row col rowInside colInside
    unfold getFieldAtPosition
    dsimp only
    rw [if_pos ⟨rowInside, colInside⟩, invalid]
    rfl
  firstInput := by
    unfold firstInputField
    rw [invalid]

theorem agreesWithScan_detect {source after : ScreenBuffer}
    (same : source.detectFields.SameIndex after) (tracked : TrackedScreen) :
    (tracked.follow after .detect).AgreesWithScan ∧ (tracked.follow after .detect).Covered := by
  have fields : after.fields = source.detectedFields := same.fields
  have cols : after.cols = source.cols := same.cols
  have cache : ∀ pos, (tracked.follow after .detect).objects.positionCache pos =
      (tracked.follow after .detect).objects.scan after.cols pos := by
    intro pos
    show (tracked.objects.detect after.cols after.fields).positionCache pos = _
    rw [fields, cols, FieldObjects.positionCache_detect]
    show _ = (tracked.objects.detect after.cols after.fields).scan source.cols pos
    rw [fields, cols]
  refine ⟨⟨fun row col rowInside colInside => ?_, ?_⟩, fun _ pos miss => ?_⟩
  · unfold getFieldAtPosition
    dsimp only
    rw [if_pos ⟨rowInside, colInside⟩, cache]
    split
    · rename_i found
      split at found
      · exact found.symm
      · cases found
    · rfl
  · have inputs : (tracked.follow after .detect).objects.inputCache.head? =
        (tracked.follow after .detect).objects.scanInput := by
      show (tracked.objects.detect after.cols after.fields).inputCache.head? =
        (tracked.objects.detect after.cols after.fields).scanInput
      rw [fields, cols, FieldObjects.inputCache_detect, List.head?_filter]
      rfl
    unfold firstInputField
    split
    · rename_i cached
      rw [← inputs, cached]
      rfl
    · rfl
  · exact (cache pos).symm.trans miss

theorem AgreesWithScan.keep {tracked : TrackedScreen} (agrees : tracked.AgreesWithScan)
    {after : ScreenBuffer} (same : tracked.screen.SameIndex after)
    (valid : after.navigationCacheValid = true →
      tracked.screen.navigationCacheValid = true) :
    (tracked.follow after .keep).AgreesWithScan := by
  cases kept : after.navigationCacheValid with
  | false => exact agreesWithScan_of_invalid kept
  | true =>
      have before := valid kept
      refine ⟨fun row col rowInside colInside => ?_, ?_⟩
      · have here := agrees.lookup row col (same.rows ▸ rowInside) (same.cols ▸ colInside)
        unfold getFieldAtPosition at here ⊢
        dsimp only [follow] at here rowInside colInside ⊢
        rw [same.rows] at rowInside
        rw [same.cols] at colInside ⊢
        rw [before] at here
        rw [same.rows, kept]
        exact here
      · have here := agrees.firstInput
        unfold firstInputField at here ⊢
        dsimp only [follow] at here ⊢
        rw [before] at here
        rw [kept]
        exact here

/-- What an effect says of an operation carries the agreement over. -/
theorem AgreesWithScan.follow {tracked : TrackedScreen} (agrees : tracked.AgreesWithScan)
    {after : ScreenBuffer} {effect : FieldEffect}
    (describes : tracked.screen.Describes after effect) :
    (tracked.follow after effect).AgreesWithScan := by
  cases describes with
  | keep same valid => exact agrees.keep same valid
  | detect source same => exact (agreesWithScan_detect same tracked).1
  | replace field below same invalid => exact agreesWithScan_of_invalid invalid

theorem Covered.follow {tracked : TrackedScreen} (covered : tracked.Covered)
    {after : ScreenBuffer} {effect : FieldEffect}
    (describes : tracked.screen.Describes after effect) :
    (tracked.follow after effect).Covered := by
  cases describes with
  | keep same valid =>
      intro kept pos miss
      show tracked.objects.scan after.cols pos = none
      rw [same.cols]
      exact covered (valid kept) pos miss
  | detect source same => exact (agreesWithScan_detect same tracked).2
  | replace field below same invalid =>
      intro kept
      exact absurd (invalid.symm.trans kept) nofun

theorem coherent_detect {source after : ScreenBuffer}
    (same : source.detectFields.SameIndex after) (tracked : TrackedScreen) :
    (tracked.follow after .detect).Coherent := by
  have cols : after.cols = source.cols := same.cols
  have fields : (tracked.follow after .detect).objects.fields.map
      (tracked.follow after .detect).objects.heap.object = source.detectedFields :=
    (FieldObjects.map_object_detect after.cols after.fields tracked.objects).trans same.fields
  have held : ∀ field ∈ (tracked.follow after .detect).objects.fields,
      (tracked.follow after .detect).objects.heap.Holds field :=
    fun field member => FieldObjects.holds_detect after.cols after.fields tracked.objects member
  refine ⟨same.fields.trans fields.symm, fun pos => ?_, ?_, held, ?_, ?_⟩
  · show after.fieldPositionCache pos = _
    rw [same.fieldPositionCache]
    show source.detectedFields.reverse.find? _ = _
    rw [← fields, ← List.map_reverse, List.find?_map, ← cols]
    rfl
  · show after.inputFieldsCache = _
    rw [same.inputFieldsCache]
    show ScreenBuffer.sortByStart source.cols (source.detectedFields.filter _) = _
    unfold ScreenBuffer.sortByStart
    rw [← fields, List.filter_map, ← cols]
    exact (List.map_insertionSort
      (fun left right =>
        ((tracked.follow after .detect).objects.heap.object left).startIndex after.cols ≤
          ((tracked.follow after .detect).objects.heap.object right).startIndex after.cols)
      (fun left right : Field => left.startIndex after.cols ≤ right.startIndex after.cols)
      _ _ fun _ _ _ _ => Iff.rfl).symm
  · intro pos field cached
    exact held field (List.mem_reverse.mp (List.mem_of_find?_eq_some cached))
  · intro field member
    exact held field (List.mem_filter.mp ((List.mem_insertionSort _).mp member)).1

theorem Coherent.map_replaceAt {tracked : TrackedScreen} (coherent : tracked.Coherent)
    (index : Nat) (field : Field) :
    (tracked.objects.replaceAt index field).fields.map
        (tracked.objects.replaceAt index field).heap.object =
      tracked.screen.fields.set index field := by
  show (tracked.objects.fields.set index tracked.objects.heap.next).map
    (tracked.objects.heap.allocate field).object = _
  rw [List.map_set, ObjectHeap.object_allocate, coherent.fields]
  congr 1
  exact List.map_congr_left fun reference member =>
    (coherent.fields_held reference member).object_allocate field

/-- Replacing an element leaves the caches with the old object. -/
theorem Coherent.replaceAt {tracked : TrackedScreen} (coherent : tracked.Coherent)
    {after : ScreenBuffer} {index : Nat} {field : Field}
    (same : ScreenBuffer.SameIndex
      { tracked.screen with fields := tracked.screen.fields.set index field } after) :
    Coherent { screen := after, objects := tracked.objects.replaceAt index field } := by
  have kept : ∀ reference, tracked.objects.heap.Holds reference →
      (tracked.objects.heap.allocate field).object reference =
        tracked.objects.heap.object reference :=
    fun reference holds => holds.object_allocate field
  refine ⟨same.fields.trans (coherent.map_replaceAt index field).symm,
    fun pos => ?_, ?_, ?_, ?_, ?_⟩
  · show after.fieldPositionCache pos = (tracked.objects.positionCache pos).map
      (tracked.objects.heap.allocate field).object
    rw [same.fieldPositionCache]
    refine (coherent.cached pos).trans ?_
    cases cached : tracked.objects.positionCache pos with
    | none => rfl
    | some reference =>
        exact congrArg some (kept reference (coherent.cached_held pos reference cached)).symm
  · show after.inputFieldsCache = tracked.objects.inputCache.map
      (tracked.objects.heap.allocate field).object
    rw [same.inputFieldsCache]
    refine coherent.inputs.trans ?_
    exact List.map_congr_left fun reference member =>
      (kept reference (coherent.inputs_held reference member)).symm
  · intro reference member
    rcases List.mem_or_eq_of_mem_set member with earlier | rfl
    · exact (coherent.fields_held reference earlier).allocate field
    · exact tracked.objects.heap.holds_next field
  · exact fun pos reference cached =>
      (coherent.cached_held pos reference cached).allocate field
  · exact fun reference member => (coherent.inputs_held reference member).allocate field

theorem Coherent.follow {tracked : TrackedScreen} (coherent : tracked.Coherent)
    {after : ScreenBuffer} {effect : FieldEffect}
    (describes : tracked.screen.Describes after effect) :
    (tracked.follow after effect).Coherent := by
  cases describes with
  | keep same valid =>
      exact ⟨same.fields.trans coherent.fields,
        fun pos => (congrFun same.fieldPositionCache pos).trans (coherent.cached pos),
        same.inputFieldsCache.trans coherent.inputs, coherent.fields_held,
        coherent.cached_held, coherent.inputs_held⟩
  | detect source same => exact coherent_detect same tracked
  | @replace index field below same invalid =>
      have here : after.fields[index]? = some field := by
        rw [same.fields]
        exact List.getElem?_set_self below
      have followed : tracked.follow after (.replace index) =
          { screen := after, objects := tracked.objects.replaceAt index field } := by
        unfold TrackedScreen.follow
        dsimp only
        rw [here]
      rw [followed]
      exact coherent.replaceAt same

end TrackedScreen

end Pure3270
