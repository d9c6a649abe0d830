import Pure3270.Foundations.Runs
import Pure3270.Emulation.FieldWrites
import Pure3270.Emulation.ScreenOperations
import Pure3270.Protocol.ParserErrors
import Pure3270.Protocol.ParserSafety

/-!
# The spans of fields

Detection cuts the screen at the field starts.  Every operation either
detects the fields again or leaves the starts alone, except a write that marks
a new start where a field is already found.
-/

namespace Pure3270

open Foundations

namespace Field

/-- First and last linear position. -/
def span (cols : Nat) (field : Field) : Nat × Nat :=
  (field.startIndex cols, field.endIndex cols)

end Field

namespace ScreenBuffer

def spans (screen : ScreenBuffer) : List (Nat × Nat) :=
  screen.fields.map (Field.span screen.cols)

/-- Outside a bulk update the fields are the ranges between the field starts. -/
def FieldsFollowStarts (screen : ScreenBuffer) : Prop :=
  screen.suspendFieldDetection = 0 →
    screen.spans = ranges (screen.size - 1) screen.fieldStarts.toList

theorem calculateCoords_index (index : Nat) (screen : ScreenBuffer) :
    (screen.calculateCoords index).1 * screen.cols +
      (screen.calculateCoords index).2 = index := by
  unfold calculateCoords
  rw [Nat.mul_comm]
  exact Nat.div_add_mod index screen.cols

theorem calculateCoords_le {first last : Nat} (screen : ScreenBuffer)
    (ordered : first ≤ last) :
    Position.le (screen.calculateCoords first) (screen.calculateCoords last) := by
  have row : first / screen.cols ≤ last / screen.cols :=
    Nat.div_le_div_right ordered
  have firstIndex := calculateCoords_index first screen
  have lastIndex := calculateCoords_index last screen
  rcases Nat.lt_or_eq_of_le row with below | same
  · exact .inl below
  · refine .inr ⟨same, ?_⟩
    simp only [calculateCoords] at *
    rw [same] at firstIndex
    omega

theorem createFieldFromRange_span {screen : ScreenBuffer} {range : Nat × Nat}
    (ordered : range.1 ≤ range.2) :
    ∃ field, screen.createFieldFromRange range.1 range.2 = some field ∧
      field.span screen.cols = range := by
  unfold createFieldFromRange
  rw [if_neg (by omega)]
  refine ⟨_, rfl, ?_⟩
  have start : ∀ params : FieldParams,
      params.start = screen.calculateCoords range.1 →
      params.finish = screen.calculateCoords range.2 →
      (Field.init params).span screen.cols = range := by
    intro params first last
    have inOrder : Position.le params.start params.finish := by
      rw [first, last]
      exact calculateCoords_le screen ordered
    unfold Field.span Field.startIndex Field.endIndex
    rw [Field.init_start inOrder, first, last, calculateCoords_index, calculateCoords_index]
  apply start
  · simp only [applyExtended_start]
    cases screen.attributes[range.1 * 3]? <;> rfl
  · simp only [applyExtended_finish]
    cases screen.attributes[range.1 * 3]? <;> rfl

theorem createFieldFromRange_ordered {screen : ScreenBuffer} {range : Nat × Nat}
    {field : Field} (created : screen.createFieldFromRange range.1 range.2 = some field) :
    range.1 ≤ range.2 ∧ field.span screen.cols = range := by
  have ordered : range.1 ≤ range.2 := by
    by_contra backwards
    unfold createFieldFromRange at created
    rw [if_pos (Nat.lt_of_not_le backwards)] at created
    cases created
  obtain ⟨other, made, span⟩ := @createFieldFromRange_span screen range ordered
  cases made.symm.trans created
  exact ⟨ordered, span⟩

theorem detectedFields_range {screen : ScreenBuffer} {field : Field}
    (detected : field ∈ screen.detectedFields) :
    field.span screen.cols ∈ ranges (screen.size - 1) screen.fieldStarts.toList ∧
      field.startIndex screen.cols ≤ field.endIndex screen.cols ∧
      screen.createFieldFromRange (field.startIndex screen.cols)
        (field.endIndex screen.cols) = some field := by
  obtain ⟨range, member, created⟩ := List.mem_filterMap.mp detected
  obtain ⟨ordered, span⟩ := createFieldFromRange_ordered created
  obtain ⟨start, finish⟩ := Prod.mk.inj span
  refine ⟨span ▸ member, ?_, ?_⟩
  · rw [start, finish]
    exact ordered
  · rw [start, finish]
    exact created

theorem map_detectedFields {β : Type} {screen : ScreenBuffer} {read : Field → β}
    {expected : Nat × Nat → β} (starts : ∀ start ∈ screen.fieldStarts, start < screen.size)
    (agrees : ∀ range field, screen.createFieldFromRange range.1 range.2 = some field →
      read field = expected range) :
    screen.detectedFields.map read =
      (ranges (screen.size - 1) screen.fieldStarts.toList).map expected := by
  have bounded : ∀ start ∈ screen.fieldStarts.toList, start ≤ screen.size - 1 :=
    fun start member => Nat.le_sub_one_of_lt (starts start member)
  have ordered : ∀ range ∈ ranges (screen.size - 1) screen.fieldStarts.toList,
      range.1 ≤ range.2 :=
    fun range member => (ranges_bounded screen.fieldStarts.increasing bounded member).1
  unfold detectedFields
  generalize ranges (screen.size - 1) screen.fieldStarts.toList = all at ordered
  induction all with
  | nil => rfl
  | cons range rest ih =>
      obtain ⟨field, created, _⟩ :=
        @createFieldFromRange_span screen range (ordered range List.mem_cons_self)
      rw [List.filterMap_cons]
      simp only [created]
      rw [List.map_cons, List.map_cons, agrees range field created,
        ih fun other member => ordered other (List.mem_cons_of_mem _ member)]

theorem detectFields_spans {screen : ScreenBuffer}
    (starts : ∀ start ∈ screen.fieldStarts, start < screen.size) :
    screen.detectFields.spans =
      ranges (screen.size - 1) screen.fieldStarts.toList := by
  show (screen.detectedFields.map (Field.span screen.cols)) = _
  rw [map_detectedFields starts fun range field created =>
    (createFieldFromRange_ordered created).2]
  exact List.map_id' _

theorem FieldsFollowStarts.detectFields {screen : ScreenBuffer}
    (starts : ∀ start ∈ screen.fieldStarts, start < screen.size) :
    screen.detectFields.FieldsFollowStarts :=
  fun _ => detectFields_spans starts

theorem consecutive_of_spans {rows cols first last : Nat} {rest : List Nat}
    {fields : List Field} (last_pos : 0 < last)
    (increasing : (first :: rest).Pairwise (· < ·))
    (inside : ∀ field ∈ fields, field.InBounds rows cols)
    (spans : fields.map (Field.span cols) = ranges (last - 1) (first :: rest)) :
    Consecutive rows cols first last fields := by
  induction rest generalizing first fields with
  | nil =>
      obtain ⟨field, rfl, span⟩ : ∃ field, fields = [field] ∧
          field.span cols = (first, last - 1) := by
        simpa [ranges, List.map_eq_singleton_iff] using spans
      obtain ⟨start, finish⟩ := Prod.mk.inj span
      refine ⟨inside field (by simp), start, ?_⟩
      show field.endIndex cols + 1 = last
      omega
  | cons next rest ih =>
      obtain ⟨field, others, rfl, span, later⟩ := List.map_eq_cons_iff.mp spans
      obtain ⟨start, finish⟩ := Prod.mk.inj span
      have following := (List.pairwise_cons.mp increasing).1 next (by simp)
      have behind := ih (List.pairwise_cons.mp increasing).2
        (fun other member => inside other (List.mem_cons_of_mem _ member)) later
      refine ⟨inside field (by simp), start, ?_⟩
      have end_next : field.endIndex cols + 1 = next := by omega
      rw [end_next]
      exact behind

/-- Everything but the cursor is as it should be.  Only the fallback parser, on
a screen of one cell, moves the cursor off the screen. -/
def Sound (screen : ScreenBuffer) : Prop :=
  (screen.moveCursorTo (0, 0)).Valid

theorem Valid.sound {screen : ScreenBuffer} (valid : screen.Valid) : screen.Sound :=
  valid.moveCursorTo screen.rows_pos screen.cols_pos

theorem Sound.of_moved {screen other : ScreenBuffer} (valid : other.Valid)
    (same : screen.moveCursorTo (0, 0) = other.moveCursorTo (0, 0)) :
    screen.Sound := by
  unfold Sound
  rw [same]
  exact valid.sound

theorem Sound.moved {screen : ScreenBuffer} (sound : screen.Sound) :
    (screen.moveCursorTo (0, 0)).Valid :=
  sound

theorem Sound.starts_lt {screen : ScreenBuffer} (sound : screen.Sound) :
    ∀ start ∈ screen.fieldStarts, start < screen.size :=
  sound.moved.starts_lt

theorem Sound.fields_inBounds {screen : ScreenBuffer} (sound : screen.Sound) :
    ∀ field ∈ screen.fields, field.InBounds screen.rows screen.cols :=
  sound.moved.fields_inBounds

theorem Sound.fieldsPartition {screen : ScreenBuffer} (sound : screen.Sound)
    (follows : screen.FieldsFollowStarts) (resumed : screen.suspendFieldDetection = 0)
    (home : 0 ∈ screen.fieldStarts) : screen.FieldsPartition := by
  have spans := follows resumed
  have increasing := screen.fieldStarts.increasing
  rw [SortedSet.mem_iff] at home
  cases starts : screen.fieldStarts.toList with
  | nil =>
      rw [starts] at home
      cases home
  | cons first rest =>
      rw [starts] at spans increasing home
      have least : first = 0 := by
        rcases List.mem_cons.mp home with same | later
        · exact same.symm
        · have := (List.pairwise_cons.mp increasing).1 0 later
          omega
      subst least
      exact consecutive_of_spans screen.size_pos increasing sound.fields_inBounds spans

theorem Sound.detectFields {screen : ScreenBuffer} (sound : screen.Sound) :
    screen.detectFields.Sound :=
  Sound.of_moved sound.moved.detectFields rfl

private theorem typed_moveCursorTo (byte : UInt8) (row col : Nat)
    (isProtected markFieldStart explicitPosition : Bool) (screen : ScreenBuffer)
    (position : Nat × Nat) :
    (screen.typed byte row col isProtected markFieldStart
        explicitPosition).moveCursorTo position =
      ((screen.moveCursorTo position).typed byte row col isProtected
        markFieldStart true).moveCursorTo position := by
  cases markFieldStart <;> cases explicitPosition <;> rfl

private theorem refreshFields_moveCursorTo (row col : Nat) (screen : ScreenBuffer)
    (position : Nat × Nat) :
    (screen.refreshFields row col).moveCursorTo position =
      ((screen.moveCursorTo position).refreshFields row col) := by
  have same : (screen.moveCursorTo position).refreshField row col =
      screen.refreshField row col := rfl
  have fields : (screen.moveCursorTo position).fields = screen.fields := rfl
  unfold refreshFields updateFieldContent
  rw [same, fields]
  by_cases found : (screen.fields.findSome? (screen.refreshField row col)).isSome = true
  · rw [if_pos found, if_pos found]
    rfl
  · rw [if_neg found, if_neg found]
    simp only
    split
    · rename_i detects
      rw [if_pos (by exact detects)]
      rfl
    · rename_i stays
      rw [if_neg (by exact stays)]

theorem Sound.writeChar {screen : ScreenBuffer} (sound : screen.Sound)
    (byte : UInt8) (position : Option (Nat × Nat))
    (isProtected circumventProtection markFieldStart : Bool) :
    (screen.writeChar byte position isProtected circumventProtection
      markFieldStart).Sound := by
  have there := sound.moved.writeChar byte
    (some (position.getD screen.getPosition)) isProtected circumventProtection
    markFieldStart
  refine Sound.of_moved there ?_
  rw [writeChar_eq, writeChar_eq, Option.getD_some]
  by_cases accepted : screen.Accepts (position.getD screen.getPosition).1
      (position.getD screen.getPosition).2 circumventProtection
  · rw [if_pos accepted, if_pos (by exact accepted), refreshFields_moveCursorTo,
      refreshFields_moveCursorTo, typed_moveCursorTo]
    rfl
  · rw [if_neg accepted, if_neg (by exact accepted)]
    rfl

theorem Sound.setAttribute {screen : ScreenBuffer} (sound : screen.Sound)
    (attr : UInt8) (position : Option (Nat × Nat)) :
    (screen.setAttribute attr position).Sound := by
  refine Sound.of_moved (sound.moved.setAttribute attr
    (some (position.getD screen.getPosition))) ?_
  unfold ScreenBuffer.setAttribute
  simp only [apply_ite (moveCursorTo (0, 0)), Option.getD_some]
  rfl

theorem Valid.setExtendedAttribute {screen : ScreenBuffer} (valid : screen.Valid)
    (row col : Nat) (attrType : AttributeType) (value : Nat) :
    (screen.setExtendedAttribute row col attrType value).Valid := by
  unfold ScreenBuffer.setExtendedAttribute
  split
  · rename_i inside
    have marked := valid.insertFieldStart (address_lt inside.1 inside.2)
    simp only
    split
    · exact Valid.detectFields { marked with }
    · exact { marked with }
  · exact valid

theorem Sound.setExtendedAttribute {screen : ScreenBuffer} (sound : screen.Sound)
    (row col : Nat) (attrType : AttributeType) (value : Nat) :
    (screen.setExtendedAttribute row col attrType value).Sound := by
  refine Sound.of_moved (sound.moved.setExtendedAttribute row col attrType value) ?_
  unfold ScreenBuffer.setExtendedAttribute
  simp only [apply_ite (moveCursorTo (0, 0))]
  rfl

theorem Sound.endBulkUpdate {screen : ScreenBuffer} (sound : screen.Sound) :
    screen.endBulkUpdate.Sound := by
  refine Sound.of_moved sound.moved.endBulkUpdate ?_
  unfold ScreenBuffer.endBulkUpdate
  simp only [apply_ite (moveCursorTo (0, 0))]
  rfl

theorem Sound.repeatCells {screen : ScreenBuffer} (sound : screen.Sound)
    (attr : UInt8) (count : Nat) : (screen.repeatCells attr count).Sound := by
  induction count generalizing screen with
  | zero => exact sound
  | succ count ih => exact ih (sound.setAttribute attr none)

theorem inBounds_replaceSelected {rows cols : Nat} {field : Field}
    (inside : field.InBounds rows cols) : field.replaceSelected.InBounds rows cols :=
  Field.inBounds_init inside.1 inside.2

theorem getFieldAtPosition_inBounds {screen : ScreenBuffer} (sound : screen.Sound)
    {row col : Nat} {field : Field}
    (found : screen.getFieldAtPosition row col = some field) :
    field.InBounds screen.rows screen.cols := by
  unfold getFieldAtPosition at found
  split at found
  · simp only at found
    split at found
    · rename_i cached
      cases found
      split at cached
      · exact sound.moved.cache_inBounds _ _ cached
      · cases cached
    · exact sound.fields_inBounds _ (List.mem_of_find?_eq_some found)
  · cases found

theorem Sound.selectLightPen {screen : ScreenBuffer} (sound : screen.Sound)
    (row col : Nat) : (screen.selectLightPen row col).1.Sound := by
  have detected := sound.detectFields
  unfold ScreenBuffer.selectLightPen
  simp only
  split
  · exact detected
  · rename_i field found
    split
    · have inside := getFieldAtPosition_inBounds detected found
      refine { detected.moved with
        buffer_length := ?_
        fields_inBounds := ?_ }
      · have length := detected.moved.buffer_length
        simp only [moveCursorTo, size] at length ⊢
        split
        · rw [List.length_set]
          exact length
        · exact length
      · intro other member
        simp only [moveCursorTo] at member
        rcases List.exists_or_eq_self_of_replaceF
          (fun other => if other = field then some field.replaceSelected else none)
          screen.detectFields.fields with same | ⟨old, new, front, back, _, found,
            split, replaced⟩
        · rw [same] at member
          exact detected.fields_inBounds other member
        · rw [replaced, List.mem_append, List.mem_cons] at member
          have old := detected.fields_inBounds
          rw [split] at old
          rcases member with early | rfl | late
          · exact old other (by simp [early])
          · split at found
            · cases found
              exact inBounds_replaceSelected inside
            · cases found
          · exact old other (by simp [late])
    · exact detected

theorem Sound.operate {screen : ScreenBuffer} (sound : screen.Sound)
    (operation : ScreenOperation) : (screen.operate operation).Sound := by
  cases operation with
  | writeChar byte position isProtected circumventProtection markFieldStart =>
      exact sound.writeChar _ _ _ _ _
  | setAttribute attr position => exact sound.setAttribute _ _
  | setExtendedAttribute row col attrType value =>
      exact sound.setExtendedAttribute _ _ _ _
  | beginBulkUpdate => exact Sound.of_moved sound.moved.beginBulkUpdate rfl
  | endBulkUpdate => exact sound.endBulkUpdate
  | selectLightPen row col => exact sound.selectLightPen _ _
  | setPosition row col => exact Sound.of_moved sound.moved rfl
  | moveCursorToFirstInputField =>
      simp only [ScreenBuffer.operate, ScreenBuffer.moveCursorToFirstInputField]
      split <;> exact Sound.of_moved sound.moved rfl
  | moveCursorToNextInputField =>
      simp only [ScreenBuffer.operate, ScreenBuffer.moveCursorToNextInputField]
      split <;> exact Sound.of_moved sound.moved rfl

private theorem prepare_moveCursorTo (bulkMode : Bool) (data : List UInt8)
    (screen : ScreenBuffer) :
    DataStreamParser.prepare bulkMode data
        (DataStreamParser.init screen none false .mode12Bit) =
      DataStreamParser.prepare bulkMode data
        (DataStreamParser.init (screen.moveCursorTo (0, 0)) none false .mode12Bit) := by
  cases bulkMode <;> rfl

theorem parse_moveCursorTo (data : List UInt8) (screen : ScreenBuffer) :
    DataStreamParser.parse data 0x00
        (DataStreamParser.init screen none false .mode12Bit) =
      DataStreamParser.parse data 0x00
        (DataStreamParser.init (screen.moveCursorTo (0, 0)) none false .mode12Bit) := by
  rw [DataStreamParser.parse_tn3270, DataStreamParser.parse_tn3270,
    prepare_moveCursorTo]

theorem Sound.parse {screen : ScreenBuffer} (sound : screen.Sound)
    (data : List UInt8) :
    (finalState (DataStreamParser.parse data 0x00
      (DataStreamParser.init screen none false .mode12Bit))).screen.Valid := by
  have start : (DataStreamParser.init (screen.moveCursorTo (0, 0)) none false
      .mode12Bit).screen.Valid := sound
  rw [parse_moveCursorTo]
  exact (DataStreamParser.parse_valid start data 0x00).2.1

theorem Sound.fallbackData {screen : ScreenBuffer} (sound : screen.Sound)
    (byte : UInt8) : (screen.fallbackData byte).Sound := by
  unfold ScreenBuffer.fallbackData
  split
  · have stored : Valid { screen.moveCursorTo (0, 0) with
        buffer := screen.buffer.set screen.cursorAddress byte } :=
      { sound.moved with
        buffer_length := by
          simp only [List.length_set]
          exact sound.moved.buffer_length }
    exact Sound.of_moved stored rfl
  · exact sound

theorem Sound.parseWithFallback {screen : ScreenBuffer} (sound : screen.Sound)
    {command : UInt8} (erase : DataStreamParser.isEraseWriteCommand command = true) :
    (screen.parseWithFallback [command]).Sound := by
  have different : command ≠ 0x05 ∧ command ≠ 0x11 ∧ command ≠ 0x1D := by
    refine ⟨?_, ?_, ?_⟩ <;> rintro rfl <;> cases erase
  simp only [ScreenBuffer.parseWithFallback, if_neg different.1,
    if_neg different.2.1, if_neg different.2.2]
  split
  · exact sound
  · exact sound.fallbackData command

theorem Sound.updateFromStream {screen : ScreenBuffer} (sound : screen.Sound)
    {data : List UInt8} (nonempty : data ≠ []) :
    ∃ updated : ScreenBuffer, updated.Sound ∧
      screen.updateFromStream data = updated.detectFields := by
  have cleared : Sound { screen with fieldStarts := SortedSet.empty } := by
    have moved : Valid { screen.moveCursorTo (0, 0) with
        fieldStarts := SortedSet.empty } := { sound.moved with starts_lt := by simp }
    exact Sound.of_moved moved rfl
  unfold ScreenBuffer.updateFromStream
  rw [if_neg nonempty]
  refine ⟨_, ?_, rfl⟩
  split
  · rename_i simple
    have first : 0 < (screen.moveCursorTo (0, 0)).size := screen.size_pos
    have stored : Valid { screen.moveCursorTo (0, 0) with
        buffer := data ++ screen.buffer.drop data.length
        fieldStarts := SortedSet.empty.insert 0 } :=
      { cleared.moved.insertFieldStart first with
        buffer_length := by
          have length := sound.moved.buffer_length
          simp only [moveCursorTo, size] at length simple ⊢
          rw [List.length_append, List.length_drop, length]
          omega }
    exact Sound.of_moved stored rfl
  · have parsed := cleared.parse data
    split
    · rename_i outcome
      rw [outcome] at parsed
      exact parsed.sound
    · rename_i outcome
      rw [outcome] at parsed
      obtain ⟨command, rfl, erase⟩ := DataStreamParser.parse_raises rfl outcome
      exact parsed.sound.parseWithFallback erase

/-- The operations after which the fields are to follow the starts. -/
inductive ScreenMutation where
  | operation (operation : ScreenOperation)
  | clear
  | repeatAttribute (attr : UInt8) (count : Nat)
  | updateFromStream (data : List UInt8)
  deriving DecidableEq

def mutate : ScreenMutation → ScreenBuffer → ScreenBuffer
  | .operation operation => operate operation
  | .clear => clear
  | .repeatAttribute attr count => repeatAttribute attr count
  | .updateFromStream data => updateFromStream data

theorem Sound.mutate {screen : ScreenBuffer} (sound : screen.Sound)
    (mutation : ScreenMutation) : (screen.mutate mutation).Sound := by
  cases mutation with
  | operation operation => exact sound.operate operation
  | clear => exact Sound.of_moved sound.moved.clear rfl
  | repeatAttribute attr count =>
      have begun : screen.beginBulkUpdate.Sound :=
        Sound.of_moved sound.moved.beginBulkUpdate rfl
      exact (begun.repeatCells attr count).endBulkUpdate
  | updateFromStream data =>
      by_cases empty : data = []
      · simp only [ScreenBuffer.mutate, ScreenBuffer.updateFromStream, if_pos empty]
        exact sound
      · obtain ⟨updated, kept, same⟩ := sound.updateFromStream empty
        simp only [ScreenBuffer.mutate, same]
        exact kept.detectFields

/-- The write of a mark leaves the fields behind unless it marks a position
that is a start already or the write detects the fields again. -/
def MarksInPlace : ScreenMutation → ScreenBuffer → Prop
  | .operation (.writeChar _ position _ circumventProtection true), screen =>
      let target := position.getD screen.getPosition
      screen.suspendFieldDetection = 0 →
        screen.Accepts target.1 target.2 circumventProtection →
          target.1 * screen.cols + target.2 ∈ screen.fieldStarts ∨
            screen.Redetects target.1 target.2
  | _, _ => True

/-- What replacements keep of a field stays the same all over the list. -/
theorem map_replaceF {β : Type} {view : Field → β} {replace : Field → Option Field}
    (kept : ∀ field new, replace field = some new → view new = view field)
    (fields : List Field) : (fields.replaceF replace).map view = fields.map view := by
  rcases List.exists_or_eq_self_of_replaceF replace fields with
    same | ⟨old, new, front, back, _, found, split, replaced⟩
  · rw [same]
  · rw [replaced, split, List.map_append, List.map_append, List.map_cons,
      List.map_cons, kept old new found]

theorem span_init (params : FieldParams) (cols : Nat)
    (ordered : Position.le params.start params.finish) :
    (Field.init params).span cols =
      (params.start.1 * cols + params.start.2,
        params.finish.1 * cols + params.finish.2) := by
  unfold Field.span Field.startIndex Field.endIndex
  rw [Field.init_start ordered]

@[simp] theorem span_replaceContent (content : List UInt8) (field : Field)
    (cols : Nat) : (field.replaceContent content).span cols = field.span cols :=
  span_init _ _ field.ordered

@[simp] theorem startIndex_replaceContent (content : List UInt8) (field : Field)
    (cols : Nat) : (field.replaceContent content).startIndex cols =
      field.startIndex cols :=
  congrArg Prod.fst (span_replaceContent content field cols)

@[simp] theorem replaceContent_modified (content : List UInt8) (field : Field) :
    (field.replaceContent content).modified = true :=
  congrArg FieldParams.modified (Field.replaceContent_toFieldParams content field)

theorem span_refreshField {screen : ScreenBuffer} {row col : Nat}
    (field new : Field) (found : screen.refreshField row col field = some new) :
    new.span screen.cols = field.span screen.cols := by
  unfold refreshField at found
  split at found
  · simp only at found
    split at found
    · cases found
    · cases found
      exact span_replaceContent _ field screen.cols
  · cases found

theorem replaceSelected_toFieldParams (field : Field) :
    field.replaceSelected.toFieldParams =
      { field.toFieldParams with
        bypass := false
        hidden := false
        codepage := "cp037"
        selected := true } :=
  Field.init_start field.ordered

theorem span_replaceSelected (field : Field) (cols : Nat) :
    field.replaceSelected.span cols = field.span cols :=
  span_init _ cols field.ordered

theorem selected_kept {field other new : Field}
    (found : (if other = field then some field.replaceSelected else none) = some new) :
    (∀ cols, new.span cols = other.span cols) ∧ new.modified = other.modified := by
  split at found
  · rename_i same
    cases found
    subst same
    refine ⟨span_replaceSelected other, ?_⟩
    rw [replaceSelected_toFieldParams]
  · cases found

theorem writeChar_spans {screen : ScreenBuffer} (sound : screen.Sound)
    {byte : UInt8} {position : Option (Nat × Nat)}
    {isProtected circumventProtection markFieldStart : Bool} {row col : Nat}
    (target : position.getD screen.getPosition = (row, col))
    (accepted : screen.Accepts row col circumventProtection)
    (stays : ¬ screen.Redetects row col) :
    (screen.writeChar byte position isProtected circumventProtection
      markFieldStart).FieldsFollowStarts ↔
      (screen.suspendFieldDetection = 0 →
        screen.spans = ranges (screen.size - 1)
          (if markFieldStart then
            screen.fieldStarts.insert (row * screen.cols + col)
          else screen.fieldStarts).toList) := by
  rw [writeChar_eq, target, if_pos accepted]
  obtain ⟨valid, refreshed⟩ := @refreshFields_of_stays
    (screen.typed byte row col isProtected markFieldStart position.isSome) row col
    (by simpa using sound.fields_inBounds) (mt typed_redetects_iff.mp stays)
  rw [refreshed]
  unfold FieldsFollowStarts spans
  simp only [typed_suspendFieldDetection, typed_cols, typed_fields, typed_fieldStarts]
  have kept : ∀ field new, (screen.typed byte row col isProtected markFieldStart
      position.isSome).refreshField row col field = some new →
        new.span screen.cols = field.span screen.cols := by
    intro field new found
    simpa using span_refreshField field new found
  rw [map_replaceF kept]
  have size : ∀ other : ScreenBuffer, other.rows = screen.rows →
      other.cols = screen.cols → other.size = screen.size := by
    intro other rows cols
    rw [ScreenBuffer.size, ScreenBuffer.size, rows, cols]
  rw [size _ (by simp) (by simp)]

theorem writeChar_redetects {screen : ScreenBuffer} (sound : screen.Sound)
    {byte : UInt8} {position : Option (Nat × Nat)}
    {isProtected circumventProtection markFieldStart : Bool} {row col : Nat}
    (target : position.getD screen.getPosition = (row, col))
    (accepted : screen.Accepts row col circumventProtection)
    (redetects : screen.Redetects row col) :
    (screen.writeChar byte position isProtected circumventProtection
      markFieldStart).FieldsFollowStarts := by
  have after := sound.writeChar byte position isProtected circumventProtection
    markFieldStart
  have starts := after.starts_lt
  rw [writeChar_eq, target, if_pos accepted, refreshFields_of_redetects
    (typed_redetects_iff.mpr redetects)] at starts ⊢
  exact FieldsFollowStarts.detectFields starts

theorem ranges_injective {last : Nat} {first second : List Nat}
    (same : ranges last first = ranges last second) : first = second := by
  rw [← map_fst_ranges last first, same, map_fst_ranges]

theorem writeChar_follows_iff {screen : ScreenBuffer} (sound : screen.Sound)
    (follows : screen.FieldsFollowStarts) (byte : UInt8)
    (position : Option (Nat × Nat))
    (isProtected circumventProtection markFieldStart : Bool) :
    (screen.writeChar byte position isProtected circumventProtection
      markFieldStart).FieldsFollowStarts ↔
      MarksInPlace (.operation (.writeChar byte position isProtected
        circumventProtection markFieldStart)) screen := by
  rcases target : position.getD screen.getPosition with ⟨row, col⟩
  by_cases accepted : screen.Accepts row col circumventProtection
  · by_cases redetects : screen.Redetects row col
    · have after : (screen.writeChar byte position isProtected circumventProtection
          markFieldStart).FieldsFollowStarts :=
        writeChar_redetects sound target accepted redetects
      refine ⟨fun _ => ?_, fun _ => after⟩
      cases markFieldStart with
      | false => trivial
      | true =>
          simp only [MarksInPlace, target]
          exact fun _ _ => .inr redetects
    · rw [writeChar_spans sound target accepted redetects]
      cases markFieldStart with
      | false => exact ⟨fun _ => trivial, fun _ => follows⟩
      | true =>
          simp only [MarksInPlace, target, if_true]
          constructor
          · intro after resumed _
            have same := ranges_injective ((follows resumed).symm.trans (after resumed))
            refine .inl (SortedSet.mem_iff.mpr ?_)
            rw [same]
            exact SortedSet.mem_iff.mp (by simp)
          · intro marks resumed
            rcases marks resumed accepted with member | detects
            · rw [SortedSet.insert_of_mem member]
              exact follows resumed
            · exact absurd detects redetects
  · have same : screen.writeChar byte position isProtected circumventProtection
        markFieldStart = screen := by
      rw [writeChar_eq, target, if_neg accepted]
    rw [same]
    refine ⟨fun _ => ?_, fun _ => follows⟩
    cases markFieldStart with
    | false => trivial
    | true =>
        simp only [MarksInPlace, target]
        exact fun _ here => absurd here accepted

theorem Sound.follows_detect {screen : ScreenBuffer} (sound : screen.Sound) :
    screen.detectFields.FieldsFollowStarts :=
  FieldsFollowStarts.detectFields sound.starts_lt

theorem Sound.follows_unless {screen : ScreenBuffer} (sound : screen.Sound) :
    (if screen.suspendFieldDetection = 0 then screen.detectFields
      else screen).FieldsFollowStarts := by
  split
  · exact sound.follows_detect
  · rename_i suspended
    exact fun resumed => absurd resumed suspended

theorem setAttribute_follows {screen : ScreenBuffer} (sound : screen.Sound)
    (follows : screen.FieldsFollowStarts) (attr : UInt8)
    (position : Option (Nat × Nat)) :
    (screen.setAttribute attr position).FieldsFollowStarts := by
  unfold ScreenBuffer.setAttribute
  simp only
  split
  · rename_i inside
    have stored : (screen.storeAttribute attr _).Sound :=
      Sound.of_moved (sound.moved.storeAttribute attr inside) rfl
    exact stored.follows_unless
  · exact follows

theorem setExtendedAttribute_follows {screen : ScreenBuffer} (sound : screen.Sound)
    (follows : screen.FieldsFollowStarts) (row col : Nat)
    (attrType : AttributeType) (value : Nat) :
    (screen.setExtendedAttribute row col attrType value).FieldsFollowStarts := by
  unfold ScreenBuffer.setExtendedAttribute
  split
  · rename_i inside
    have marked := sound.moved.insertFieldStart (address_lt inside.1 inside.2)
    refine Sound.follows_unless ?_
    exact { marked with }
  · exact follows

theorem Sound.endBulkUpdate_follows {screen : ScreenBuffer} (sound : screen.Sound) :
    screen.endBulkUpdate.FieldsFollowStarts := by
  have resumed : Sound { screen with
      suspendFieldDetection := screen.suspendFieldDetection - 1 } :=
    { sound.moved with }
  exact resumed.follows_unless

theorem selectLightPen_follows {screen : ScreenBuffer} (sound : screen.Sound)
    (row col : Nat) : (screen.selectLightPen row col).1.FieldsFollowStarts := by
  have detected := sound.follows_detect
  unfold ScreenBuffer.selectLightPen
  simp only
  split
  · exact detected
  · rename_i field _
    split
    · intro resumed
      refine Eq.trans ?_ (detected resumed)
      exact map_replaceF (fun other new found => (selected_kept found).1 _)
        screen.detectFields.fields
    · exact detected

theorem operate_follows_iff {screen : ScreenBuffer} (sound : screen.Sound)
    (follows : screen.FieldsFollowStarts) (operation : ScreenOperation) :
    (screen.operate operation).FieldsFollowStarts ↔
      MarksInPlace (.operation operation) screen := by
  cases operation with
  | writeChar byte position isProtected circumventProtection markFieldStart =>
      exact writeChar_follows_iff sound follows _ _ _ _ _
  | setAttribute attr position =>
      exact iff_of_true (setAttribute_follows sound follows attr position) trivial
  | setExtendedAttribute row col attrType value =>
      exact iff_of_true
        (setExtendedAttribute_follows sound follows row col attrType value) trivial
  | beginBulkUpdate => exact iff_of_true (fun resumed => by cases resumed) trivial
  | endBulkUpdate => exact iff_of_true sound.endBulkUpdate_follows trivial
  | selectLightPen row col =>
      exact iff_of_true (selectLightPen_follows sound row col) trivial
  | setPosition row col => exact iff_of_true follows trivial
  | moveCursorToFirstInputField =>
      refine iff_of_true ?_ trivial
      simp only [ScreenBuffer.operate, ScreenBuffer.moveCursorToFirstInputField]
      split <;> exact follows
  | moveCursorToNextInputField =>
      refine iff_of_true ?_ trivial
      simp only [ScreenBuffer.operate, ScreenBuffer.moveCursorToNextInputField]
      split <;> exact follows

theorem mutate_follows_iff {screen : ScreenBuffer} (sound : screen.Sound)
    (follows : screen.FieldsFollowStarts) (mutation : ScreenMutation) :
    (screen.mutate mutation).FieldsFollowStarts ↔ MarksInPlace mutation screen := by
  cases mutation with
  | operation operation => exact operate_follows_iff sound follows operation
  | clear =>
      exact iff_of_true (fun _ => rfl) trivial
  | repeatAttribute attr count =>
      have begun : screen.beginBulkUpdate.Sound :=
        Sound.of_moved sound.moved.beginBulkUpdate rfl
      exact iff_of_true (begun.repeatCells attr count).endBulkUpdate_follows trivial
  | updateFromStream data =>
      refine iff_of_true ?_ trivial
      by_cases empty : data = []
      · simp only [ScreenBuffer.mutate, ScreenBuffer.updateFromStream, if_pos empty]
        exact follows
      · obtain ⟨updated, kept, same⟩ := sound.updateFromStream empty
        simp only [ScreenBuffer.mutate, same]
        exact kept.follows_detect

/-- From a new screen the fields follow the starts after every operation of a
run exactly when every mark of the run is made in place. -/
theorem fieldsFollowStarts_iff (rows cols : Nat) (rows_pos : 0 < rows)
    (cols_pos : 0 < cols) (initValue : UInt8) (codepage : String)
    (mutations : List ScreenMutation) :
    Always mutate FieldsFollowStarts mutations
        (init rows cols rows_pos cols_pos initValue codepage) ↔
      Along mutate MarksInPlace mutations
        (init rows cols rows_pos cols_pos initValue codepage) := by
  have keeps : ∀ mutation {screen : ScreenBuffer}, screen.Sound →
      (screen.mutate mutation).Sound := fun mutation _ sound => sound.mutate mutation
  exact always_iff_along keeps
    (fun mutation _ sound follows => mutate_follows_iff sound follows mutation)
    (valid_init rows cols rows_pos cols_pos initValue codepage).sound fun _ => rfl

theorem fieldsFollowStarts_typing :
    Always mutate FieldsFollowStarts
      [.operation (.setAttribute 0x00 (some (0, 0))),
        .operation (.writeChar 0xC1 (some (0, 1)) false false false),
        .operation (.writeChar 0x40 (some (0, 0)) false true true)]
      (init 2 3 (by decide) (by decide) 0x40 "cp037") :=
  (fieldsFollowStarts_iff 2 3 (by decide) (by decide) 0x40 "cp037" _).mpr
    ⟨trivial, trivial, fun _ _ => .inl (by decide +kernel), trivial⟩

/-- A mark in the middle of a field adds a start but no field. -/
theorem not_fieldsFollowStarts_mark :
    ¬ ∀ (rows cols : Nat) (rows_pos : 0 < rows) (cols_pos : 0 < cols)
      (initValue : UInt8) (codepage : String) (mutations : List ScreenMutation),
      Always mutate FieldsFollowStarts mutations
        (init rows cols rows_pos cols_pos initValue codepage) := by
  intro claimed
  have after := claimed 2 3 (by decide) (by decide) 0x40 "cp037"
    [.operation (.setAttribute 0x00 (some (0, 0))),
      .operation (.writeChar 0xC1 (some (1, 1)) false false true)]
  have follows := after.last (by decide +kernel)
  revert follows
  decide +kernel

end ScreenBuffer

end Pure3270
