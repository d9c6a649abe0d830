import Pure3270.Session.LocalEditing

/-!
# Edited fields

A field has a copy of the bytes between its start and its end.  Detection makes
the copy, a typed character renews it in the first field that covers the
cursor, `erase_input` overwrites it, and the other operations leave it as it
is.
-/

namespace Pure3270

open Foundations

/-- The field with other bytes. -/
def Field.withContent (content : List UInt8) (field : Field) : Field :=
  { field with content, ordered := field.ordered }

namespace ScreenBuffer

theorem init_content (params : FieldParams) :
    (Field.init params).content = params.content := by
  unfold Field.init
  split <;> rfl

theorem applyExtended_content (extended : Option ExtendedAttributeSet)
    (params : FieldParams) :
    (applyExtended extended params).content = params.content := by
  unfold applyExtended
  split
  · rfl
  · split <;> rfl

theorem detectedFields_content {screen : ScreenBuffer} {field : Field}
    (detected : field ∈ screen.detectedFields) :
    field.content = contentOf screen.cols screen.buffer field := by
  obtain ⟨_, ordered, created⟩ := detectedFields_range detected
  unfold contentOf
  generalize field.startIndex screen.cols = start at ordered created ⊢
  generalize field.endIndex screen.cols = finish at ordered created ⊢
  unfold createFieldFromRange at created
  rw [if_neg (Nat.not_lt.mpr ordered)] at created
  cases created
  rw [init_content, applyExtended_content]
  cases screen.attributes[start * 3]? <;> rfl

/-- A renewed field has the bytes of its cells. -/
theorem replaceContent_shows {cols : Nat} (buffer : List UInt8) (field : Field) :
    (field.replaceContent (contentOf cols buffer field)).content =
      contentOf cols buffer (field.replaceContent (contentOf cols buffer field)) := by
  have content := congrArg FieldParams.content
    (Field.replaceContent_toFieldParams (contentOf cols buffer field) field)
  obtain ⟨start, finish⟩ := Prod.mk.inj
    (span_replaceContent (contentOf cols buffer field) field cols)
  refine content.trans ?_
  unfold contentOf at start finish ⊢
  rw [start, finish]

theorem init_withContent (content : List UInt8) (params : FieldParams) :
    Field.init { params with content } = (Field.init params).withContent content := by
  unfold Field.init
  split <;> rfl

theorem applyExtended_withContent (extended : Option ExtendedAttributeSet)
    (content : List UInt8) (params : FieldParams) :
    applyExtended extended { params with content } =
      { applyExtended extended params with content } := by
  unfold applyExtended
  split
  · rfl
  · split <;> rfl

theorem createFieldFromRange_withContent {before after : ScreenBuffer}
    (cols : after.cols = before.cols)
    (attributes : ∀ pos, after.attributes[pos * 3]? = before.attributes[pos * 3]?)
    (extended : after.extendedAttributes = before.extendedAttributes)
    (startIdx endIdx : Nat) :
    after.createFieldFromRange startIdx endIdx =
      (before.createFieldFromRange startIdx endIdx).map
        (Field.withContent (slice startIdx endIdx after.buffer)) := by
  unfold createFieldFromRange calculateCoords
  rw [cols, attributes, extended]
  split
  · rfl
  · simp only [Option.map_some, Option.some_inj]
    rw [← init_withContent, ← applyExtended_withContent]
    cases before.attributes[startIdx * 3]? <;> rfl

/-- Where two screens differ in their bytes alone, so do the detected fields. -/
theorem detectedFields_withContent {before after : ScreenBuffer}
    (starts : ∀ start ∈ before.fieldStarts, start < before.size)
    (rows : after.rows = before.rows) (cols : after.cols = before.cols)
    (attributes : ∀ pos, after.attributes[pos * 3]? = before.attributes[pos * 3]?)
    (extended : after.extendedAttributes = before.extendedAttributes)
    (sameStarts : after.fieldStarts = before.fieldStarts) :
    after.detectedFields = before.detectedFields.map fun field =>
      field.withContent (contentOf before.cols after.buffer field) := by
  have bounded : ∀ start ∈ before.fieldStarts.toList, start ≤ before.size - 1 :=
    fun start here => Nat.le_sub_one_of_lt (starts start here)
  unfold detectedFields size
  rw [rows, cols, sameStarts, List.map_filterMap]
  refine List.filterMap_congr fun range member => ?_
  have ordered := (ranges_bounded before.fieldStarts.increasing bounded member).1
  obtain ⟨field, created, span⟩ := @createFieldFromRange_span before range ordered
  obtain ⟨start, finish⟩ := Prod.mk.inj span
  rw [createFieldFromRange_withContent cols attributes extended, created,
    Option.map_some, Option.map_some, contentOf, start, finish]

/-- A write that does not protect leaves all attribute bytes as they are. -/
theorem typed_attributes {screen : ScreenBuffer} {byte : UInt8} {row col : Nat}
    {markFieldStart explicitPosition : Bool} (pos : Nat) :
    (screen.typed byte row col false markFieldStart
      explicitPosition).attributes[pos * 3]? = screen.attributes[pos * 3]? := by
  rw [typed_attribute]
  simp

/-- A property of all elements after a replacement is one of those that are not
replaced, and of what replaces the first one that is. -/
theorem forall_mem_replaceF_iff {α : Type} {replace : α → Option α}
    {test : α → Bool} {new : α → α} {P : α → Prop} {list : List α}
    (replaced : ∀ item ∈ list, replace item = if test item then some (new item) else none) :
    (∀ item ∈ list.replaceF replace, P item) ↔
      (∀ item ∈ list.eraseP test, P item) ∧
        ∀ item, list.find? test = some item → P (new item) := by
  induction list with
  | nil => simp
  | cons head tail ih =>
      have here := replaced head List.mem_cons_self
      have later := ih fun item member => replaced item (.tail _ member)
      by_cases tested : test head = true
      · rw [if_pos tested] at here
        rw [List.replaceF_cons_of_some _ here, List.eraseP_cons_of_pos tested,
          List.find?_cons_of_pos tested, List.forall_mem_cons]
        simp only [Option.some_inj, forall_eq']
        exact and_comm
      · rw [if_neg tested] at here
        rw [List.replaceF_cons_of_none _ here, List.eraseP_cons_of_neg tested,
          List.find?_cons_of_neg tested, List.forall_mem_cons, List.forall_mem_cons,
          later, and_assoc]

variable {screen : ScreenBuffer} {P : Field → Prop}

/-- The fields after a write: as they were where the write is refused, all
detected again, or all but the first one that covers the position as they
were. -/
theorem writeChar_fields_iff (valid : screen.Valid) (byte : UInt8)
    (position : Nat × Nat) (circumventProtection : Bool) :
    (∀ field ∈ (screen.writeChar byte (some position) false circumventProtection
        false).fields, P field) ↔
      if ¬ screen.Accepts position.1 position.2 circumventProtection then
        ∀ field ∈ screen.fields, P field
      else if screen.Redetects position.1 position.2 then
        ∀ field ∈ screen.detectedFields, P (field.withContent (contentOf screen.cols
          (screen.writeChar byte (some position) false circumventProtection
            false).buffer field))
      else
        (∀ field ∈ screen.fields.eraseP (coversPosition position.1 position.2),
          P field) ∧
          ∀ field, screen.fields.find? (coversPosition position.1 position.2) =
            some field →
              P (field.replaceContent (contentOf screen.cols
                (screen.writeChar byte (some position) false circumventProtection
                  false).buffer field)) := by
  rw [writeChar_eq, Option.getD_some]
  by_cases accepted : screen.Accepts position.1 position.2 circumventProtection
  case neg => rw [if_neg accepted, if_pos accepted]
  rw [if_pos accepted, if_neg (not_not.mpr accepted)]
  generalize typedEq : screen.typed byte position.1 position.2 false false
    (some position).isSome = typed
  have fields : typed.fields = screen.fields := by rw [← typedEq, typed_fields]
  have rows : typed.rows = screen.rows := by rw [← typedEq, typed_rows]
  have cols : typed.cols = screen.cols := by rw [← typedEq, typed_cols]
  have redetects : typed.Redetects position.1 position.2 ↔
      screen.Redetects position.1 position.2 := by rw [← typedEq, typed_redetects_iff]
  by_cases detects : screen.Redetects position.1 position.2
  · rw [if_pos detects, refreshFields_of_redetects (redetects.mpr detects)]
    change (∀ field ∈ typed.detectedFields, P field) ↔ ∀ field ∈ screen.detectedFields,
      P (field.withContent (contentOf screen.cols typed.buffer field))
    have attributes : ∀ pos, typed.attributes[pos * 3]? =
        screen.attributes[pos * 3]? := by
      intro pos
      rw [← typedEq, typed_attributes]
    have extended : typed.extendedAttributes = screen.extendedAttributes := by
      rw [← typedEq, typed_extendedAttributes]
    have starts : typed.fieldStarts = screen.fieldStarts := by
      rw [← typedEq, typed_fieldStarts, if_neg (by decide)]
    rw [detectedFields_withContent valid.starts_lt rows cols attributes extended
      starts, List.forall_mem_map]
  · rw [if_neg detects]
    have inside : ∀ field ∈ typed.fields, field.InBounds typed.rows typed.cols := by
      rw [fields, rows, cols]
      exact valid.fields_inBounds
    obtain ⟨_, refreshed⟩ := refreshFields_of_stays inside (mt redetects.mp detects)
    rw [refreshed]
    change (∀ field ∈ typed.fields.replaceF _, P field) ↔ (_ ∧ ∀ field : Field, _ →
      P (field.replaceContent (contentOf screen.cols typed.buffer field)))
    rw [← cols, forall_mem_replaceF_iff fun field member =>
      refreshField_eq position.1 position.2 (inside field member), fields]

/-- The first field that covers the cursor. -/
def coveringField (screen : ScreenBuffer) : Option Field :=
  screen.fields.find? (coversPosition screen.cursorRow screen.cursorCol)

/-- The other fields. -/
def otherFields (screen : ScreenBuffer) : List Field :=
  screen.fields.eraseP (coversPosition screen.cursorRow screen.cursorCol)

theorem makeRoom_redetects {insertMode : Bool} {position : Nat × Nat} {row col : Nat} :
    (screen.makeRoom insertMode position).Redetects row col ↔
      screen.Redetects row col := by
  cases insertMode <;> rfl

theorem makeRoom_detectedFields (valid : screen.Valid) (insertMode : Bool)
    (position : Nat × Nat) :
    (screen.makeRoom insertMode position).detectedFields =
      screen.detectedFields.map fun field => field.withContent (contentOf screen.cols
        (screen.makeRoom insertMode position).buffer field) := by
  have frame := screen.makeRoom_frame insertMode position
  refine detectedFields_withContent valid.starts_lt frame.rows frame.cols ?_ ?_ ?_
  · cases insertMode <;> exact fun _ => rfl
  · cases insertMode <;> rfl
  · cases insertMode <;> rfl

/-- The fields after a typed character. -/
theorem insertChar_fields_iff (valid : screen.Valid) (ch : Char)
    (insertMode circumventProtection : Bool) :
    (∀ field ∈ (screen.insertChar ch insertMode circumventProtection
        screen.getPosition).fields, P field) ↔
      if ¬ screen.Accepts screen.cursorRow screen.cursorCol circumventProtection then
        ∀ field ∈ screen.fields, P field
      else if screen.Redetects screen.cursorRow screen.cursorCol then
        ∀ field ∈ screen.detectedFields, P (field.withContent (contentOf screen.cols
          (screen.insertChar ch insertMode circumventProtection
            screen.getPosition).buffer field))
      else
        (∀ field ∈ screen.otherFields, P field) ∧
          ∀ field, screen.coveringField = some field →
            P (field.replaceContent (contentOf screen.cols
              (screen.insertChar ch insertMode circumventProtection
                screen.getPosition).buffer field)) := by
  have written := @writeChar_fields_iff (screen.makeRoom insertMode screen.getPosition) P
    (valid.makeRoom insertMode screen.getPosition) (Ebcdic.encodeChar ch)
    screen.getPosition circumventProtection
  simp only [makeRoom_accepts, makeRoom_redetects, makeRoom_fields, makeRoom_cols,
    makeRoom_detectedFields valid, List.forall_mem_map] at written
  exact written

end ScreenBuffer

namespace AsyncSession

/-- A keystroke stores nothing new in the cells of a field. -/
def Untouched (key : Keystroke) (session : AsyncSession) (field : Field) : Prop :=
  ∀ pos, ScreenBuffer.containsIndex session.screenBuffer.cols pos field = true →
    session.byteAfter key pos = session.screenBuffer.buffer[pos]?

/-- A field shows the bytes it did exactly where nothing new is stored in it. -/
theorem untouched_iff {session : AsyncSession} (valid : session.screenBuffer.Valid)
    (key : Keystroke) (field : Field) :
    ScreenBuffer.contentOf session.screenBuffer.cols
        (session.press key).screenBuffer.buffer field =
        ScreenBuffer.contentOf session.screenBuffer.cols session.screenBuffer.buffer
          field ↔
      Untouched key session field := by
  rw [ScreenBuffer.contentOf_eq_iff]
  simp only [press_byteAfter valid]
  exact Iff.rfl

/-- The keystrokes that leave the field list as it is. -/
def KeepsFields : Keystroke → Prop
  | .char _ => False
  | .eraseInput => False
  | _ => True

theorem press_fields {key : Keystroke} (keeps : KeepsFields key)
    (session : AsyncSession) :
    (session.press key).screenBuffer.fields = session.screenBuffer.fields := by
  cases key with
  | char ch => exact keeps.elim
  | eraseInput => exact keeps.elim
  | deleteField =>
      show session.screenBuffer.deleteField.fields = _
      unfold ScreenBuffer.deleteField
      split <;> rfl
  | backSpace => rfl
  | delete => rfl
  | eraseEof => rfl
  | moveCursor row col => rfl
  | insert => rfl
  | circumNot => rfl

theorem press_cols (key : Keystroke) (session : AsyncSession) :
    (session.press key).screenBuffer.cols = session.screenBuffer.cols := by
  cases key with
  | char ch => exact (ScreenBuffer.insertChar_frame ch _ _ _ _).cols
  | deleteField =>
      show session.screenBuffer.deleteField.cols = _
      unfold ScreenBuffer.deleteField
      split <;> rfl
  | eraseInput => rfl
  | backSpace => rfl
  | delete => rfl
  | eraseEof => rfl
  | moveCursor row col => rfl
  | insert => rfl
  | circumNot => rfl

theorem press_suspended (key : Keystroke) (session : AsyncSession) :
    (session.press key).screenBuffer.suspendFieldDetection =
      session.screenBuffer.suspendFieldDetection := by
  cases key with
  | char ch => exact (ScreenBuffer.insertChar_frame ch _ _ _ _).suspended
  | deleteField =>
      show session.screenBuffer.deleteField.suspendFieldDetection = _
      unfold ScreenBuffer.deleteField
      split <;> rfl
  | eraseInput => rfl
  | backSpace => rfl
  | delete => rfl
  | eraseEof => rfl
  | moveCursor row col => rfl
  | insert => rfl
  | circumNot => rfl

end AsyncSession

end Pure3270
