import Pure3270.Emulation.FieldSpans

/-!
# Modified data

A write marks a field as modified, and detection computes the mark again from
the attribute byte at the start of the field.  The marks that writes made are
followed through a run, up to the events that are to end them.
-/

namespace Pure3270

open Foundations

namespace ScreenBuffer

/-- The bit of an attribute byte that detection turns into the modified flag. -/
def mdtBit (pos : Nat) (screen : ScreenBuffer) : Bool :=
  (screen.attributes[pos * 3]?).getD 0 &&& 0x20 ≠ 0

theorem init_modified (params : FieldParams) :
    (Field.init params).modified = params.modified := by
  unfold Field.init
  split <;> rfl

theorem applyExtended_modified (extended : Option ExtendedAttributeSet)
    (params : FieldParams) :
    (applyExtended extended params).modified = params.modified := by
  unfold applyExtended
  split
  · rfl
  · split <;> rfl

theorem createFieldFromRange_modified {screen : ScreenBuffer} {startIdx endIdx : Nat}
    {field : Field} (created : screen.createFieldFromRange startIdx endIdx = some field) :
    field.modified = screen.mdtBit startIdx := by
  unfold createFieldFromRange at created
  split at created
  · cases created
  · cases created
    rw [init_modified, applyExtended_modified]
    unfold mdtBit
    cases screen.attributes[startIdx * 3]? with
    | none => rfl
    | some basicAttr => rfl

/-- A field at this start is marked as modified. -/
def MarkedAt (pos : Nat) (screen : ScreenBuffer) : Prop :=
  ∃ field ∈ screen.fields,
    field.startIndex screen.cols = pos ∧ field.modified = true

theorem mem_detectedFields {screen : ScreenBuffer} {field : Field}
    (member : field ∈ screen.detectedFields) :
    field.startIndex screen.cols ∈ screen.fieldStarts ∧
      field.modified = screen.mdtBit (field.startIndex screen.cols) := by
  obtain ⟨among, _, created⟩ := detectedFields_range member
  refine ⟨?_, createFieldFromRange_modified created⟩
  rw [SortedSet.mem_iff,
    ← map_fst_ranges (screen.size - 1) screen.fieldStarts.toList]
  exact List.mem_map_of_mem among

theorem markedAt_detectFields {screen : ScreenBuffer} {pos : Nat}
    (starts : ∀ start ∈ screen.fieldStarts, start < screen.size) :
    screen.detectFields.MarkedAt pos ↔
      pos ∈ screen.fieldStarts ∧ screen.mdtBit pos = true := by
  constructor
  · rintro ⟨field, member, rfl, modified⟩
    have detected := mem_detectedFields member
    exact ⟨detected.1, detected.2.symm.trans modified⟩
  · rintro ⟨member, bit⟩
    have spans := detectFields_spans starts
    have found : pos ∈ (screen.detectFields.spans).map Prod.fst := by
      rw [spans, map_fst_ranges]
      exact member
    obtain ⟨range, among, first⟩ := List.mem_map.mp found
    obtain ⟨field, here, span⟩ := List.mem_map.mp among
    have start : field.startIndex screen.cols = pos := by
      rw [← first, ← span]
      rfl
    refine ⟨field, here, start, ?_⟩
    rw [(mem_detectedFields here).2, start, bit]

theorem markedAt_iff_read (pages : Ebcdic.Codepages) (pos : Nat)
    (screen : ScreenBuffer) :
    screen.MarkedAt pos ↔
      ∃ entry ∈ screen.readModifiedFields pages,
        entry.1.1 * screen.cols + entry.1.2 = pos := by
  unfold readModifiedFields
  constructor
  · rintro ⟨field, member, start, modified⟩
    exact ⟨_, List.mem_map_of_mem (List.mem_filter.mpr ⟨member, modified⟩), start⟩
  · rintro ⟨entry, member, start⟩
    obtain ⟨field, among, rfl⟩ := List.mem_map.mp member
    obtain ⟨here, modified⟩ := List.mem_filter.mp among
    exact ⟨field, here, start, modified⟩

/-- What happens to a screen: calls of its methods, and the write control
characters of the host. -/
inductive ScreenEvent where
  | operation (operation : ScreenOperation)
  | clear
  | wcc (wcc : UInt8)
  deriving DecidableEq

/-- A write control character with its reset of the modified flags. -/
def handleWcc (wcc : UInt8) (screen : ScreenBuffer) : ScreenBuffer :=
  (if wcc &&& 0x80 ≠ 0 then screen.resetMdtFlags else screen).applyWcc wcc

def experience : ScreenEvent → ScreenBuffer → ScreenBuffer
  | .operation operation => operate operation
  | .clear => clear
  | .wcc wcc => handleWcc wcc

/-- A screen with the starts of the fields whose marks are to be there, and
whether the flags have just been reset. -/
structure Tracked where
  screen : ScreenBuffer
  owed : List Nat
  justReset : Bool

/-- The marks that are to be there after an event.  A write owes the mark of
the field it refreshes, a new attribute ends the mark at its position, and a
reset or a clear ends all. -/
def owedAfter : ScreenEvent → Tracked → List Nat
  | .operation (.writeChar _ position _ circumventProtection _), tracked =>
      let target := position.getD tracked.screen.getPosition
      if tracked.screen.Accepts target.1 target.2 circumventProtection then
        match tracked.screen.fields.find? (coversPosition target.1 target.2) with
        | some field => field.startIndex tracked.screen.cols :: tracked.owed
        | none => tracked.owed
      else tracked.owed
  | .operation (.setAttribute _ position), tracked =>
      let target := position.getD tracked.screen.getPosition
      tracked.owed.filter (· ≠ target.1 * tracked.screen.cols + target.2)
  | .operation _, tracked => tracked.owed
  | .clear, _ => []
  | .wcc wcc, tracked => if wcc &&& 0x80 ≠ 0 then [] else tracked.owed

def track (event : ScreenEvent) (tracked : Tracked) : Tracked where
  screen := tracked.screen.experience event
  owed := owedAfter event tracked
  justReset :=
    match event with
    | .wcc wcc => wcc &&& 0x80 ≠ 0
    | _ => false

/-- Every mark that is to be there is read, and nothing is read right after a
reset. -/
def MarksRead (pages : Ebcdic.Codepages) (tracked : Tracked) : Prop :=
  (∀ pos ∈ tracked.owed,
    ∃ entry ∈ tracked.screen.readModifiedFields pages,
      entry.1.1 * tracked.screen.cols + entry.1.2 = pos) ∧
  (tracked.justReset = true → tracked.screen.readModifiedFields pages = [])

/-- The event detects the fields again. -/
def Detects : ScreenOperation → ScreenBuffer → Prop
  | .writeChar _ position _ circumventProtection _, screen =>
      let target := position.getD screen.getPosition
      screen.Accepts target.1 target.2 circumventProtection ∧
        screen.Redetects target.1 target.2
  | .setAttribute _ position, screen =>
      let target := position.getD screen.getPosition
      target.1 * screen.cols + target.2 < screen.size ∧
        screen.suspendFieldDetection = 0
  | .setExtendedAttribute row col _ _, screen =>
      (row < screen.rows ∧ col < screen.cols) ∧ screen.suspendFieldDetection = 0
  | .endBulkUpdate, screen => screen.suspendFieldDetection ≤ 1
  | .selectLightPen _ _, _ => True
  | _, _ => False

/-- Detection comes only when the attribute bytes show all marks that are to be
there, and a reset only when no field is marked. -/
def MarksSurvive : ScreenEvent → Tracked → Prop
  | .operation operation, tracked =>
      Detects operation tracked.screen →
        ∀ pos ∈ owedAfter (.operation operation) tracked,
          tracked.screen.mdtBit pos = true
  | .clear, _ => True
  | .wcc wcc, tracked =>
      wcc &&& 0x80 ≠ 0 → ∀ field ∈ tracked.screen.fields, field.modified = false

/-- Every field begins at a field start. -/
def FieldsAtStarts (screen : ScreenBuffer) : Prop :=
  ∀ span ∈ screen.spans, span.1 ∈ screen.fieldStarts

theorem detectFields_atStarts (screen : ScreenBuffer) :
    screen.detectFields.FieldsAtStarts := by
  intro span member
  obtain ⟨field, among, rfl⟩ := List.mem_map.mp member
  exact (mem_detectedFields among).1

/-- The starts are kept, and fields begin at starts. -/
structure KeepsStarts (before after : ScreenBuffer) : Prop where
  cols : after.cols = before.cols
  starts : ∀ pos ∈ before.fieldStarts, pos ∈ after.fieldStarts
  fields : after.FieldsAtStarts

/-- Marks are waited for at field starts only. -/
structure Consistent (tracked : Tracked) : Prop where
  sound : tracked.screen.Sound
  fieldsAtStarts : tracked.screen.FieldsAtStarts
  owed_start : ∀ pos ∈ tracked.owed, pos ∈ tracked.screen.fieldStarts

/-- Replacing fields keeps marks where replacements do. -/
theorem marked_replaceF {cols pos : Nat} {replace : Field → Option Field}
    {fields : List Field}
    (kept : ∀ field new, replace field = some new →
      new.span cols = field.span cols ∧ (field.modified = true → new.modified = true))
    (marked : ∃ field ∈ fields, field.startIndex cols = pos ∧ field.modified = true) :
    ∃ field ∈ fields.replaceF replace,
      field.startIndex cols = pos ∧ field.modified = true := by
  obtain ⟨field, member, start, modified⟩ := marked
  rcases List.exists_or_eq_self_of_replaceF replace fields with
    same | ⟨old, new, front, back, _, found, split, replaced⟩
  · rw [same]
    exact ⟨field, member, start, modified⟩
  · rw [replaced]
    rw [split, List.mem_append, List.mem_cons] at member
    rcases member with early | rfl | late
    · exact ⟨field, by simp [early], start, modified⟩
    · have new_start : new.startIndex cols = field.startIndex cols :=
        congrArg Prod.fst (kept field new found).1
      exact ⟨new, by simp, new_start.trans start, (kept field new found).2 modified⟩
    · exact ⟨field, by simp [late], start, modified⟩

theorem markedAt_congr {first second : ScreenBuffer} {pos : Nat}
    (cols : first.cols = second.cols)
    (same : first.fields.map (fun field => (field.startIndex first.cols, field.modified)) =
      second.fields.map fun field => (field.startIndex first.cols, field.modified)) :
    first.MarkedAt pos ↔ second.MarkedAt pos := by
  have listed : ∀ screen : ScreenBuffer, screen.cols = first.cols →
      (screen.MarkedAt pos ↔ (pos, true) ∈ screen.fields.map fun field =>
        (field.startIndex first.cols, field.modified)) := by
    intro screen equal
    unfold MarkedAt
    rw [equal]
    constructor
    · rintro ⟨field, member, start, modified⟩
      exact List.mem_map.mpr ⟨field, member, by rw [start, modified]⟩
    · intro member
      obtain ⟨field, among, pair⟩ := List.mem_map.mp member
      obtain ⟨start, modified⟩ := Prod.mk.inj pair
      exact ⟨field, among, start, modified⟩
  rw [listed first rfl, listed second cols.symm, same]

theorem refreshField_modified {screen : ScreenBuffer} {row col : Nat}
    {field new : Field} (found : screen.refreshField row col field = some new) :
    new.modified = true := by
  unfold refreshField at found
  split at found
  · simp only at found
    split at found
    · cases found
    · cases found
      exact replaceContent_modified _ field
  · cases found

/-- Protecting a cell leaves its modified bit. -/
private theorem protection_keeps_mdt (flags : UInt8) (isProtected : Bool) :
    (flags ||| if isProtected then 0x40 else 0) &&& 0x20 = flags &&& 0x20 := by
  have every : ∀ value : Fin 256, ∀ isProtected : Bool,
      (UInt8.ofNat value ||| if isProtected then 0x40 else 0) &&& 0x20 =
        UInt8.ofNat value &&& 0x20 := by decide +kernel
  have here := every ⟨flags.toNat, flags.toNat_lt⟩ isProtected
  simpa only [UInt8.ofNat_toNat] using here

section WriteChar

variable {screen : ScreenBuffer} {byte : UInt8} {position : Option (Nat × Nat)}
  {isProtected circumventProtection markFieldStart : Bool} {row col : Nat}

theorem typed_mdtBit {explicitPosition : Bool} (pos : Nat) :
    (screen.typed byte row col isProtected markFieldStart
      explicitPosition).mdtBit pos = screen.mdtBit pos := by
  unfold mdtBit
  rw [typed_attribute]
  cases screen.attributes[pos * 3]? with
  | none => rfl
  | some flags =>
      rw [Option.map_some, Option.getD_some, Option.getD_some]
      split
      · rw [protection_keeps_mdt]
      · rfl

/-- After a write that does not detect the fields again the old marks are
there, and so is that of the first field covering the position. -/
theorem writeChar_marked (sound : screen.Sound)
    (target : position.getD screen.getPosition = (row, col))
    (accepted : screen.Accepts row col circumventProtection)
    (stays : ¬ screen.Redetects row col) {pos : Nat}
    (marked : screen.MarkedAt pos ∨
      ∃ field, screen.fields.find? (coversPosition row col) = some field ∧
        field.startIndex screen.cols = pos) :
    (screen.writeChar byte position isProtected circumventProtection
      markFieldStart).MarkedAt pos := by
  rw [writeChar_eq, target, if_pos accepted]
  obtain ⟨valid, refreshed⟩ := @refreshFields_of_stays
    (screen.typed byte row col isProtected markFieldStart position.isSome) row col
    (by simpa using sound.fields_inBounds) (mt typed_redetects_iff.mp stays)
  rw [refreshed]
  unfold MarkedAt
  simp only [typed_cols, typed_fields]
  rcases marked with old | ⟨field, found, start⟩
  · refine marked_replaceF (fun field new found => ⟨?_, fun _ => ?_⟩) old
    · simpa using span_refreshField field new found
    · exact refreshField_modified found
  · obtain ⟨covers, front, back, split, notBefore⟩ :=
      List.find?_eq_some_iff_append.mp found
    have replaced := @replaceF_refreshField
      (screen.typed byte row col isProtected markFieldStart position.isSome) row col
      front back field (by rw [← split]; simpa using sound.fields_inBounds)
      (fun other early => by simpa using notBefore other early) covers
    rw [split, replaced]
    exact ⟨_, List.mem_append_right _ List.mem_cons_self,
      (startIndex_replaceContent _ field screen.cols).trans start,
      replaceContent_modified _ field⟩

theorem writeChar_keepsStarts (sound : screen.Sound)
    (fields : screen.FieldsAtStarts) :
    KeepsStarts screen (screen.writeChar byte position isProtected
      circumventProtection markFieldStart) := by
  have after := sound.writeChar byte position isProtected circumventProtection
    markFieldStart
  rw [writeChar_eq] at after ⊢
  split
  · rename_i accepted
    rw [if_pos accepted] at after
    generalize position.getD screen.getPosition = target at after ⊢
    have grown : ∀ pos ∈ screen.fieldStarts, pos ∈ (screen.typed byte target.1
        target.2 isProtected markFieldStart position.isSome).fieldStarts := by
      intro pos member
      rw [typed_fieldStarts]
      split
      · exact SortedSet.mem_insert.mpr (.inr member)
      · exact member
    by_cases redetects : (screen.typed byte target.1 target.2 isProtected
        markFieldStart position.isSome).Redetects target.1 target.2
    · rw [refreshFields_of_redetects redetects] at after ⊢
      refine ⟨typed_cols, grown, fun span member => ?_⟩
      obtain ⟨field, among, rfl⟩ := List.mem_map.mp member
      exact (mem_detectedFields among).1
    · obtain ⟨valid, refreshed⟩ := @refreshFields_of_stays _ target.1 target.2
        (by simpa using sound.fields_inBounds) redetects
      rw [refreshed]
      refine ⟨typed_cols, grown, fun span member => grown _ (fields span ?_)⟩
      unfold spans at member ⊢
      simp only [typed_cols, typed_fields] at member
      rwa [map_replaceF fun field new found => by
        simpa using span_refreshField field new found] at member
  · exact ⟨rfl, fun _ member => member, fields⟩

end WriteChar

theorem Sound.storeAttribute {screen : ScreenBuffer} (sound : screen.Sound)
    (attr : UInt8) {pos : Nat} (inside : pos < screen.size) :
    (screen.storeAttribute attr pos).Sound :=
  Sound.of_moved (sound.moved.storeAttribute attr inside) rfl

theorem operate_keepsStarts {screen : ScreenBuffer} (sound : screen.Sound)
    (fields : screen.FieldsAtStarts) (operation : ScreenOperation) :
    KeepsStarts screen (screen.operate operation) := by
  have inserted : ∀ {pos other : Nat}, other ∈ screen.fieldStarts →
      other ∈ screen.fieldStarts.insert pos :=
    fun member => SortedSet.mem_insert.mpr (.inr member)
  cases operation with
  | writeChar byte position isProtected circumventProtection markFieldStart =>
      exact writeChar_keepsStarts sound fields
  | setAttribute attr position =>
      simp only [ScreenBuffer.operate, ScreenBuffer.setAttribute]
      split
      · split
        · exact ⟨rfl, fun _ => inserted, detectFields_atStarts _⟩
        · exact ⟨rfl, fun _ => inserted, fun span member => inserted (fields span member)⟩
      · exact ⟨rfl, fun _ member => member, fields⟩
  | setExtendedAttribute row col attrType value =>
      simp only [ScreenBuffer.operate, ScreenBuffer.setExtendedAttribute]
      split
      · split
        · exact ⟨rfl, fun _ => inserted, detectFields_atStarts _⟩
        · exact ⟨rfl, fun _ => inserted, fun span member => inserted (fields span member)⟩
      · exact ⟨rfl, fun _ member => member, fields⟩
  | beginBulkUpdate => exact ⟨rfl, fun _ member => member, fields⟩
  | endBulkUpdate =>
      simp only [ScreenBuffer.operate, ScreenBuffer.endBulkUpdate]
      split
      · exact ⟨rfl, fun _ member => member, detectFields_atStarts _⟩
      · exact ⟨rfl, fun _ member => member, fields⟩
  | selectLightPen row col =>
      have detected := screen.detectFields_atStarts
      simp only [ScreenBuffer.operate, ScreenBuffer.selectLightPen]
      split
      · exact ⟨rfl, fun _ member => member, detected⟩
      · rename_i field _
        split
        · refine ⟨rfl, fun _ member => member, fun span member => ?_⟩
          unfold spans at member
          rw [map_replaceF fun other new found => (selected_kept found).1 _] at member
          exact detected span member
        · exact ⟨rfl, fun _ member => member, detected⟩
  | setPosition row col => exact ⟨rfl, fun _ member => member, fields⟩
  | moveCursorToFirstInputField =>
      simp only [ScreenBuffer.operate, ScreenBuffer.moveCursorToFirstInputField]
      split <;> exact ⟨rfl, fun _ member => member, fields⟩
  | moveCursorToNextInputField =>
      simp only [ScreenBuffer.operate, ScreenBuffer.moveCursorToNextInputField]
      split <;> exact ⟨rfl, fun _ member => member, fields⟩

theorem selectLightPen_markedAt (row col pos : Nat) (screen : ScreenBuffer) :
    (screen.selectLightPen row col).1.MarkedAt pos ↔ screen.detectFields.MarkedAt pos := by
  unfold ScreenBuffer.selectLightPen
  simp only
  split
  · exact Iff.rfl
  · split
    · refine markedAt_congr rfl (map_replaceF (fun other new found => ?_) _)
      have start : new.startIndex screen.cols = other.startIndex screen.cols :=
        congrArg Prod.fst ((selected_kept found).1 screen.cols)
      exact congrArg₂ Prod.mk start (selected_kept found).2
    · exact Iff.rfl

/-- After a detection the marks are those of the attribute bytes before it. -/
theorem detects_markedAt {tracked : Tracked} (consistent : Consistent tracked)
    {operation : ScreenOperation} (detects : Detects operation tracked.screen)
    {pos : Nat} (owed : pos ∈ owedAfter (.operation operation) tracked) :
    (tracked.screen.operate operation).MarkedAt pos ↔
      tracked.screen.mdtBit pos = true := by
  obtain ⟨screen, awaited, _⟩ := tracked
  obtain ⟨sound, fields, awaitedStart⟩ := consistent
  simp only at *
  cases operation with
  | writeChar byte position isProtected circumventProtection markFieldStart =>
      obtain ⟨accepted, redetects⟩ := detects
      have missed : screen.fields.find? (coversPosition
          (position.getD screen.getPosition).1
          (position.getD screen.getPosition).2) = none := by
        rw [List.find?_eq_none]
        intro field member
        rw [redetects.1 field member]
        exact Bool.false_ne_true
      simp only [owedAfter, missed, ite_self] at owed
      have after := sound.writeChar byte position isProtected circumventProtection
        markFieldStart
      simp only [ScreenBuffer.operate]
      rw [writeChar_eq, if_pos accepted,
        refreshFields_of_redetects (typed_redetects_iff.mpr redetects)] at after ⊢
      rw [markedAt_detectFields (by exact after.starts_lt), typed_mdtBit]
      have start : pos ∈ (screen.typed byte (position.getD screen.getPosition).1
          (position.getD screen.getPosition).2 isProtected markFieldStart
          position.isSome).fieldStarts := by
        rw [typed_fieldStarts]
        split
        · exact SortedSet.mem_insert.mpr (.inr (awaitedStart pos owed))
        · exact awaitedStart pos owed
      exact and_iff_right start
  | setAttribute attr position =>
      obtain ⟨inside, resumed⟩ := detects
      simp only [owedAfter, List.mem_filter, decide_eq_true_eq] at owed
      simp only [ScreenBuffer.operate, ScreenBuffer.setAttribute]
      rw [if_pos inside, if_pos resumed,
        markedAt_detectFields (sound.storeAttribute attr inside).starts_lt]
      have same : (screen.storeAttribute attr
          ((position.getD screen.getPosition).1 * screen.cols +
            (position.getD screen.getPosition).2)).mdtBit pos = screen.mdtBit pos := by
        have different := owed.2
        unfold mdtBit ScreenBuffer.storeAttribute
        simp only
        rw [List.getElem?_set_ne (by omega)]
      rw [same]
      exact and_iff_right (SortedSet.mem_insert.mpr (.inr (awaitedStart pos owed.1)))
  | setExtendedAttribute row col attrType value =>
      obtain ⟨inside, resumed⟩ := detects
      have after := sound.setExtendedAttribute row col attrType value
      simp only [ScreenBuffer.operate]
      unfold ScreenBuffer.setExtendedAttribute at after ⊢
      rw [if_pos inside, if_pos (by exact resumed)] at after ⊢
      rw [markedAt_detectFields (by exact after.starts_lt)]
      exact and_iff_right (SortedSet.mem_insert.mpr (.inr (awaitedStart pos owed)))
  | endBulkUpdate =>
      have resumed : screen.suspendFieldDetection - 1 = 0 := Nat.sub_eq_zero_of_le detects
      simp only [ScreenBuffer.operate, ScreenBuffer.endBulkUpdate]
      rw [if_pos resumed, markedAt_detectFields (by exact sound.starts_lt)]
      exact and_iff_right (awaitedStart pos owed)
  | selectLightPen row col =>
      simp only [ScreenBuffer.operate]
      rw [selectLightPen_markedAt, markedAt_detectFields sound.starts_lt]
      exact and_iff_right (awaitedStart pos owed)
  | beginBulkUpdate => exact detects.elim
  | setPosition row col => exact detects.elim
  | moveCursorToFirstInputField => exact detects.elim
  | moveCursorToNextInputField => exact detects.elim

/-- Without a detection the marks stay, and a write adds its own. -/
theorem stays_markedAt {tracked : Tracked} (sound : tracked.screen.Sound)
    {operation : ScreenOperation} (stays : ¬ Detects operation tracked.screen)
    (marked : ∀ pos ∈ tracked.owed, tracked.screen.MarkedAt pos)
    {pos : Nat} (owed : pos ∈ owedAfter (.operation operation) tracked) :
    (tracked.screen.operate operation).MarkedAt pos := by
  obtain ⟨screen, awaited, _⟩ := tracked
  simp only at *
  cases operation with
  | writeChar byte position isProtected circumventProtection markFieldStart =>
      rcases target : position.getD screen.getPosition with ⟨row, col⟩
      simp only [owedAfter, Detects, target] at owed stays
      by_cases accepted : screen.Accepts row col circumventProtection
      · rw [if_pos accepted] at owed
        refine writeChar_marked sound target accepted
          (fun redetects => stays ⟨accepted, redetects⟩) ?_
        cases found : screen.fields.find? (coversPosition row col) with
        | none =>
            rw [found] at owed
            exact .inl (marked pos owed)
        | some field =>
            rw [found] at owed
            rcases List.mem_cons.mp owed with rfl | earlier
            · exact .inr ⟨field, rfl, rfl⟩
            · exact .inl (marked pos earlier)
      · rw [if_neg accepted] at owed
        simp only [ScreenBuffer.operate]
        rw [writeChar_eq, target, if_neg accepted]
        exact marked pos owed
  | setAttribute attr position =>
      have earlier := marked pos (List.mem_of_mem_filter owed)
      simp only [ScreenBuffer.operate, ScreenBuffer.setAttribute]
      split
      · rename_i inside
        rw [if_neg fun resumed => stays ⟨inside, resumed⟩]
        exact earlier
      · exact earlier
  | setExtendedAttribute row col attrType value =>
      simp only [ScreenBuffer.operate, ScreenBuffer.setExtendedAttribute]
      split
      · rename_i inside
        rw [if_neg fun resumed => stays ⟨inside, resumed⟩]
        exact marked pos owed
      · exact marked pos owed
  | beginBulkUpdate => exact marked pos owed
  | endBulkUpdate =>
      have suspended : ¬ screen.suspendFieldDetection - 1 = 0 :=
        fun resumed => stays (Nat.le_of_sub_eq_zero resumed)
      simp only [ScreenBuffer.operate, ScreenBuffer.endBulkUpdate, if_neg suspended]
      exact marked pos owed
  | selectLightPen row col => exact absurd trivial stays
  | setPosition row col => exact marked pos owed
  | moveCursorToFirstInputField =>
      simp only [ScreenBuffer.operate, ScreenBuffer.moveCursorToFirstInputField]
      split <;> exact marked pos owed
  | moveCursorToNextInputField =>
      simp only [ScreenBuffer.operate, ScreenBuffer.moveCursorToNextInputField]
      split <;> exact marked pos owed

theorem handleWcc_fields (wcc : UInt8) (screen : ScreenBuffer) :
    (screen.handleWcc wcc).fields = screen.fields ∧
      (screen.handleWcc wcc).cols = screen.cols ∧
      (screen.handleWcc wcc).fieldStarts = screen.fieldStarts := by
  unfold handleWcc resetMdtFlags applyWcc
  rw [ite_self]
  split <;> exact ⟨rfl, rfl, rfl⟩

theorem Sound.handleWcc {screen : ScreenBuffer} (sound : screen.Sound) (wcc : UInt8) :
    (screen.handleWcc wcc).Sound := by
  unfold ScreenBuffer.handleWcc resetMdtFlags applyWcc
  rw [ite_self]
  split <;> exact { sound.moved with }

theorem markedAt_of_fields {first second : ScreenBuffer} {pos : Nat}
    (fields : first.fields = second.fields) (cols : first.cols = second.cols) :
    first.MarkedAt pos ↔ second.MarkedAt pos := by
  unfold MarkedAt
  rw [fields, cols]

theorem owedAfter_start {tracked : Tracked} (consistent : Consistent tracked)
    (operation : ScreenOperation) :
    ∀ pos ∈ owedAfter (.operation operation) tracked,
      pos ∈ tracked.screen.fieldStarts := by
  intro pos owed
  cases operation with
  | writeChar byte position isProtected circumventProtection markFieldStart =>
      simp only [owedAfter] at owed
      split at owed
      · split at owed
        · rename_i field found
          rcases List.mem_cons.mp owed with rfl | earlier
          · exact consistent.fieldsAtStarts _
              (List.mem_map_of_mem (List.mem_of_find?_eq_some found))
          · exact consistent.owed_start pos earlier
        · exact consistent.owed_start pos owed
      · exact consistent.owed_start pos owed
  | setAttribute attr position =>
      exact consistent.owed_start pos (List.mem_of_mem_filter owed)
  | setExtendedAttribute row col attrType value => exact consistent.owed_start pos owed
  | beginBulkUpdate => exact consistent.owed_start pos owed
  | endBulkUpdate => exact consistent.owed_start pos owed
  | selectLightPen row col => exact consistent.owed_start pos owed
  | setPosition row col => exact consistent.owed_start pos owed
  | moveCursorToFirstInputField => exact consistent.owed_start pos owed
  | moveCursorToNextInputField => exact consistent.owed_start pos owed

theorem Consistent.track {tracked : Tracked} (consistent : Consistent tracked)
    (event : ScreenEvent) : Consistent (track event tracked) := by
  cases event with
  | operation operation =>
      have kept := operate_keepsStarts consistent.sound consistent.fieldsAtStarts operation
      exact {
        sound := consistent.sound.operate operation
        fieldsAtStarts := kept.fields
        owed_start := fun pos owed =>
          kept.starts pos (owedAfter_start consistent operation pos owed) }
  | clear =>
      exact {
        sound := Sound.of_moved consistent.sound.moved.clear rfl
        fieldsAtStarts := fun span member => by cases member
        owed_start := fun pos owed => by cases owed }
  | wcc wcc =>
      obtain ⟨fields, cols, starts⟩ := handleWcc_fields wcc tracked.screen
      refine {
        sound := consistent.sound.handleWcc wcc
        fieldsAtStarts := fun span member => ?_
        owed_start := fun pos owed => ?_ }
      · show span.1 ∈ (tracked.screen.handleWcc wcc).fieldStarts
        rw [starts]
        refine consistent.fieldsAtStarts span ?_
        have member : span ∈ (tracked.screen.handleWcc wcc).fields.map
            (Field.span (tracked.screen.handleWcc wcc).cols) := member
        rwa [fields, cols] at member
      · show pos ∈ (tracked.screen.handleWcc wcc).fieldStarts
        rw [starts]
        have owed : pos ∈ if wcc &&& 0x80 ≠ 0 then [] else tracked.owed := owed
        split at owed
        · cases owed
        · exact consistent.owed_start pos owed

theorem marksRead_track_iff (pages : Ebcdic.Codepages) {tracked : Tracked}
    (consistent : Consistent tracked) (read : MarksRead pages tracked)
    (event : ScreenEvent) :
    MarksRead pages (track event tracked) ↔ MarksSurvive event tracked := by
  have marked : ∀ pos ∈ tracked.owed, tracked.screen.MarkedAt pos :=
    fun pos owed => (markedAt_iff_read pages pos _).mpr (read.1 pos owed)
  have reads : MarksRead pages (track event tracked) ↔
      (∀ pos ∈ (track event tracked).owed,
        (track event tracked).screen.MarkedAt pos) ∧
      ((track event tracked).justReset = true →
        (track event tracked).screen.readModifiedFields pages = []) := by
    unfold MarksRead
    simp only [markedAt_iff_read pages]
  rw [reads]
  cases event with
  | operation operation =>
      have quiet : (track (.operation operation) tracked).justReset = true →
          (track (.operation operation) tracked).screen.readModifiedFields pages =
            [] := by
        rintro ⟨⟩
      rw [and_iff_left quiet]
      by_cases detects : Detects operation tracked.screen
      · have exactly : ∀ pos ∈ owedAfter (.operation operation) tracked, _ :=
          fun pos owed => detects_markedAt consistent detects owed
        exact ⟨fun all _ pos owed => (exactly pos owed).mp (all pos owed),
          fun bits pos owed => (exactly pos owed).mpr (bits detects pos owed)⟩
      · exact iff_of_true
          (fun pos owed => stays_markedAt consistent.sound detects marked owed)
          (fun here => absurd here detects)
  | clear =>
      refine iff_of_true ⟨fun pos owed => ?_, fun reset => ?_⟩ trivial
      · cases owed
      · cases reset
  | wcc wcc =>
      obtain ⟨fields, cols, _⟩ := handleWcc_fields wcc tracked.screen
      have unread : (tracked.screen.handleWcc wcc).readModifiedFields pages = [] ↔
          ∀ field ∈ tracked.screen.fields, field.modified = false := by
        unfold readModifiedFields
        rw [fields, List.map_eq_nil_iff, List.filter_eq_nil_iff]
        simp only [Bool.not_eq_true]
      simp only [ScreenBuffer.track, experience, owedAfter, decide_eq_true_eq,
        MarksSurvive, unread]
      by_cases reset : wcc &&& 0x80 ≠ 0
      · simp [reset]
      · rw [if_neg reset]
        refine iff_of_true ⟨fun pos owed => ?_, fun here => absurd here reset⟩
          fun here => absurd here reset
        exact (markedAt_of_fields fields cols).mpr (marked pos owed)

/-- A new screen, with no mark to wait for. -/
def Tracked.init (rows cols : Nat) (rows_pos : 0 < rows) (cols_pos : 0 < cols)
    (initValue : UInt8) (codepage : String) : Tracked where
  screen := ScreenBuffer.init rows cols rows_pos cols_pos initValue codepage
  owed := []
  justReset := false

/-- In a run from a new screen modified data survives until it is reset exactly
when the marks survive every event. -/
theorem marksRead_iff (pages : Ebcdic.Codepages) (rows cols : Nat)
    (rows_pos : 0 < rows) (cols_pos : 0 < cols) (initValue : UInt8)
    (codepage : String) (events : List ScreenEvent) :
    Always track (MarksRead pages) events
        (Tracked.init rows cols rows_pos cols_pos initValue codepage) ↔
      Along track MarksSurvive events
        (Tracked.init rows cols rows_pos cols_pos initValue codepage) := by
  have keeps : ∀ event {tracked : Tracked}, Consistent tracked →
      Consistent (track event tracked) := fun event _ consistent =>
    consistent.track event
  have start : Consistent
      (Tracked.init rows cols rows_pos cols_pos initValue codepage) := {
    sound := (valid_init rows cols rows_pos cols_pos initValue codepage).sound
    fieldsAtStarts := fun span member => by cases member
    owed_start := fun pos owed => by cases owed }
  refine always_iff_along keeps
    (fun event _ consistent read => marksRead_track_iff pages consistent read event)
    start ⟨fun pos owed => ?_, fun reset => ?_⟩
  · cases owed
  · cases reset

/-- Code page 037 under every name. -/
def cp037Pages : Ebcdic.Codepages := ⟨fun _ => Ebcdic.cp037Char, rfl⟩

theorem marksRead_mdt :
    Always track (MarksRead cp037Pages)
      [.operation (.setAttribute 0x20 (some (0, 0))),
        .operation (.writeChar 0xC1 (some (0, 1)) false false false),
        .operation (.setAttribute 0x00 (some (1, 1)))]
      (Tracked.init 2 3 (by decide) (by decide) 0x40 "cp037") :=
  (marksRead_iff cp037Pages 2 3 (by decide) (by decide) 0x40 "cp037" _).mpr
    ⟨fun _ => by decide +kernel, fun _ => by decide +kernel,
      fun _ => by decide +kernel, trivial⟩

/-- A new field elsewhere loses the mark of a field whose attribute byte has
no modified bit. -/
theorem not_marksRead_otherField :
    ¬ ∀ (pages : Ebcdic.Codepages) (rows cols : Nat) (rows_pos : 0 < rows)
      (cols_pos : 0 < cols) (initValue : UInt8) (codepage : String)
      (events : List ScreenEvent),
      Always track (MarksRead pages) events
        (Tracked.init rows cols rows_pos cols_pos initValue codepage) := by
  intro claimed
  have always := claimed cp037Pages 2 3 (by decide) (by decide) 0x40 "cp037"
    [.operation (.setAttribute 0x00 (some (0, 0))),
      .operation (.writeChar 0xC1 (some (0, 1)) false false false),
      .operation (.setAttribute 0x00 (some (1, 1)))]
  obtain ⟨entry, member, _⟩ := always.last.1 0 (by decide +kernel)
  revert entry
  decide +kernel

end ScreenBuffer

end Pure3270
