import Pure3270.Foundations.Marks
import Pure3270.Protocol.ExtendedFields
import Pure3270.Protocol.WriteRecords

/-!
# Fields that are current

A field list is current when detection would leave it as it is.  Detection
makes it so, and it stays so until a byte that a field shows changes, or the
light pen of a field start is lost to an attribute set.
-/

namespace Pure3270

open Foundations

/-- The byte that a change stores, and where. -/
def ScreenChange.bytes (screen : ScreenBuffer) : ScreenChange → List (Nat × UInt8)
  | insertByte byte => [(screen.cursorAddress, byte)]
  | setAttribute attr => [(screen.cursorAddress, attr)]
  | eraseCell position =>
      if position.1 < screen.rows ∧ position.2 < screen.cols then
        [(position.1 * screen.cols + position.2, 0x40)]
      else []
  | _ => []

namespace ScreenBuffer

/-- Detection would leave the field list as it is. -/
def FieldsCurrent (screen : ScreenBuffer) : Prop :=
  screen.fields = screen.detectedFields

/-- The bytes that a list of changes stores, in order. -/
def byteLog : List ScreenChange → ScreenBuffer → List (Nat × UInt8)
  | [], _ => []
  | next :: rest, screen => next.bytes screen ++ byteLog rest (screen.change next)

/-- The extended attributes that a list of changes sets, in order. -/
def settingLog (list : List ScreenChange) (screen : ScreenBuffer) :
    List (((Nat × Nat) × AttributeType) × Nat) :=
  AttributeCall.settings (list.map .order) screen

/-- A change that detects the fields. -/
def RunsDetection (next : ScreenChange) (screen : ScreenBuffer) : Prop :=
  match next with
  | .setAttribute _ => screen.suspendFieldDetection = 0
  | .eraseCell position =>
      (position.1 < screen.rows ∧ position.2 < screen.cols) ∧
        screen.Redetects position.1 position.2
  | _ => False

instance (next : ScreenChange) (screen : ScreenBuffer) : Decidable (RunsDetection next screen) :=
  match next with
  | .setAttribute _ => inferInstanceAs (Decidable (_ = _))
  | .eraseCell _ => inferInstanceAs (Decidable (_ ∧ _))
  | .setPosition _ _ => .isFalse id
  | .insertByte _ => .isFalse id
  | .setExtended _ _ _ => .isFalse id
  | .firstInput => .isFalse id
  | .programTab => .isFalse id

/-- Some change of a list does. -/
def detectsAmong : List ScreenChange → ScreenBuffer → Bool
  | [], _ => false
  | next :: rest, screen =>
      decide (screen.RunsDetection next) || detectsAmong rest (screen.change next)

/-- What holds of the changes since the last detection, on the screen that it left. -/
def SinceDetection (Holds : List ScreenChange → ScreenBuffer → Prop) :
    List ScreenChange → ScreenBuffer → Prop
  | [], screen => Holds [] screen
  | next :: rest, screen =>
      if detectsAmong (next :: rest) screen then
        SinceDetection Holds rest (screen.change next)
      else Holds (next :: rest) screen

/-- An erase of a cell refreshes no field: no field covers the cell. -/
def Spares (next : ScreenChange) (screen : ScreenBuffer) : Prop :=
  match next with
  | .eraseCell position =>
      position.1 < screen.rows ∧ position.2 < screen.cols →
        ∀ field ∈ screen.fields, coversPosition position.1 position.2 field = false
  | _ => True

/-- Some attribute is set at a position. -/
def Filled (position : Nat × Nat) (screen : ScreenBuffer) : Prop :=
  ∃ attrType, screen.stored position attrType ≠ none

/-- The changes leave what the fields show: a byte that they store last in a cell
behind a field start is there already, and a field start whose attribute byte has a light
pen gets no first extended attribute. -/
structure ShowsNothingNew (list : List ScreenChange) (screen : ScreenBuffer) : Prop where
  bytes : ∀ {start pos byte}, start ∈ screen.fieldStarts → start ≤ pos →
    lastWrite pos (screen.byteLog list) = some byte → screen.buffer[pos]? = some byte
  lightPens : ∀ {start attrType value}, start ∈ screen.fieldStarts →
    ((screen.calculateCoords start, attrType), value) ∈ screen.settingLog list →
      baseLightPen screen.attributes[start * 3]? = 0 ∨
        screen.Filled (screen.calculateCoords start)

variable {screen : ScreenBuffer}

theorem change_buffer (valid : screen.Valid) (next : ScreenChange) (pos : Nat) :
    (screen.change next).buffer[pos]? =
      (lastWrite pos (next.bytes screen)).or screen.buffer[pos]? := by
  have written : ∀ {cell : Nat} (byte : UInt8), cell < screen.size →
      (screen.buffer.set cell byte)[pos]? =
        (lastWrite pos [(cell, byte)]).or screen.buffer[pos]? := by
    intro cell byte inside
    rw [List.getElem?_set, valid.buffer_length, if_pos inside]
    unfold lastWrite lastWrite
    rw [Option.none_or]
    split <;> rfl
  cases next with
  | insertByte byte =>
      have stored : (screen.change (.insertByte byte)).buffer =
          screen.buffer.set screen.cursorAddress byte := by
        simp only [change, insertByte]
        split <;> rfl
      rw [stored]
      exact written byte valid.cursorAddress_lt
  | setAttribute attr =>
      show (screen.setAttribute attr none).buffer[pos]? = _
      rw [setAttribute_buffer valid]
      exact written attr valid.cursorAddress_lt
  | eraseCell position =>
      rw [eraseCell_buffer valid, ScreenChange.bytes]
      split
      · rename_i inside
        exact written 0x40 (address_lt inside.1 inside.2)
      · rfl
  | setPosition row col => rfl
  | setExtended attrType attrValue position =>
      simp only [change, setExtendedAttributeSfe]
      split <;> rfl
  | firstInput =>
      simp only [change, moveCursorToFirstInputField]
      split <;> rfl
  | programTab =>
      simp only [change, programTab, moveCursorToNextInputField]
      split <;> rfl

theorem changes_buffer (valid : screen.Valid) (list : List ScreenChange) (pos : Nat) :
    (screen.changes list).buffer[pos]? =
      (lastWrite pos (screen.byteLog list)).or screen.buffer[pos]? := by
  induction list generalizing screen with
  | nil => rfl
  | cons next list ih =>
      have later := ih (valid.change next)
      rw [change_buffer valid] at later
      rw [byteLog, lastWrite_append, Option.or_assoc]
      exact later

theorem changes_stored (list : List ScreenChange) (position : Nat × Nat)
    (attrType : AttributeType) (screen : ScreenBuffer) :
    (screen.changes list).stored position attrType =
      (lastWrite (position, attrType) (screen.settingLog list)).or
        (screen.stored position attrType) := by
  have ran : run AttributeCall.apply (list.map .order) screen = screen.changes list := by
    induction list generalizing screen with
    | nil => rfl
    | cons next list ih => exact ih (screen.change next)
  rw [← ran]
  exact stored_run _ _ _ _

theorem changes_filled_iff (list : List ScreenChange) (position : Nat × Nat) :
    (screen.changes list).Filled position ↔
      screen.Filled position ∨
        ∃ attrType value, ((position, attrType), value) ∈ screen.settingLog list := by
  constructor
  · rintro ⟨attrType, held⟩
    rw [changes_stored] at held
    cases set : lastWrite (position, attrType) (screen.settingLog list) with
    | none =>
        rw [set, Option.none_or] at held
        exact .inl ⟨attrType, held⟩
    | some value => exact .inr ⟨attrType, value, mem_of_lastWrite set⟩
  · rintro (⟨attrType, held⟩ | ⟨attrType, value, member⟩)
    · refine ⟨attrType, fun none => held ?_⟩
      rw [changes_stored] at none
      exact (Option.or_eq_none_iff.mp none).2
    · refine ⟨attrType, fun none => ?_⟩
      rw [changes_stored] at none
      obtain ⟨last, _, _, found, _, _⟩ := exists_lastWrite ⟨value, member⟩
      rw [found] at none
      cases none

/-- The same field list, and the same marks to detect it from. -/
structure SameMarks (before after : ScreenBuffer) : Prop where
  rows : after.rows = before.rows
  cols : after.cols = before.cols
  fields : after.fields = before.fields
  starts : after.fieldStarts = before.fieldStarts
  attributes : ∀ pos : Nat, after.attributes[pos * 3]? = before.attributes[pos * 3]?

theorem SameMarks.trans {middle after : ScreenBuffer} (first : SameMarks screen middle)
    (second : SameMarks middle after) : SameMarks screen after :=
  ⟨second.rows.trans first.rows, second.cols.trans first.cols,
    second.fields.trans first.fields, second.starts.trans first.starts,
    fun pos => (second.attributes pos).trans (first.attributes pos)⟩

theorem eraseCell_sameMarks {position : Nat × Nat}
    (quiet : ¬ screen.RunsDetection (.eraseCell position))
    (spares : screen.Spares (.eraseCell position)) :
    SameMarks screen (screen.change (.eraseCell position)) := by
  have frame := screen.change_frame (.eraseCell position)
  have starts := eraseCell_fieldStarts screen position
  suffices same : (screen.change (.eraseCell position)).fields = screen.fields ∧
      ∀ pos : Nat, (screen.change (.eraseCell position)).attributes[pos * 3]? =
        screen.attributes[pos * 3]? from
    ⟨frame.rows, frame.cols, same.1, starts, same.2⟩
  show (screen.writeChar 0x40 (some position) false true false).fields = _ ∧
    ∀ pos : Nat, (screen.writeChar 0x40 (some position) false true false).attributes[pos * 3]? = _
  rw [writeChar_eq]
  simp only [Option.getD_some, Option.isSome_some]
  split
  · rename_i accepted
    have uncovered := spares accepted.1
    have stays : ¬ screen.Redetects position.1 position.2 :=
      fun detects => quiet ⟨accepted.1, detects⟩
    rw [← @typed_redetects_iff 0x40 position.1 position.2 false false true screen] at stays
    have kept := @refreshFields_of_uncovered
      (screen.typed 0x40 position.1 position.2 false false true) position.1 position.2
      (by rw [typed_fields]; exact uncovered)
    rw [if_neg fun detects => stays ⟨by rw [typed_fields]; exact uncovered, detects⟩] at kept
    rw [kept]
    refine ⟨typed_fields, fun pos => ?_⟩
    rw [typed_attribute]
    cases screen.attributes[pos * 3]? with
    | none => rfl
    | some flags => simp
  · exact ⟨rfl, fun _ => rfl⟩

theorem change_sameMarks (resumed : screen.suspendFieldDetection = 0) {next : ScreenChange}
    (quiet : ¬ screen.RunsDetection next) (spares : screen.Spares next) :
    SameMarks screen (screen.change next) := by
  cases next with
  | setAttribute attr => exact absurd resumed quiet
  | eraseCell position => exact eraseCell_sameMarks quiet spares
  | setPosition row col => exact ⟨rfl, rfl, rfl, rfl, fun _ => rfl⟩
  | insertByte byte =>
      simp only [change, insertByte]
      split <;> exact ⟨rfl, rfl, rfl, rfl, fun _ => rfl⟩
  | setExtended attrType attrValue position =>
      simp only [change, setExtendedAttributeSfe]
      split <;> exact ⟨rfl, rfl, rfl, rfl, fun _ => rfl⟩
  | firstInput =>
      simp only [change, moveCursorToFirstInputField]
      split <;> exact ⟨rfl, rfl, rfl, rfl, fun _ => rfl⟩
  | programTab =>
      simp only [change, programTab, moveCursorToNextInputField]
      split <;> exact ⟨rfl, rfl, rfl, rfl, fun _ => rfl⟩

theorem changes_sameMarks {list : List ScreenChange}
    (resumed : screen.suspendFieldDetection = 0) (quiet : detectsAmong list screen = false)
    (spares : Along change (fun next screen => screen.Spares next) list screen) :
    SameMarks screen (screen.changes list) := by
  induction list generalizing screen with
  | nil => exact ⟨rfl, rfl, rfl, rfl, fun _ => rfl⟩
  | cons next list ih =>
      rw [detectsAmong, Bool.or_eq_false_iff, decide_eq_false_iff_not] at quiet
      have here := change_sameMarks resumed quiet.1 spares.1
      exact here.trans
        (ih ((screen.change_frame next).suspended.trans resumed) quiet.2 spares.2)

theorem Filled.set {position : Nat × Nat} (filled : screen.Filled position) :
    ∃ set attrType, screen.extendedAttributes position = some set ∧
      set.get attrType ≠ none := by
  obtain ⟨attrType, held⟩ := filled
  unfold stored at held
  cases found : screen.extendedAttributes position with
  | none =>
      rw [found] at held
      exact absurd rfl held
  | some set =>
      rw [found] at held
      exact ⟨set, attrType, rfl, held⟩

theorem rangeParams_zeros (startIdx endIdx : Nat) (screen : ScreenBuffer) :
    { screen.rangeParams startIdx endIdx with
      color := 0
      background := 0
      sfeHighlight := 0
      validation := 0
      outlining := 0
      characterSet := 0 } = screen.rangeParams startIdx endIdx ∧
    (screen.rangeParams startIdx endIdx).lightPen =
      baseLightPen screen.attributes[startIdx * 3]? ∧
    (screen.rangeParams startIdx endIdx).content = slice startIdx endIdx screen.buffer := by
  unfold rangeParams
  simp only
  cases screen.attributes[startIdx * 3]? with
  | none => exact ⟨rfl, rfl, rfl⟩
  | some attr => exact ⟨rfl, rfl, rfl⟩

/-- An attribute set takes the light pen from a field, and nothing else. -/
theorem applyExtended_rangeParams (startIdx endIdx : Nat) (screen : ScreenBuffer) :
    (screen.Filled (screen.calculateCoords startIdx) →
      applyExtended (screen.extendedAttributes (screen.calculateCoords startIdx))
          (screen.rangeParams startIdx endIdx) =
        { screen.rangeParams startIdx endIdx with lightPen := 0 }) ∧
    (¬ screen.Filled (screen.calculateCoords startIdx) →
      applyExtended (screen.extendedAttributes (screen.calculateCoords startIdx))
          (screen.rangeParams startIdx endIdx) = screen.rangeParams startIdx endIdx) := by
  obtain ⟨zeros, -, -⟩ := rangeParams_zeros startIdx endIdx screen
  constructor
  · intro filled
    obtain ⟨set, attrType, found, held⟩ := filled.set
    rw [found, applyExtended_filled held]
    exact congrArg (fun params : FieldParams => { params with lightPen := 0 }) zeros
  · intro bare
    cases found : screen.extendedAttributes (screen.calculateCoords startIdx) with
    | none => rfl
    | some set =>
        have empty : set.isEmpty = true := by
          rw [ExtendedAttributeSet.isEmpty_iff]
          intro attrType
          by_contra held
          refine bare ⟨attrType, ?_⟩
          unfold stored
          rw [found]
          exact held
        exact if_pos empty

theorem detectedFields_params (starts : ∀ start ∈ screen.fieldStarts, start < screen.size) :
    screen.detectedFields.map Field.toFieldParams =
      (ranges (screen.size - 1) screen.fieldStarts.toList).map fun range =>
        applyExtended (screen.extendedAttributes (screen.calculateCoords range.1))
          (screen.rangeParams range.1 range.2) :=
  map_detectedFields starts fun _ _ created => createFieldFromRange_params created

/-- Detection makes the same of one range in two screens. -/
theorem rangeParams_eq_iff {after : ScreenBuffer} (same : SameMarks screen after)
    (kept : ∀ position, screen.Filled position → after.Filled position)
    (startIdx endIdx : Nat) :
    applyExtended (screen.extendedAttributes (screen.calculateCoords startIdx))
        (screen.rangeParams startIdx endIdx) =
      applyExtended (after.extendedAttributes (after.calculateCoords startIdx))
        (after.rangeParams startIdx endIdx) ↔
      slice startIdx endIdx screen.buffer = slice startIdx endIdx after.buffer ∧
        (after.Filled (screen.calculateCoords startIdx) →
          baseLightPen screen.attributes[startIdx * 3]? = 0 ∨
            screen.Filled (screen.calculateCoords startIdx)) := by
  obtain ⟨-, pen, content⟩ := rangeParams_zeros startIdx endIdx screen
  obtain ⟨filled, bare⟩ := applyExtended_rangeParams startIdx endIdx screen
  obtain ⟨filled', bare'⟩ := applyExtended_rangeParams startIdx endIdx after
  have coords : ∀ index, after.calculateCoords index = screen.calculateCoords index := by
    intro index
    unfold calculateCoords
    rw [same.cols]
  rw [coords] at filled' bare' ⊢
  have moved : after.rangeParams startIdx endIdx =
      { screen.rangeParams startIdx endIdx with
        content := slice startIdx endIdx after.buffer } := by
    unfold rangeParams
    simp only
    rw [same.attributes, coords, coords]
    cases screen.attributes[startIdx * 3]? <;> rfl
  by_cases before : screen.Filled (screen.calculateCoords startIdx)
  · have later := kept _ before
    rw [filled before, filled' later, moved]
    constructor
    · intro equal
      have contents := congrArg FieldParams.content equal
      exact ⟨content.symm.trans contents, fun _ => .inr before⟩
    · rintro ⟨contents, -⟩
      rw [← contents, ← content]
  · rw [bare before]
    by_cases later : after.Filled (screen.calculateCoords startIdx)
    · rw [filled' later, moved]
      constructor
      · intro equal
        have contents := congrArg FieldParams.content equal
        have pens := congrArg FieldParams.lightPen equal
        exact ⟨content.symm.trans contents, fun _ => .inl (pen.symm.trans pens)⟩
      · rintro ⟨contents, pens⟩
        have none := (pens later).resolve_right before
        rw [← contents, ← content, ← pen.trans none]
    · rw [bare' later, moved]
      constructor
      · intro equal
        have contents := congrArg FieldParams.content equal
        exact ⟨content.symm.trans contents, fun there => absurd there later⟩
      · rintro ⟨contents, -⟩
        rw [← contents, ← content]

theorem detectedFields_eq_iff {after : ScreenBuffer} (valid : screen.Valid)
    (same : SameMarks screen after)
    (kept : ∀ position, screen.Filled position → after.Filled position) :
    screen.detectedFields = after.detectedFields ↔
      ∀ range ∈ ranges (screen.size - 1) screen.fieldStarts.toList,
        slice range.1 range.2 screen.buffer = slice range.1 range.2 after.buffer ∧
          (after.Filled (screen.calculateCoords range.1) →
            baseLightPen screen.attributes[range.1 * 3]? = 0 ∨
              screen.Filled (screen.calculateCoords range.1)) := by
  have size : after.size = screen.size := by
    unfold ScreenBuffer.size
    rw [same.rows, same.cols]
  have starts : ∀ start ∈ after.fieldStarts, start < after.size := by
    rw [same.starts, size]
    exact valid.starts_lt
  have params : screen.detectedFields = after.detectedFields ↔
      screen.detectedFields.map Field.toFieldParams =
        after.detectedFields.map Field.toFieldParams :=
    (List.map_inj_right fun _ _ => Field.eq_of_params).symm
  rw [params, detectedFields_params valid.starts_lt, detectedFields_params starts, size,
    same.starts, List.map_inj_left]
  exact forall_congr' fun range => forall_congr' fun _ =>
    rangeParams_eq_iff same kept range.1 range.2

theorem fieldsCurrent_of_quiet_iff {list : List ScreenChange} (valid : screen.Valid)
    (resumed : screen.suspendFieldDetection = 0) (current : screen.FieldsCurrent)
    (quiet : detectsAmong list screen = false)
    (spares : Along change (fun next screen => screen.Spares next) list screen) :
    (screen.changes list).FieldsCurrent ↔ screen.ShowsNothingNew list := by
  have same := changes_sameMarks resumed quiet spares
  have filled := fun position => @changes_filled_iff screen list position
  have bounded : ∀ start ∈ screen.fieldStarts.toList, start ≤ screen.size - 1 :=
    fun start member => Nat.le_sub_one_of_lt (valid.starts_lt start member)
  have equal : (screen.changes list).FieldsCurrent ↔
      screen.detectedFields = (screen.changes list).detectedFields := by
    unfold FieldsCurrent at current ⊢
    rw [same.fields, current]
  rw [equal, detectedFields_eq_iff valid same fun position held => (filled position).mpr (.inl held)]
  constructor
  · intro ranges
    constructor
    · intro start pos byte member behind last
      by_cases within : pos < screen.size
      · obtain ⟨range, among, from', upTo⟩ := exists_range bounded member behind
          (Nat.le_sub_one_of_lt within)
        have shown := slice_eq_iff.mp (ranges range among).1 pos from' upTo
        rw [changes_buffer valid, last] at shown
        exact shown
      · have beyond := changes_buffer valid list pos
        rw [last, List.getElem?_eq_none] at beyond
        · cases beyond
        · rw [(valid.changes list).buffer_length]
          unfold ScreenBuffer.size
          rw [same.rows, same.cols]
          exact Nat.not_lt.mp within
    · intro start attrType value member set
      have among : start ∈ (Foundations.ranges (screen.size - 1)
          screen.fieldStarts.toList).map Prod.fst := by
        rw [map_fst_ranges]
        exact member
      obtain ⟨range, inRanges, rfl⟩ := List.mem_map.mp among
      exact (ranges range inRanges).2 ((filled _).mpr (.inr ⟨attrType, value, set⟩))
  · rintro ⟨bytes, lightPens⟩ range member
    have marked : range.1 ∈ screen.fieldStarts := mem_of_mem_ranges member
    constructor
    · refine slice_eq_iff.mpr fun pos behind _ => ?_
      rw [changes_buffer valid]
      cases last : lastWrite pos (screen.byteLog list) with
      | none => rfl
      | some byte => exact bytes marked behind last
    · intro later
      rcases (filled _).mp later with before | ⟨attrType, value, set⟩
      · exact .inr before
      · exact lightPens marked set

theorem RunsDetection.current (valid : screen.Valid) {next : ScreenChange}
    (detects : screen.RunsDetection next) : (screen.change next).FieldsCurrent := by
  cases next with
  | setAttribute attr =>
      have inside : screen.getPosition.1 * screen.cols + screen.getPosition.2 < screen.size :=
        valid.cursorAddress_lt
      have resumed : screen.suspendFieldDetection = 0 := detects
      simp only [change, setAttribute, Option.getD_none]
      rw [if_pos inside, if_pos resumed]
      rfl
  | eraseCell position =>
      obtain ⟨inside, redetects⟩ := detects
      show (screen.writeChar 0x40 (some position) false true false).FieldsCurrent
      rw [writeChar_eq]
      simp only [Option.getD_some, Option.isSome_some]
      rw [← @typed_redetects_iff 0x40 position.1 position.2 false false true screen] at redetects
      rw [if_pos (valid.accepts inside), refreshFields_of_redetects redetects]
      rfl
  | setPosition row col => exact detects.elim
  | insertByte byte => exact detects.elim
  | setExtended attrType attrValue position => exact detects.elim
  | firstInput => exact detects.elim
  | programTab => exact detects.elim

theorem fieldsCurrent_changes_iff {list : List ScreenChange} (valid : screen.Valid)
    (resumed : screen.suspendFieldDetection = 0)
    (current : detectsAmong list screen = false → screen.FieldsCurrent)
    (spares : SinceDetection
      (Along change fun next screen => screen.Spares next) list screen) :
    (screen.changes list).FieldsCurrent ↔ SinceDetection ShowsNothingNew list screen := by
  induction list generalizing screen with
  | nil => exact fieldsCurrent_of_quiet_iff valid resumed (current rfl) rfl trivial
  | cons next list ih =>
      rw [SinceDetection] at spares ⊢
      cases among : detectsAmong (next :: list) screen with
      | false =>
          rw [among] at spares
          exact fieldsCurrent_of_quiet_iff valid resumed (current among) among spares
      | true =>
          rw [among] at spares
          refine ih (valid.change next) ((screen.change_frame next).suspended.trans resumed)
            (fun quiet => ?_) spares
          rw [detectsAmong, quiet, Bool.or_false, decide_eq_true_eq] at among
          exact RunsDetection.current valid among

end ScreenBuffer

end Pure3270
