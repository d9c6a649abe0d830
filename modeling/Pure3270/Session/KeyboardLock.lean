import Pure3270.Protocol.KeyboardRestore
import Pure3270.Session.Keys
import Pure3270.Session.ProtectedCells

/-!
# The keyboard lock

A key that sends an AID is to lock the keyboard until the host restores it, and
nothing is to be edited or entered meanwhile.  Only `submit` locks, only a write
control character unlocks, and nothing asks for the lock.
-/

namespace Pure3270

open Foundations

/-- What happens to a session.  The record of a read is parsed by the handler, and
what the read returns is parsed once more by the session.  Whatever else happens
leaves the screen alone. -/
inductive KeyboardEvent where
  | operation (op : UserOperation)
  | record (data : List UInt8) (dataType : UInt8) (returned : Option (List UInt8))
  | elsewhere (sender : DataSender)

namespace OnlineSession

def parse (data : List UInt8) (dataType : UInt8) (online : OnlineSession) : OnlineSession :=
  let parser := online.sender.handler.parser
  { online with
    sender := online.sender.withParser
      (finalState (DataStreamParser.parse data dataType parser)) }

/-- A record, and what a read returns of it. -/
def receive (data : List UInt8) (dataType : UInt8) (returned : Option (List UInt8))
    (online : OnlineSession) : OnlineSession :=
  match returned with
  | none => online.parse data dataType
  | some bytes => (online.parse data dataType).parse bytes 0x00

end OnlineSession

/-- A record of 3270 data that restores the keyboard. -/
def Restores (data : List UInt8) (dataType : UInt8) : Prop :=
  dataType = 0x00 ∧ DataStreamParser.restoresKeyboard data = true

instance (data : List UInt8) (dataType : UInt8) : Decidable (Restores data dataType) :=
  instDecidableAnd

/-- A session, and whether an AID has been sent that no record has answered with
the restore bit. -/
structure KeyboardRun where
  online : OnlineSession
  awaiting : Bool

namespace KeyboardRun

variable (pages : Ebcdic.Codepages)

def locked (state : KeyboardRun) : Bool := state.online.screen.keyboardLocked

def step : KeyboardEvent → KeyboardRun → KeyboardRun
  | .operation op, state =>
      let after := state.online.operate pages op
      { online := after
        awaiting := state.awaiting || state.online.transmitted after ≠ [] }
  | .record data dataType returned, state =>
      { online := state.online.receive data dataType returned
        awaiting := state.awaiting && !decide (Restores data dataType) }
  | .elsewhere sender, state =>
      let parser := { sender.handler.parser with screen := state.online.screen }
      { state with online := { state.online with sender := sender.withParser parser } }

/-- An AID that is sent locks the keyboard until a record restores it, and while it
is locked an operation changes no cell and sends no Enter. -/
def Guarded (event : KeyboardEvent) (state : KeyboardRun) : Prop :=
  let after := step pages event state
  (after.awaiting = true → after.locked = true) ∧
    match event with
    | .operation _ =>
        state.locked = true →
          after.online.screen.buffer = state.online.screen.buffer ∧
            (state.online.transmitted after.online).head? ≠ some 0x7D
    | .record data dataType _ => Restores data dataType → after.locked = false
    | .elsewhere _ => True

end KeyboardRun

namespace OnlineSession

/-- An operation that may be done although nothing asks for the lock. -/
def MayOperate (op : UserOperation) (online : OnlineSession) : Prop :=
  let locked := online.screen.keyboardLocked
  let hasWriter := online.sender.handler.hasWriter
  match op with
  | .key keyname =>
      (keyname = "Enter" → hasWriter = false) ∧
        (keyname = "BackSpace" → locked = true →
          online.session.Spares (fun _ => True) .backSpace)
  | .press key => locked = true → online.session.Spares (fun _ => True) key
  | .clear => locked = true → ∀ byte ∈ online.screen.buffer, byte = online.screen.blank
  | .submit aid => locked = true → aid = 0x7D → hasWriter = false
  | .selectLightPen row col =>
      let detected := online.screen.detectFields
      locked = true → ∀ field ∈ detected.getFieldAtPosition row col, field.lightPen ≠ 0 →
        hasWriter = false ∧ online.screen.buffer[row * online.screen.cols + col]? ≠ some 0x3F

end OnlineSession

namespace KeyboardRun

/-- An event that may come although nothing asks for the lock. -/
def MayCome (event : KeyboardEvent) (state : KeyboardRun) : Prop :=
  match event with
  | .operation op => state.online.MayOperate op
  | .record data dataType returned =>
      state.awaiting = true → ¬ Restores data dataType →
        (state.online.sender.handler.parser.takesFor3270 dataType = true →
          DataStreamParser.restoresKeyboard data = false) ∧
        ∀ bytes ∈ returned, DataStreamParser.restoresKeyboard bytes = false
  | .elsewhere _ => True

end KeyboardRun

namespace ScreenBuffer

variable {screen : ScreenBuffer}

theorem selectLightPen_of_unselectable {row col : Nat}
    (unselectable : ∀ field ∈ screen.detectFields.getFieldAtPosition row col,
      field.lightPen = 0) :
    screen.selectLightPen row col = (screen.detectFields, none) := by
  unfold selectLightPen
  dsimp only
  split
  · rfl
  · rename_i field found
    exact if_neg (not_not.mpr (unselectable field found))

/-- A selection changes a question mark at the position. -/
theorem selectLightPen_of_selectable {row col : Nat} {field : Field}
    (found : screen.detectFields.getFieldAtPosition row col = some field)
    (selectable : field.lightPen ≠ 0) :
    (screen.selectLightPen row col).2 = some 0x7D ∧
      (screen.selectLightPen row col).1.buffer =
        if screen.buffer[row * screen.cols + col]? = some 0x3F then
          screen.buffer.set (row * screen.cols + col) 0x3E
        else screen.buffer := by
  unfold selectLightPen
  dsimp only
  rw [found]
  dsimp only
  rw [if_pos selectable]
  exact ⟨rfl, rfl⟩

theorem moveCursorToNextInputField_moves (valid : screen.Valid) :
    ∃ row col, row < screen.rows ∧ col < screen.cols ∧
      screen.moveCursorToNextInputField = screen.moveCursorTo (row, col) := by
  unfold moveCursorToNextInputField
  split
  · rename_i position found
    have inside := nextInputPosition_inBounds valid found
    exact ⟨position.1, position.2, inside.1, inside.2, rfl⟩
  · exact ⟨_, _, valid.cursorRow_lt, valid.cursorCol_lt, rfl⟩

theorem Valid.selectLightPen (valid : screen.Valid) (row col : Nat) :
    (screen.selectLightPen row col).1.Valid := by
  have sound : ((screen.selectLightPen row col).1.moveCursorTo (0, 0)).Valid :=
    valid.sound.selectLightPen row col
  have frame : (screen.selectLightPen row col).1.cursorRow = screen.cursorRow ∧
      (screen.selectLightPen row col).1.cursorCol = screen.cursorCol ∧
      (screen.selectLightPen row col).1.rows = screen.rows ∧
      (screen.selectLightPen row col).1.cols = screen.cols := by
    unfold ScreenBuffer.selectLightPen
    dsimp only
    split
    · exact ⟨rfl, rfl, rfl, rfl⟩
    · split
      · exact ⟨rfl, rfl, rfl, rfl⟩
      · exact ⟨rfl, rfl, rfl, rfl⟩
  obtain ⟨row, col, rows, cols⟩ := frame
  exact { sound with
    cursorRow_lt := by
      rw [row, rows]
      exact valid.cursorRow_lt
    cursorCol_lt := by
      rw [col, cols]
      exact valid.cursorCol_lt }

end ScreenBuffer

namespace AsyncSession

variable {session : AsyncSession}

theorem press_keyboardLocked (key : Keystroke) :
    (session.press key).screenBuffer.keyboardLocked =
      session.screenBuffer.keyboardLocked := by
  cases key with
  | char ch => exact (ScreenBuffer.insertChar_frame _ _ _ _ _).keyboardLocked
  | deleteField =>
      show session.screenBuffer.deleteField.keyboardLocked = _
      unfold ScreenBuffer.deleteField
      split
      · rfl
      · rfl
  | backSpace => rfl
  | delete => rfl
  | eraseEof => rfl
  | eraseInput => rfl
  | moveCursor row col => rfl
  | insert => rfl
  | circumNot => rfl

/-- A keystroke leaves all cells as they are where it finds in them what it
stores. -/
theorem press_buffer_iff (valid : session.screenBuffer.Valid) (key : Keystroke) :
    (session.press key).screenBuffer.buffer = session.screenBuffer.buffer ↔
      session.Spares (fun _ => True) key := by
  rw [← spares_iff valid, List.ext_getElem?_iff]
  refine forall_congr' fun pos => ?_
  rw [press_byteAfter valid, byteAfter, or_eq_right_iff]
  exact ⟨fun held _ => held, fun held => held trivial⟩

/-- A cursor move, to somewhere on the screen. -/
def MovesCursor (session after : AsyncSession) : Prop :=
  ∃ row col, row < session.screenBuffer.rows ∧ col < session.screenBuffer.cols ∧
    after = session.withScreen (·.moveCursorTo (row, col))

theorem movesCursor_setPosition (row col : Nat) :
    session.MovesCursor (session.withScreen (·.setPosition row col)) := by
  have rows_pos := session.screenBuffer.rows_pos
  have cols_pos := session.screenBuffer.cols_pos
  exact ⟨_, _, by omega, by omega, rfl⟩

theorem movesCursor_none (valid : session.screenBuffer.Valid) :
    session.MovesCursor session :=
  ⟨_, _, valid.cursorRow_lt, valid.cursorCol_lt, rfl⟩

theorem movesCursor_goToStart (valid : session.screenBuffer.Valid) (field : Option Field) :
    session.MovesCursor (session.withScreen (·.goToStart field)) := by
  cases field with
  | none => exact movesCursor_none valid
  | some field => exact movesCursor_setPosition _ _

theorem movesCursor_tab (valid : session.screenBuffer.Valid) :
    session.MovesCursor session.tab := by
  obtain ⟨row, col, rowInside, colInside, moved⟩ :=
    ScreenBuffer.moveCursorToNextInputField_moves valid
  exact ⟨row, col, rowInside, colInside,
    congrArg (fun screen => { session with screenBuffer := screen }) moved⟩

theorem localKeys_spec {keyname : String} {f : AsyncSession → AsyncSession}
    (found : localKeys.lookup keyname = some f) (valid : session.screenBuffer.Valid) :
    keyname = "BackSpace" ∧ f = press .backSpace ∨
      keyname ≠ "BackSpace" ∧ session.MovesCursor (f session) := by
  obtain ⟨front, back, listed, _⟩ := List.lookup_eq_some_iff.mp found
  have member : (keyname, f) ∈ localKeys := by
    rw [listed]
    exact List.mem_append_right front List.mem_cons_self
  simp only [localKeys, List.mem_cons, Prod.mk.injEq, List.not_mem_nil, or_false] at member
  rcases member with ⟨rfl, rfl⟩ | ⟨rfl, rfl⟩ | ⟨rfl, rfl⟩ | ⟨rfl, rfl⟩ | ⟨rfl, rfl⟩ | ⟨rfl, rfl⟩ |
    ⟨rfl, rfl⟩ | ⟨rfl, rfl⟩ | ⟨rfl, rfl⟩ | ⟨rfl, rfl⟩
  · exact .inr ⟨by decide, movesCursor_tab valid⟩
  · exact .inr ⟨by decide, movesCursor_goToStart valid _⟩
  · exact .inr ⟨by decide, movesCursor_goToStart valid _⟩
  · exact .inr ⟨by decide, movesCursor_setPosition _ _⟩
  · exact .inr ⟨by decide, movesCursor_none valid⟩
  · exact .inr ⟨by decide, movesCursor_setPosition _ _⟩
  · exact .inr ⟨by decide, movesCursor_setPosition _ _⟩
  · exact .inr ⟨by decide, movesCursor_setPosition _ _⟩
  · exact .inr ⟨by decide, movesCursor_setPosition _ _⟩
  · exact .inl ⟨rfl, rfl⟩

theorem localKeys_valid {keyname : String} {f : AsyncSession → AsyncSession}
    (found : localKeys.lookup keyname = some f) (valid : session.screenBuffer.Valid) :
    (f session).screenBuffer.Valid := by
  rcases localKeys_spec found valid with ⟨_, rfl⟩ | ⟨_, row, col, rowInside, colInside, moved⟩
  · exact press_valid valid .backSpace
  · rw [moved]
    exact valid.moveCursorTo rowInside colInside

end AsyncSession

namespace OnlineSession

variable {online : OnlineSession} {pages : Ebcdic.Codepages}

theorem submit_valid (valid : online.screen.Valid) (aid : UInt8) :
    (online.submit aid).screen.Valid := by
  rw [submit_screen]
  exact valid.setKeyboardLock true

theorem operate_valid (valid : online.screen.Valid) (op : UserOperation) :
    (online.operate pages op).screen.Valid := by
  have here : online.session.screenBuffer.Valid := valid
  cases op with
  | key keyname =>
      show (online.key pages keyname).screen.Valid
      unfold key
      split
      · rename_i f found
        exact AsyncSession.localKeys_valid found here
      · split
        · split
          · rw [sendData_screen]
            exact valid
          · exact submit_valid valid _
        · exact submit_valid valid _
  | press key => exact AsyncSession.press_valid here key
  | clear => exact valid.clear
  | submit aid => exact submit_valid valid aid
  | selectLightPen row col =>
      have selected : (online.edit (·.withScreen fun _ =>
          (online.screen.selectLightPen row col).1)).screen.Valid :=
        valid.selectLightPen row col
      show (online.selectLightPen row col).screen.Valid
      unfold selectLightPen
      dsimp only
      split
      · exact submit_valid selected _
      · exact selected

theorem receive_valid (valid : online.screen.Valid) (data : List UInt8) (dataType : UInt8)
    (returned : Option (List UInt8)) :
    (online.receive data dataType returned).screen.Valid := by
  have parsed := (DataStreamParser.parse_valid valid data dataType).2.1
  cases returned with
  | none => exact parsed
  | some bytes => exact (DataStreamParser.parse_valid parsed bytes 0x00).2.1

end OnlineSession

namespace KeyboardRun

variable {pages : Ebcdic.Codepages} {state : KeyboardRun}

theorem guarded_edit_iff (awaits : state.awaiting = true → state.locked = true)
    {op : UserOperation} {f : AsyncSession → AsyncSession}
    (does : state.online.operate pages op = state.online.edit f)
    (sameLock : (f state.online.session).screenBuffer.keyboardLocked = state.locked) :
    Guarded pages (.operation op) state ↔ (state.locked = true →
      (f state.online.session).screenBuffer.buffer = state.online.screen.buffer) := by
  have silent := state.online.transmitted_edit f
  unfold Guarded step locked
  dsimp only
  rw [does, silent, OnlineSession.edit_screen, sameLock]
  constructor
  · intro guarded here
    exact (guarded.2 here).1
  · intro kept
    refine ⟨fun waiting => awaits (by simpa using waiting), fun here => ⟨kept here, nofun⟩⟩

theorem guarded_sendData_iff {op : UserOperation} {f : AsyncSession → AsyncSession}
    {data : List UInt8} (some : data ≠ [])
    (does : state.online.operate pages op = (state.online.edit f).sendData data) :
    Guarded pages (.operation op) state ↔
      (state.awaiting = true ∨ state.online.sender.handler.hasWriter = true →
        (f state.online.session).screenBuffer.keyboardLocked = true) ∧
      (state.locked = true →
        (f state.online.session).screenBuffer.buffer = state.online.screen.buffer ∧
          (state.online.sender.handler.hasWriter = true → data.head? ≠ Option.some 0x7D)) := by
  have sent := state.online.transmitted_sendData f data
  unfold Guarded step locked
  dsimp only
  rw [does, sent, OnlineSession.sendData_screen, OnlineSession.edit_screen]
  cases state.online.sender.handler.hasWriter with
  | false => simp
  | true => simp [some]

theorem guarded_submit_iff {op : UserOperation} {f : AsyncSession → AsyncSession} {aid : UInt8}
    (does : state.online.operate pages op = (state.online.edit f).submit aid) :
    Guarded pages (.operation op) state ↔
      (state.locked = true →
        (f state.online.session).screenBuffer.buffer = state.online.screen.buffer ∧
          (state.online.sender.handler.hasWriter = true → aid ≠ 0x7D)) := by
  have sends : state.online.operate pages op = (state.online.edit fun session =>
      (f session).withScreen (·.setKeyboardLock true)).sendData [aid] := does
  refine (guarded_sendData_iff (List.cons_ne_nil aid []) sends).trans ?_
  refine (and_iff_right fun _ => rfl).trans ?_
  simp only [List.head?_cons, ne_eq, Option.some.injEq]
  rfl

theorem guarded_enter_iff (awaits : state.awaiting = true → state.locked = true) :
    Guarded pages (.operation (.key "Enter")) state ↔
      state.online.sender.handler.hasWriter = false := by
  have does : state.online.operate pages (.key "Enter") =
      (state.online.edit id).sendData (state.online.session.enterRecord pages) := rfl
  have record := AsyncSession.enterRecord_eq pages state.online.session
  have some : state.online.session.enterRecord pages ≠ [] := by
    rw [record]
    exact List.cons_ne_nil _ _
  have head : (state.online.session.enterRecord pages).head? = Option.some 0x7D := by
    rw [record]
    rfl
  rw [guarded_sendData_iff some does, head]
  cases state.online.sender.handler.hasWriter with
  | false =>
      refine iff_of_true ⟨fun waiting => awaits (waiting.resolve_right nofun), ?_⟩ rfl
      exact fun _ => ⟨rfl, nofun⟩
  | true =>
      refine iff_of_false (fun guarded => ?_) nofun
      have here : state.locked = true := guarded.1 (.inr rfl)
      exact (guarded.2 here).2 rfl rfl

theorem eq_enter_of_lookup {keyname : String}
    (found : AsyncSession.aidMap.lookup keyname = some 0x7D) : keyname = "Enter" := by
  obtain ⟨front, back, listed, _⟩ := List.lookup_eq_some_iff.mp found
  have member : (keyname, (0x7D : UInt8)) ∈ AsyncSession.aidMap := by
    rw [listed]
    exact List.mem_append_right front List.mem_cons_self
  have only : ∀ entry ∈ AsyncSession.aidMap, entry.2 = 0x7D → entry.1 = "Enter" := by
    decide
  exact only _ member rfl

theorem guarded_key_iff (valid : state.online.screen.Valid)
    (awaits : state.awaiting = true → state.locked = true) (keyname : String) :
    Guarded pages (.operation (.key keyname)) state ↔ state.online.MayOperate (.key keyname) := by
  have here : state.online.session.screenBuffer.Valid := valid
  unfold OnlineSession.MayOperate
  dsimp only
  by_cases enter : keyname = "Enter"
  · subst enter
    rw [guarded_enter_iff awaits]
    exact ⟨fun none => ⟨fun _ => none, fun other => absurd other (by decide)⟩,
      fun may => may.1 rfl⟩
  rw [and_iff_right fun same => absurd same enter]
  cases found : AsyncSession.localKeys.lookup keyname with
  | some f =>
      have does : state.online.operate pages (.key keyname) = state.online.edit f := by
        show state.online.key pages keyname = _
        unfold OnlineSession.key
        rw [found]
      rcases AsyncSession.localKeys_spec found here with
        ⟨same, rfl⟩ | ⟨other, row, col, _, _, moved⟩
      · rw [guarded_edit_iff awaits does (AsyncSession.press_keyboardLocked _)]
        refine Iff.trans ?_ (forall_prop_of_true same).symm
        exact imp_congr_right fun _ => AsyncSession.press_buffer_iff here .backSpace
      · rw [guarded_edit_iff awaits does (by rw [moved]; rfl), moved]
        exact iff_of_true (fun _ => rfl) fun same => absurd same other
  | none =>
      have notBackSpace : keyname ≠ "BackSpace" := by
        rintro rfl
        cases found
      refine iff_of_true ?_ fun same => absurd same notBackSpace
      cases mapped : AsyncSession.aidMap.lookup keyname with
      | some aid =>
          have does : state.online.operate pages (.key keyname) =
              (state.online.edit id).submit aid := by
            show state.online.key pages keyname = _
            unfold OnlineSession.key
            rw [found, mapped]
            exact if_neg enter
          refine (guarded_submit_iff does).mpr fun _ => ⟨rfl, fun _ same => ?_⟩
          rw [same] at mapped
          exact enter (eq_enter_of_lookup mapped)
      | none =>
          have does : state.online.operate pages (.key keyname) =
              (state.online.edit id).submit 0xF3 := by
            show state.online.key pages keyname = _
            unfold OnlineSession.key
            rw [found, mapped]
            rfl
          exact (guarded_submit_iff does).mpr fun _ => ⟨rfl, fun _ => by decide⟩

theorem guarded_selectLightPen_iff (awaits : state.awaiting = true → state.locked = true)
    (row col : Nat) :
    Guarded pages (.operation (.selectLightPen row col)) state ↔
      state.online.MayOperate (.selectLightPen row col) := by
  unfold OnlineSession.MayOperate
  dsimp only
  by_cases selectable : ∃ field ∈ state.online.screen.detectFields.getFieldAtPosition row col,
      field.lightPen ≠ 0
  · obtain ⟨field, found, lightPen⟩ := selectable
    have selected := ScreenBuffer.selectLightPen_of_selectable found lightPen
    have does : state.online.operate pages (.selectLightPen row col) =
        (state.online.edit (·.withScreen fun _ =>
          (state.online.screen.selectLightPen row col).1)).submit 0x7D := by
      show state.online.selectLightPen row col = _
      unfold OnlineSession.selectLightPen
      dsimp only
      rw [selected.1]
    rw [guarded_submit_iff does]
    refine imp_congr_right fun _ => ?_
    show (state.online.screen.selectLightPen row col).1.buffer = _ ∧ _ ↔ _
    rw [selected.2]
    constructor
    · rintro ⟨kept, silent⟩ _ _ _
      refine ⟨Bool.eq_false_iff.mpr fun connected => silent connected rfl, fun marked => ?_⟩
      rw [if_pos marked] at kept
      have changed : (state.online.screen.buffer.set
          (row * state.online.screen.cols + col) 0x3E)[row * state.online.screen.cols + col]? =
            some 0x3E := List.getElem?_set_self (List.getElem?_eq_some_iff.mp marked).1
      rw [kept, marked] at changed
      cases changed
    · intro may
      obtain ⟨silent, unmarked⟩ := may field found lightPen
      exact ⟨if_neg unmarked, fun connected => by rw [silent] at connected; cases connected⟩
  · have none : ∀ field ∈ state.online.screen.detectFields.getFieldAtPosition row col,
        field.lightPen = 0 := fun field found =>
      by_contra fun lightPen => selectable ⟨field, found, lightPen⟩
    have selected := ScreenBuffer.selectLightPen_of_unselectable none
    have does : state.online.operate pages (.selectLightPen row col) =
        state.online.edit (·.withScreen (·.detectFields)) := by
      show state.online.selectLightPen row col = _
      unfold OnlineSession.selectLightPen
      rw [selected]
      rfl
    rw [guarded_edit_iff awaits does rfl]
    exact iff_of_true (fun _ => rfl) fun _ field found lightPen =>
      absurd (none field found) lightPen

theorem guarded_clear_iff (valid : state.online.screen.Valid)
    (awaits : state.awaiting = true → state.locked = true) :
    Guarded pages (.operation .clear) state ↔ state.online.MayOperate .clear := by
  have does : state.online.operate pages .clear = state.online.edit (·.clear) := rfl
  rw [guarded_edit_iff awaits does rfl]
  refine imp_congr_right fun _ => ?_
  show List.replicate state.online.screen.size state.online.screen.blank = _ ↔ _
  rw [← valid.buffer_length, eq_comm, List.eq_replicate_iff, and_iff_right rfl]

theorem guarded_operation_iff (valid : state.online.screen.Valid)
    (awaits : state.awaiting = true → state.locked = true) (op : UserOperation) :
    Guarded pages (.operation op) state ↔ state.online.MayOperate op := by
  have here : state.online.session.screenBuffer.Valid := valid
  cases op with
  | key keyname => exact guarded_key_iff valid awaits keyname
  | press key =>
      have does : state.online.operate pages (.press key) = state.online.edit (·.press key) := rfl
      rw [guarded_edit_iff awaits does (AsyncSession.press_keyboardLocked key)]
      exact imp_congr_right fun _ => AsyncSession.press_buffer_iff here key
  | clear => exact guarded_clear_iff valid awaits
  | submit aid =>
      have does : state.online.operate pages (.submit aid) =
        (state.online.edit id).submit aid := rfl
      rw [guarded_submit_iff does]
      refine imp_congr_right fun _ => (and_iff_right rfl).trans ?_
      show _ → _ ↔ (aid = 0x7D → state.online.sender.handler.hasWriter = false)
      rw [← Bool.not_eq_true]
      exact imp_not_comm
  | selectLightPen row col => exact guarded_selectLightPen_iff awaits row col

theorem receive_keyboardLocked (data : List UInt8) (dataType : UInt8)
    (returned : Option (List UInt8)) (online : OnlineSession) :
    (online.receive data dataType returned).screen.keyboardLocked =
      (online.screen.keyboardLocked &&
        !(online.sender.handler.parser.takesFor3270 dataType &&
          DataStreamParser.restoresKeyboard data) &&
        !returned.any DataStreamParser.restoresKeyboard) := by
  have parsed := DataStreamParser.parse_keyboardLocked data dataType
    online.sender.handler.parser
  cases returned with
  | none => exact parsed.trans (Bool.and_true _).symm
  | some bytes =>
      have again := DataStreamParser.parse_keyboardLocked bytes 0x00
        (online.parse data dataType).sender.handler.parser
      refine again.trans ?_
      show ((finalState (DataStreamParser.parse data dataType
        online.sender.handler.parser)).screen.keyboardLocked && _) = _
      rw [parsed]
      rfl

theorem guarded_record_iff (awaits : state.awaiting = true → state.locked = true)
    (data : List UInt8) (dataType : UInt8) (returned : Option (List UInt8)) :
    Guarded pages (.record data dataType returned) state ↔
      MayCome (.record data dataType returned) state := by
  have after := receive_keyboardLocked data dataType returned state.online
  have unlocks : Restores data dataType →
      (state.online.receive data dataType returned).screen.keyboardLocked = false := by
    rintro ⟨rfl, restoring⟩
    have taken : state.online.sender.handler.parser.takesFor3270 0x00 = true := rfl
    rw [after, taken, restoring]
    simp
  unfold Guarded MayCome step locked at *
  dsimp only
  rw [and_iff_left unlocks, after]
  cases waiting : state.awaiting with
  | false => simp
  | true =>
      by_cases restores : Restores data dataType
      · simp [restores]
      · simp only [awaits waiting, restores, decide_false, Bool.not_false, Bool.and_true,
          Bool.true_and, not_false_eq_true, forall_const, Bool.and_eq_true, Bool.not_eq_true',
          Bool.and_eq_false_imp, Option.any_eq_false]
        exact Iff.rfl

theorem guarded_iff (valid : state.online.screen.Valid)
    (awaits : state.awaiting = true → state.locked = true) (event : KeyboardEvent) :
    Guarded pages event state ↔ MayCome event state := by
  cases event with
  | operation op => exact guarded_operation_iff valid awaits op
  | record data dataType returned => exact guarded_record_iff awaits data dataType returned
  | elsewhere sender => exact iff_of_true ⟨awaits, trivial⟩ trivial

theorem step_valid (valid : state.online.screen.Valid) (event : KeyboardEvent) :
    (step pages event state).online.screen.Valid := by
  cases event with
  | operation op => exact OnlineSession.operate_valid valid op
  | record data dataType returned => exact OnlineSession.receive_valid valid data dataType returned
  | elsewhere sender => exact valid

/-- Every step of a run keeps to the lock exactly where its events may come although
nothing asks for the lock. -/
theorem guarded_throughout_iff (pages : Ebcdic.Codepages) {state : KeyboardRun}
    (valid : state.online.screen.Valid)
    (awaits : state.awaiting = true → state.locked = true) (events : List KeyboardEvent) :
    Along (step pages) (Guarded pages) events state ↔
      Along (step pages) MayCome events state := by
  have keeps : ∀ event {state : KeyboardRun},
      state.online.screen.Valid ∧ (state.awaiting = true → state.locked = true) →
        Guarded pages event state →
          (step pages event state).online.screen.Valid ∧
            ((step pages event state).awaiting = true →
              (step pages event state).locked = true) :=
    fun event _ here guarded => ⟨step_valid here.1 event, guarded.1⟩
  have exactly : ∀ event {state : KeyboardRun},
      state.online.screen.Valid ∧ (state.awaiting = true → state.locked = true) →
        (Guarded pages event state ↔ MayCome event state) :=
    fun event _ here => guarded_iff here.1 here.2 event
  exact along_congr keeps exactly ⟨valid, awaits⟩

/-- A new session on a small screen. -/
def small : KeyboardRun where
  online := {
    sender := { handler := Tn3270Handler.smallHandler, lastSentSeqNumber := 0, written := [] }
    insertMode := false
    circumventProtection := false }
  awaiting := false

/-- A function key, a cursor move, the answer of the host, and a letter. -/
theorem guarded_throughout_answered :
    Along (step ScreenBuffer.cp037Pages) (Guarded ScreenBuffer.cp037Pages)
      [.operation (.key "PF(3)"), .operation (.press (.moveCursor 0 1)),
        .record [0xF1, 0xC3] 0x00 (some [0xF1, 0xC3]), .operation (.press (.char 'a'))] small := by
  have valid : small.online.screen.Valid := DataStreamParser.smallParser_valid 0 0
  have awaits : small.awaiting = true → small.locked = true := nofun
  refine (guarded_throughout_iff _ valid awaits _).mpr
    ⟨⟨fun enter => absurd enter (by decide), fun erase => absurd erase (by decide)⟩,
      fun _ => trivial, fun _ kept => absurd (by decide) kept, fun stillLocked => ?_, trivial⟩
  exact absurd stillLocked (by decide +kernel)

/-- Enter leaves the keyboard unlocked. -/
theorem enter_leaves_unlocked :
    ¬ ∀ (pages : Ebcdic.Codepages) (state : KeyboardRun), state.online.screen.Valid →
      (state.awaiting = true → state.locked = true) → ∀ events : List KeyboardEvent,
        Along (step pages) (Guarded pages) events state := by
  intro claimed
  have valid : small.online.screen.Valid := DataStreamParser.smallParser_valid 0 0
  have awaits : small.awaiting = true → small.locked = true := nofun
  have entered := (claimed ScreenBuffer.cp037Pages small valid awaits
    [.operation (.key "Enter")]).1.1
  have unlocked : (step ScreenBuffer.cp037Pages (.operation (.key "Enter")) small).awaiting = true ∧
      (step ScreenBuffer.cp037Pages (.operation (.key "Enter")) small).locked = false := by
    decide +kernel
  rw [unlocked.2] at entered
  cases entered unlocked.1

end KeyboardRun

end Pure3270
