import Mathlib.Data.List.DropRight
import Pure3270.Protocol.WriteRecords
import Pure3270.Session.EditedFields

/-!
# Mirrored contents

The contents of the fields mirror the buffer when every field has the bytes of
its cells.  Detection and the refresh of a typed character restore the mirror;
whatever else stores a byte in a field breaks it, unless the byte is there
already.
-/

namespace Pure3270

open Foundations

namespace ScreenBuffer

/-- Every field has the bytes between its start and its end. -/
def Mirrors (screen : ScreenBuffer) : Prop :=
  ∀ field ∈ screen.fields, field.content = contentOf screen.cols screen.buffer field

theorem mirrors_detectFields (screen : ScreenBuffer) : screen.detectFields.Mirrors :=
  fun _ member => detectedFields_content member

/-- A byte that is stored in a cell of a field is there already. -/
def StoresNothingNew (byte : UInt8) (pos : Nat) (fields : List Field)
    (screen : ScreenBuffer) : Prop :=
  ∀ field ∈ fields, containsIndex screen.cols pos field = true →
    screen.buffer[pos]? = some byte

/-- A change that keeps the mirror.  Erasing a cell refreshes the first field
that covers it, or detects all fields again. -/
def KeepsMirror (next : ScreenChange) (screen : ScreenBuffer) : Prop :=
  match next with
  | .insertByte byte =>
      screen.StoresNothingNew byte screen.cursorAddress screen.fields
  | .setAttribute _ => screen.suspendFieldDetection = 0
  | .eraseCell position =>
      position.1 < screen.rows ∧ position.2 < screen.cols →
        ¬ screen.Redetects position.1 position.2 →
          screen.StoresNothingNew 0x40 (position.1 * screen.cols + position.2)
            (screen.fields.eraseP (coversPosition position.1 position.2))
  | _ => True

variable {screen : ScreenBuffer}

theorem contentOf_set {byte : UInt8} {pos : Nat} {field : Field}
    (held : containsIndex screen.cols pos field = true →
      screen.buffer[pos]? = some byte) :
    contentOf screen.cols (screen.buffer.set pos byte) field =
      contentOf screen.cols screen.buffer field := by
  refine contentOf_eq_iff.mpr fun other inside => ?_
  rw [List.getElem?_set]
  split
  · rename_i same
    subst same
    rw [held inside]
    split
    · rfl
    · rename_i beyond
      rw [List.getElem?_eq_none (by omega)] at held
      cases held inside
  · rfl

theorem mirrors_eraseCell (valid : screen.Valid) (mirrors : screen.Mirrors)
    {position : Nat × Nat} (keeps : screen.KeepsMirror (.eraseCell position)) :
    (screen.change (.eraseCell position)).Mirrors := by
  unfold Mirrors
  have cols : (screen.change (.eraseCell position)).cols = screen.cols :=
    (screen.writeChar_frame _ _ _ _ _).cols
  have buffer : (screen.writeChar 0x40 (some position) false true false).buffer = _ :=
    eraseCell_buffer valid position
  rw [cols]
  refine (writeChar_fields_iff valid 0x40 position true).mpr ?_
  by_cases inside : position.1 < screen.rows ∧ position.2 < screen.cols
  case neg =>
    rw [if_pos fun accepted => inside accepted.1]
    show ∀ field ∈ screen.fields, field.content = contentOf screen.cols
      (screen.writeChar 0x40 (some position) false true false).buffer field
    rw [buffer, if_neg inside]
    exact mirrors
  rw [if_neg (not_not.mpr (valid.accepts inside))]
  by_cases detects : screen.Redetects position.1 position.2
  · rw [if_pos detects]
    exact fun _ _ => rfl
  · rw [if_neg detects]
    refine ⟨fun field member => ?_, fun field _ => replaceContent_shows _ field⟩
    show field.content = contentOf screen.cols
      (screen.writeChar 0x40 (some position) false true false).buffer field
    rw [buffer, if_pos inside, contentOf_set (keeps inside detects field member)]
    exact mirrors field (List.mem_of_mem_eraseP member)

theorem mirrors_setAttribute (valid : screen.Valid)
    (resumed : screen.suspendFieldDetection = 0) (attr : UInt8) :
    (screen.change (.setAttribute attr)).Mirrors := by
  have inside : screen.getPosition.1 * screen.cols + screen.getPosition.2 <
      screen.size := valid.cursorAddress_lt
  simp only [change, setAttribute, Option.getD_none]
  rw [if_pos inside, if_pos resumed]
  exact mirrors_detectFields _

theorem mirrors_change (valid : screen.Valid) (mirrors : screen.Mirrors)
    {next : ScreenChange} (keeps : screen.KeepsMirror next) :
    (screen.change next).Mirrors := by
  cases next with
  | insertByte byte =>
      have stored : ∀ field ∈ screen.fields, field.content = contentOf screen.cols
          (screen.buffer.set screen.cursorAddress byte) field := by
        intro field member
        rw [contentOf_set (keeps field member)]
        exact mirrors field member
      simp only [change, insertByte]
      split <;> exact stored
  | setAttribute attr => exact mirrors_setAttribute valid keeps attr
  | eraseCell position => exact mirrors_eraseCell valid mirrors keeps
  | setPosition row col => exact mirrors
  | setExtended attrType attrValue position =>
      simp only [change, setExtendedAttributeSfe]
      split <;> exact mirrors
  | firstInput =>
      simp only [change, moveCursorToFirstInputField]
      split <;> exact mirrors
  | programTab =>
      simp only [change, programTab, moveCursorToNextInputField]
      split <;> exact mirrors

/-- From the last field order on no change breaks the mirror. -/
def EndsMirrored (list : List ScreenChange) (screen : ScreenBuffer) : Prop :=
  Along change KeepsMirror (list.rtakeWhile (!startsField ·))
    (screen.changes (list.rdropWhile (!startsField ·)))

theorem mirrors_lastField {list : List ScreenChange} (valid : screen.Valid)
    (resumed : screen.suspendFieldDetection = 0) (mirrors : screen.Mirrors) :
    (screen.changes (list.rdropWhile (!startsField ·))).Mirrors := by
  generalize kept : list.rdropWhile (!startsField ·) = first
  rcases List.eq_nil_or_concat first with rfl | ⟨before, last, rfl⟩
  · exact mirrors
  · have ends := List.rdropWhile_last_not (!startsField ·) list (by rw [kept]; simp)
    simp only [kept, List.concat_eq_append, List.getLast_append_singleton] at ends
    cases last with
    | setAttribute attr =>
        rw [List.concat_eq_append, changes_append]
        exact mirrors_setAttribute (valid.changes before)
          ((changes_suspended before screen).trans resumed) attr
    | setPosition row col => simp [startsField] at ends
    | insertByte byte => simp [startsField] at ends
    | setExtended attrType attrValue position => simp [startsField] at ends
    | eraseCell position => simp [startsField] at ends
    | firstInput => simp [startsField] at ends
    | programTab => simp [startsField] at ends

theorem mirrors_changes {list : List ScreenChange} (valid : screen.Valid)
    (resumed : screen.suspendFieldDetection = 0) (mirrors : screen.Mirrors)
    (ends : screen.EndsMirrored list) : (screen.changes list).Mirrors := by
  have both : Always change (fun screen => screen.Valid ∧ screen.Mirrors)
      (list.rtakeWhile (!startsField ·))
      (screen.changes (list.rdropWhile (!startsField ·))) :=
    always_of_along
      (fun {next _} here keeps =>
        ⟨here.1.change next, mirrors_change here.1 here.2 keeps⟩)
      ⟨valid.changes _, mirrors_lastField valid resumed mirrors⟩ ends
  have split := changes_append (list.rdropWhile (!startsField ·))
    (list.rtakeWhile (!startsField ·)) screen
  rw [List.rdropWhile_append_rtakeWhile] at split
  rw [split]
  exact both.last.2

end ScreenBuffer

namespace WriteRecord

open DataStreamParser

/-- A record that leaves the contents mirrored: it is rolled back, or long, or
breaks nothing after its last field order. -/
def KeepsMirror (record : WriteRecord) (parser : DataStreamParser) : Prop :=
  Aborted (parse record.data 0x00 parser) ∨ bulkThreshold < record.data.length ∨
    ∀ wcc body, record.rest = wcc :: body →
      (writeStart wcc record.data parser).screen.EndsMirrored
        (recordChanges record.data parser)

/-- The end of a record that is not rolled back. -/
theorem mirrors_resumeScreen {data : List UInt8} {screen : ScreenBuffer}
    (suspended : screen.suspendFieldDetection =
      if bulkThreshold < data.length then 1 else 0)
    (mirrors : ¬ bulkThreshold < data.length → screen.Mirrors) :
    (resumeScreen data screen).Mirrors := by
  unfold resumeScreen
  by_cases long : bulkThreshold < data.length
  · rw [if_pos long] at suspended ⊢
    unfold ScreenBuffer.endBulkUpdate
    simp only [suspended, Nat.sub_self, if_true]
    exact ScreenBuffer.mirrors_detectFields _
  · rw [if_neg long]
    exact mirrors long

theorem mirrors_parse {parser : DataStreamParser} (valid : parser.screen.Valid)
    (resumed : parser.screen.suspendFieldDetection = 0) {record : WriteRecord}
    (keeps : record.KeepsMirror parser) :
    (finalState (parse record.data 0x00 parser)).screen.Mirrors := by
  obtain ⟨command, rest, write⟩ := record
  by_cases aborted : Aborted (parse (command :: rest) 0x00 parser)
  · have left := (parse_aborted valid write aborted).fields
    intro field member
    rw [WriteRecord.data, left] at member
    exact ScreenBuffer.detectedFields_content member
  cases rest with
  | nil =>
      show (finalState (parse [command] 0x00 parser)).screen.Mirrors
      rw [parse_missingWcc parser write aborted]
      intro field member
      rw [erased_fields] at member
      cases member
  | cons wcc body =>
      have started := (writeStart_before valid command wcc body).valid
      have suspended := writeStart_suspended wcc (command :: wcc :: body) parser
      rw [resumed, Nat.zero_add] at suspended
      show (finalState (parse (command :: wcc :: body) 0x00 parser)).screen.Mirrors
      rw [parse_changes valid write aborted]
      refine mirrors_resumeScreen
        ((ScreenBuffer.changes_suspended _ _).trans suspended) fun short => ?_
      rw [if_neg short] at suspended
      have empty : (writeStart wcc (command :: wcc :: body) parser).screen.Mirrors := by
        intro field member
        rw [writeStart_fields] at member
        cases member
      refine ScreenBuffer.mirrors_changes started suspended empty ?_
      rcases keeps with rolledBack | long | ends
      · exact absurd rolledBack aborted
      · exact absurd long short
      · exact ends wcc body rfl

end WriteRecord

namespace AsyncSession

open ScreenBuffer

/-- A keystroke that keeps the mirror. -/
def KeepsMirror (key : Keystroke) (session : AsyncSession) : Prop :=
  let screen := session.screenBuffer
  match key with
  | .char ch =>
      let accepted := screen.Accepts screen.cursorRow screen.cursorCol
        session.circumventProtection
      (¬ accepted → ∀ field ∈ screen.fields, Untouched (.char ch) session field) ∧
        (accepted → ¬ screen.Redetects screen.cursorRow screen.cursorCol →
          ∀ field ∈ screen.otherFields, Untouched (.char ch) session field)
  | .eraseInput =>
      ∀ field ∈ screen.fields, field.isProtected = false →
        contentOf screen.cols screen.buffer field =
          List.replicate field.content.length 0x40
  | key => ∀ field ∈ screen.fields, Untouched key session field

variable {session : AsyncSession}

theorem insertChar_mirrors_iff (valid : session.screenBuffer.Valid)
    (mirrors : session.screenBuffer.Mirrors) (ch : Char) :
    (session.press (.char ch)).screenBuffer.Mirrors ↔ KeepsMirror (.char ch) session := by
  have shows : ∀ field ∈ session.screenBuffer.fields,
      (field.content = contentOf session.screenBuffer.cols
        (session.press (.char ch)).screenBuffer.buffer field ↔
          Untouched (.char ch) session field) := by
    intro field member
    rw [mirrors field member, ← untouched_iff valid]
    exact eq_comm
  unfold Mirrors KeepsMirror
  rw [press_cols]
  have fields := @insertChar_fields_iff session.screenBuffer
    (fun field => field.content = contentOf session.screenBuffer.cols
      (session.press (.char ch)).screenBuffer.buffer field)
    valid ch session.insertMode session.circumventProtection
  refine fields.trans ?_
  simp only
  by_cases accepted : session.screenBuffer.Accepts session.screenBuffer.cursorRow
      session.screenBuffer.cursorCol session.circumventProtection
  case neg =>
    simp only [accepted, not_false_eq_true, if_true, true_implies, false_implies,
      and_true]
    exact forall_congr' fun field => forall_congr' fun member => shows field member
  by_cases detects : session.screenBuffer.Redetects session.screenBuffer.cursorRow
      session.screenBuffer.cursorCol
  · simp only [accepted, detects, not_true, if_false, if_true, true_implies,
      false_implies, and_true, iff_true]
    exact fun _ _ => rfl
  · simp only [accepted, detects, not_true, not_false_eq_true, if_false, true_implies,
      false_implies, true_and]
    refine Iff.trans (and_iff_left fun field _ => replaceContent_shows _ field) ?_
    exact forall_congr' fun field => forall_congr' fun member =>
      shows field (List.mem_of_mem_eraseP member)

theorem eraseInput_mirrors_iff (mirrors : session.screenBuffer.Mirrors) :
    (session.press .eraseInput).screenBuffer.Mirrors ↔
      KeepsMirror .eraseInput session := by
  show (∀ field ∈ session.screenBuffer.fields.map Field.eraseInput, field.content =
    contentOf session.screenBuffer.cols session.screenBuffer.buffer field) ↔ _
  rw [List.forall_mem_map]
  refine forall_congr' fun field => forall_congr' fun member => ?_
  unfold Field.eraseInput
  cases guarded : field.isProtected with
  | true => exact iff_of_true (mirrors field member) nofun
  | false =>
      rw [if_neg (by decide)]
      exact ⟨fun same _ => same.symm, fun same => (same rfl).symm⟩

theorem press_mirrors_iff (valid : session.screenBuffer.Valid)
    (mirrors : session.screenBuffer.Mirrors) (key : Keystroke) :
    (session.press key).screenBuffer.Mirrors ↔ KeepsMirror key session := by
  have kept : KeepsFields key → ((session.press key).screenBuffer.Mirrors ↔
      ∀ field ∈ session.screenBuffer.fields, Untouched key session field) := by
    intro keeps
    unfold Mirrors
    rw [press_fields keeps, press_cols]
    refine forall_congr' fun field => forall_congr' fun member => ?_
    rw [mirrors field member, ← untouched_iff valid]
    exact eq_comm
  cases key with
  | char ch => exact insertChar_mirrors_iff valid mirrors ch
  | eraseInput => exact eraseInput_mirrors_iff mirrors
  | backSpace => exact kept trivial
  | delete => exact kept trivial
  | eraseEof => exact kept trivial
  | deleteField => exact kept trivial
  | moveCursor row col => exact kept trivial
  | insert => exact kept trivial
  | circumNot => exact kept trivial

end AsyncSession

/-- A session together with the parser that writes to its screen. -/
structure HostSession where
  parser : DataStreamParser
  insertMode : Bool
  circumventProtection : Bool

/-- What happens to the screen of a session. -/
inductive SessionEvent where
  | record (record : WriteRecord)
  | key (key : Keystroke)

namespace HostSession

def session (host : HostSession) : AsyncSession where
  screenBuffer := host.parser.screen
  insertMode := host.insertMode
  circumventProtection := host.circumventProtection

def handle : SessionEvent → HostSession → HostSession
  | .record record, host =>
      { host with parser := finalState (DataStreamParser.parse record.data 0x00 host.parser) }
  | .key key, host =>
      let pressed := host.session.press key
      { parser := { host.parser with screen := pressed.screenBuffer }
        insertMode := pressed.insertMode
        circumventProtection := pressed.circumventProtection }

def Mirrors (host : HostSession) : Prop := host.parser.screen.Mirrors

/-- An event that leaves the contents mirrored. -/
def KeepsMirror : SessionEvent → HostSession → Prop
  | .record record, host => record.KeepsMirror host.parser
  | .key key, host => AsyncSession.KeepsMirror key host.session

/-- A mirrored session, well formed and between bulk updates. -/
structure Mirrored (host : HostSession) : Prop where
  valid : host.parser.screen.Valid
  resumed : host.parser.screen.suspendFieldDetection = 0
  mirrors : host.Mirrors

theorem mirrored_new {host : HostSession} {rows cols : Nat} {rows_pos : 0 < rows}
    {cols_pos : 0 < cols} {initValue : UInt8} {codepage : String}
    (fresh : host.parser.screen =
      ScreenBuffer.init rows cols rows_pos cols_pos initValue codepage) :
    host.Mirrored := by
  have valid := ScreenBuffer.valid_init rows cols rows_pos cols_pos initValue codepage
  rw [← fresh] at valid
  refine ⟨valid, by rw [fresh]; rfl, fun field member => ?_⟩
  rw [fresh] at member
  cases member

theorem handle_mirrored {event : SessionEvent} {host : HostSession}
    (mirrored : host.Mirrored) (keeps : KeepsMirror event host) :
    (host.handle event).Mirrored := by
  obtain ⟨valid, resumed, mirrors⟩ := mirrored
  cases event with
  | record record =>
      exact {
        valid := (DataStreamParser.parse_valid valid record.data 0x00).2.1
        resumed := (DataStreamParser.parse_suspended record.data 0x00
          host.parser).trans resumed
        mirrors := record.mirrors_parse valid resumed keeps }
  | key key =>
      have here : host.session.screenBuffer.Valid := valid
      exact {
        valid := AsyncSession.press_valid here key
        resumed := (AsyncSession.press_suspended key host.session).trans resumed
        mirrors := (AsyncSession.press_mirrors_iff here mirrors key).mpr keeps }

/-- In every run of records and keystrokes that keep the mirror the contents
mirror the buffer in every state. -/
theorem mirrors_throughout {host : HostSession} (mirrored : host.Mirrored)
    {events : List SessionEvent} (keep : Along handle KeepsMirror events host) :
    Always handle Mirrors events host := by
  have all : Always handle Mirrored events host := always_of_along
    (fun {_ _} here keeps => handle_mirrored here keeps) mirrored keep
  exact all.mono fun {_} here => here.mirrors

/-- A session on a new small screen. -/
def small : HostSession where
  parser := DataStreamParser.smallParser 0 0
  insertMode := false
  circumventProtection := false

theorem small_mirrored : small.Mirrored :=
  mirrored_new rfl

/-- A record with one input field. -/
def inputRecord : WriteRecord :=
  ⟨0xF5, [0xC3, 0x1D, 0x00], rfl⟩

/-- The same with a letter behind the attribute. -/
def letterRecord : WriteRecord :=
  ⟨0xF5, [0xC3, 0x1D, 0x00, 0xC1], rfl⟩

/-- A letter typed into the input field. -/
theorem mirrors_typing :
    Always handle Mirrors [.record inputRecord, .key (.char 'a')] small := by
  refine mirrors_throughout small_mirrored
    ⟨.inr (.inr fun wcc body control => ?_), ⟨fun refused => ?_, fun _ _ => ?_⟩, trivial⟩
  · obtain ⟨rfl, _⟩ := List.cons.inj control
    have behind : (DataStreamParser.recordChanges inputRecord.data
        small.parser).rtakeWhile (!ScreenBuffer.startsField ·) = [.setPosition 0 1] := by
      decide +kernel
    unfold ScreenBuffer.EndsMirrored
    rw [behind]
    exact ⟨trivial, trivial⟩
  · refine absurd ?_ refused
    decide +kernel
  · have none : (small.handle (.record inputRecord)).session.screenBuffer.otherFields =
        [] := by decide +kernel
    rw [none]
    exact fun _ => nofun

/-- The letter of the host is not in the content of its field. -/
theorem not_mirrors_letter :
    ¬ ∀ (host : HostSession), host.Mirrored → ∀ events : List SessionEvent,
      Always handle Mirrors events host := by
  intro claimed
  have after : (small.handle (.record letterRecord)).Mirrors :=
    (claimed small small_mirrored [.record letterRecord]).2
  obtain ⟨field, member, stale⟩ :
      ∃ field ∈ (small.handle (.record letterRecord)).parser.screen.fields,
        field.content ≠ ScreenBuffer.contentOf
          (small.handle (.record letterRecord)).parser.screen.cols
          (small.handle (.record letterRecord)).parser.screen.buffer field := by
    decide +kernel
  exact stale (after field member)

end HostSession

end Pure3270
