import Pure3270.Protocol.SendData
import Pure3270.Session.EnterRecord
import Pure3270.Session.P3270Client

/-!
# Keys

A key is handled by the session alone, or it sends a record: Enter the contents
of the modified fields, every other key its AID, behind the lock of the
keyboard.
-/

namespace Pure3270

open Foundations

namespace DataSender

def screen (sender : DataSender) : ScreenBuffer := sender.handler.parser.screen

def withParser (parser : DataStreamParser) (sender : DataSender) : DataSender :=
  { sender with handler := { sender.handler with parser } }

/-- Sending leaves the parser with its screen alone. -/
theorem parser_step_sendData (data : List UInt8) (sender : DataSender) :
    (step (.sendData data) sender).handler.parser = sender.handler.parser := by
  cases connected : sender.handler.hasWriter with
  | false =>
      have raised : sendData data sender = .error (.other "Not connected") sender := by
        rw [sendData, run_get_bind, if_pos (by simp [connected])]
        rfl
      simp only [step, raised]
  | true =>
      have kept : ∃ bytes after, dataToSend data sender = .ok bytes after ∧
          after.handler.parser = sender.handler.parser := by
        rw [dataToSend, run_get_bind]
        split
        · exact ⟨_, _, rfl, rfl⟩
        · exact ⟨_, _, rfl, rfl⟩
      obtain ⟨bytes, after, done, same⟩ := kept
      have sent : sendData data sender =
          .ok () { after with written := after.written ++ bytes } := by
        rw [sendData, run_get_bind, if_neg (by simp [connected]), run_bind_ok done]
        rfl
      simp only [step, sent, same]

end DataSender

namespace AsyncSession

def newline (session : AsyncSession) : AsyncSession :=
  session.withScreen fun screen =>
    screen.setPosition (min (screen.rows - 1) (screen.cursorRow + 1)) 0

/-- The keys that need no handler. -/
def localKeys : List (String × (AsyncSession → AsyncSession)) :=
  [("Tab", tab), ("Home", home), ("BackTab", backtab), ("Newline", newline),
    ("FieldMark", id), ("Up", up), ("Down", down), ("Left", left), ("Right", right),
    ("BackSpace", press .backSpace)]

/-- `AID_MAP`. -/
def aidMap : List (String × UInt8) :=
  [("PF(1)", 0xF1), ("PF(2)", 0xF2), ("PF(3)", 0xF3), ("PF(4)", 0xF4), ("PF(5)", 0xF5),
    ("PF(6)", 0xF6), ("PF(7)", 0xF7), ("PF(8)", 0xF8), ("PF(9)", 0xF9), ("PF(10)", 0x7A),
    ("PF(11)", 0x7B), ("PF(12)", 0x7C), ("PF(13)", 0xC1), ("PF(14)", 0xC2), ("PF(15)", 0xC3),
    ("PF(16)", 0xC4), ("PF(17)", 0xC5), ("PF(18)", 0xC6), ("PF(19)", 0xC7), ("PF(20)", 0xC8),
    ("PF(21)", 0xC9), ("PF(22)", 0x4A), ("PF(23)", 0x4B), ("PF(24)", 0x4C),
    ("PA(1)", 0x6C), ("PA(2)", 0x6E), ("PA(3)", 0x6B),
    ("Enter", 0x7D), ("CLEAR", 0x6D), ("RESET", 0x6A), ("TEST", 0x11),
    ("SysReq", 0xF0), ("Attn", 0xF1), ("Dup", 0xF5), ("BackSpace", 0xF8), ("Test", 0x11)]

end AsyncSession

/-- A session with its handler, whose parser has the screen. -/
structure OnlineSession where
  sender : DataSender
  insertMode : Bool
  circumventProtection : Bool

namespace OnlineSession

def screen (online : OnlineSession) : ScreenBuffer := online.sender.screen

/-- The part of the session that needs no handler. -/
def session (online : OnlineSession) : AsyncSession where
  screenBuffer := online.screen
  insertMode := online.insertMode
  circumventProtection := online.circumventProtection

def edit (f : AsyncSession → AsyncSession) (online : OnlineSession) : OnlineSession :=
  let edited := f online.session
  let parser := { online.sender.handler.parser with screen := edited.screenBuffer }
  { sender := online.sender.withParser parser
    insertMode := edited.insertMode
    circumventProtection := edited.circumventProtection }

def sendData (data : List UInt8) (online : OnlineSession) : OnlineSession :=
  { online with sender := online.sender.step (.sendData data) }

/-- The keyboard is locked before the AID is sent, whether it can be or not. -/
def submit (aid : UInt8) (online : OnlineSession) : OnlineSession :=
  (online.edit (·.withScreen (·.setKeyboardLock true))).sendData [aid]

/-- `key`.  SysReq and Attn read a record afterwards. -/
def key (pages : Ebcdic.Codepages) (keyname : String) (online : OnlineSession) :
    OnlineSession :=
  match AsyncSession.localKeys.lookup keyname with
  | some f => online.edit f
  | none =>
      match AsyncSession.aidMap.lookup keyname with
      | some aid =>
          if keyname = "Enter" then online.sendData (online.session.enterRecord pages)
          else online.submit aid
      | none => online.submit 0xF3

def selectLightPen (row col : Nat) (online : OnlineSession) : OnlineSession :=
  let (screen, aid) := online.screen.selectLightPen row col
  let selected := online.edit (·.withScreen fun _ => screen)
  match aid with
  | some aid => selected.submit aid
  | none => selected

end OnlineSession

/-- What the user of a session does. -/
inductive UserOperation where
  | key (keyname : String)
  | press (key : Keystroke)
  | clear
  | submit (aid : UInt8)
  | selectLightPen (row col : Nat)

namespace OnlineSession

def operate (pages : Ebcdic.Codepages) :
    UserOperation → OnlineSession → OnlineSession
  | .key keyname, online => online.key pages keyname
  | .press key, online => online.edit (·.press key)
  | .clear, online => online.edit (·.clear)
  | .submit aid, online => online.submit aid
  | .selectLightPen row col, online => online.selectLightPen row col

/-- The record that was written between two states, without its header. -/
def transmitted (before after : OnlineSession) : List UInt8 :=
  after.sender.written.drop
    (before.sender.written.length + before.sender.nextHeader.length)

variable {online before : OnlineSession}

@[simp] theorem edit_screen (f : AsyncSession → AsyncSession) :
    (online.edit f).screen = (f online.session).screenBuffer := rfl

@[simp] theorem sendData_screen (data : List UInt8) :
    (online.sendData data).screen = online.screen :=
  congrArg DataStreamParser.screen (DataSender.parser_step_sendData data online.sender)

@[simp] theorem submit_screen (aid : UInt8) :
    (online.submit aid).screen = online.screen.setKeyboardLock true :=
  sendData_screen _

/-- Local changes write nothing. -/
theorem transmitted_edit (f : AsyncSession → AsyncSession) :
    transmitted online (online.edit f) = [] :=
  List.drop_eq_nil_of_le (Nat.le_add_right _ _)

/-- A record that is sent after local changes is the one that is written. -/
theorem transmitted_sendData (f : AsyncSession → AsyncSession) (data : List UInt8) :
    transmitted online ((online.edit f).sendData data) =
      if online.sender.handler.hasWriter then data else [] := by
  have written := DataSender.written_step (.sendData data) (online.edit f).sender
  unfold transmitted sendData
  dsimp only
  rw [written]
  have same : (online.edit f).sender.handler.hasWriter = online.sender.handler.hasWriter := rfl
  have header : (online.edit f).sender.nextHeader = online.sender.nextHeader := rfl
  have before : (online.edit f).sender.written = online.sender.written := rfl
  simp only [DataSender.record, same, header, before]
  split
  · rw [List.flatten_singleton, ← List.append_assoc, ← List.length_append]
    exact List.drop_left
  · exact List.drop_eq_nil_of_le (by simp)

end OnlineSession

end Pure3270
