import Pure3270.Session.LocalEditing

/-!
# The client

The client keeps a cursor of its own beside that of the screen.  Its commands
go to the session, one to each method of the session, and some of its methods
move the client's cursor as well.
-/

namespace Pure3270

open Foundations

namespace ScreenBuffer

/-- Two fields are one object.  A field that the light pen has replaced in the
list is still in the position cache as it was. -/
def isObject (field other : Field) : Bool :=
  field.start = other.start && field.finish = other.finish &&
    field.selected = other.selected

/-- The field of the list before the one at the cursor. -/
def previousField (screen : ScreenBuffer) : Option Field :=
  match screen.getFieldAtPosition screen.cursorRow screen.cursorCol with
  | none => none
  | some current =>
      match screen.fields.findIdx? (isObject current) with
      | some (index + 1) => screen.fields[index]?
      | _ => none

/-- Go to the start of a field, if there is one. -/
def goToStart (field : Option Field) (screen : ScreenBuffer) : ScreenBuffer :=
  match field with
  | none => screen
  | some field => screen.setPosition field.start.1 field.start.2

end ScreenBuffer

namespace AsyncSession

def up (session : AsyncSession) : AsyncSession :=
  session.withScreen fun screen =>
    screen.setPosition (if 0 < screen.cursorRow then screen.cursorRow - 1 else screen.cursorRow)
      screen.cursorCol

def down (session : AsyncSession) : AsyncSession :=
  session.withScreen fun screen =>
    screen.setPosition (min (screen.rows - 1) (screen.cursorRow + 1)) screen.cursorCol

def left (session : AsyncSession) : AsyncSession :=
  session.withScreen fun screen =>
    let position := screen.leftOf screen.getPosition
    screen.setPosition position.1 position.2

def right (session : AsyncSession) : AsyncSession :=
  session.withScreen fun screen =>
    let position := screen.rightOf screen.getPosition
    screen.setPosition position.1 position.2

def home (session : AsyncSession) : AsyncSession :=
  session.withScreen fun screen =>
    screen.goToStart (screen.getFieldAtPosition screen.cursorRow screen.cursorCol)

def tab (session : AsyncSession) : AsyncSession :=
  session.withScreen (·.moveCursorToNextInputField)

/-- A field that is not in the list raises an error, which the client logs. -/
def backtab (session : AsyncSession) : AsyncSession :=
  session.withScreen fun screen => screen.goToStart screen.previousField

def backspace (session : AsyncSession) : AsyncSession := session.press .backSpace

def string (text : List Char) (session : AsyncSession) : AsyncSession :=
  session.insertText text

def clear (session : AsyncSession) : AsyncSession := session.withScreen (·.clear)

end AsyncSession

/-- A client, with the session it drives. -/
structure P3270Client where
  pureSession : AsyncSession
  connected : Bool
  cursorRow : Int
  cursorCol : Int

/-- The commands of the methods below. -/
inductive ClientCommand where
  | up | down | left | right
  | home | tab | backTab | backSpace | clear
  | string (text : List Char)
  | moveCursor (row col : Int)
  deriving DecidableEq

/-- A call of a method that moves a cursor. -/
inductive ClientCall where
  | moveTo (row col : Int)
  | moveCursorUp
  | moveCursorDown
  | moveCursorLeft
  | moveCursorRight
  | sendText (text : List Char)
  | sendTab
  | sendBackTab
  | sendHome
  | sendBackSpace
  | clearScreen
  deriving DecidableEq

namespace P3270Client

/-- `_screen_rows` and `_screen_cols`, which nothing changes. -/
def screenRows : Int := 24

def screenCols : Int := 80

/-- A client on a new screen. -/
def init (rows cols : Nat) (rows_pos : 0 < rows) (cols_pos : 0 < cols) : P3270Client where
  pureSession := {
    screenBuffer := ScreenBuffer.init rows cols rows_pos cols_pos 0x40 "cp037"
    insertMode := false
    circumventProtection := false }
  connected := true
  cursorRow := 0
  cursorCol := 0

def withSession (f : AsyncSession → AsyncSession) (client : P3270Client) : P3270Client :=
  { client with pureSession := f client.pureSession }

/-- `_sendCommand`.  The session has no `MoveCursor`: only the client's cursor
is set. -/
def sendCommand (command : ClientCommand) (client : P3270Client) : P3270Client :=
  if client.connected then
    match command with
    | .up => client.withSession (·.up)
    | .down => client.withSession (·.down)
    | .left => client.withSession (·.left)
    | .right => client.withSession (·.right)
    | .home => client.withSession (·.home)
    | .tab => client.withSession (·.tab)
    | .backTab => client.withSession (·.backtab)
    | .backSpace => client.withSession (·.backspace)
    | .clear => client.withSession (·.clear)
    | .string text => client.withSession (·.string text)
    | .moveCursor row col => { client with cursorRow := row, cursorCol := col }
  else client

def moveTo (row col : Int) (client : P3270Client) : P3270Client :=
  { client.sendCommand (.moveCursor row col) with cursorRow := row, cursorCol := col }

def moveCursorUp (client : P3270Client) : P3270Client :=
  let client := client.sendCommand .up
  { client with
    cursorRow := if 0 < client.cursorRow then client.cursorRow - 1 else client.cursorRow }

def moveCursorDown (client : P3270Client) : P3270Client :=
  let client := client.sendCommand .down
  { client with
    cursorRow :=
      if client.cursorRow < screenRows - 1 then client.cursorRow + 1 else client.cursorRow }

def moveCursorLeft (client : P3270Client) : P3270Client :=
  let client := client.sendCommand .left
  { client with
    cursorCol := if 0 < client.cursorCol then client.cursorCol - 1 else client.cursorCol }

def moveCursorRight (client : P3270Client) : P3270Client :=
  let client := client.sendCommand .right
  { client with
    cursorCol :=
      if client.cursorCol < screenCols - 1 then client.cursorCol + 1 else client.cursorCol }

def sendText (text : List Char) (client : P3270Client) : P3270Client :=
  client.sendCommand (.string text)

def sendTab (client : P3270Client) : P3270Client := client.sendCommand .tab

def sendBackTab (client : P3270Client) : P3270Client := client.sendCommand .backTab

def sendHome (client : P3270Client) : P3270Client := client.sendCommand .home

def sendBackSpace (client : P3270Client) : P3270Client := client.sendCommand .backSpace

def clearScreen (client : P3270Client) : P3270Client := client.sendCommand .clear

def call : ClientCall → P3270Client → P3270Client
  | .moveTo row col => moveTo row col
  | .moveCursorUp => moveCursorUp
  | .moveCursorDown => moveCursorDown
  | .moveCursorLeft => moveCursorLeft
  | .moveCursorRight => moveCursorRight
  | .sendText text => sendText text
  | .sendTab => sendTab
  | .sendBackTab => sendBackTab
  | .sendHome => sendHome
  | .sendBackSpace => sendBackSpace
  | .clearScreen => clearScreen

end P3270Client

end Pure3270
