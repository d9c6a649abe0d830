import Mathlib.Data.List.DropRight
import Pure3270.Emulation.ScreenText
import Pure3270.Session.ClientCursor

/-!
# Text in scripts

`String(...)` is understood by the scripts of a session, by its macros and by the client.
Macros and the client take all that stands between the parentheses; a script takes it for
arguments, which are separated by commas and stripped of blanks.
-/

namespace Pure3270

open Foundations

/-- `str.strip`. -/
def strip (text : List Char) : List Char := (text.dropWhile isSpace).rdropWhile isSpace

/-- What a script raises. -/
inductive ScriptError where
  /-- A method was called with this many arguments. -/
  | typeError (given : Nat)
  | valueError (message : String)
  deriving DecidableEq

/-- What a method of the session does when a script calls it. -/
abbrev ScriptMethod := List (List Char) → AsyncSession → Except ScriptError AsyncSession

/-- The beginning of the command. -/
def stringPrefix : List Char := ['S', 't', 'r', 'i', 'n', 'g', '(']

/-- The command for a text. -/
def stringCommand (text : List Char) : List Char := stringPrefix ++ text ++ [')']

/-- `command[7:-1]`. -/
def commandText (command : List Char) : List Char := (command.drop 7).dropLast

namespace AsyncSession

/-- `string`, which takes one argument. -/
def callString : ScriptMethod
  | [text], session => .ok (session.string text)
  | args, _ => .error (.typeError args.length)

/-- The method of a name.  The others are parameters. -/
def method (others : List Char → Option ScriptMethod) (name : List Char) :
    Option ScriptMethod :=
  if name = ['s', 't', 'r', 'i', 'n', 'g'] then some callString else others name

/-- The arguments between the parentheses of a script command. -/
def scriptArguments (args : List Char) : List (List Char) :=
  if args = [] then [] else (args.splitOn ',').map strip

def script (others : List Char → Option ScriptMethod) (commands : List Char)
    (session : AsyncSession) : Except ScriptError AsyncSession :=
  let cmd := strip commands
  let unsupported := ScriptError.valueError
    s!"Unsupported script command: {String.ofList commands}"
  if cmd = [] then .ok session
  else if '(' ∈ cmd ∧ cmd.getLast? = some ')' then
    let funcName := cmd.takeWhile (· ≠ '(')
    let argsStr := (cmd.drop (funcName.length + 1)).dropLast
    match method others (funcName.map Char.toLower) with
    | some call => call (scriptArguments argsStr) session
    | none => .error unsupported
  else
    match method others cmd with
    | some call => call [] session
    | none => .error unsupported

/-- `_execute_macro_command`.  The keys and `SysReq` are parameters. -/
def executeMacroCommand (key sysReq : List Char → AsyncSession → Except ScriptError AsyncSession)
    (command : List Char) (session : AsyncSession) : Except ScriptError AsyncSession :=
  let command := strip command
  if command = [] then .ok session
  else if stringPrefix <+: command then .ok (session.string (commandText command))
  else if ['k', 'e', 'y', ' '] <+: command then key (command.drop 4) session
  else if ['S', 'y', 's', 'R', 'e', 'q', '('] <+: command ∧ command.getLast? = some ')' then
    sysReq (strip (commandText command)) session
  else
    .error (.valueError s!"Unsupported macro command: {String.ofList command}")

/-- The commands of a macro, one after the other. -/
def executeMacro (key sysReq : List Char → AsyncSession → Except ScriptError AsyncSession)
    (commands : List (List Char)) (session : AsyncSession) : Except ScriptError AsyncSession :=
  commands.foldlM (fun session command => executeMacroCommand key sysReq command session)
    session

/-- The screen behind a call; one that raises has not changed it. -/
def screenAfter (session : AsyncSession) (result : Except ScriptError AsyncSession) :
    ScreenBuffer :=
  match result with
  | .ok after => after.screenBuffer
  | .error _ => session.screenBuffer

end AsyncSession

namespace P3270Client

/-- The keys that `_sendCommand` knows by their names, of those that the client sends. -/
def keyCommands : List (List Char × ClientCommand) :=
  [(['C', 'l', 'e', 'a', 'r'], .clear), (['C', 'L', 'E', 'A', 'R'], .clear),
    (['H', 'o', 'm', 'e'], .home), (['T', 'a', 'b'], .tab),
    (['B', 'a', 'c', 'k', 'T', 'a', 'b'], .backTab),
    (['B', 'a', 'c', 'k', 'S', 'p', 'a', 'c', 'e'], .backSpace), (['U', 'p'], .up),
    (['D', 'o', 'w', 'n'], .down), (['L', 'e', 'f', 't'], .left),
    (['R', 'i', 'g', 'h', 't'], .right)]

/-- The commands of keys and texts, as `_sendCommand` reads them. -/
def readCommand (command : List Char) : Option ClientCommand :=
  match keyCommands.lookup command with
  | some key => some key
  | none =>
      if stringPrefix <+: command then some (.string (commandText command)) else none

/-- `sendText` on the level of the command. -/
def sendStringCommand (text : List Char) (client : P3270Client) : P3270Client :=
  match readCommand (stringCommand text) with
  | some command => client.sendCommand command
  | none => client

end P3270Client

namespace AsyncSession

variable {text : List Char} {session : AsyncSession}

theorem strip_stringCommand (text : List Char) :
    strip (stringCommand text) = stringCommand text := by
  unfold strip stringCommand
  have front : (stringPrefix ++ text ++ [')']).dropWhile isSpace =
      stringPrefix ++ text ++ [')'] :=
    List.dropWhile_cons_of_neg (by decide)
  rw [front, List.rdropWhile_concat_neg _ _ _ (by decide)]

theorem commandText_stringCommand (text : List Char) :
    commandText (stringCommand text) = text := by
  show (text ++ [')']).dropLast = text
  exact List.dropLast_concat

theorem prefix_stringCommand (text : List Char) : stringPrefix <+: stringCommand text := by
  unfold stringCommand
  rw [List.append_assoc]
  exact List.prefix_append _ _

theorem stringCommand_ne_nil (text : List Char) : stringCommand text ≠ [] :=
  List.cons_ne_nil _ _

theorem getLast?_stringCommand (text : List Char) :
    (stringCommand text).getLast? = some ')' :=
  List.getLast?_concat ..

theorem script_stringCommand (others : List Char → Option ScriptMethod) (text : List Char)
    (session : AsyncSession) :
    script others (stringCommand text) session =
      callString (scriptArguments text) session := by
  have name : (stringCommand text).takeWhile (· ≠ '(') = ['S', 't', 'r', 'i', 'n', 'g'] := rfl
  have opened : '(' ∈ stringCommand text := (prefix_stringCommand text).subset (by decide)
  have called : method others (['S', 't', 'r', 'i', 'n', 'g'].map Char.toLower) =
      some callString := if_pos (by decide)
  have args : ((stringCommand text).drop 7).dropLast = text := commandText_stringCommand text
  unfold script
  dsimp only
  rw [strip_stringCommand, if_neg (stringCommand_ne_nil text),
    if_pos ⟨opened, getLast?_stringCommand text⟩, name, called]
  exact congrArg (fun args => callString (scriptArguments args) session) args

theorem executeMacro_stringCommand
    (key sysReq : List Char → AsyncSession → Except ScriptError AsyncSession)
    (text : List Char) (session : AsyncSession) :
    executeMacro key sysReq [stringCommand text] session = .ok (session.string text) := by
  have one : executeMacroCommand key sysReq (stringCommand text) session =
      .ok (session.string text) := by
    unfold executeMacroCommand
    dsimp only
    rw [strip_stringCommand, if_neg (stringCommand_ne_nil text),
      if_pos (prefix_stringCommand text), commandText_stringCommand]
  unfold executeMacro
  rw [List.foldlM_cons, one]
  rfl

theorem sendStringCommand_eq (text : List Char) (client : P3270Client) :
    client.sendStringCommand text = client.sendText text := by
  have noKey : P3270Client.keyCommands.lookup (stringCommand text) = none := by
    rw [List.lookup_eq_none_iff]
    intro entry listed
    have heads : ∀ entry ∈ P3270Client.keyCommands, entry.1.head? ≠ some 'S' := by decide
    rw [bne_iff_ne]
    intro same
    exact heads entry listed (same ▸ rfl)
  unfold P3270Client.sendStringCommand P3270Client.readCommand
  rw [noKey]
  dsimp only
  rw [if_pos (prefix_stringCommand text), commandText_stringCommand]
  rfl

theorem scriptArguments_plain (plain : ',' ∉ text) :
    scriptArguments text = if text = [] then [] else [strip text] := by
  unfold scriptArguments
  rw [List.splitOn_eq_singleton plain]
  rfl

theorem callString_commas (commas : ',' ∈ text) (session : AsyncSession) :
    ∃ given, callString (scriptArguments text) session = .error (.typeError given) := by
  have some : text ≠ [] := List.ne_nil_of_mem commas
  have pieces : scriptArguments text = (text.splitOn ',').map strip := if_neg some
  rw [pieces]
  cases split : text.splitOn ',' with
  | nil => exact absurd split (List.splitOn_ne_nil _ _)
  | cons first rest =>
      cases rest with
      | nil =>
          have whole : [','].intercalate (text.splitOn ',') = text :=
            List.intercalate_splitOn ','
          rw [split, List.intercalate_singleton] at whole
          have listed : first ∈ text.splitOn ',' := by
            rw [split]
            exact List.mem_cons_self
          rw [← whole] at commas
          exact absurd commas (not_mem_of_mem_splitOn listed)
      | cons second rest => exact ⟨_, rfl⟩

/-- On every screen a script, a macro and the client leave what typing the text leaves. -/
def TypesAlike (others : List Char → Option ScriptMethod)
    (key sysReq : List Char → AsyncSession → Except ScriptError AsyncSession)
    (text : List Char) : Prop :=
  ∀ session : AsyncSession, session.screenBuffer.Valid →
    session.screenAfter (session.script others (stringCommand text)) =
        (session.string text).screenBuffer ∧
      session.screenAfter (session.executeMacro key sysReq [stringCommand text]) =
        (session.string text).screenBuffer ∧
      ∀ client : P3270Client, client.connected = true → client.pureSession = session →
        (client.sendStringCommand text).pureSession.screenBuffer =
          (session.string text).screenBuffer

/-- A session on a blank screen of one row. -/
def oneRow (width : Nat) : AsyncSession where
  screenBuffer := ScreenBuffer.init 1 (width + 1) Nat.one_pos (Nat.succ_pos width) 0x40 "cp037"
  insertMode := false
  circumventProtection := false

theorem oneRow_cursor {width : Nat} (fits : text.length ≤ width) :
    ((oneRow width).string text).screenBuffer.getPosition = (0, text.length) := by
  have moved : ∀ steps, steps ≤ width →
      (oneRow width).screenBuffer.rightOf^[steps] (0, 0) = (0, steps) := by
    intro steps inside
    induction steps with
    | zero => rfl
    | succ steps ih =>
        rw [Function.iterate_succ_apply', ih (Nat.le_of_succ_le inside)]
        unfold ScreenBuffer.rightOf
        rw [if_neg]
        show ¬ width + 1 ≤ steps + 1
        omega
  have typed := @insertText_getPosition (oneRow width)
    (ScreenBuffer.valid_init 1 (width + 1) _ _ 0x40 "cp037") text
  exact typed.trans (moved text.length fits)

theorem strip_sublist (text : List Char) : (strip text).Sublist text :=
  (List.rdropWhile_prefix _ _).sublist.trans (List.dropWhile_sublist _)

/-- The three type the same text if and only if it has no comma and no blanks at its
ends. -/
theorem typesAlike_iff (others : List Char → Option ScriptMethod)
    (key sysReq : List Char → AsyncSession → Except ScriptError AsyncSession)
    (text : List Char) :
    TypesAlike others key sysReq text ↔ ',' ∉ text ∧ strip text = text := by
  constructor
  · intro alike
    have valid : (oneRow text.length).screenBuffer.Valid :=
      ScreenBuffer.valid_init 1 (text.length + 1) _ _ 0x40 "cp037"
    have script := congrArg ScreenBuffer.getPosition (alike (oneRow text.length) valid).1
    rw [script_stringCommand, oneRow_cursor (Nat.le_refl _)] at script
    have plain : ',' ∉ text := by
      intro commas
      obtain ⟨given, raised⟩ := callString_commas commas (oneRow text.length)
      rw [raised] at script
      have stays := congrArg Prod.snd script
      have length := List.length_pos_of_mem commas
      have home : (0 : Nat) = text.length := stays
      omega
    refine ⟨plain, (strip_sublist text).eq_of_length ?_⟩
    rw [scriptArguments_plain plain] at script
    by_cases empty : text = []
    · rw [empty]
      rfl
    · rw [if_neg empty] at script
      have typed := oneRow_cursor (strip_sublist text).length_le
      exact congrArg Prod.snd (typed.symm.trans script)
  · rintro ⟨plain, stripped⟩ session _
    refine ⟨?_, ?_, ?_⟩
    · rw [script_stringCommand, scriptArguments_plain plain, stripped]
      split
      · rename_i empty
        rw [empty]
        rfl
      · rfl
    · rw [executeMacro_stringCommand]
      rfl
    · rintro client connected rfl
      rw [sendStringCommand_eq]
      unfold P3270Client.sendText P3270Client.sendCommand
      rw [if_pos connected]
      rfl

/-- A text with a comma is not typed by a script. -/
theorem not_typesAlike_comma :
    ¬ TypesAlike (fun _ => none) (fun _ session => .ok session) (fun _ session => .ok session)
      ['a', ',', 'b'] := by
  intro alike
  have valid : (oneRow 3).screenBuffer.Valid :=
    ScreenBuffer.valid_init 1 4 _ _ 0x40 "cp037"
  have script := congrArg ScreenBuffer.getPosition (alike (oneRow 3) valid).1
  revert script
  decide +kernel

end AsyncSession

end Pure3270
