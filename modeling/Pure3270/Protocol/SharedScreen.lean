import Pure3270.Emulation.ExtendedPosition
import Pure3270.Foundations.ObjectHeap
import Pure3270.Foundations.Runs
import Pure3270.Protocol.BindImage
import Pure3270.Protocol.DataStreamParser
import Pure3270.Protocol.FunctionActivity

/-!
# The screen of a session

The handler, its negotiator and its parser each hold a reference to the screen
that the handler was created with.  A BIND-IMAGE with other dimensions gives
the negotiator a new screen; a conversion to another addressing mode gives a
new one to whoever was asked for it.
-/

namespace Pure3270

open Foundations

/-- A screen object: a `ScreenBuffer`, or an `ExtendedScreenBuffer` with its
cursor, whose mode is that of the buffer. -/
structure ScreenObject where
  screen : ScreenBuffer
  extendedCursor : Option ExtendedPosition

namespace ScreenObject

/-- `ScreenBuffer(rows=rows, cols=cols)`. -/
def plain (rows cols : Nat) (rows_pos : 0 < rows) (cols_pos : 0 < cols) :
    ScreenObject where
  screen := ScreenBuffer.init rows cols rows_pos cols_pos 0x40 "cp037"
  extendedCursor := none

/-- What `convert_addressing_mode` copies into the new buffer. -/
def converted (cursor : ExtendedPosition) (screen : ScreenBuffer) : ScreenObject where
  screen :=
    { ScreenBuffer.init screen.rows screen.cols screen.rows_pos screen.cols_pos 0x40
        "cp037" with
      buffer := screen.buffer
      attributes := screen.attributes
      extendedAttributes := screen.extendedAttributes
      fields := screen.fields
      cursorRow := cursor.row
      cursorCol := cursor.col }
  extendedCursor := some cursor

/-- `convert_addressing_mode`, where the object has it. -/
def convertAddressingMode (newMode : AddressingMode) (object : ScreenObject) :
    Option (Except String ScreenObject) :=
  object.extendedCursor.map fun cursor =>
    let totalPositions := object.screen.rows * object.screen.cols
    let mode := newMode.value
    if AddressCalculator.validateAddress (totalPositions - 1) newMode then do
      let newCursor ← cursor.convertAddressingMode newMode
      return converted newCursor object.screen
    else
      .error s!"Cannot convert to {mode} mode: buffer size {totalPositions} exceeds limits"

/-- The object has an addressing mode, and the other mode can name all its
cells and its cursor. -/
def Convertible (newMode : AddressingMode) (object : ScreenObject) : Prop :=
  ∃ cursor, object.extendedCursor = some cursor ∧
    object.screen.rows * object.screen.cols ≤
      AddressCalculator.getMaxPositions newMode ∧
    cursor.row * cursor.cols + cursor.col <
      AddressCalculator.getMaxPositions newMode

theorem convertAddressingMode_of_convertible {newMode : AddressingMode}
    {object : ScreenObject} (convertible : object.Convertible newMode) :
    ∃ cursor, object.convertAddressingMode newMode =
      some (.ok (converted cursor object.screen)) := by
  obtain ⟨cursor, extended, cells, position⟩ := convertible
  have positive : 0 < object.screen.rows * object.screen.cols :=
    Nat.mul_pos object.screen.rows_pos object.screen.cols_pos
  have fits : AddressCalculator.validateAddress
      (object.screen.rows * object.screen.cols - 1) newMode = true :=
    AddressCalculator.validateAddress_iff.mpr (by omega)
  have named : AddressCalculator.validateAddress
      (cursor.row * cursor.cols + cursor.col) newMode = true :=
    AddressCalculator.validateAddress_iff.mpr position
  refine ⟨{ cursor with addressingMode := newMode, valid := named }, ?_⟩
  unfold convertAddressingMode ExtendedPosition.convertAddressingMode
  simp only [extended, Option.map_some, if_pos fits, dif_pos named]
  rfl

theorem convertAddressingMode_of_not {newMode : AddressingMode}
    {object : ScreenObject} (fails : ¬ object.Convertible newMode) :
    object.convertAddressingMode newMode = none ∨
      ∃ message, object.convertAddressingMode newMode = some (.error message) := by
  unfold convertAddressingMode
  cases extended : object.extendedCursor with
  | none => exact .inl rfl
  | some cursor =>
      right
      have positive : 0 < object.screen.rows * object.screen.cols :=
        Nat.mul_pos object.screen.rows_pos object.screen.cols_pos
      simp only [Option.map_some]
      by_cases fits : AddressCalculator.validateAddress
          (object.screen.rows * object.screen.cols - 1) newMode = true
      · have beyond : ¬ AddressCalculator.validateAddress
            (cursor.row * cursor.cols + cursor.col) newMode = true := by
          intro named
          have cells := AddressCalculator.validateAddress_iff.mp fits
          exact fails ⟨cursor, extended, by omega,
            AddressCalculator.validateAddress_iff.mp named⟩
        rw [if_pos fits]
        unfold ExtendedPosition.convertAddressingMode
        simp only [dif_neg beyond]
        exact ⟨_, rfl⟩
      · rw [if_neg fits]
        exact ⟨_, rfl⟩

end ScreenObject

namespace AddressingModeNegotiator

/-- `validate_mode_transition`. -/
def validateModeTransition (currentMode newMode : AddressingMode) : Bool :=
  match currentMode with
  | .mode12Bit => newMode ∈ [AddressingMode.mode12Bit, .mode14Bit]
  | .mode14Bit => newMode ∈ [AddressingMode.mode14Bit, .mode12Bit]

/-- `validate_addressing_mode_transition`. -/
def validateAddressingModeTransition (fromMode : Option AddressingMode)
    (toMode : AddressingMode) : Bool :=
  match fromMode with
  | none => true
  | some mode => validateModeTransition mode toMode

theorem validateAddressingModeTransition_true (fromMode : Option AddressingMode)
    (toMode : AddressingMode) : validateAddressingModeTransition fromMode toMode = true := by
  cases fromMode with
  | none => rfl
  | some mode => cases mode <;> cases toMode <;> rfl

/-- A mode and the state that goes with it. -/
def switchTo (newMode : AddressingMode) (negotiator : AddressingModeNegotiator) :
    AddressingModeNegotiator :=
  { negotiator with negotiatedMode := some newMode, state := negotiated newMode }

def invalidTransition (currentMode : Option AddressingMode) (newMode : AddressingMode) :
    String :=
  let before := (currentMode.map AddressingMode.value).getD "None"
  let after := newMode.value
  s!"Invalid addressing mode transition: {before} -> {after}"

end AddressingModeNegotiator

/-- The part of a session that holds screens. -/
structure ScreenHolders where
  heap : ObjectHeap ScreenObject
  handlerScreen : Nat
  negotiatorScreen : Nat
  parserScreen : Nat
  negotiator : Negotiator
  handlerAddressing : AddressingModeNegotiator
  negotiatorAddressing : AddressingModeNegotiator

namespace ScreenHolders

/-- `TN3270Handler.__init__` with a screen buffer, and a negotiator that knows
the size of the terminal type. -/
def init (screenBuffer : ScreenObject) (negotiator : Negotiator) : ScreenHolders where
  heap := ObjectHeap.single screenBuffer
  handlerScreen := 0
  negotiatorScreen := 0
  parserScreen := 0
  negotiator
  handlerAddressing := AddressingModeNegotiator.new
  negotiatorAddressing := AddressingModeNegotiator.new

/-- The negotiator as a BIND-IMAGE leaves it; where its size is another one than
before, it gets a screen of that size. -/
def resize (negotiator : Negotiator) (holders : ScreenHolders) : ScreenHolders :=
  let resized := { holders with negotiator }
  if negotiator.screenRows ≠ holders.negotiator.screenRows ∨
      negotiator.screenCols ≠ holders.negotiator.screenCols then
    if positive : 0 < negotiator.screenRows ∧ 0 < negotiator.screenCols then
      { resized with
        heap := holders.heap.allocate
          (.plain negotiator.screenRows negotiator.screenCols positive.1 positive.2)
        negotiatorScreen := holders.heap.next }
    else resized
  else resized

/-- `handle_bind_image` of the negotiator. -/
def handleBindImage (rows cols : Option Int) (holders : ScreenHolders) : ScreenHolders :=
  holders.resize (holders.negotiator.handleBindImage (rows.map Int.toNat)
    (cols.map Int.toNat))

/-- `transition_addressing_mode` of the handler.  A conversion that fails is
only logged. -/
def transitionHandler (newMode : AddressingMode) (holders : ScreenHolders) :
    Except String Unit × ScreenHolders :=
  let currentMode := holders.handlerAddressing.negotiatedMode
  if currentMode = some newMode then
    (.ok (), { holders with
      handlerAddressing :=
        { holders.handlerAddressing with
          state := AddressingModeNegotiator.negotiated newMode } })
  else if !AddressingModeNegotiator.validateAddressingModeTransition currentMode
      newMode then
    (.error (AddressingModeNegotiator.invalidTransition currentMode newMode), holders)
  else
    let switched :=
      { holders with handlerAddressing := holders.handlerAddressing.switchTo newMode }
    match (holders.heap.object holders.handlerScreen).convertAddressingMode newMode with
    | some (.ok converted) =>
        (.ok (), { switched with
          heap := holders.heap.allocate converted
          handlerScreen := holders.heap.next })
    | _ => (.ok (), switched)

/-- `transition_addressing_mode` of the negotiator.  A conversion that fails is
raised, and the mode before is taken back where there was one. -/
def transitionNegotiator (newMode : AddressingMode) (holders : ScreenHolders) :
    Except String Unit × ScreenHolders :=
  let currentMode := holders.negotiatorAddressing.negotiatedMode
  if currentMode = some newMode then (.ok (), holders)
  else if !AddressingModeNegotiator.validateAddressingModeTransition currentMode
      newMode then
    (.error (AddressingModeNegotiator.invalidTransition currentMode newMode), holders)
  else
    let switched :=
      { holders with
        negotiatorAddressing := holders.negotiatorAddressing.switchTo newMode }
    match (holders.heap.object holders.negotiatorScreen).convertAddressingMode
        newMode with
    | some (.ok converted) =>
        (.ok (), { switched with
          heap := holders.heap.allocate converted
          negotiatorScreen := holders.heap.next })
    | some (.error message) =>
        (.error s!"Screen buffer conversion failed: {message}",
          match currentMode with
          | some mode =>
              { switched with
                negotiatorAddressing := switched.negotiatorAddressing.switchTo mode }
          | none => switched)
    | none => (.ok (), switched)

/-- The screen that the application reads. -/
def applicationScreen (holders : ScreenHolders) : ScreenObject :=
  holders.heap.object holders.handlerScreen

/-- What a parse makes of a screen is stored in the screen that the parser
holds. -/
def parseOnScreen (parsed : ScreenObject → ScreenObject) (holders : ScreenHolders) :
    ScreenHolders :=
  { holders with
    heap := holders.heap.store holders.parserScreen
      (parsed (holders.heap.object holders.parserScreen)) }

/-- All three hold the same screen, which has the size that the negotiator
knows; what is parsed appears on the screen that the application reads. -/
structure OneScreen (holders : ScreenHolders) : Prop where
  negotiatorScreen : holders.negotiatorScreen = holders.handlerScreen
  parserScreen : holders.parserScreen = holders.handlerScreen
  rows : holders.applicationScreen.screen.rows = holders.negotiator.screenRows
  cols : holders.applicationScreen.screen.cols = holders.negotiator.screenCols
  appears : ∀ parsed, (holders.parseOnScreen parsed).applicationScreen =
    parsed holders.applicationScreen

theorem applicationScreen_parseOnScreen {holders : ScreenHolders}
    (same : holders.parserScreen = holders.handlerScreen)
    (parsed : ScreenObject → ScreenObject) :
    (holders.parseOnScreen parsed).applicationScreen =
      parsed holders.applicationScreen := by
  unfold applicationScreen parseOnScreen
  simp only [same]
  exact ObjectHeap.object_store _ _ _

theorem oneScreen_iff (holders : ScreenHolders) :
    holders.OneScreen ↔
      holders.negotiatorScreen = holders.handlerScreen ∧
        holders.parserScreen = holders.handlerScreen ∧
        holders.applicationScreen.screen.rows = holders.negotiator.screenRows ∧
        holders.applicationScreen.screen.cols = holders.negotiator.screenCols := by
  constructor
  · intro one
    exact ⟨one.negotiatorScreen, one.parserScreen, one.rows, one.cols⟩
  · rintro ⟨negotiatorScreen, parserScreen, rows, cols⟩
    exact ⟨negotiatorScreen, parserScreen, rows, cols,
      applicationScreen_parseOnScreen parserScreen⟩

/-- A record that the data stream parser reads on a screen without an addressing
mode. -/
def parseRecord (parser : DataStreamParser) (data : List UInt8) (dataType : UInt8)
    (object : ScreenObject) : ScreenObject :=
  { object with
    screen := (finalState (DataStreamParser.parse data dataType
      { parser with screen := object.screen })).screen }

theorem OneScreen.record_appears {holders : ScreenHolders} (one : holders.OneScreen)
    (parser : DataStreamParser) (data : List UInt8) (dataType : UInt8) :
    (holders.parseOnScreen (parseRecord parser data dataType)).applicationScreen.screen =
      (finalState (DataStreamParser.parse data dataType
        { parser with screen := holders.applicationScreen.screen })).screen :=
  congrArg ScreenObject.screen (one.appears _)

/-- Every reference has been given out. -/
structure Allocated (holders : ScreenHolders) : Prop where
  handler : holders.heap.Holds holders.handlerScreen
  negotiator : holders.heap.Holds holders.negotiatorScreen
  parser : holders.heap.Holds holders.parserScreen

/-- A dimension of a BIND-IMAGE that is missing, not positive, or the one that
the negotiator knows. -/
def Keeps (dimension : Option Int) (known : Nat) : Prop :=
  ∀ value, dimension = some value → 0 < value → value = known

theorem keeps_iff (dimension : Option Int) (known : Nat) :
    Keeps dimension known ↔
      ((dimension.map Int.toNat).filter (0 < ·)).getD known = known := by
  unfold Keeps
  cases dimension with
  | none => simp
  | some value =>
      by_cases positive : 0 < value
      · have counted : 0 < value.toNat := by omega
        simp only [Option.map_some, Option.filter_some, decide_eq_true counted,
          if_true, Option.getD_some]
        constructor
        · intro same
          have value_eq := same value rfl positive
          omega
        · rintro rfl other here _
          cases here
          omega
      · have counted : ¬ 0 < value.toNat := by omega
        simp only [Option.map_some, Option.filter_some, decide_eq_false counted]
        constructor
        · exact fun _ => rfl
        · rintro _ other here large
          cases here
          exact absurd large positive

theorem Allocated.resize {holders : ScreenHolders} (allocated : holders.Allocated)
    (negotiator : Negotiator) : (holders.resize negotiator).Allocated := by
  unfold ScreenHolders.resize
  simp only
  split
  · split
    · exact ⟨allocated.handler.allocate _, ObjectHeap.holds_next _ _,
        allocated.parser.allocate _⟩
    · exact ⟨allocated.handler, allocated.negotiator, allocated.parser⟩
  · exact ⟨allocated.handler, allocated.negotiator, allocated.parser⟩

/-- There is one screen after a change of size only if nothing changes. -/
theorem resize_oneScreen_iff {holders : ScreenHolders} (allocated : holders.Allocated)
    (one : holders.OneScreen) (negotiator : Negotiator) :
    (holders.resize negotiator).OneScreen ↔
      negotiator.screenRows = holders.negotiator.screenRows ∧
        negotiator.screenCols = holders.negotiator.screenCols := by
  unfold ScreenHolders.resize
  simp only
  by_cases resized : negotiator.screenRows ≠ holders.negotiator.screenRows ∨
      negotiator.screenCols ≠ holders.negotiator.screenCols
  · have fails : ¬ (negotiator.screenRows = holders.negotiator.screenRows ∧
        negotiator.screenCols = holders.negotiator.screenCols) := by
      rintro ⟨rowsSame, colsSame⟩
      exact resized.elim (absurd rowsSame) (absurd colsSame)
    rw [if_pos resized]
    refine iff_of_false ?_ fails
    split
    · intro broken
      have apart : holders.heap.next = holders.handlerScreen := broken.negotiatorScreen
      exact absurd apart allocated.handler.ne_next
    · intro broken
      have rowsSame : holders.applicationScreen.screen.rows = negotiator.screenRows :=
        broken.rows
      have colsSame : holders.applicationScreen.screen.cols = negotiator.screenCols :=
        broken.cols
      exact fails ⟨rowsSame.symm.trans one.rows, colsSame.symm.trans one.cols⟩
  · obtain ⟨rowsSame, colsSame⟩ := not_or.mp resized
    have rowsSame := not_not.mp rowsSame
    have colsSame := not_not.mp colsSame
    rw [if_neg resized]
    refine iff_of_true ?_ ⟨rowsSame, colsSame⟩
    exact (oneScreen_iff _).mpr ⟨one.negotiatorScreen, one.parserScreen,
      one.rows.trans rowsSame.symm, one.cols.trans colsSame.symm⟩

theorem handleBindImage_oneScreen_iff {holders : ScreenHolders}
    (allocated : holders.Allocated) (one : holders.OneScreen)
    (rows cols : Option Int) :
    (holders.handleBindImage rows cols).OneScreen ↔
      Keeps rows holders.negotiator.screenRows ∧
        Keeps cols holders.negotiator.screenCols := by
  rw [keeps_iff, keeps_iff]
  exact resize_oneScreen_iff allocated one _

/-- Nothing that holds a screen is changed. -/
structure SameScreens (before after : ScreenHolders) : Prop where
  heap : after.heap = before.heap
  handler : after.handlerScreen = before.handlerScreen
  negotiatorScreen : after.negotiatorScreen = before.negotiatorScreen
  parser : after.parserScreen = before.parserScreen
  negotiator : after.negotiator = before.negotiator

theorem OneScreen.of_same {before after : ScreenHolders} (one : before.OneScreen)
    (same : SameScreens before after) : after.OneScreen := by
  have screen : after.applicationScreen = before.applicationScreen := by
    unfold applicationScreen
    rw [same.heap, same.handler]
  refine (oneScreen_iff _).mpr ⟨?_, ?_, ?_, ?_⟩
  · rw [same.negotiatorScreen, same.handler]
    exact one.negotiatorScreen
  · rw [same.parser, same.handler]
    exact one.parserScreen
  · rw [screen, same.negotiator]
    exact one.rows
  · rw [screen, same.negotiator]
    exact one.cols

theorem Allocated.of_same {before after : ScreenHolders} (allocated : before.Allocated)
    (same : SameScreens before after) : after.Allocated := by
  constructor
  · rw [same.heap, same.handler]
    exact allocated.handler
  · rw [same.heap, same.negotiatorScreen]
    exact allocated.negotiator
  · rw [same.heap, same.parser]
    exact allocated.parser

theorem transitionHandler_cases (holders : ScreenHolders) (newMode : AddressingMode) :
    let keeps := holders.handlerAddressing.negotiatedMode = some newMode ∨
      ¬ holders.applicationScreen.Convertible newMode
    keeps ∧ SameScreens holders (holders.transitionHandler newMode).2 ∨
      ¬ keeps ∧ ∃ converted, (holders.transitionHandler newMode).2 =
        { holders with
          heap := holders.heap.allocate converted
          handlerScreen := holders.heap.next
          handlerAddressing := holders.handlerAddressing.switchTo newMode } := by
  intro keeps
  unfold ScreenHolders.transitionHandler
  simp only
  by_cases same : holders.handlerAddressing.negotiatedMode = some newMode
  · left
    rw [if_pos same]
    exact ⟨.inl same, rfl, rfl, rfl, rfl, rfl⟩
  · rw [if_neg same, AddressingModeNegotiator.validateAddressingModeTransition_true]
    simp only [Bool.not_true, Bool.false_eq_true, if_false]
    by_cases convertible : holders.applicationScreen.Convertible newMode
    · right
      obtain ⟨cursor, converted⟩ :=
        ScreenObject.convertAddressingMode_of_convertible convertible
      unfold applicationScreen at converted
      rw [converted]
      exact ⟨not_or.mpr ⟨same, not_not.mpr convertible⟩, _, rfl⟩
    · left
      refine ⟨.inr convertible, ?_⟩
      rcases ScreenObject.convertAddressingMode_of_not convertible with
        absent | ⟨message, failed⟩
      · unfold applicationScreen at absent
        rw [absent]
        exact ⟨rfl, rfl, rfl, rfl, rfl⟩
      · unfold applicationScreen at failed
        rw [failed]
        exact ⟨rfl, rfl, rfl, rfl, rfl⟩

theorem transitionNegotiator_cases (holders : ScreenHolders) (newMode : AddressingMode) :
    let keeps := holders.negotiatorAddressing.negotiatedMode = some newMode ∨
      ¬ (holders.heap.object holders.negotiatorScreen).Convertible newMode
    keeps ∧ SameScreens holders (holders.transitionNegotiator newMode).2 ∨
      ¬ keeps ∧ ∃ converted, (holders.transitionNegotiator newMode).2 =
        { holders with
          heap := holders.heap.allocate converted
          negotiatorScreen := holders.heap.next
          negotiatorAddressing := holders.negotiatorAddressing.switchTo newMode } := by
  intro keeps
  unfold ScreenHolders.transitionNegotiator
  simp only
  by_cases same : holders.negotiatorAddressing.negotiatedMode = some newMode
  · left
    rw [if_pos same]
    exact ⟨.inl same, rfl, rfl, rfl, rfl, rfl⟩
  · rw [if_neg same, AddressingModeNegotiator.validateAddressingModeTransition_true]
    simp only [Bool.not_true, Bool.false_eq_true, if_false]
    by_cases convertible :
        (holders.heap.object holders.negotiatorScreen).Convertible newMode
    · right
      obtain ⟨cursor, converted⟩ :=
        ScreenObject.convertAddressingMode_of_convertible convertible
      rw [converted]
      exact ⟨not_or.mpr ⟨same, not_not.mpr convertible⟩, _, rfl⟩
    · left
      refine ⟨.inr convertible, ?_⟩
      rcases ScreenObject.convertAddressingMode_of_not convertible with
        absent | ⟨message, failed⟩
      · rw [absent]
        exact ⟨rfl, rfl, rfl, rfl, rfl⟩
      · rw [failed]
        simp only
        split
        · exact ⟨rfl, rfl, rfl, rfl, rfl⟩
        · exact ⟨rfl, rfl, rfl, rfl, rfl⟩

theorem Allocated.transitionHandler {holders : ScreenHolders}
    (allocated : holders.Allocated) (newMode : AddressingMode) :
    (holders.transitionHandler newMode).2.Allocated := by
  rcases holders.transitionHandler_cases newMode with ⟨_, same⟩ | ⟨_, converted, after⟩
  · exact allocated.of_same same
  · rw [after]
    exact ⟨ObjectHeap.holds_next _ _, allocated.negotiator.allocate _,
      allocated.parser.allocate _⟩

theorem Allocated.transitionNegotiator {holders : ScreenHolders}
    (allocated : holders.Allocated) (newMode : AddressingMode) :
    (holders.transitionNegotiator newMode).2.Allocated := by
  rcases holders.transitionNegotiator_cases newMode with
    ⟨_, same⟩ | ⟨_, converted, after⟩
  · exact allocated.of_same same
  · rw [after]
    exact ⟨allocated.handler.allocate _, ObjectHeap.holds_next _ _,
      allocated.parser.allocate _⟩

theorem transitionHandler_oneScreen_iff {holders : ScreenHolders}
    (allocated : holders.Allocated) (one : holders.OneScreen)
    (newMode : AddressingMode) :
    (holders.transitionHandler newMode).2.OneScreen ↔
      holders.handlerAddressing.negotiatedMode = some newMode ∨
        ¬ holders.applicationScreen.Convertible newMode := by
  rcases holders.transitionHandler_cases newMode with
    ⟨keeps, same⟩ | ⟨converts, converted, after⟩
  · exact iff_of_true (one.of_same same) keeps
  · rw [after]
    refine iff_of_false ?_ converts
    intro broken
    have apart : holders.parserScreen = holders.heap.next := broken.parserScreen
    exact absurd apart.symm allocated.parser.ne_next

theorem transitionNegotiator_oneScreen_iff {holders : ScreenHolders}
    (allocated : holders.Allocated) (one : holders.OneScreen)
    (newMode : AddressingMode) :
    (holders.transitionNegotiator newMode).2.OneScreen ↔
      holders.negotiatorAddressing.negotiatedMode = some newMode ∨
        ¬ holders.applicationScreen.Convertible newMode := by
  have held : holders.heap.object holders.negotiatorScreen =
      holders.applicationScreen := by
    rw [one.negotiatorScreen]
    rfl
  rw [← held]
  rcases holders.transitionNegotiator_cases newMode with
    ⟨keeps, same⟩ | ⟨converts, converted, after⟩
  · exact iff_of_true (one.of_same same) keeps
  · rw [after]
    refine iff_of_false ?_ converts
    intro broken
    have apart : holders.heap.next = holders.handlerScreen := broken.negotiatorScreen
    exact absurd apart allocated.handler.ne_next

end ScreenHolders

inductive ScreenEvent where
  | handleBindImage (rows cols : Option Int)
  | transitionHandler (newMode : AddressingMode)
  | transitionNegotiator (newMode : AddressingMode)
  deriving DecidableEq

namespace ScreenEvent

/-- One call; what it raises does not end the run. -/
def next : ScreenEvent → ScreenHolders → ScreenHolders
  | handleBindImage rows cols, holders => holders.handleBindImage rows cols
  | transitionHandler newMode, holders => (holders.transitionHandler newMode).2
  | transitionNegotiator newMode, holders => (holders.transitionNegotiator newMode).2

/-- A BIND-IMAGE names no other size; a transition finds its mode negotiated
already, or a screen that is not converted. -/
def KeepsScreen : ScreenEvent → ScreenHolders → Prop
  | handleBindImage rows cols, holders =>
      ScreenHolders.Keeps rows holders.negotiator.screenRows ∧
        ScreenHolders.Keeps cols holders.negotiator.screenCols
  | transitionHandler newMode, holders =>
      holders.handlerAddressing.negotiatedMode = some newMode ∨
        ¬ holders.applicationScreen.Convertible newMode
  | transitionNegotiator newMode, holders =>
      holders.negotiatorAddressing.negotiatedMode = some newMode ∨
        ¬ holders.applicationScreen.Convertible newMode

theorem next_allocated (event : ScreenEvent) {holders : ScreenHolders}
    (allocated : holders.Allocated) : (event.next holders).Allocated := by
  cases event with
  | handleBindImage rows cols => exact allocated.resize _
  | transitionHandler newMode => exact allocated.transitionHandler newMode
  | transitionNegotiator newMode => exact allocated.transitionNegotiator newMode

theorem next_oneScreen_iff (event : ScreenEvent) {holders : ScreenHolders}
    (allocated : holders.Allocated) (one : holders.OneScreen) :
    (event.next holders).OneScreen ↔ event.KeepsScreen holders := by
  cases event with
  | handleBindImage rows cols =>
      exact ScreenHolders.handleBindImage_oneScreen_iff allocated one rows cols
  | transitionHandler newMode =>
      exact ScreenHolders.transitionHandler_oneScreen_iff allocated one newMode
  | transitionNegotiator newMode =>
      exact ScreenHolders.transitionNegotiator_oneScreen_iff allocated one newMode

end ScreenEvent

namespace ScreenHolders

theorem init_allocated (screenBuffer : ScreenObject) (negotiator : Negotiator) :
    (init screenBuffer negotiator).Allocated :=
  ⟨Nat.zero_lt_one, Nat.zero_lt_one, Nat.zero_lt_one⟩

theorem init_oneScreen_iff (screenBuffer : ScreenObject) (negotiator : Negotiator) :
    (init screenBuffer negotiator).OneScreen ↔
      screenBuffer.screen.rows = negotiator.screenRows ∧
        screenBuffer.screen.cols = negotiator.screenCols := by
  rw [oneScreen_iff]
  exact ⟨fun one => one.2.2, fun sizes => ⟨rfl, rfl, sizes⟩⟩

/-- There is one screen throughout exactly when the handler is created with a
screen of the terminal's size and every call keeps it. -/
theorem oneScreen_throughout_iff (screenBuffer : ScreenObject)
    (negotiator : Negotiator) (events : List ScreenEvent) :
    Always ScreenEvent.next OneScreen events (init screenBuffer negotiator) ↔
      (screenBuffer.screen.rows = negotiator.screenRows ∧
          screenBuffer.screen.cols = negotiator.screenCols) ∧
        Along ScreenEvent.next ScreenEvent.KeepsScreen events
          (init screenBuffer negotiator) := by
  have allocated := init_allocated screenBuffer negotiator
  rw [← init_oneScreen_iff]
  constructor
  · intro always
    have one : (init screenBuffer negotiator).OneScreen := by
      cases events with
      | nil => exact always
      | cons event events => exact always.1
    exact ⟨one, (always_iff_along ScreenEvent.next_allocated
      ScreenEvent.next_oneScreen_iff allocated one).mp always⟩
  · rintro ⟨one, along⟩
    exact (always_iff_along ScreenEvent.next_allocated
      ScreenEvent.next_oneScreen_iff allocated one).mpr along

/-- After a BIND-IMAGE of 32 rows the negotiator has a screen of its own. -/
theorem not_oneScreen_bind32 :
    ¬ Always ScreenEvent.next OneScreen [.handleBindImage (some 32) (some 80)]
      (init (.plain 24 80 (Nat.succ_pos 23) (Nat.succ_pos 79))
        (Negotiator.init .strict)) := by
  intro always
  have apart : (1 : Nat) = 0 := always.2.negotiatorScreen
  exact absurd apart Nat.one_ne_zero

end ScreenHolders

end Pure3270
