import Pure3270.Foundations.Lockstep
import Pure3270.Protocol.RecordHandover

/-!
# What the modes return

Data goes through ASCII mode or through 3270 mode.  What a mode returns is a
piece of the data that can be told beforehand, and what it does to the screen
depends neither on the Telnet layer nor on whether ASCII mode has been taken up
for good.
-/

namespace Pure3270

open Foundations

namespace Tn3270Handler

variable (collaborators : Collaborators)

/-- The path for the data of a read. -/
def handleMode (asciiMode : Bool) (processedData : List UInt8) :
    HandlerM (Option (List UInt8)) :=
  if asciiMode then handleAsciiMode collaborators processedData
  else handleTn3270Mode processedData

/-- Something that the general path is left with. -/
def returnedRecord (processedData : List UInt8) (headerLen : Nat) :
    Option (List UInt8) :=
  if rstripEor processedData = [] then none
  else some (stripF5 (stripZeroBlocks ((rstripEor processedData).drop headerLen)))

def returnedTn3270 (processedData : List UInt8) (handler : Tn3270Handler) :
    Option (List UInt8) :=
  match Tn3270eHeader.fromBytes processedData with
  | none => returnedRecord processedData 0
  | some header =>
      if header.dataType ∉ Tn3270eHeader.tn3270eDataTypes then
        returnedRecord processedData 0
      else if PrinterRecord header handler then
        some (stripF5 ((rstripEor processedData).drop
          (getFixtureHeaderLen processedData 5)))
      else returnedRecord processedData (getFixtureHeaderLen processedData 5)

/-- ASCII mode takes the data for a terminal's. -/
def TakenForVt100 (processedData : List UInt8) : Prop :=
  0x1B ∈ processedData ∨ escapeText <:+: processedData

instance (processedData : List UInt8) : Decidable (TakenForVt100 processedData) := by
  unfold TakenForVt100
  infer_instance

/-- ASCII mode looks for headers. -/
def readsHeaders (handler : Tn3270Handler) : Bool :=
  let negotiator := handler.session.negotiator
  negotiator.tn3270eMode || negotiator.negotiatedTn3270e ||
    negotiator.isDataStreamCtlActive

def returnedText (processedData : List UInt8) : Option (List UInt8) :=
  if processedData = [] then none else some (rstripEor processedData)

def returnedAscii (processedData : List UInt8) (handler : Tn3270Handler) :
    Option (List UInt8) :=
  if TakenForVt100 processedData then some (rstripEor processedData)
  else
    match if handler.readsHeaders then Tn3270eHeader.fromBytes processedData else none with
    | none => returnedText processedData
    | some header =>
        if header.dataType ∈ asciiModeTypes then
          some (stripF5 ((rstripEor processedData).drop
            (getFixtureHeaderLen processedData 0)))
        else returnedText processedData

def returned (asciiMode : Bool) (processedData : List UInt8) (handler : Tn3270Handler) :
    Option (List UInt8) :=
  if asciiMode then returnedAscii processedData handler
  else returnedTn3270 processedData handler

/-- What the modes leave alone. -/
structure SameIntake (before after : Tn3270Handler) : Prop where
  telnet : after.telnet = before.telnet
  pendingPayload : after.pendingPayload = before.pendingPayload
  hasPrinterBuffer : after.hasPrinterBuffer = before.hasPrinterBuffer

instance : IsPreorder Tn3270Handler SameIntake where
  refl _ := ⟨rfl, rfl, rfl⟩
  trans _ _ _ first second :=
    { telnet := second.telnet.trans first.telnet
      pendingPayload := second.pendingPayload.trans first.pendingPayload
      hasPrinterBuffer := second.hasPrinterBuffer.trans first.hasPrinterBuffer }

/-- The computation leaves the intake alone, and returns this value if it
returns. -/
def ReturnsAt (value : α) (m : HandlerM α) (handler : Tn3270Handler) : Prop :=
  WithinAt SameIntake m handler ∧
    ∀ result after, m handler = .ok result after → result = value

theorem ReturnsAt.pure (value : α) (handler : Tn3270Handler) :
    ReturnsAt value (pure value : HandlerM α) handler := by
  refine ⟨WithinAt.pure value, fun result after ran => ?_⟩
  cases ran
  rfl

theorem ReturnsAt.bind {value : β} {m : HandlerM α} {f : α → HandlerM β}
    {handler : Tn3270Handler} (first : WithinAt SameIntake m handler)
    (next : ∀ result after, SameIntake handler after →
      ReturnsAt value (f result) after) : ReturnsAt value (m >>= f) handler := by
  have moved : ∀ result after, m handler = .ok result after →
      SameIntake handler after := by
    intro result after ran
    unfold WithinAt at first
    rw [ran] at first
    exact first
  constructor
  · exact first.bind fun result after ran => (next result after (moved _ _ ran)).1
  · intro result after ran
    obtain ⟨middleResult, middle, firstRan, later⟩ := exists_of_bind_ok ran
    exact (next middleResult middle (moved _ _ firstRan)).2 result after later

theorem callParse_sameIntake (data : List UInt8) (dataType : UInt8) :
    Within SameIntake (callParse data dataType) := by
  intro handler
  unfold WithinAt callParse
  simp only
  split
  · exact ⟨rfl, rfl, rfl⟩
  · exact ⟨rfl, rfl, rfl⟩

theorem modifyScreen_sameIntake (f : ScreenBuffer → ScreenBuffer) :
    Within SameIntake (modifyScreen f) :=
  fun _ => WithinAt.modify ⟨rfl, rfl, rfl⟩

theorem receiveHeader_sameIntake (header : Tn3270eHeader) :
    Within SameIntake (receiveHeader header) := by
  intro handler
  refine WithinAt.bind (WithinAt.modify ⟨rfl, rfl, rfl⟩) fun _ after _ => ?_
  unfold WithinAt onSession
  split
  · exact ⟨rfl, rfl, rfl⟩
  · exact ⟨rfl, rfl, rfl⟩

theorem parsePrinterRecord_returns (processedData : List UInt8) (headerLen : Nat)
    (dataType : UInt8) (handler : Tn3270Handler) :
    ReturnsAt (some (stripF5 ((rstripEor processedData).drop headerLen)))
      (parsePrinterRecord processedData headerLen dataType) handler :=
  .bind (callParse_sameIntake _ _ handler) fun _ after _ => .pure _ after

theorem parseRecord_returns (processedData : List UInt8) (headerLen : Nat)
    (dataType : UInt8) (handler : Tn3270Handler) :
    ReturnsAt (returnedRecord processedData headerLen)
      (parseRecord processedData headerLen dataType) handler := by
  unfold parseRecord returnedRecord
  simp only
  split
  · exact .pure none handler
  · exact .bind (callParse_sameIntake _ _ handler) fun _ after _ => .pure _ after

theorem handleTn3270Mode_returns (processedData : List UInt8)
    (handler : Tn3270Handler) :
    ReturnsAt (returnedTn3270 processedData handler)
      (handleTn3270Mode processedData) handler := by
  unfold handleTn3270Mode returnedTn3270
  cases Tn3270eHeader.fromBytes processedData with
  | none => exact parseRecord_returns _ _ _ handler
  | some header =>
      simp only
      by_cases unknown : header.dataType ∉ Tn3270eHeader.tn3270eDataTypes
      · rw [if_pos unknown, if_pos unknown]
        exact parseRecord_returns _ _ _ handler
      · rw [if_neg unknown, if_neg unknown]
        refine .bind (receiveHeader_sameIntake header handler) fun _ after same => ?_
        have samePrinter : PrinterRecord header after ↔ PrinterRecord header handler := by
          unfold PrinterRecord
          rw [same.hasPrinterBuffer]
        show ReturnsAt _ (if PrinterRecord header after then _ else _) after
        by_cases printer : PrinterRecord header after
        · rw [if_pos printer, if_pos (samePrinter.mp printer)]
          exact parsePrinterRecord_returns _ _ _ after
        · rw [if_neg printer, if_neg fun there => printer (samePrinter.mpr there)]
          exact parseRecord_returns _ _ _ after

theorem parseAsciiText_returns (processedData : List UInt8) (handler : Tn3270Handler) :
    ReturnsAt (returnedText processedData)
      (parseAsciiText collaborators processedData) handler := by
  unfold parseAsciiText returnedText
  refine .bind (modifyScreen_sameIntake _ handler) fun _ after _ => ?_
  split
  · exact .pure none after
  · refine .bind (modifyScreen_sameIntake _ after) fun _ after _ => ?_
    refine .bind ?_ fun _ after _ => .pure _ after
    exact (callParse_sameIntake _ _ after).tryCatch fun _ _ _ => WithinAt.pure ()

theorem handleAsciiMode_returns (processedData : List UInt8)
    (handler : Tn3270Handler) :
    ReturnsAt (returnedAscii processedData handler)
      (handleAsciiMode collaborators processedData) handler := by
  unfold handleAsciiMode returnedAscii
  by_cases vt100 : 0x1B ∈ processedData ∨ escapeText <:+: processedData
  · have taken : TakenForVt100 processedData := vt100
    rw [if_pos taken, if_pos vt100]
    refine .bind (modifyScreen_sameIntake _ handler) fun _ after _ => ?_
    exact .bind (modifyScreen_sameIntake _ after) fun _ after _ => .pure _ after
  · have untaken : ¬ TakenForVt100 processedData := vt100
    rw [if_neg untaken, if_neg vt100]
    show ReturnsAt _ (match if handler.readsHeaders then
      Tn3270eHeader.fromBytes processedData else none with | none => _ | some _ => _)
      handler
    cases if handler.readsHeaders then Tn3270eHeader.fromBytes processedData
      else none with
    | none => exact parseAsciiText_returns collaborators processedData handler
    | some header =>
        simp only
        split
        · refine .bind (receiveHeader_sameIntake header handler) fun _ after _ => ?_
          refine .bind (modifyScreen_sameIntake _ after) fun _ after _ => ?_
          exact .bind (callParse_sameIntake _ _ after) fun _ after _ => .pure _ after
        · exact parseAsciiText_returns collaborators processedData handler

theorem handleMode_returns (asciiMode : Bool) (processedData : List UInt8)
    (handler : Tn3270Handler) :
    ReturnsAt (returned asciiMode processedData handler)
      (handleMode collaborators asciiMode processedData) handler := by
  unfold handleMode returned
  split
  · exact handleAsciiMode_returns collaborators processedData handler
  · exact handleTn3270Mode_returns processedData handler

theorem handleMode_ok {asciiMode : Bool} {processedData : List UInt8}
    {value : Option (List UInt8)} {handler after : Tn3270Handler}
    (ran : handleMode collaborators asciiMode processedData handler = .ok value after) :
    SameIntake handler after ∧ value = returned asciiMode processedData handler := by
  obtain ⟨intake, returns⟩ :=
    handleMode_returns collaborators asciiMode processedData handler
  unfold WithinAt at intake
  rw [ran] at intake
  exact ⟨intake, returns value after ran⟩

theorem returnedRecord_inside {processedData value : List UInt8} {headerLen : Nat}
    (found : returnedRecord processedData headerLen = some value) :
    value <:+: (rstripEor processedData).drop headerLen := by
  unfold returnedRecord at found
  split at found
  · cases found
  · injection found with found
    rw [← found]
    exact ((stripF5_suffix _).trans (stripZeroBlocks_suffix _)).isInfix

theorem drop_rstripEor_inside (processedData : List UInt8) (headerLen : Nat) :
    (rstripEor processedData).drop headerLen <:+: processedData :=
  (List.drop_suffix _ _).isInfix.trans (prefix_of_rstripEor processedData).isInfix

theorem returnedText_inside {processedData value : List UInt8}
    (found : returnedText processedData = some value) : value <:+: processedData := by
  unfold returnedText at found
  split at found
  · cases found
  · injection found with found
    rw [← found]
    exact (prefix_of_rstripEor processedData).isInfix

theorem returned_inside {asciiMode : Bool} {processedData value : List UInt8}
    {handler : Tn3270Handler}
    (found : returned asciiMode processedData handler = some value) :
    value <:+: processedData := by
  have record : ∀ {headerLen : Nat},
      returnedRecord processedData headerLen = some value → value <:+: processedData :=
    fun found => (returnedRecord_inside found).trans (drop_rstripEor_inside _ _)
  have stripped : ∀ {headerLen : Nat},
      some (stripF5 ((rstripEor processedData).drop headerLen)) = some value →
        value <:+: processedData := by
    intro headerLen found
    injection found with found
    rw [← found]
    exact (stripF5_suffix _).isInfix.trans (drop_rstripEor_inside _ _)
  unfold returned at found
  split at found
  · unfold returnedAscii at found
    split at found
    · injection found with found
      rw [← found]
      exact (prefix_of_rstripEor processedData).isInfix
    · split at found
      · exact returnedText_inside found
      · split at found
        · exact stripped found
        · exact returnedText_inside found
  · unfold returnedTn3270 at found
    split at found
    · exact record found
    · split at found
      · exact record found
      · split at found
        · exact stripped found
        · exact record found

/-- Nothing is returned of nothing. -/
theorem returned_nil (asciiMode : Bool) (handler : Tn3270Handler) :
    returned asciiMode [] handler = none := by
  cases asciiMode with
  | false => rfl
  | true =>
      show returnedAscii [] handler = none
      unfold returnedAscii
      rw [if_neg (by decide : ¬ TakenForVt100 [])]
      cases handler.readsHeaders with
      | false => rfl
      | true => rfl

/-- The payload starts with a header that 3270 mode takes off. -/
def HasHeader (payload : List UInt8) : Prop :=
  ∃ header, Tn3270eHeader.fromBytes payload = some header ∧
    header.dataType ∈ Tn3270eHeader.tn3270eDataTypes

/-- The padding and the command byte that are taken for a header. -/
def HasFixture (payload : List UInt8) : Prop :=
  [0x00, 0x00, 0x00, 0x00, 0xF5] <+: payload

/-- The mode finds nothing to take off the payload. -/
def NothingTaken (asciiMode : Bool) (payload : List UInt8)
    (handler : Tn3270Handler) : Prop :=
  payload.getLast? ≠ some 0x19 ∧
    if asciiMode then
      TakenForVt100 payload ∨ handler.readsHeaders = false ∨ ¬ HasFixture payload
    else
      ¬ HasHeader payload ∧ payload.head? ≠ some 0xF5 ∧
        ¬ [0x00, 0x00, 0x00, 0x00] <+: payload

variable {payload : List UInt8} {handler : Tn3270Handler}

theorem ne_of_length_lt {shorter longer : List UInt8}
    (less : shorter.length < longer.length) : some shorter ≠ some longer := by
  intro same
  injection same with same
  rw [same] at less
  exact Nat.lt_irrefl _ less

theorem returnedRecord_zero_eq_iff (nonempty : payload ≠ []) :
    returnedRecord payload 0 = some payload ↔
      payload.getLast? ≠ some 0x19 ∧ payload.head? ≠ some 0xF5 ∧
        ¬ [0x00, 0x00, 0x00, 0x00] <+: payload := by
  rw [← strip_eq_self_iff]
  unfold returnedRecord
  by_cases empty : rstripEor payload = []
  · rw [if_pos empty, empty]
    constructor
    · intro same
      cases same
    · exact fun same => absurd same.symm nonempty
  · rw [if_neg empty, List.drop_zero]
    constructor
    · exact fun same => Option.some.inj same
    · exact fun same => congrArg some same

/-- Something that is dropped is missing. -/
theorem length_drop_rstripEor_lt {headerLen : Nat} (positive : 0 < headerLen)
    (nonempty : payload ≠ []) :
    ((rstripEor payload).drop headerLen).length < payload.length := by
  have shorter := (prefix_of_rstripEor payload).length_le
  have some := List.length_pos_iff.mpr nonempty
  rw [List.length_drop]
  omega

theorem getFixtureHeaderLen_pos (payload : List UInt8) {defaultLen : Nat}
    (positive : 0 < defaultLen) : 0 < getFixtureHeaderLen payload defaultLen := by
  unfold getFixtureHeaderLen
  split
  · exact Nat.zero_lt_succ _
  · exact positive

theorem returnedTn3270_eq_iff (nonempty : payload ≠ []) :
    returnedTn3270 payload handler = some payload ↔
      NothingTaken false payload handler := by
  have noHeader : ¬ HasHeader payload →
      (returnedRecord payload 0 = some payload ↔
        NothingTaken false payload handler) := by
    intro absent
    rw [returnedRecord_zero_eq_iff nonempty]
    constructor
    · exact fun holds => ⟨holds.1, absent, holds.2⟩
    · exact fun holds => ⟨holds.1, holds.2.2⟩
  unfold returnedTn3270
  split
  · rename_i none
    apply noHeader
    rintro ⟨header, found, -⟩
    rw [none] at found
    cases found
  · rename_i header found
    split
    · rename_i unknown
      apply noHeader
      rintro ⟨other, again, known⟩
      rw [found] at again
      cases again
      exact unknown known
    · rename_i known
      have present : HasHeader payload := ⟨header, found, not_not.mp known⟩
      have shorter := length_drop_rstripEor_lt
        (getFixtureHeaderLen_pos payload (by decide : 0 < 5)) nonempty
      have taken : ¬ NothingTaken false payload handler :=
        fun holds => holds.2.1 present
      refine iff_of_false ?_ taken
      split
      · exact ne_of_length_lt ((stripF5_suffix _).length_le.trans_lt shorter)
      · intro same
        have short := (returnedRecord_inside same).length_le
        omega

theorem HasFixture.header (fixture : HasFixture payload) :
    Tn3270eHeader.fromBytes payload = some ⟨0x00, 0x00, 0x00, 0xF5⟩ := by
  obtain ⟨rest, rfl⟩ := fixture
  rfl

theorem returnedText_eq_iff (nonempty : payload ≠ []) :
    returnedText payload = some payload ↔ payload.getLast? ≠ some 0x19 := by
  unfold returnedText
  rw [if_neg nonempty, Option.some.injEq, rstripEor_eq_self_iff]

theorem returnedAscii_eq_iff (nonempty : payload ≠ []) :
    returnedAscii payload handler = some payload ↔
      NothingTaken true payload handler := by
  have text : TakenForVt100 payload ∨ handler.readsHeaders = false ∨
      ¬ HasFixture payload →
      (payload.getLast? ≠ some 0x19 ↔ NothingTaken true payload handler) :=
    fun kept => ⟨fun last => ⟨last, kept⟩, fun holds => holds.1⟩
  unfold returnedAscii
  by_cases vt100 : TakenForVt100 payload
  · rw [if_pos vt100, Option.some.injEq, rstripEor_eq_self_iff]
    exact text (.inl vt100)
  · rw [if_neg vt100]
    by_cases reads : handler.readsHeaders = true
    · rw [if_pos reads]
      by_cases fixture : HasFixture payload
      · have first := fixture.header
        have length : getFixtureHeaderLen payload 0 = 4 := if_pos fixture
        have shorter := length_drop_rstripEor_lt (by decide : 0 < 4) nonempty
        have taken : ¬ NothingTaken true payload handler := by
          rintro ⟨-, kept | kept | kept⟩
          · exact vt100 kept
          · rw [reads] at kept
            cases kept
          · exact kept fixture
        rw [first]
        simp only
        rw [if_pos (by decide), length]
        exact iff_of_false
          (ne_of_length_lt ((stripF5_suffix _).length_le.trans_lt shorter)) taken
      · have length : getFixtureHeaderLen payload 0 = 0 := if_neg fixture
        rw [← text (.inr (.inr fixture))]
        split
        · exact returnedText_eq_iff nonempty
        · rename_i header found
          split
          · rename_i known
            -- The data type comes first, and 0xF5 is none of those known.
            have head := Tn3270eHeader.dataType_eq_head found
            have other : payload.head? ≠ some 0xF5 := by
              intro first
              rw [head] at first
              injection first with same
              rw [same] at known
              exact absurd known (by decide)
            rw [length, List.drop_zero, Option.some.injEq, stripEnds_eq_self_iff]
            exact and_iff_left other
          · exact returnedText_eq_iff nonempty
    · rw [if_neg reads, ← text (.inr (.inl (Bool.eq_false_iff.mpr reads)))]
      exact returnedText_eq_iff nonempty

theorem returned_eq_iff (asciiMode : Bool) (nonempty : payload ≠ []) :
    returned asciiMode payload handler = some payload ↔
      NothingTaken asciiMode payload handler := by
  cases asciiMode with
  | false => exact returnedTn3270_eq_iff nonempty
  | true => exact returnedAscii_eq_iff nonempty

/-- The parsers are the same, and a printer is there for both or for none. -/
structure SameParser (left right : Tn3270Handler) : Prop where
  parser : right.parser = left.parser
  hasPrinterBuffer : right.hasPrinterBuffer = left.hasPrinterBuffer

/-- The sessions differ in ASCII mode at most. -/
structure Alike (left right : Tn3270Handler) : Prop extends SameParser left right where
  negotiator : ∃ asciiMode, right.session.negotiator =
    { left.session.negotiator with asciiMode }

variable {left right : Tn3270Handler}

theorem Alike.trans {middle : Tn3270Handler} (first : Alike left middle)
    (second : Alike middle right) : Alike left right := by
  obtain ⟨_, firstMode⟩ := first.negotiator
  obtain ⟨asciiMode, secondMode⟩ := second.negotiator
  exact
    { parser := second.parser.trans first.parser
      hasPrinterBuffer := second.hasPrinterBuffer.trans first.hasPrinterBuffer
      negotiator := ⟨asciiMode, by rw [secondMode, firstMode]⟩ }

theorem Alike.of_session (parser : right.parser = left.parser)
    (hasPrinterBuffer : right.hasPrinterBuffer = left.hasPrinterBuffer)
    (session : right.session = left.session) : Alike left right where
  parser := parser
  hasPrinterBuffer := hasPrinterBuffer
  negotiator := ⟨left.session.negotiator.asciiMode, by rw [session]⟩

theorem callParse_lockstep (data : List UInt8) (dataType : UInt8) :
    Lockstep SameParser (callParse data dataType) (callParse data dataType) := by
  intro left right same
  unfold LockstepAt callParse
  rw [same.parser]
  simp only
  cases DataStreamParser.parse data dataType left.parser with
  | ok exit parser => exact .ok () ⟨rfl, same.hasPrinterBuffer⟩
  | error fault parser => exact .error fault ⟨rfl, same.hasPrinterBuffer⟩

theorem modifyScreen_lockstep (f : ScreenBuffer → ScreenBuffer) :
    Lockstep SameParser (modifyScreen f) (modifyScreen f) := by
  intro left right same
  refine .modify ⟨?_, same.hasPrinterBuffer⟩
  rw [same.parser]

theorem receiveHeader_sameParser (header : Tn3270eHeader) :
    Within SameParser (receiveHeader header) := by
  intro handler
  show SameParser handler (finalState (onSession _ _))
  unfold onSession
  split
  · exact ⟨rfl, rfl⟩
  · exact ⟨rfl, rfl⟩

/-- Whether a header makes the negotiator give up does not depend on ASCII mode. -/
theorem receiveHeader_lockstep (header : Tn3270eHeader) (alike : Alike left right) :
    LockstepAt SameParser (receiveHeader header) (receiveHeader header) left right := by
  obtain ⟨asciiMode, negotiator⟩ := alike.negotiator
  have sameParser : SameParser (finalState (receiveHeader header left))
      (finalState (receiveHeader header right)) := by
    have here := receiveHeader_sameParser header left
    have there := receiveHeader_sameParser header right
    exact
      { parser := (there.parser.trans alike.parser).trans here.parser.symm
        hasPrinterBuffer :=
          (there.hasPrinterBuffer.trans alike.hasPrinterBuffer).trans
            here.hasPrinterBuffer.symm }
  unfold LockstepAt
  by_cases gaveUp : Session.GivesUp header left.session.negotiator
  · have twinGaveUp : Session.GivesUp header right.session.negotiator := by
      rw [negotiator]
      exact gaveUp
    obtain ⟨after, raised⟩ := receiveHeader_gaveUp gaveUp
    obtain ⟨twin, twinRaised⟩ := receiveHeader_gaveUp twinGaveUp
    rw [raised, twinRaised] at sameParser ⊢
    exact .error _ sameParser
  · have twinGoesOn : ¬ Session.GivesUp header right.session.negotiator := by
      rw [negotiator]
      exact gaveUp
    obtain ⟨session, -, returned⟩ := receiveHeader_goesOn gaveUp
    obtain ⟨twin, -, twinReturned⟩ := receiveHeader_goesOn twinGoesOn
    rw [returned, twinReturned] at sameParser ⊢
    exact .ok () sameParser

theorem Alike.readsHeaders (alike : Alike left right) :
    right.readsHeaders = left.readsHeaders := by
  obtain ⟨asciiMode, negotiator⟩ := alike.negotiator
  unfold Tn3270Handler.readsHeaders
  rw [negotiator]
  rfl

theorem parseRecord_lockstep (processedData : List UInt8) (headerLen : Nat)
    (dataType : UInt8) :
    Lockstep SameParser (parseRecord processedData headerLen dataType)
      (parseRecord processedData headerLen dataType) := by
  intro left right same
  unfold parseRecord
  simp only
  refine .ite Iff.rfl (fun _ => .pure same none) fun _ => ?_
  exact (callParse_lockstep _ _ same).bind fun _ _ _ _ _ kept => .pure kept _

theorem handleTn3270Mode_lockstep (processedData : List UInt8)
    (alike : Alike left right) :
    LockstepAt SameParser (handleTn3270Mode processedData)
      (handleTn3270Mode processedData) left right := by
  unfold handleTn3270Mode
  cases Tn3270eHeader.fromBytes processedData with
  | none => exact parseRecord_lockstep _ _ _ alike.toSameParser
  | some header =>
      refine .ite Iff.rfl (fun _ => parseRecord_lockstep _ _ _ alike.toSameParser)
        fun _ => ?_
      refine (receiveHeader_lockstep header alike).bind fun _ after twin _ _ kept => ?_
      refine .getBind (.ite ?_ (fun _ => ?_) fun _ => ?_)
      · unfold PrinterRecord
        rw [kept.hasPrinterBuffer]
      · exact (callParse_lockstep _ _ kept).bind fun _ _ _ _ _ kept => .pure kept _
      · exact parseRecord_lockstep _ _ _ kept

theorem parseAsciiText_lockstep (processedData : List UInt8) :
    Lockstep SameParser (parseAsciiText collaborators processedData)
      (parseAsciiText collaborators processedData) := by
  intro left right same
  refine (modifyScreen_lockstep _ same).bind fun _ after twin _ _ kept => ?_
  refine .ite Iff.rfl (fun _ => .pure kept none) fun _ => ?_
  refine (modifyScreen_lockstep _ kept).bind fun _ after twin _ _ kept => ?_
  have parsed : Lockstep SameParser
      (tryCatch (callParse processedData Tn3270eHeader.tn3270Data) fun _ => pure ())
      (tryCatch (callParse processedData Tn3270eHeader.tn3270Data) fun _ => pure ()) :=
    Lockstep.tryCatch (callParse_lockstep _ _) fun _ _ _ kept => .pure kept ()
  exact (parsed kept).bind fun _ _ _ _ _ kept => .pure kept _

theorem handleAsciiMode_lockstep (processedData : List UInt8)
    (alike : Alike left right) :
    LockstepAt SameParser (handleAsciiMode collaborators processedData)
      (handleAsciiMode collaborators processedData) left right := by
  unfold handleAsciiMode
  refine .ite Iff.rfl (fun _ => ?_) fun _ => ?_
  · refine (modifyScreen_lockstep _ alike.toSameParser).bind fun _ _ _ _ _ kept => ?_
    exact (modifyScreen_lockstep _ kept).bind fun _ _ _ _ _ kept => .pure kept _
  · refine .getBind ?_
    show LockstepAt SameParser
      (match if left.readsHeaders then Tn3270eHeader.fromBytes processedData else none with
        | none => _ | some _ => _)
      (match if right.readsHeaders then Tn3270eHeader.fromBytes processedData else none with
        | none => _ | some _ => _) left right
    rw [alike.readsHeaders]
    cases if left.readsHeaders then Tn3270eHeader.fromBytes processedData else none with
    | none => exact parseAsciiText_lockstep collaborators processedData alike.toSameParser
    | some header =>
        refine .ite Iff.rfl (fun _ => ?_) fun _ =>
          parseAsciiText_lockstep collaborators processedData alike.toSameParser
        refine (receiveHeader_lockstep header alike).bind fun _ _ _ _ _ kept => ?_
        refine (modifyScreen_lockstep _ kept).bind fun _ _ _ _ _ kept => ?_
        exact (callParse_lockstep _ _ kept).bind fun _ _ _ _ _ kept => .pure kept _

/-- A mode does the same to both screens, and returns the same. -/
theorem handleMode_lockstep (asciiMode : Bool) (processedData : List UInt8)
    (alike : Alike left right) :
    LockstepAt SameParser (handleMode collaborators asciiMode processedData)
      (handleMode collaborators asciiMode processedData) left right := by
  unfold handleMode
  exact .ite Iff.rfl
    (fun _ => handleAsciiMode_lockstep collaborators processedData alike)
    fun _ => handleTn3270Mode_lockstep processedData alike

end Tn3270Handler

end Pure3270
