import Pure3270.Protocol.FunctionsBookkeeping
import Pure3270.Protocol.Negotiation
import Pure3270.Protocol.ParserSafety
import Pure3270.Protocol.Tn3270Handler

/-!
# Active functions

Functions are agreed as a list of codes and kept as one number, which is then
asked for bits.  The bits are those of the last code of the list, and BIND-IMAGE
and DATA-STREAM-CTL share one; so the answers are right only where the last code
happens to have the right bits.
-/

namespace Pure3270

open Foundations Telnet Tn3270e

namespace Tn3270e

/-- The masks of the functions. -/
abbrev dataStreamCtl : Nat := 0x01
abbrev bindImage : Nat := 0x01
abbrev sysreq : Nat := 0x10

/-- The codes of the functions in a list. -/
abbrev bindImageCode : UInt8 := 0x00
abbrev dataStreamCtlCode : UInt8 := 0x01
abbrev sysreqCode : UInt8 := 0x04

/-- `AO`. -/
abbrev abortOutput : UInt8 := 0xF5

end Tn3270e

namespace Negotiator

def isBindImageActive (negotiator : Negotiator) : Bool :=
  negotiator.negotiatedFunctions &&& bindImage ≠ 0

/-- `handle_bind_image`; a size that is missing or zero is not taken over. -/
def handleBindImage (rows cols : Option Nat) (negotiator : Negotiator) : Negotiator :=
  { negotiator with
    screenRows := (rows.filter (0 < ·)).getD negotiator.screenRows
    screenCols := (cols.filter (0 < ·)).getD negotiator.screenCols
    negotiatedFunctions := negotiator.negotiatedFunctions ||| bindImage }

/-- The first part of `_handle_state_error`. -/
def clearBindImage (negotiator : Negotiator) : Negotiator :=
  { negotiator with
    negotiatedFunctions := negotiator.negotiatedFunctions -
      (negotiator.negotiatedFunctions &&& bindImage) }

end Negotiator

/-- `_handle_state_error`: the negotiation that follows is cleaned up where it
fails. -/
def Session.handleStateError (recovered : Bool) (session : Session) : Session :=
  let cleared := session.onNegotiator (·.clearBindImage)
  if recovered then cleared else cleared.cleanupOnFailure

/-- Whether AO suspends a session that is not suspended. -/
def Tn3270Handler.suspendsOnAo (handler : Tn3270Handler) : Bool :=
  ({ handler with inSuspendedMode := false }.handleTelnetCommand abortOutput
    ).inSuspendedMode

/-- A FUNCTIONS message, where REQUEST comes with IS or without, a BIND-IMAGE record, or a
state error. -/
inductive ActivityEvent where
  | functions (command : FunctionsCommand) (functionsData : List UInt8)
  | functionsRequest (functionsData : List UInt8)
  | bindImage (rows cols : Option Nat)
  | stateError (recovered : Bool)
  deriving DecidableEq, Repr

namespace ActivityEvent

def next : ActivityEvent → Session → Session
  | functions command functionsData, session =>
      finalState (Session.parseTn3270eSubnegotiation
        (tn3270e :: (SubnegotiationMessage.functions command functionsData).bytes)
        session)
  | functionsRequest functionsData, session =>
      finalState (Session.parseTn3270eSubnegotiation
        (tn3270e :: (SubnegotiationMessage.functionsRequest functionsData).bytes) session)
  | bindImage rows cols, session =>
      session.onNegotiator (·.handleBindImage rows cols)
  | stateError recovered, session => session.handleStateError recovered

end ActivityEvent

/-- A handler, the functions that were agreed last, and whether BIND-IMAGE still
counts as agreed and was received since the last state error. -/
structure ActivityRun where
  handler : Tn3270Handler
  agreed : List UInt8
  bindAgreed : Bool
  bound : Bool

namespace ActivityRun

def negotiator (state : ActivityRun) : Negotiator :=
  state.handler.session.negotiator

/-- A state error may be taken to end what was agreed on BIND-IMAGE (`revokes`) or
not.  After a failed recovery nothing is agreed. -/
def step (revokes : Bool) (event : ActivityEvent) (state : ActivityRun) :
    ActivityRun :=
  let handler := { state.handler with session := event.next state.handler.session }
  match event with
  | .functions _ functionsData =>
      { state with
        handler, agreed := functionsData
        bindAgreed := bindImageCode ∈ functionsData }
  | .functionsRequest functionsData =>
      { state with
        handler, agreed := functionsData
        bindAgreed := bindImageCode ∈ functionsData }
  | .bindImage _ _ => { state with handler, bound := true }
  | .stateError true =>
      { state with
        handler, bindAgreed := state.bindAgreed && !revokes, bound := false }
  | .stateError false => ⟨handler, [], false, false⟩

/-- Each answer depends on its own function alone. -/
structure Independent (state : ActivityRun) : Prop where
  bindImage : state.negotiator.isBindImageActive = true ↔
    state.bindAgreed = true ∨ state.bound = true
  dataStreamCtl : state.negotiator.isDataStreamCtlActive = true ↔
    dataStreamCtlCode ∈ state.agreed
  sysreq : state.handler.suspendsOnAo = true ↔ sysreqCode ∈ state.agreed

/-- The message does not change the number: it is taken for a header, or it is a
FUNCTIONS IS without functions. -/
def Unrecorded (command : FunctionsCommand) (functionsData : List UInt8) : Prop :=
  (SubnegotiationMessage.functions command functionsData).LooksLikeHeader ∨
    command = .is ∧ functionsData = []

/-- A REQUEST without IS does not change the number: it is taken for a header, or its list
does not begin with the code of IS. -/
def RequestUnrecorded (functionsData : List UInt8) : Prop :=
  (SubnegotiationMessage.functionsRequest functionsData).LooksLikeHeader ∨
    functionsData.head? ≠ some Tn3270e.is

/-- The number `answering` has the bits for these functions. -/
def Answers (answering : Nat) (functionsData : List UInt8) (bound : Bool) : Prop :=
  (answering.testBit 0 = true ↔ bindImageCode ∈ functionsData ∨ bound = true) ∧
  (answering.testBit 0 = true ↔ dataStreamCtlCode ∈ functionsData) ∧
  (answering.testBit 4 = true ↔ sysreqCode ∈ functionsData)

/-- When an event leaves the answers right.  A list is answered by its last code,
an empty one by the last code of the default functions; behind REQUEST the first code is
taken for IS, where it is recorded at all. -/
def MayCome (revokes : Bool) : ActivityEvent → ActivityRun → Prop
  | .functions command functionsData, state =>
      (Unrecorded command functionsData →
        Answers state.negotiator.negotiatedFunctions functionsData state.bound) ∧
      (¬ Unrecorded command functionsData →
        Answers (functionsData.getLast?.getD 0x05).toNat functionsData state.bound)
  | .functionsRequest functionsData, state =>
      (RequestUnrecorded functionsData →
        Answers state.negotiator.negotiatedFunctions functionsData state.bound) ∧
      (¬ RequestUnrecorded functionsData →
        Answers (functionsData.tail.getLast?.getD 0x05).toNat functionsData state.bound)
  | .bindImage _ _, state => dataStreamCtlCode ∈ state.agreed
  | .stateError true, state =>
      dataStreamCtlCode ∉ state.agreed ∧ (revokes = true ∨ state.bindAgreed = false)
  | .stateError false, _ => True

end ActivityRun

theorem land_two_pow_ne_zero_iff (number index : Nat) :
    number &&& 2 ^ index ≠ 0 ↔ number.testBit index = true := by
  constructor
  · intro nonzero
    apply Classical.byContradiction
    intro unset
    apply nonzero
    apply Nat.eq_of_testBit_eq
    intro other
    rw [Nat.testBit_and, Nat.testBit_two_pow, Nat.zero_testBit]
    by_cases same : index = other
    · rw [← same, Bool.eq_false_iff.mpr unset, Bool.false_and]
    · rw [decide_eq_false same, Bool.and_false]
  · intro set zero
    have bit := congrArg (Nat.testBit · index) zero
    rw [Nat.testBit_and, set, Nat.testBit_two_pow_self, Nat.zero_testBit] at bit
    cases bit

theorem isBindImageActive_iff (negotiator : Negotiator) :
    negotiator.isBindImageActive = true ↔
      negotiator.negotiatedFunctions.testBit 0 = true := by
  rw [← land_two_pow_ne_zero_iff]
  exact decide_eq_true_iff

theorem isDataStreamCtlActive_iff (negotiator : Negotiator) :
    negotiator.isDataStreamCtlActive = true ↔
      negotiator.negotiatedFunctions.testBit 0 = true := by
  rw [← land_two_pow_ne_zero_iff]
  exact decide_eq_true_iff

theorem suspendsOnAo_iff (handler : Tn3270Handler) :
    handler.suspendsOnAo = true ↔
      handler.session.negotiator.negotiatedFunctions.testBit 4 = true := by
  rw [← land_two_pow_ne_zero_iff]
  unfold Tn3270Handler.suspendsOnAo Tn3270Handler.handleTelnetCommand
  rw [if_pos rfl]
  dsimp only
  split
  · rename_i agreed
    exact ⟨fun _ => agreed, fun _ => rfl⟩
  · rename_i unagreed
    constructor
    · intro never
      cases never
    · intro agreed
      exact absurd agreed unagreed

theorem testBit_functionsNumber {functionsData : List UInt8}
    (nonempty : functionsData ≠ []) {index : Nat} (low : index < 8) :
    (functionsNumber functionsData).testBit index =
      (functionsData.getLast?.getD 0x05).toNat.testBit index := by
  obtain ⟨front, last, rfl⟩ := (List.eq_nil_or_concat'
    functionsData).resolve_left nonempty
  have number : functionsNumber (front ++ [last]) =
      2 ^ 8 * functionsNumber front + last.toNat := by
    unfold functionsNumber
    rw [List.foldl_append, List.foldl_cons, List.foldl_nil, Nat.mul_comm]
    rfl
  rw [number, Nat.testBit_two_pow_mul_add _ last.toNat_lt, if_pos low,
    List.getLast?_concat]
  rfl

theorem testBit_handleBindImage (rows cols : Option Nat) (negotiator : Negotiator) :
    (negotiator.handleBindImage rows cols).negotiatedFunctions.testBit 0 = true ∧
      (negotiator.handleBindImage rows cols).negotiatedFunctions.testBit 4 =
        negotiator.negotiatedFunctions.testBit 4 := by
  unfold Negotiator.handleBindImage
  dsimp only
  rw [Nat.testBit_or, Nat.testBit_or]
  constructor
  · exact Bool.or_true _
  · exact Bool.or_false _

theorem testBit_clearBindImage (negotiator : Negotiator) :
    negotiator.clearBindImage.negotiatedFunctions.testBit 0 = false ∧
      negotiator.clearBindImage.negotiatedFunctions.testBit 4 =
        negotiator.negotiatedFunctions.testBit 4 := by
  unfold Negotiator.clearBindImage
  dsimp only
  rw [Nat.and_one_is_mod]
  simp only [Nat.testBit_eq_decide_div_mod_eq, decide_eq_false_iff_not,
    decide_eq_decide]
  omega

namespace FunctionsBooks

theorem negotiatedFunctions_send (message : NegotiatorMessage)
    (books : FunctionsBooks) :
    (books.send message).negotiatedFunctions = books.negotiatedFunctions := by
  unfold send
  split
  · rfl
  · rfl

theorem negotiatedFunctions_announce (books : FunctionsBooks) :
    books.announce.negotiatedFunctions = functionsNumber books.announced :=
  negotiatedFunctions_send _ _

theorem negotiatedFunctions_record {functionsData : List UInt8}
    (nonempty : functionsData ≠ []) (books : FunctionsBooks) :
    (books.record functionsData).negotiatedFunctions =
      functionsNumber functionsData := by
  unfold record
  rw [if_neg nonempty]

theorem announced_record (functionsData : List UInt8) (books : FunctionsBooks) :
    (books.record functionsData).announced =
      if functionsData = [] then Negotiator.defaultFunctionsData else functionsData := by
  unfold announced
  rw [functions_record]
  cases functionsData with
  | nil => rfl
  | cons byte rest => rfl

theorem testBit_announce_record (functionsData : List UInt8) (books : FunctionsBooks)
    {index : Nat} (low : index < 8) :
    (books.record functionsData).announce.negotiatedFunctions.testBit index =
      (functionsData.getLast?.getD 0x05).toNat.testBit index := by
  rw [negotiatedFunctions_announce, announced_record]
  by_cases empty : functionsData = []
  · rw [if_pos empty, empty]
    exact testBit_functionsNumber (by decide) low
  · rw [if_neg empty]
    exact testBit_functionsNumber empty low

end FunctionsBooks

theorem next_functions {command : FunctionsCommand} {functionsData : List UInt8}
    (shape : ¬ (SubnegotiationMessage.functions command functionsData).LooksLikeHeader)
    (session : Session) :
    (ActivityEvent.functions command functionsData).next session =
      (SubnegotiationMessage.functions command functionsData).branch session := by
  change finalState (Session.parseTn3270eSubnegotiation
    (tn3270e :: (SubnegotiationMessage.functions command functionsData).bytes)
    session) = _
  rw [SubnegotiationMessage.parse_bytes
    ((SubnegotiationMessage.headerOf_eq_none_iff _).mpr shape)]
  rfl

theorem number_of_unrecorded {command : FunctionsCommand} {functionsData : List UInt8}
    (unrecorded : ActivityRun.Unrecorded command functionsData) {session : Session}
    (unasked : session.Unasked) :
    ((ActivityEvent.functions command functionsData).next session
      ).books.negotiatedFunctions = session.books.negotiatedFunctions := by
  by_cases shape : (SubnegotiationMessage.functions command functionsData).LooksLikeHeader
  · have same := SubnegotiationMessage.books_parse_of_header shape unasked
    exact congrArg FunctionsBooks.negotiatedFunctions same
  · obtain ⟨rfl, rfl⟩ := unrecorded.resolve_left shape
    rw [next_functions shape]
    change (session.receiveFunctionsIs []).books.negotiatedFunctions = _
    rw [Session.books_receiveFunctionsIs]
    rfl

theorem testBit_of_recorded {command : FunctionsCommand} {functionsData : List UInt8}
    (recorded : ¬ ActivityRun.Unrecorded command functionsData) (session : Session)
    {index : Nat} (low : index < 8) :
    ((ActivityEvent.functions command functionsData).next session
      ).books.negotiatedFunctions.testBit index =
        (functionsData.getLast?.getD 0x05).toNat.testBit index := by
  obtain ⟨shape, filled⟩ := not_or.mp recorded
  rw [next_functions shape]
  cases command with
  | is =>
      have nonempty : functionsData ≠ [] := fun empty => filled ⟨rfl, empty⟩
      change (session.receiveFunctionsIs functionsData).books.negotiatedFunctions.testBit
        index = _
      rw [Session.books_receiveFunctionsIs,
        FunctionsBooks.negotiatedFunctions_record nonempty,
        testBit_functionsNumber nonempty low]
  | request =>
      change (session.receiveFunctionsRequest functionsData
        ).books.negotiatedFunctions.testBit index = _
      rw [Session.books_receiveFunctionsRequest]
      exact FunctionsBooks.testBit_announce_record functionsData _ low
  | send =>
      change (session.receiveFunctionsSend functionsData
        ).books.negotiatedFunctions.testBit index = _
      rw [Session.books_receiveFunctionsSend, FunctionsBooks.ask,
        FunctionsBooks.negotiatedFunctions_send]
      -- The list without its first byte has the same last code, if it has one.
      by_cases single : functionsData.tail = []
      · rw [single]
        exact FunctionsBooks.testBit_announce_record functionsData _ low
      · rw [FunctionsBooks.negotiatedFunctions_record single,
          testBit_functionsNumber single low]
        cases functionsData with
        | nil => exact absurd rfl single
        | cons byte rest =>
            cases rest with
            | nil => exact absurd rfl single
            | cons next rest => rw [List.tail_cons, List.getLast?_cons_cons]

/-- A REQUEST without IS is nothing to record. -/
theorem number_of_requestUnrecorded {functionsData : List UInt8}
    (unrecorded : ActivityRun.RequestUnrecorded functionsData) {session : Session}
    (unasked : session.Unasked) :
    ((ActivityEvent.functionsRequest functionsData).next session
      ).books.negotiatedFunctions = session.books.negotiatedFunctions := by
  by_cases shape :
      (SubnegotiationMessage.functionsRequest functionsData).LooksLikeHeader
  · have same := SubnegotiationMessage.books_parse_of_header shape unasked
    exact congrArg FunctionsBooks.negotiatedFunctions same
  · have other := unrecorded.resolve_left shape
    have run := SubnegotiationMessage.parse_bytes
      ((SubnegotiationMessage.headerOf_eq_none_iff _).mpr shape) session
    have next : (ActivityEvent.functionsRequest functionsData).next session =
        session.handleFunctions (request :: functionsData) := congrArg finalState run
    have same : session.handleFunctions (request :: functionsData) = session := by
      rw [Session.handleFunctions, if_pos rfl, if_neg other]
    rw [next, same]

/-- With IS behind it REQUEST is the message that the negotiator expects. -/
theorem functionsRequest_recorded {functionsData : List UInt8}
    (recorded : ¬ ActivityRun.RequestUnrecorded functionsData) :
    ¬ ActivityRun.Unrecorded .request functionsData.tail ∧
      (ActivityEvent.functionsRequest functionsData).next =
        (ActivityEvent.functions .request functionsData.tail).next := by
  obtain ⟨shape, withIs⟩ := not_or.mp recorded
  have bytes : (SubnegotiationMessage.functionsRequest functionsData).bytes =
      (SubnegotiationMessage.functions .request functionsData.tail).bytes := by
    obtain ⟨rest, rfl⟩ := List.head?_eq_some_iff.mp (not_not.mp withIs)
    rfl
  constructor
  · rintro (looks | ⟨never, -⟩)
    · unfold SubnegotiationMessage.LooksLikeHeader at looks shape
      rw [bytes] at shape
      exact shape looks
    · cases never
  · funext session
    exact congrArg (fun bytes => finalState
      (Session.parseTn3270eSubnegotiation (tn3270e :: bytes) session)) bytes

namespace ActivityRun

variable {revokes : Bool}

/-- The answers in terms of the two bits of the number. -/
theorem independent_iff (state : ActivityRun) :
    state.Independent ↔
      (state.negotiator.negotiatedFunctions.testBit 0 = true ↔
        state.bindAgreed = true ∨ state.bound = true) ∧
      (state.negotiator.negotiatedFunctions.testBit 0 = true ↔
        dataStreamCtlCode ∈ state.agreed) ∧
      (state.negotiator.negotiatedFunctions.testBit 4 = true ↔
        sysreqCode ∈ state.agreed) := by
  have bind := isBindImageActive_iff state.negotiator
  have control := isDataStreamCtlActive_iff state.negotiator
  have suspends := suspendsOnAo_iff state.handler
  constructor
  · rintro ⟨bindImage, dataStreamCtl, sysreq⟩
    exact ⟨bind.symm.trans bindImage, control.symm.trans dataStreamCtl,
      suspends.symm.trans sysreq⟩
  · rintro ⟨bindImage, dataStreamCtl, sysreq⟩
    exact ⟨bind.trans bindImage, control.trans dataStreamCtl,
      suspends.trans sysreq⟩

theorem step_session (event : ActivityEvent) (state : ActivityRun) :
    (step revokes event state).handler.session = event.next state.handler.session := by
  cases event with
  | functions command functionsData => rfl
  | functionsRequest functionsData => rfl
  | bindImage rows cols => rfl
  | stateError recovered =>
      cases recovered with
      | true => rfl
      | false => rfl

theorem step_unasked (event : ActivityEvent) {state : ActivityRun}
    (unasked : state.handler.session.Unasked) :
    (step revokes event state).handler.session.Unasked := by
  rw [step_session]
  cases event with
  | functions command functionsData =>
      exact (Session.parsePayload_flags _ _ unasked).1.unasked unasked
  | functionsRequest functionsData =>
      exact (Session.parsePayload_flags _ _ unasked).1.unasked unasked
  | bindImage rows cols => exact unasked
  | stateError recovered =>
      cases recovered with
      | true => exact unasked
      | false =>
          have links := (Session.resetNegotiationState_links
            (state.handler.session.onNegotiator (·.clearBindImage))).trans
            (Session.signalNegotiationComplete_keeps false _).links
          exact links.unasked unasked

/-- Where nothing is agreed, zero is the right number. -/
theorem independent_of_none {state : ActivityRun}
    (number : state.negotiator.negotiatedFunctions = 0) (agreed : state.agreed = [])
    (bindAgreed : state.bindAgreed = false) (bound : state.bound = false) :
    state.Independent := by
  rw [independent_iff, number, agreed, bindAgreed, bound]
  simp only [Nat.zero_testBit, Bool.false_eq_true, List.not_mem_nil, or_self, and_self]

/-- The answers to a message are those of the number after it. -/
theorem answers_iff {answering : Nat} {state after : ActivityRun}
    {functionsData : List UInt8}
    (low : after.negotiator.negotiatedFunctions.testBit 0 = answering.testBit 0)
    (high : after.negotiator.negotiatedFunctions.testBit 4 = answering.testBit 4)
    (agreed : after.agreed = functionsData)
    (bindAgreed : after.bindAgreed = decide (bindImageCode ∈ functionsData))
    (bound : after.bound = state.bound) :
    after.Independent ↔ Answers answering functionsData state.bound := by
  rw [independent_iff, low, high, agreed, bindAgreed, bound, decide_eq_true_iff]
  rfl

/-- A message that changes nothing is answered by the number on record, and any other by
the last code that it has recorded. -/
theorem answers_split_iff {answering : Nat} {state after : ActivityRun}
    {functionsData : List UInt8} {Missed : Prop}
    (missed : Missed → after.negotiator.negotiatedFunctions =
      state.negotiator.negotiatedFunctions)
    (recorded : ¬ Missed → ∀ {index : Nat}, index < 8 →
      after.negotiator.negotiatedFunctions.testBit index = answering.testBit index)
    (agreed : after.agreed = functionsData)
    (bindAgreed : after.bindAgreed = decide (bindImageCode ∈ functionsData))
    (bound : after.bound = state.bound) :
    after.Independent ↔
      (Missed → Answers state.negotiator.negotiatedFunctions functionsData state.bound) ∧
      (¬ Missed → Answers answering functionsData state.bound) := by
  by_cases lost : Missed
  · have same := missed lost
    refine (answers_iff (congrArg (Nat.testBit · 0) same)
      (congrArg (Nat.testBit · 4) same) agreed bindAgreed bound).trans ?_
    exact ⟨fun answers => ⟨fun _ => answers, fun kept => absurd lost kept⟩,
      fun condition => condition.1 lost⟩
  · have bit := @recorded lost
    refine (answers_iff (bit (by decide)) (bit (by decide)) agreed bindAgreed bound).trans ?_
    exact ⟨fun answers => ⟨fun missed => absurd missed lost, fun _ => answers⟩,
      fun condition => condition.2 lost⟩

/-- A message is answered by the number that it leaves. -/
theorem functions_independent_iff (command : FunctionsCommand)
    (functionsData : List UInt8) {state : ActivityRun}
    (unasked : state.handler.session.Unasked) :
    (step revokes (.functions command functionsData) state).Independent ↔
      MayCome revokes (.functions command functionsData) state := by
  have missed : Unrecorded command functionsData →
      (step revokes (.functions command functionsData) state
        ).negotiator.negotiatedFunctions = state.negotiator.negotiatedFunctions :=
    fun unrecorded => number_of_unrecorded unrecorded unasked
  exact answers_split_iff missed
    (fun recorded {_} low => testBit_of_recorded recorded state.handler.session low)
    rfl rfl rfl

theorem functionsRequest_independent_iff (functionsData : List UInt8)
    {state : ActivityRun} (unasked : state.handler.session.Unasked) :
    (step revokes (.functionsRequest functionsData) state).Independent ↔
      MayCome revokes (.functionsRequest functionsData) state := by
  have missed : RequestUnrecorded functionsData →
      (step revokes (.functionsRequest functionsData) state
        ).negotiator.negotiatedFunctions = state.negotiator.negotiatedFunctions :=
    fun unrecorded => number_of_requestUnrecorded unrecorded unasked
  have bits : ¬ RequestUnrecorded functionsData → ∀ {index : Nat}, index < 8 →
      (step revokes (.functionsRequest functionsData) state
        ).negotiator.negotiatedFunctions.testBit index =
          (functionsData.tail.getLast?.getD 0x05).toNat.testBit index := by
    intro recorded index low
    obtain ⟨asRequest, next⟩ := functionsRequest_recorded recorded
    change ((ActivityEvent.functionsRequest functionsData).next state.handler.session
      ).books.negotiatedFunctions.testBit index = _
    rw [next]
    exact testBit_of_recorded asRequest state.handler.session low
  exact answers_split_iff missed bits rfl rfl rfl

/-- A BIND-IMAGE sets the bit that DATA-STREAM-CTL shares. -/
theorem bindImage_independent_iff (rows cols : Option Nat) {state : ActivityRun}
    (independent : state.Independent) :
    (step revokes (.bindImage rows cols) state).Independent ↔
      MayCome revokes (.bindImage rows cols) state := by
  obtain ⟨bindImage, dataStreamCtl, sysreq⟩ := state.independent_iff.mp independent
  obtain ⟨low, high⟩ := testBit_handleBindImage rows cols state.negotiator
  rw [independent_iff]
  change (((state.negotiator.handleBindImage rows cols
    ).negotiatedFunctions.testBit 0 = true ↔ _ ∨ true = true) ∧
    ((state.negotiator.handleBindImage rows cols).negotiatedFunctions.testBit 0 =
      true ↔ dataStreamCtlCode ∈ state.agreed) ∧
    ((state.negotiator.handleBindImage rows cols).negotiatedFunctions.testBit 4 =
      true ↔ sysreqCode ∈ state.agreed)) ↔ dataStreamCtlCode ∈ state.agreed
  rw [low, high]
  constructor
  · rintro ⟨-, agreed, -⟩
    exact agreed.mp rfl
  · intro agreed
    exact ⟨⟨fun _ => .inr rfl, fun _ => rfl⟩, ⟨fun _ => agreed, fun _ => rfl⟩,
      sysreq⟩

theorem recovered_independent_iff {state : ActivityRun}
    (independent : state.Independent) :
    (step revokes (.stateError true) state).Independent ↔
      MayCome revokes (.stateError true) state := by
  obtain ⟨bindImage, dataStreamCtl, sysreq⟩ := state.independent_iff.mp independent
  obtain ⟨low, high⟩ := testBit_clearBindImage state.negotiator
  rw [independent_iff]
  change ((state.negotiator.clearBindImage.negotiatedFunctions.testBit 0 =
      true ↔ (state.bindAgreed && !revokes) = true ∨ false = true) ∧
    (state.negotiator.clearBindImage.negotiatedFunctions.testBit 0 = true ↔
      dataStreamCtlCode ∈ state.agreed) ∧
    (state.negotiator.clearBindImage.negotiatedFunctions.testBit 4 = true ↔
      sysreqCode ∈ state.agreed)) ↔
    dataStreamCtlCode ∉ state.agreed ∧
      (revokes = true ∨ state.bindAgreed = false)
  rw [low, high]
  constructor
  · rintro ⟨bind, control, -⟩
    refine ⟨fun agreed => Bool.noConfusion (control.mpr agreed), ?_⟩
    cases revoked : revokes with
    | true => exact .inl rfl
    | false =>
        right
        rw [revoked, Bool.not_false, Bool.and_true] at bind
        exact Bool.eq_false_iff.mpr fun agreed =>
          Bool.noConfusion (bind.mpr (.inl agreed))
  · rintro ⟨control, ended⟩
    refine ⟨⟨fun never => Bool.noConfusion never, ?_⟩,
      ⟨fun never => Bool.noConfusion never, fun agreed => absurd agreed control⟩,
      sysreq⟩
    rintro (agreed | never)
    · rw [Bool.and_eq_true, Bool.not_eq_true'] at agreed
      rcases ended with revoked | unagreed
      · cases revoked.symm.trans agreed.2
      · cases unagreed.symm.trans agreed.1
    · cases never

/-- An event leaves the answers right exactly under its condition. -/
theorem step_independent_iff (event : ActivityEvent) {state : ActivityRun}
    (unasked : state.handler.session.Unasked) (independent : state.Independent) :
    (step revokes event state).Independent ↔ MayCome revokes event state := by
  cases event with
  | functions command functionsData =>
      exact functions_independent_iff command functionsData unasked
  | functionsRequest functionsData =>
      exact functionsRequest_independent_iff functionsData unasked
  | bindImage rows cols => exact bindImage_independent_iff rows cols independent
  | stateError recovered =>
      cases recovered with
      | true => exact recovered_independent_iff independent
      | false => exact ⟨fun _ => trivial, fun _ => independent_of_none rfl rfl rfl rfl⟩

/-- A handler before functions are agreed. -/
def begin (parser : DataStreamParser) : ActivityRun where
  handler := .init parser
  agreed := []
  bindAgreed := false
  bound := false

theorem begin_independent (parser : DataStreamParser) : (begin parser).Independent :=
  independent_of_none rfl rfl rfl rfl

theorem begin_unasked (parser : DataStreamParser) :
    (begin parser).handler.session.Unasked := by
  intro number request found
  cases found

end ActivityRun

end Pure3270
