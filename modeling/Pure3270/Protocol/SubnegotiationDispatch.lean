import Pure3270.Protocol.FunctionsBooks

/-!
# The dispatch of subnegotiations

DEVICE-TYPE and FUNCTIONS messages with the branch that each is meant to take.
Three things come in between: a message of five bytes may pass for a header,
ASSOCIATE has the code of IS, and FUNCTIONS REQUEST is expected to go on with IS.
-/

namespace Pure3270

open Foundations Telnet Tn3270e

inductive DeviceTypeCommand where
  | is
  | connect
  | associate
  | reject
  | send
  | request
  deriving DecidableEq, Repr

inductive FunctionsCommand where
  | is
  | request
  | send
  deriving DecidableEq, Repr

/-- A DEVICE-TYPE message with the bytes of its name or reason, or a FUNCTIONS
message with its list.  REQUEST comes with its list right behind it, or in the form that
the negotiator expects, with IS between them. -/
inductive SubnegotiationMessage where
  | deviceType (command : DeviceTypeCommand) (body : List UInt8)
  | functions (command : FunctionsCommand) (functionsData : List UInt8)
  | functionsRequest (functionsData : List UInt8)
  deriving DecidableEq, Repr

def DeviceTypeCommand.code : DeviceTypeCommand → UInt8
  | is => Tn3270e.is
  | connect => Tn3270e.connect
  | associate => Tn3270e.associate
  | reject => Tn3270e.reject
  | send => Tn3270e.send
  | request => Tn3270e.request

namespace SubnegotiationMessage

/-- The bytes behind the option. -/
def bytes : SubnegotiationMessage → List UInt8
  | deviceType command body => Tn3270e.deviceType :: command.code :: body
  | functions .is functionsData => Tn3270e.functions :: Tn3270e.is :: functionsData
  | functions .request functionsData =>
      Tn3270e.functions :: Tn3270e.request :: Tn3270e.is :: functionsData
  | functions .send functionsData =>
      Tn3270e.functions :: Tn3270e.send :: functionsData
  | functionsRequest functionsData =>
      Tn3270e.functions :: Tn3270e.request :: functionsData

/-- The branch that a message names. -/
def branch : SubnegotiationMessage → Session → Session
  | deviceType .is nameBytes, session => session.receiveDeviceName nameBytes
  | deviceType .connect nameBytes, session => session.receiveConnect nameBytes
  | deviceType .associate nameBytes, session => session.receiveAssociate nameBytes
  | deviceType .reject reasonBytes, session => session.receiveReject reasonBytes
  | deviceType .send _, session => session.sendSupportedDeviceTypes
  | deviceType .request _, session => session.sendSupportedDeviceTypes
  | functions .is functionsData, session => session.receiveFunctionsIs functionsData
  | functions .request functionsData, session =>
      session.receiveFunctionsRequest functionsData
  | functions .send functionsData, session =>
      session.receiveFunctionsSend functionsData
  | functionsRequest functionsData, session =>
      session.receiveFunctionsRequest functionsData

end SubnegotiationMessage

/-- The names and the rejection that a negotiator has stored. -/
structure StoredNames where
  negotiatedDeviceType : Option (List UInt8)
  connectedLuName : Option (List UInt8)
  associatedDisplayLu : Option (List UInt8)
  deviceTypeRejected : Bool
  rejectionReason : UInt8
  deriving DecidableEq, Repr

def Session.storedNames (session : Session) : StoredNames where
  negotiatedDeviceType := session.negotiator.negotiatedDeviceType
  connectedLuName := session.negotiator.connectedLuName
  associatedDisplayLu := session.negotiator.associatedDisplayLu
  deviceTypeRejected := session.negotiator.deviceTypeRejected
  rejectionReason := session.negotiator.rejectionReason

namespace SubnegotiationMessage

/-- What a message is to store: a name in the place of its command, unless it is
an empty device name, and a rejection with its reason. -/
def stores : SubnegotiationMessage → StoredNames → StoredNames
  | deviceType .is nameBytes, names =>
      if asciiName nameBytes = [] then names
      else { names with negotiatedDeviceType := some (asciiName nameBytes) }
  | deviceType .connect nameBytes, names =>
      { names with connectedLuName := some (asciiName nameBytes) }
  | deviceType .associate nameBytes, names =>
      { names with associatedDisplayLu := some (asciiName nameBytes) }
  | deviceType .reject reasonBytes, names =>
      { names with
        deviceTypeRejected := true
        rejectionReason := reasonBytes.headD 0 }
  | deviceType .send _, names => names
  | deviceType .request _, names => names
  | functions _ _, names => names
  | functionsRequest _, names => names

/-- A message takes the branch of its command, stores nothing but what it is to
store, and is not taken for a header. -/
structure Dispatched (message : SubnegotiationMessage) (session : Session) : Prop where
  branch : Session.parseTn3270eSubnegotiation (tn3270e :: message.bytes) session =
    .ok () (message.branch session)
  stores : (finalState (Session.parseTn3270eSubnegotiation
      (tn3270e :: message.bytes) session)).storedNames =
    message.stores session.storedNames
  noHeader : headerOf message.bytes message.bytes = none

/-- The message is as long as a header and its third byte is a response flag. -/
def LooksLikeHeader (message : SubnegotiationMessage) : Prop :=
  message.bytes.length = 5 ∧ ∃ flag ∈ message.bytes[2]?, flag ≤ 0x02

def IsAssociate (message : SubnegotiationMessage) : Prop :=
  ∃ nameBytes, message = deviceType .associate nameBytes

def IsRequestWithoutIs (message : SubnegotiationMessage) : Prop :=
  ∃ functionsData, message = functionsRequest functionsData

/-- The first byte of a message is none of those behind which a header may hide. -/
theorem bytes_head (message : SubnegotiationMessage) :
    message.bytes.head? = some Tn3270e.deviceType ∨
      message.bytes.head? = some Tn3270e.functions := by
  cases message with
  | deviceType command body => exact .inl rfl
  | functions command functionsData =>
      cases command with
      | is => exact .inr rfl
      | request => exact .inr rfl
      | send => exact .inr rfl
  | functionsRequest functionsData => exact .inr rfl

theorem headerOf_bytes (message : SubnegotiationMessage) :
    headerOf message.bytes message.bytes =
      if message.bytes.length = 5 then Tn3270eHeader.fromBytes message.bytes
      else none := by
  have known : ¬ (5 ≤ message.bytes.length ∧ message.bytes.head? ∉
      [some Tn3270e.deviceType, some Tn3270e.functions, some Tn3270e.send,
        some Tn3270e.is, some Tn3270e.request, some Tn3270e.query]) := by
    rintro ⟨-, unknown⟩
    rcases message.bytes_head with device | functional
    · rw [device] at unknown
      exact unknown (by decide)
    · rw [functional] at unknown
      exact unknown (by decide)
  unfold headerOf
  dsimp only
  rw [if_neg known, Option.or_none]

/-- Five bytes that begin like a message are a header exactly where the third one
is a response flag. -/
theorem fromBytes_eq_none_iff {first second third fourth fifth : UInt8}
    (known : first = Tn3270e.deviceType ∨ first = Tn3270e.functions) :
    Tn3270eHeader.fromBytes [first, second, third, fourth, fifth] = none ↔
      ¬ third ≤ 0x02 := by
  have notZero : ¬ ([first, second, third, fourth, fifth].all (· = 0x00)) = true := by
    intro zeros
    have zero := List.all_eq_true.mp zeros first List.mem_cons_self
    rcases known with rfl | rfl
    · exact absurd zero (by decide)
    · exact absurd zero (by decide)
  have notOnes : ¬ ([first, second, third, fourth, fifth].all (· = 0xFF)) = true := by
    intro ones
    have one := List.all_eq_true.mp ones first List.mem_cons_self
    rcases known with rfl | rfl
    · exact absurd one (by decide)
    · exact absurd one (by decide)
  have flags : third ∈ [Tn3270eHeader.rsfNoResponse, Tn3270eHeader.rsfErrorResponse,
      Tn3270eHeader.rsfAlwaysResponse] ↔ third ≤ 0x02 := by
    simp only [List.mem_cons, List.not_mem_nil, or_false, UInt8.le_iff_toNat_le,
      ← UInt8.toNat_inj, Tn3270eHeader.rsfNoResponse, Tn3270eHeader.rsfErrorResponse,
      Tn3270eHeader.rsfAlwaysResponse, UInt8.reduceToNat]
    omega
  unfold Tn3270eHeader.fromBytes
  dsimp only
  rw [if_neg notZero, if_neg notOnes]
  by_cases flag : third ≤ 0x02
  · rw [if_neg (not_not.mpr (flags.mpr flag))]
    simp [flag]
  · rw [if_pos (fun member => flag (flags.mp member))]
    simp [flag]

theorem headerOf_eq_none_iff (message : SubnegotiationMessage) :
    headerOf message.bytes message.bytes = none ↔ ¬ message.LooksLikeHeader := by
  rw [headerOf_bytes]
  unfold LooksLikeHeader
  by_cases five : message.bytes.length = 5
  · rw [if_pos five]
    have known := message.bytes_head
    revert five known
    cases message.bytes with
    | nil =>
        intro five
        cases five
    | cons first rest =>
        intro five known
        obtain ⟨second, tail, rfl⟩ := List.exists_cons_of_length_eq_add_one
          (Nat.succ.inj five)
        obtain ⟨third, fourth, fifth, rfl⟩ := List.length_eq_three.mp
          (Nat.succ.inj (Nat.succ.inj five))
        rw [fromBytes_eq_none_iff (known.imp Option.some.inj Option.some.inj)]
        simp
  · rw [if_neg five]
    simp [five]

end SubnegotiationMessage

namespace Session

variable {session : Session}

theorem storedNames_maybeFinalize (session : Session) :
    session.maybeFinalizeNegotiation.storedNames = session.storedNames := by
  rw [maybeFinalizeNegotiation_eq]
  split
  · split
    · rfl
    · rfl
  · rfl

theorem storedNames_signalDeviceEvent (session : Session) :
    session.signalDeviceEvent.storedNames = session.storedNames :=
  storedNames_maybeFinalize _

theorem storedNames_signalFunctionsEvent (session : Session) :
    session.signalFunctionsEvent.storedNames = session.storedNames :=
  storedNames_maybeFinalize _

theorem storedNames_send (message : NegotiatorMessage) (session : Session) :
    (session.send message).storedNames = session.storedNames := by
  unfold send
  split
  · rfl
  · rfl

theorem storedNames_sendSupportedDeviceTypes (session : Session) :
    session.sendSupportedDeviceTypes.storedNames = session.storedNames := by
  unfold sendSupportedDeviceTypes
  split
  · exact storedNames_signalDeviceEvent _
  · rfl

theorem storedNames_receiveDeviceName (nameBytes : List UInt8) (session : Session) :
    (session.receiveDeviceName nameBytes).storedNames =
      if asciiName nameBytes = [] then session.storedNames
      else
        { session.storedNames with
          negotiatedDeviceType := some (asciiName nameBytes) } := by
  unfold receiveDeviceName
  dsimp only
  by_cases unnamed : asciiName nameBytes = []
  · rw [if_pos unnamed, if_pos unnamed]
  · rw [if_neg unnamed, if_neg unnamed]
    have named := storedNames_signalDeviceEvent
      (session.setDeviceType (asciiName nameBytes))
    split
    · exact (storedNames_send _ _).trans named
    · exact named

theorem storedNames_receiveFunctionsIs (functionsData : List UInt8)
    (session : Session) :
    (session.receiveFunctionsIs functionsData).storedNames = session.storedNames := by
  apply (storedNames_signalFunctionsEvent _).trans
  unfold recordFunctions onNegotiator
  dsimp only
  split
  · rfl
  · rfl

theorem storedNames_sendFunctionsIs (session : Session) :
    session.sendFunctionsIs.storedNames = session.storedNames := by
  unfold sendFunctionsIs
  dsimp only
  split
  · split
    · rfl
    · rfl
  · rfl

theorem storedNames_ensureNegotiated (session : Session) :
    session.ensureNegotiated.storedNames = session.storedNames := by
  unfold ensureNegotiated
  split
  · rfl
  · rfl

theorem storedNames_receiveFunctionsRequest (functionsData : List UInt8)
    (session : Session) :
    (session.receiveFunctionsRequest functionsData).storedNames =
      session.storedNames :=
  (storedNames_ensureNegotiated _).trans
    ((storedNames_sendFunctionsIs _).trans (storedNames_receiveFunctionsIs _ session))

theorem storedNames_receiveFunctionsSend (functionsData : List UInt8)
    (session : Session) :
    (session.receiveFunctionsSend functionsData).storedNames =
      session.storedNames := by
  apply (storedNames_ensureNegotiated _).trans
  apply (storedNames_send _ _).trans
  apply (storedNames_receiveFunctionsIs _ _).trans
  exact storedNames_receiveFunctionsRequest functionsData session

end Session

namespace SubnegotiationMessage

theorem branch_storedNames (message : SubnegotiationMessage) (session : Session) :
    (message.branch session).storedNames = message.stores session.storedNames := by
  cases message with
  | deviceType command body =>
      cases command with
      | is => exact Session.storedNames_receiveDeviceName body session
      | connect => exact Session.storedNames_signalDeviceEvent _
      | associate => exact Session.storedNames_signalDeviceEvent _
      | reject => exact Session.storedNames_signalDeviceEvent _
      | send => exact Session.storedNames_sendSupportedDeviceTypes session
      | request => exact Session.storedNames_sendSupportedDeviceTypes session
  | functions command functionsData =>
      cases command with
      | is => exact Session.storedNames_receiveFunctionsIs functionsData session
      | request => exact Session.storedNames_receiveFunctionsRequest functionsData session
      | send => exact Session.storedNames_receiveFunctionsSend functionsData session
  | functionsRequest functionsData =>
      exact Session.storedNames_receiveFunctionsRequest functionsData session

/-- What a message without a header does: ASSOCIATE is taken for IS, and the list behind
REQUEST is looked at for an IS. -/
def taken : SubnegotiationMessage → Session → Session
  | deviceType .associate nameBytes, session => session.receiveDeviceName nameBytes
  | functionsRequest functionsData, session =>
      session.handleFunctions (Tn3270e.request :: functionsData)
  | message, session => message.branch session

theorem parse_bytes {message : SubnegotiationMessage}
    (noHeader : headerOf message.bytes message.bytes = none) (session : Session) :
    Session.parseTn3270eSubnegotiation (tn3270e :: message.bytes) session =
      .ok () (message.taken session) := by
  change Session.parsePayload message.bytes message.bytes session = _
  cases message with
  | deviceType command body =>
      change Session.parsePayload _ (Tn3270e.deviceType :: command.code :: body)
        session = _
      unfold Session.parsePayload
      rw [show headerOf _ (Tn3270e.deviceType :: command.code :: body) = none
        from noHeader]
      cases command with
      | is => rfl
      | connect => rfl
      | associate => rfl
      | reject => rfl
      | send => rfl
      | request => rfl
  | functions command functionsData =>
      cases command with
      | is =>
          change Session.parsePayload _ (Tn3270e.functions :: Tn3270e.is ::
            functionsData) session = _
          unfold Session.parsePayload
          rw [show headerOf _ (Tn3270e.functions :: Tn3270e.is :: functionsData) = none
            from noHeader]
          rfl
      | request =>
          change Session.parsePayload _ (Tn3270e.functions :: Tn3270e.request ::
            Tn3270e.is :: functionsData) session = _
          unfold Session.parsePayload
          rw [show headerOf _ (Tn3270e.functions :: Tn3270e.request :: Tn3270e.is ::
            functionsData) = none from noHeader]
          rfl
      | send =>
          change Session.parsePayload _ (Tn3270e.functions :: Tn3270e.send ::
            functionsData) session = _
          unfold Session.parsePayload
          rw [show headerOf _ (Tn3270e.functions :: Tn3270e.send :: functionsData) =
            none from noHeader]
          rfl
  | functionsRequest functionsData =>
      change Session.parsePayload _ (Tn3270e.functions :: Tn3270e.request ::
        functionsData) session = _
      unfold Session.parsePayload
      rw [show headerOf _ (Tn3270e.functions :: Tn3270e.request :: functionsData) = none
        from noHeader]
      rfl

theorem taken_eq_branch {message : SubnegotiationMessage}
    (other : ¬ message.IsAssociate) (withIs : ¬ message.IsRequestWithoutIs)
    (session : Session) : message.taken session = message.branch session := by
  cases message with
  | deviceType command body =>
      cases command with
      | associate => exact absurd ⟨body, rfl⟩ other
      | is => rfl
      | connect => rfl
      | reject => rfl
      | send => rfl
      | request => rfl
  | functions command functionsData => rfl
  | functionsRequest functionsData => exact absurd ⟨functionsData, rfl⟩ withIs

/-- A list right behind REQUEST is not put on record: what follows an IS in it is, or
nothing. -/
theorem handleFunctions_request_ne {session : Session}
    (unrecorded : session.negotiator.functions = none) (functionsData : List UInt8) :
    session.handleFunctions (Tn3270e.request :: functionsData) ≠
      session.receiveFunctionsRequest functionsData := by
  have recorded : ∀ list, (session.receiveFunctionsRequest list).negotiator.functions =
      some list := by
    intro list
    change (session.receiveFunctionsRequest list).books.functions = _
    rw [Session.books_receiveFunctionsRequest, FunctionsBooks.functions_announce,
      FunctionsBooks.functions_record]
  intro same
  have functions := congrArg (·.negotiator.functions) same
  simp only [Session.handleFunctions, if_true, recorded] at functions
  cases functionsData with
  | nil =>
      simp only [List.head?_nil, reduceCtorEq, if_false, unrecorded] at functions
  | cons first rest =>
      simp only [List.head?_cons, Option.some_inj, List.tail_cons] at functions
      by_cases isFirst : first = Tn3270e.is
      · rw [if_pos isFirst, recorded] at functions
        have shorter := congrArg List.length (Option.some.inj functions)
        rw [List.length_cons] at shorter
        omega
      · rw [if_neg isFirst, unrecorded] at functions
        cases functions

/-- A message is dispatched from every state exactly where it does not look like
a header, is no ASSOCIATE and is no FUNCTIONS REQUEST without IS. -/
theorem dispatched_iff (message : SubnegotiationMessage) :
    (∀ session, message.Dispatched session) ↔
      ¬ message.LooksLikeHeader ∧ ¬ message.IsAssociate ∧
        ¬ message.IsRequestWithoutIs := by
  constructor
  · intro every
    have dispatched := every ⟨.init .flexible, false, false⟩
    have noHeader := dispatched.noHeader
    refine ⟨message.headerOf_eq_none_iff.mp noHeader, ?_, ?_⟩
    · rintro ⟨nameBytes, rfl⟩
      -- A name for ASSOCIATE is never stored as the associated display.
      have stored := dispatched.stores
      rw [parse_bytes noHeader] at stored
      change (Session.receiveDeviceName nameBytes _).storedNames = _ at stored
      rw [Session.storedNames_receiveDeviceName] at stored
      have display := congrArg StoredNames.associatedDisplayLu stored
      split at display
      · cases display
      · cases display
    · rintro ⟨functionsData, rfl⟩
      have taken := dispatched.branch
      rw [parse_bytes noHeader] at taken
      injection taken with _ same
      exact handleFunctions_request_ne rfl functionsData same
  · rintro ⟨shape, other, withIs⟩ session
    have noHeader := message.headerOf_eq_none_iff.mpr shape
    have run := parse_bytes noHeader session
    rw [taken_eq_branch other withIs] at run
    refine ⟨run, ?_, noHeader⟩
    rw [run]
    exact message.branch_storedNames session

/-- Three functions in a FUNCTIONS IS make it a header. -/
theorem three_functions_not_dispatched :
    ¬ ∀ (message : SubnegotiationMessage) (session : Session),
      message.Dispatched session := by
  intro every
  have noHeader :=
    (every (functions .is [0x00, 0x02, 0x04]) ⟨.init .flexible, false, false⟩).noHeader
  apply (headerOf_eq_none_iff _).mp noHeader
  exact ⟨rfl, 0x00, rfl, by decide⟩

end SubnegotiationMessage

end Pure3270
