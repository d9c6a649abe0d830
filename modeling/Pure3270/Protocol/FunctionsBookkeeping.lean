import Pure3270.Foundations.Runs
import Pure3270.Protocol.SubnegotiationDispatch

/-!
# FUNCTIONS bookkeeping

After a FUNCTIONS message the list and its number should be those of the
message, and the answers should carry the same list.  Two kinds of message fail:
those taken for a header, which are not recorded at all, and FUNCTIONS SEND,
which is recorded twice, the second time without its first byte.
-/

namespace Pure3270

open Foundations Telnet Tn3270e

theorem SubnegotiationMessage.books_parse_of_header
    {message : SubnegotiationMessage} (shape : message.LooksLikeHeader)
    {session : Session} (unasked : session.Unasked) :
    (finalState (Session.parseTn3270eSubnegotiation (tn3270e :: message.bytes) session)
      ).books = session.books := by
  have found : headerOf message.bytes message.bytes ≠ none :=
    fun none => message.headerOf_eq_none_iff.mp none shape
  obtain ⟨header, isHeader⟩ := Option.ne_none_iff_exists'.mp found
  change (finalState (Session.parsePayload _ message.bytes session)).books = _
  cases bytes : message.bytes with
  | nil => rfl
  | cons command body =>
      rw [bytes] at isHeader
      unfold Session.parsePayload
      rw [isHeader]
      exact Session.books_handleTn3270eResponse header unasked

/-- A FUNCTIONS message that names a function. -/
structure FunctionsMessage where
  command : FunctionsCommand
  functionsData : List UInt8
  nonempty : functionsData ≠ []
  deriving DecidableEq, Repr

/-- The list of a FUNCTIONS answer. -/
def NegotiatorMessage.functionsData? : NegotiatorMessage → Option (List UInt8)
  | functionsIs functionsData => some functionsData
  | functionsRequest functionsData => some functionsData
  | _ => none

namespace FunctionsMessage

def toMessage (message : FunctionsMessage) : SubnegotiationMessage :=
  .functions message.command message.functionsData

/-- What the negotiator makes of the message; an exception is caught. -/
def handle (message : FunctionsMessage) (session : Session) : Session :=
  finalState (Session.parseTn3270eSubnegotiation
    (tn3270e :: message.toMessage.bytes) session)

/-- The message is recorded as it is: it is no SEND, and it does not look like a
header. -/
def Recorded (message : FunctionsMessage) : Prop :=
  message.command ≠ .send ∧ ¬ message.toMessage.LooksLikeHeader

/-- The list and both numbers on record are those of the message. -/
structure Refers (message : FunctionsMessage) (books : FunctionsBooks) : Prop where
  functions : books.functions = some message.functionsData
  negotiatedFunctions :
    books.negotiatedFunctions = functionsNumber message.functionsData
  lastNegotiatedFunctions :
    books.lastNegotiatedFunctions = functionsNumber message.functionsData

/-- The values refer to the message, and its answers carry its list. -/
structure Bookkept (message : FunctionsMessage) (session : Session) : Prop where
  refers : message.Refers (message.handle session).books
  replies : ∀ reply ∈ (message.handle session).negotiator.sent.drop
      session.negotiator.sent.length,
    ∀ functionsData, reply.functionsData? = some functionsData →
      functionsData = message.functionsData

variable {message : FunctionsMessage}

theorem record_refers (message : FunctionsMessage) (books : FunctionsBooks) :
    message.Refers (books.record message.functionsData) := by
  unfold FunctionsBooks.record
  rw [if_neg message.nonempty]
  exact ⟨rfl, rfl, rfl⟩

theorem announced_of_refers {books : FunctionsBooks} (refers : message.Refers books) :
    books.announced = message.functionsData := by
  have nonempty := message.nonempty
  unfold FunctionsBooks.announced
  rw [refers.functions]
  cases listed : message.functionsData with
  | nil => exact absurd listed nonempty
  | cons byte rest => rfl

theorem announce_refers {books : FunctionsBooks} (refers : message.Refers books) :
    message.Refers books.announce := by
  have announced := announced_of_refers refers
  unfold FunctionsBooks.announce FunctionsBooks.send
  dsimp only
  rw [announced]
  split
  · exact ⟨refers.functions, rfl, rfl⟩
  · exact ⟨refers.functions, rfl, rfl⟩

/-- The one answer to a request carries the list on record. -/
theorem announce_replies {books : FunctionsBooks} (refers : message.Refers books) :
    ∀ reply ∈ books.announce.sent.drop books.sent.length,
      ∀ functionsData, reply.functionsData? = some functionsData →
        functionsData = message.functionsData := by
  have announced := announced_of_refers refers
  unfold FunctionsBooks.announce FunctionsBooks.send
  dsimp only
  split
  · rw [List.drop_left]
    intro reply sent functionsData carried
    rw [List.mem_singleton.mp sent] at carried
    exact (Option.some.inj carried).symm.trans announced
  · intro reply sent
    rw [List.drop_length] at sent
    cases sent

theorem handle_eq (shape : ¬ message.toMessage.LooksLikeHeader) (session : Session) :
    message.handle session = message.toMessage.branch session := by
  unfold handle
  rw [SubnegotiationMessage.parse_bytes
    (message.toMessage.headerOf_eq_none_iff.mpr shape)]
  rfl

theorem bookkept_of_recorded (recorded : message.Recorded) (session : Session) :
    message.Bookkept session := by
  obtain ⟨notSend, shape⟩ := recorded
  have handled := handle_eq shape session
  obtain ⟨command, functionsData, nonempty⟩ := message
  have refers := record_refers ⟨command, functionsData, nonempty⟩ session.books
  cases command with
  | send => exact absurd rfl notSend
  | is =>
      have books : (handle ⟨.is, functionsData, nonempty⟩ session).books =
          session.books.record functionsData := by
        rw [handled]
        exact Session.books_receiveFunctionsIs functionsData session
      refine ⟨by rw [books]; exact refers, fun reply sent => ?_⟩
      change reply ∈ (handle _ session).books.sent.drop _ at sent
      rw [books, FunctionsBooks.sent_record] at sent
      change reply ∈ session.negotiator.sent.drop _ at sent
      rw [List.drop_length] at sent
      cases sent
  | request =>
      have books : (handle ⟨.request, functionsData, nonempty⟩ session).books =
          (session.books.record functionsData).announce := by
        rw [handled]
        exact Session.books_receiveFunctionsRequest functionsData session
      refine ⟨by rw [books]; exact announce_refers refers, fun reply sent => ?_⟩
      change reply ∈ (handle _ session).books.sent.drop session.books.sent.length
        at sent
      rw [books, ← FunctionsBooks.sent_record functionsData session.books] at sent
      exact announce_replies refers reply sent

/-- FUNCTIONS SEND leaves its list on record without the first byte. -/
theorem not_refers_of_send (shape : ¬ message.toMessage.LooksLikeHeader)
    (isSend : message.command = .send) (session : Session) :
    ¬ message.Refers (message.handle session).books := by
  rw [handle_eq shape session]
  obtain ⟨command, functionsData, nonempty⟩ := message
  subst isSend
  intro refers
  have functions := refers.functions
  change (session.receiveFunctionsSend functionsData).books.functions = _ at functions
  rw [Session.books_receiveFunctionsSend, FunctionsBooks.ask,
    FunctionsBooks.functions_send, FunctionsBooks.functions_record] at functions
  have shorter := congrArg List.length (Option.some.inj functions)
  rw [List.length_tail] at shorter
  have positive := List.length_pos_of_ne_nil nonempty
  change functionsData.length - 1 = functionsData.length at shorter
  omega

theorem books_handle_of_header (shape : message.toMessage.LooksLikeHeader)
    {session : Session} (unasked : session.Unasked) :
    (message.handle session).books = session.books :=
  SubnegotiationMessage.books_parse_of_header shape unasked

end FunctionsMessage

/-- A session, and the FUNCTIONS message that came last. -/
structure FunctionsRun where
  session : Session
  last : Option FunctionsMessage

namespace FunctionsRun

def step (message : FunctionsMessage) (state : FunctionsRun) : FunctionsRun where
  session := message.handle state.session
  last := some message

/-- The values on record refer to the last message. -/
def Current (state : FunctionsRun) : Prop :=
  ∀ message ∈ state.last, message.Refers state.session.books

/-- A message is bookkept from every state exactly where it is recorded as it is,
and over messages that are, the values always refer to the last one. -/
theorem bookkept_iff (message : FunctionsMessage) (messages : List FunctionsMessage)
    (session : Session) :
    ((∀ session, message.Bookkept session) ↔ message.Recorded) ∧
    ((∀ message ∈ messages, message.Recorded) →
      Always step Current messages ⟨session, none⟩) := by
  constructor
  · constructor
    · intro every
      have shape : ¬ message.toMessage.LooksLikeHeader := by
        intro looks
        have functions := (every ⟨.init .flexible, false, false⟩).refers.functions
        have unasked : Session.Unasked ⟨.init .flexible, false, false⟩ := by
          intro number request found
          cases found
        rw [FunctionsMessage.books_handle_of_header looks unasked] at functions
        cases functions
      refine ⟨fun isSend => ?_, shape⟩
      exact FunctionsMessage.not_refers_of_send shape isSend _
        (every ⟨.init .flexible, false, false⟩).refers
    · exact FunctionsMessage.bookkept_of_recorded
  · intro recorded
    have along : ∀ (state : FunctionsRun),
        Along step (fun message _ => message.Recorded) messages state := by
      induction messages with
      | nil => exact fun _ => trivial
      | cons message messages ih =>
          intro state
          exact ⟨recorded message List.mem_cons_self,
            ih (fun other later => recorded other (List.mem_cons_of_mem _ later)) _⟩
    apply always_of_along _ _ (along _)
    · intro message state _ met other last
      cases last
      exact (FunctionsMessage.bookkept_of_recorded met state.session).refers
    · intro message last
      cases last

/-- A request and an answer with two functions each. -/
theorem current_request_is :
    Always step Current
      [⟨.request, [0x02, 0x04], by decide⟩, ⟨.is, [0x00, 0x02], by decide⟩]
      ⟨⟨.init .strict, false, false⟩, none⟩ := by
  apply (bookkept_iff ⟨.is, [0x02], by decide⟩ _ _).2
  intro message member
  rw [List.mem_cons, List.mem_singleton] at member
  rcases member with rfl | rfl
  · refine ⟨by decide, ?_⟩
    rintro ⟨-, flag, third, small⟩
    cases third
    exact absurd small (by decide)
  · refine ⟨by decide, ?_⟩
    rintro ⟨long, -⟩
    exact absurd long (by decide)

/-- FUNCTIONS SEND with two functions leaves one of them on record. -/
theorem send_not_bookkept :
    ¬ ∀ (message : FunctionsMessage) (session : Session), message.Bookkept session := by
  intro every
  have kept := every ⟨.send, [0x02, 0x04], by decide⟩ ⟨.init .flexible, false, false⟩
  have functions := kept.refers.functions
  exact absurd functions (by decide +kernel)

end FunctionsRun

end Pure3270
