import Pure3270.Protocol.NegotiationFlags

/-!
# The books on functions

The part of a negotiator that FUNCTIONS messages change, and what each operation
enters in it.
-/

namespace Pure3270

open Foundations Telnet Tn3270e

/-- What a negotiator has on record about functions, and what it has sent. -/
structure FunctionsBooks where
  hasWriter : Bool
  functions : Option (List UInt8)
  negotiatedFunctions : Nat
  lastNegotiatedFunctions : Nat
  sent : List NegotiatorMessage
  deriving DecidableEq, Repr

namespace FunctionsBooks

/-- An empty list leaves the numbers as they are. -/
def record (functionsData : List UInt8) (books : FunctionsBooks) : FunctionsBooks :=
  if functionsData = [] then { books with functions := some functionsData }
  else
    { books with
      functions := some functionsData
      negotiatedFunctions := functionsNumber functionsData
      lastNegotiatedFunctions := functionsNumber functionsData }

/-- The functions that are announced: those on record, or the default ones. -/
def announced (books : FunctionsBooks) : List UInt8 :=
  match books.functions with
  | some (byte :: rest) => byte :: rest
  | _ => Negotiator.defaultFunctionsData

def send (message : NegotiatorMessage) (books : FunctionsBooks) : FunctionsBooks :=
  if books.hasWriter then { books with sent := books.sent ++ [message] } else books

/-- FUNCTIONS IS is sent, and its number is put on record. -/
def announce (books : FunctionsBooks) : FunctionsBooks :=
  { books with
    negotiatedFunctions := functionsNumber books.announced
    lastNegotiatedFunctions := functionsNumber books.announced }.send
      (.functionsIs books.announced)

/-- FUNCTIONS REQUEST is sent. -/
def ask (books : FunctionsBooks) : FunctionsBooks :=
  books.send (.functionsRequest books.announced)

theorem functions_record (functionsData : List UInt8) (books : FunctionsBooks) :
    (books.record functionsData).functions = some functionsData := by
  unfold record
  split
  · rfl
  · rfl

theorem functions_send (reply : NegotiatorMessage) (books : FunctionsBooks) :
    (books.send reply).functions = books.functions := by
  unfold send
  split
  · rfl
  · rfl

theorem sent_record (functionsData : List UInt8) (books : FunctionsBooks) :
    (books.record functionsData).sent = books.sent := by
  unfold record
  split
  · rfl
  · rfl

/-- An announcement leaves the list on record as it is. -/
theorem functions_announce (books : FunctionsBooks) :
    books.announce.functions = books.functions :=
  functions_send _ _

end FunctionsBooks

namespace Session

variable {session : Session}

def books (session : Session) : FunctionsBooks where
  hasWriter := session.negotiator.hasWriter
  functions := session.negotiator.functions
  negotiatedFunctions := session.negotiator.negotiatedFunctions
  lastNegotiatedFunctions := session.negotiator.lastNegotiatedFunctions
  sent := session.negotiator.sent

theorem books_maybeFinalize (session : Session) :
    session.maybeFinalizeNegotiation.books = session.books := by
  rw [maybeFinalizeNegotiation_eq]
  split
  · split
    · rfl
    · rfl
  · rfl

theorem books_signalFunctionsEvent (session : Session) :
    session.signalFunctionsEvent.books = session.books :=
  books_maybeFinalize _

theorem books_signalDeviceEvent (session : Session) :
    session.signalDeviceEvent.books = session.books :=
  books_maybeFinalize _

theorem books_send (message : NegotiatorMessage) (session : Session) :
    (session.send message).books = session.books.send message := by
  unfold send FunctionsBooks.send
  change _ = if session.negotiator.hasWriter = true then _ else _
  split
  · rfl
  · rfl

theorem books_ensureNegotiated (session : Session) :
    session.ensureNegotiated.books = session.books := by
  unfold ensureNegotiated
  split
  · rfl
  · rfl

theorem books_recordFunctions (functionsData : List UInt8) (session : Session) :
    (session.recordFunctions functionsData).books =
      session.books.record functionsData := by
  unfold recordFunctions onNegotiator FunctionsBooks.record
  dsimp only
  split
  · rfl
  · rfl

theorem announced_books (session : Session) :
    session.books.announced = session.negotiator.functionsData := rfl

theorem books_sendFunctionsIs (session : Session) :
    session.sendFunctionsIs.books = session.books.announce := by
  unfold sendFunctionsIs FunctionsBooks.announce FunctionsBooks.send
  dsimp only
  change _ = if session.negotiator.hasWriter = true then _ else _
  split
  · split
    · rfl
    · rfl
  · rfl

theorem books_receiveFunctionsIs (functionsData : List UInt8) (session : Session) :
    (session.receiveFunctionsIs functionsData).books =
      session.books.record functionsData :=
  (books_signalFunctionsEvent _).trans (books_recordFunctions functionsData session)

theorem books_receiveFunctionsRequest (functionsData : List UInt8)
    (session : Session) :
    (session.receiveFunctionsRequest functionsData).books =
      (session.books.record functionsData).announce := by
  unfold receiveFunctionsRequest
  rw [books_ensureNegotiated, books_sendFunctionsIs, books_signalFunctionsEvent,
    books_recordFunctions]

theorem books_receiveFunctionsSend (functionsData : List UInt8) (session : Session) :
    (session.receiveFunctionsSend functionsData).books =
      ((session.books.record functionsData).announce.record functionsData.tail).ask := by
  unfold receiveFunctionsSend sendFunctionsRequest
  rw [books_ensureNegotiated, books_send, ← announced_books, books_receiveFunctionsIs,
    books_receiveFunctionsRequest]
  rfl

/-- A header that finds no request of the negotiation leaves the books alone. -/
theorem books_handleTn3270eResponse (header : Tn3270eHeader)
    (unasked : session.Unasked) :
    (finalState (handleTn3270eResponse header session)).books = session.books := by
  rw [handleTn3270eResponse_other fun request waiting => unasked _ request waiting]
  rfl

end Session

end Pure3270
