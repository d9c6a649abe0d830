import Pure3270.Protocol.TelnetOptions

/-!
# The negotiation

The negotiation waits for the events that the host's messages signal and then
decides whether TN3270E is negotiated.  While it waits, and until the handler
concludes, the reader loop hands on what the host sends; here the steps of the
negotiator and of the handler stand alone.  Waits and repeated attempts are
left out: how the last attempt ends is an outcome.
-/

namespace Pure3270

open Telnet

/-- How the waits of the negotiation end.  It is aborted where it is cancelled or
the connection has failed too often. -/
inductive NegotiationOutcome where
  | completed
  | timedOut
  | aborted
  deriving DecidableEq, Repr

namespace Negotiator

/-- The events that the negotiation waits for, in this order. -/
def waitsEnd (negotiator : Negotiator) : Bool :=
  (match negotiator.negotiationMode with
    | .strict => negotiator.deviceTypeEvent && negotiator.functionsEvent
    | .flexible => negotiator.functionsEvent) &&
  negotiator.negotiationComplete

/-- `infer_tn3270e_from_trace`.  The option of the refusals is not TN3270E. -/
def inferTn3270eFromTrace (trace : List UInt8) : Bool :=
  if [0xFF, 0xFC, 0x24] <:+: trace ∨ [0xFF, 0xFE, 0x24] <:+: trace then false
  else
    [0xFF, 0xFB, 0x19] <:+: trace ∨ [0xFF, 0xFB, 0x28] <:+: trace ∨
      [0xFF, 0xFD, 0x28] <:+: trace ∨
        ([0xFF, 0xFA, 0x28] <:+: trace ∧ [0xFF, 0xF0] <:+: trace)

end Negotiator

namespace Session

/-- The three events are set without a look at what they mean. -/
def setEvents (session : Session) : Session :=
  session.onNegotiator fun negotiator =>
    { negotiator with
      deviceTypeEvent := true
      functionsEvent := true
      negotiationComplete := true }

/-- `_cleanup_on_failure`. -/
def cleanupOnFailure (session : Session) : Session :=
  session.resetNegotiationState.signalNegotiationComplete false

def negotiationFailed : Fault := .other "TN3270 negotiation failed"

def refusedByServer : Fault :=
  .other "TN3270E negotiation refused by server and fallback disabled"

def invalidConnection : Fault :=
  .other "Invalid connection state for TN3270 negotiation"

/-- In ASCII mode TN3270E does not count as negotiated. -/
def clearFlagInAscii (session : Session) : Session :=
  if session.negotiator.asciiMode then session.setNegotiatedFlag false else session

/-- After the waits.  ASCII mode clears the flag for a moment; the last signal
sets it again. -/
def completeNegotiation (session : Session) : Session :=
  let tentative :=
    if session.negotiator.forcedCompletion then session
    else (session.setNegotiatedFlag true).markServerSupport
  ((tentative.setNegotiatedFlag true).clearFlagInAscii).signalNegotiationComplete true

/-- The last attempt of `_perform_tn3270_negotiation`. -/
def awaitNegotiation (outcome : NegotiationOutcome) : SessionM Unit := do
  let negotiator := (← get).negotiator
  match outcome with
  | .completed =>
      if negotiator.waitsEnd then
        if negotiator.forcedFailure then do
          modify cleanupOnFailure
          throw negotiationFailed
        else modify completeNegotiation
      else throw negotiationFailed
  | .timedOut =>
      if negotiator.allowFallback then
        modify fun session => (session.setNegotiatedFlag false).setEvents
      else do
        modify cleanupOnFailure
        throw negotiationFailed
  | .aborted => throw negotiationFailed

/-- `_negotiate_tn3270` of the negotiator. -/
def negotiateTn3270 (outcome : NegotiationOutcome) : SessionM Unit := do
  let negotiator := (← get).negotiator
  match negotiator.forceMode with
  | some .ascii =>
      modify fun session => (session.setAsciiMode.setNegotiatedFlag false).setEvents
  | some .tn3270 =>
      modify fun session => (session.setNegotiatedFlag false).setEvents
  | some .tn3270e =>
      if negotiator.forcedFailure ||
          !negotiator.allowFallback && !negotiator.serverSupportsTn3270e then
        throw refusedByServer
      else
        modify fun session =>
          ((session.sendSupportedDeviceTypes.setNegotiatedFlag true
            ).markServerSupport).setEvents
  | none =>
      if !negotiator.hasWriter then throw invalidConnection
      else if negotiator.forcedFailure && !negotiator.allowFallback then do
        modify cleanupOnFailure
        throw negotiationFailed
      else awaitNegotiation outcome

/-- `_perform_negotiate` of the handler, which clears the flag in ASCII mode. -/
def performNegotiate (outcome : NegotiationOutcome) : SessionM Unit := do
  negotiateTn3270 outcome
  modify clearFlagInAscii

/-- The end of `_negotiate_tn3270` of the handler: the flag that is set for good. -/
def concludeNegotiation (trace : List UInt8) (session : Session) : Session :=
  let negotiator := session.negotiator
  session.setNegotiatedFlag
    (negotiator.forceMode = some .tn3270e || negotiator.negotiatedTn3270e ||
      Negotiator.inferTn3270eFromTrace trace)

/-- What `receive_data` does where it detects ASCII: the mode is taken up unless
TN3270E has been negotiated. -/
def takeUpAsciiMode (session : Session) : Session :=
  if session.negotiatedTn3270e then session else session.setAsciiMode

end Session

end Pure3270
