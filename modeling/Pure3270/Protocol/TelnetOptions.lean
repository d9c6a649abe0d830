import Pure3270.Protocol.Negotiator
import Pure3270.Protocol.TelnetStream

/-!
# Telnet options

The negotiator answers every DO, DONT, WILL and WONT with one command; what it
answers depends on the option alone.  Only the option TN3270E touches the
state: an offer marks the server as TN3270E-capable, a refusal releases those
who wait for the negotiation.
-/

namespace Pure3270

namespace Telnet

abbrev willCode : UInt8 := 0xFB
abbrev wontCode : UInt8 := 0xFC
abbrev doCode : UInt8 := 0xFD
abbrev dontCode : UInt8 := 0xFE

abbrev binary : UInt8 := 0x00
abbrev echo : UInt8 := 0x01
abbrev sga : UInt8 := 0x03
abbrev tm : UInt8 := 0x06
abbrev ttype : UInt8 := 0x18
abbrev eor : UInt8 := 0x19
abbrev naws : UInt8 := 0x1F
abbrev terminalLocation : UInt8 := 0x24
abbrev newEnviron : UInt8 := 0x27
abbrev tn3270e : UInt8 := 0x28
abbrev bindUnit : UInt8 := 0x30

/-- The options that `_handle_will` accepts. -/
def acceptedWill : List UInt8 :=
  [binary, eor, ttype, tn3270e, terminalLocation, bindUnit, echo, sga, tm]

/-- The options that `_handle_do` accepts. -/
def acceptedDo : List UInt8 :=
  [binary, eor, naws, newEnviron, ttype, terminalLocation, tn3270e, bindUnit, echo,
    sga, tm]

/-- A number in two bytes, the high one first. -/
def u16Bytes (number : Nat) : List UInt8 :=
  [.ofNat (number / 256), .ofNat number]

end Telnet

open Telnet

namespace Negotiator

/-- A refusal of TN3270E makes the negotiator fall back to ASCII. -/
def FallsBack (negotiator : Negotiator) : Prop :=
  negotiator.forceMode ∉ [some .tn3270, some .tn3270e] ∧
    negotiator.allowFallback = true

/-- A refusal of TN3270E makes a negotiator that is forced to it give up. -/
def FailsForced (negotiator : Negotiator) : Prop :=
  negotiator.allowFallback = false ∧ negotiator.forceMode = some .tn3270e

instance (negotiator : Negotiator) : Decidable negotiator.FallsBack :=
  inferInstanceAs (Decidable (_ ∧ _))

instance (negotiator : Negotiator) : Decidable negotiator.FailsForced :=
  inferInstanceAs (Decidable (_ ∧ _))

end Negotiator

namespace Session

def onNegotiator (f : Negotiator → Negotiator) (session : Session) : Session :=
  { session with negotiator := f session.negotiator }

/-- A message for the host, where there is a writer. -/
def send (message : NegotiatorMessage) (session : Session) : Session :=
  if session.negotiator.hasWriter then
    session.onNegotiator fun negotiator =>
      { negotiator with sent := negotiator.sent ++ [message] }
  else session

def markServerSupport (session : Session) : Session :=
  session.onNegotiator fun negotiator =>
    { negotiator with serverSupportsTn3270e := true }

/-- `_signal_negotiation_complete`. -/
def signalNegotiationComplete (success : Bool) (session : Session) : Session :=
  let flagged := session.setNegotiatedFlag success
  let marked := if success then flagged.markServerSupport else flagged
  marked.onNegotiator fun negotiator =>
    { negotiator with negotiationComplete := true }

/-- `set_ascii_mode` of the negotiator. -/
def setAsciiMode (session : Session) : Session :=
  { session with
    negotiator := { session.negotiator with asciiMode := true }
    asciiMode := true }

/-- `_handle_will`. -/
def handleWill (option : UInt8) (session : Session) : Session :=
  if option ∈ acceptedWill then
    let accepted := session.send (.iac doCode option)
    if option = tn3270e then accepted.markServerSupport else accepted
  else session.send (.iac dontCode option)

/-- The fallback to ASCII, which releases those who wait. -/
def fallBackToAscii (session : Session) : Session :=
  (session.setAsciiMode.setNegotiatedFlag false
    ).signalDeviceEvent.signalFunctionsEvent.signalNegotiationComplete false

/-- The signals that release those who wait for the negotiation. -/
def signalAll (session : Session) : Session :=
  session.signalDeviceEvent.signalFunctionsEvent.signalNegotiationComplete true

/-- What a refusal of TN3270E does before it is acknowledged. -/
def refuseTn3270e (session : Session) : Session :=
  let refused := session.onNegotiator fun negotiator =>
    { negotiator with serverSupportsTn3270e := false }
  if session.negotiator.FallsBack then refused.fallBackToAscii
  else if session.negotiator.FailsForced then
    (refused.onNegotiator fun negotiator =>
      { negotiator with forcedFailure := true }).signalAll
  else refused

/-- `_handle_wont`. -/
def handleWont (option : UInt8) (session : Session) : Session :=
  let refused := if option = tn3270e then session.refuseTn3270e else session
  refused.send (.iac dontCode option)

/-- `_send_naws_subnegotiation` and `_send_lu_name_is`, which follow an
acceptance. -/
def sendDetails (option : UInt8) (session : Session) : Session :=
  let negotiator := session.negotiator
  if option = naws then
    session.send (.subnegotiation naws
      (u16Bytes negotiator.screenCols ++ u16Bytes negotiator.screenRows))
  else if option = terminalLocation then
    session.send (.subnegotiation terminalLocation
      (0x04 :: negotiator.luName.getD []))
  else session

/-- `_handle_do`. -/
def handleDo (option : UInt8) (session : Session) : Session :=
  if option ∈ acceptedDo then
    let accepted := (session.send (.iac willCode option)).sendDetails option
    if option = tn3270e then accepted.markServerSupport else accepted
  else session.send (.iac wontCode option)

/-- `_handle_dont`. -/
def handleDont (option : UInt8) (session : Session) : Session :=
  let refused :=
    if option = tn3270e then
      (session.setNegotiatedFlag false).signalAll
    else session
  refused.send (.iac wontCode option)

/-- `handle_iac_command`; an unknown command is only logged. -/
def handleIacCommand (command option : UInt8) (session : Session) : Session :=
  if command = willCode then session.handleWill option
  else if command = wontCode then session.handleWont option
  else if command = doCode then session.handleDo option
  else if command = dontCode then session.handleDont option
  else session

/-- `_reader_loop` at the end of the stream. -/
def endOfStream (session : Session) : Session :=
  session.signalAll

/-- `_reader_loop` after its last iteration. -/
def iterationLimit (session : Session) : Session :=
  (session.onNegotiator fun negotiator =>
    { negotiator with forcedCompletion := true }).signalAll

/-- `_reset_negotiation_state` of the negotiator; the handler's ASCII flag is not
reset along with it. -/
def resetNegotiationState (session : Session) : Session :=
  (session.setNegotiatedFlag false).onNegotiator fun negotiator =>
    { negotiator with
      luName := none
      negotiatedDeviceType := none
      connectedLuName := none
      associatedDisplayLu := none
      deviceTypeRejected := false
      rejectionReason := 0
      negotiatedFunctions := 0
      negotiatedResponseMode := 0
      asciiMode := false
      serverSupportsTn3270e := false
      forcedFailure := false
      deviceTypeEvent := false
      functionsEvent := false
      negotiationComplete := false }

end Session

end Pure3270
