import Pure3270.Protocol.NegotiatorBlindness
import Pure3270.Protocol.RecordReception
import Pure3270.Trace.TraceFile

/-!
# The session that a trace shows

The handler of a live session gets what the host sent, one record of the trace
for each read.  A read without data, with padding only, or with a header whose
data type the parser ignores leaves nothing to be seen.
-/

namespace Pure3270

open Foundations

namespace Tn3270Handler

open DataStreamParser (SameButRecord ignoredTypes)

/-- Nothing happened to the parser that could be seen. -/
structure ShowsSame (before after : Tn3270Handler) : Prop where
  parser : SameButRecord before.parser after.parser
  hasPrinterBuffer : after.hasPrinterBuffer = before.hasPrinterBuffer

instance : IsPreorder Tn3270Handler ShowsSame where
  refl handler := ⟨.refl handler.parser, rfl⟩
  trans _ _ _ first second :=
    { parser := first.parser.trans second.parser
      hasPrinterBuffer := second.hasPrinterBuffer.trans first.hasPrinterBuffer }

theorem onSession_showsSame (m : SessionM α) : Within ShowsSame (onSession m) := by
  intro handler
  show ShowsSame handler (finalState (onSession m handler))
  unfold onSession
  cases m handler.session with
  | ok value session => exact ⟨.refl _, rfl⟩
  | error fault session => exact ⟨.refl _, rfl⟩

theorem receiveHeader_showsSame (header : Tn3270eHeader) :
    Within ShowsSame (receiveHeader header) := by
  refine Within.bind (fun _ => WithinAt.modify ?_) fun _ => onSession_showsSame _
  exact ⟨.refl _, rfl⟩

section Ignored

variable {dataType : UInt8} (ignored : dataType ∈ ignoredTypes)

include ignored

theorem callParse_showsSame (data : List UInt8) :
    Within ShowsSame (callParse data dataType) := by
  intro handler
  have same := DataStreamParser.parse_ignoredType ignored data handler.parser
  show ShowsSame handler (finalState (callParse data dataType handler))
  unfold callParse
  cases outcome : DataStreamParser.parse data dataType handler.parser with
  | ok exit parser =>
      rw [outcome] at same
      exact ⟨same, rfl⟩
  | error fault parser =>
      rw [outcome] at same
      exact ⟨same, rfl⟩

theorem parseRecord_showsSame (processedData : List UInt8) (headerLen : Nat) :
    Within ShowsSame (parseRecord processedData headerLen dataType) := by
  refine fun handler => WithinAt.ite (fun _ => WithinAt.pure none) fun _ => ?_
  exact (callParse_showsSame ignored _ handler).bind fun _ _ _ => WithinAt.pure _

theorem not_printerRecord {header : Tn3270eHeader} {handler : Tn3270Handler}
    (same : header.dataType = dataType) : ¬ PrinterRecord header handler := by
  rintro ⟨printer, -⟩
  rw [same] at printer
  rcases printer with rfl | rfl
  · exact absurd ignored (by decide)
  · exact absurd ignored (by decide)

end Ignored

theorem known_of_ignored {dataType : UInt8} (ignored : dataType ∈ ignoredTypes) :
    dataType ∈ Tn3270eHeader.tn3270eDataTypes := by
  simp only [ignoredTypes, List.mem_cons, List.not_mem_nil, or_false] at ignored
  rcases ignored with rfl | rfl | rfl | rfl | rfl | rfl | rfl
  all_goals simp [Tn3270eHeader.tn3270eDataTypes]

/-- The header keeps the body from being shown: the parser ignores its data type, or
the negotiator gives up over it. -/
def Hides (header : Tn3270eHeader) (negotiator : Negotiator) : Prop :=
  header.dataType ∈ ignoredTypes ∨
    header.dataType ∈ Tn3270eHeader.tn3270eDataTypes ∧
      Session.GivesUp header negotiator

theorem handleTn3270Mode_hidden {processedData : List UInt8} {header : Tn3270eHeader}
    {handler : Tn3270Handler}
    (found : Tn3270eHeader.fromBytes processedData = some header)
    (hides : Hides header handler.session.negotiator) :
    ShowsSame handler (finalState (handleTn3270Mode processedData handler)) := by
  have known : header.dataType ∈ Tn3270eHeader.tn3270eDataTypes :=
    hides.elim known_of_ignored And.left
  show WithinAt ShowsSame (handleTn3270Mode processedData) handler
  unfold handleTn3270Mode
  rw [found]
  simp only
  rw [if_neg (not_not_intro known)]
  refine (receiveHeader_showsSame header handler).bind fun _ middle received => ?_
  apply WithinAt.getBind
  rcases hides with ignored | ⟨-, gaveUp⟩
  · rw [if_neg (not_printerRecord ignored rfl)]
    exact parseRecord_showsSame ignored _ _ middle
  · obtain ⟨after, raised⟩ := receiveHeader_gaveUp gaveUp
    rw [raised] at received
    cases received

theorem handleTn3270Mode_padding {processedData : List UInt8}
    (padding : processedData.all (· = 0x19)) (handler : Tn3270Handler) :
    handleTn3270Mode processedData handler = .ok none handler := by
  have nothing : rstripEor processedData = [] := by
    unfold rstripEor
    rw [List.rdropWhile_eq_nil_iff]
    simpa using padding
  have noHeader : Tn3270eHeader.fromBytes processedData = none := by
    cases found : Tn3270eHeader.fromBytes processedData with
    | none => rfl
    | some header =>
        -- Padding is no response flag.
        obtain ⟨accepted, rest, rfl⟩ := Tn3270eHeader.toBytes_of_fromBytes found
        have flag := List.all_eq_true.mp padding header.responseFlag (by
          simp [Tn3270eHeader.toBytes])
        have listed := accepted.1
        rw [of_decide_eq_true flag] at listed
        exact absurd listed (by decide)
  unfold handleTn3270Mode parseRecord
  rw [noHeader]
  simp only
  rw [if_pos nothing]
  rfl

variable (collaborators : Collaborators)

/-- What the Telnet layer takes for data. -/
def telnetData (part : List UInt8) (handler : Tn3270Handler) : List UInt8 :=
  (handler.telnet.processTelnetStream part).1.1

/-- The handler when the Telnet layer is through with a read. -/
def afterTelnet (part : List UInt8) (handler : Tn3270Handler) : Tn3270Handler :=
  finalState (processTelnetStream collaborators part handler)

theorem processTelnetStream_eq (part : List UInt8) (handler : Tn3270Handler) :
    processTelnetStream collaborators part handler =
      .ok (handler.telnetData part, detectVt100Sequences (handler.telnetData part))
        (handler.afterTelnet collaborators part) := rfl

theorem foldl_reactTo_showsSame (calls : List TelnetCall) (handler : Tn3270Handler) :
    ShowsSame handler (calls.foldl (reactTo collaborators) handler) := by
  induction calls generalizing handler with
  | nil => exact refl_of ShowsSame handler
  | cons made calls ih =>
      have first : ShowsSame handler (reactTo collaborators handler made) := by
        cases made with
        | handleIacCommand cmd option => exact ⟨.refl _, rfl⟩
        | handleSubnegotiation option subPayload => exact ⟨.refl _, rfl⟩
        | handleTelnetCommand cmd =>
            show ShowsSame handler (handler.handleTelnetCommand cmd)
            unfold handleTelnetCommand
            split_ifs
            · exact ⟨.refl _, rfl⟩
            · exact ⟨.refl _, rfl⟩
            · exact ⟨.refl _, rfl⟩
            · exact ⟨.refl _, rfl⟩
            · exact ⟨.refl _, rfl⟩
      exact trans_of ShowsSame first (ih _)

theorem afterTelnet_showsSame (part : List UInt8) (handler : Tn3270Handler) :
    ShowsSame handler (handler.afterTelnet collaborators part) := by
  have reactions := foldl_reactTo_showsSame collaborators
    ((handler.telnet.processTelnetStream part).2.calls.drop handler.telnet.calls.length)
    { handler with telnet := (handler.telnet.processTelnetStream part).2 }
  exact ⟨reactions.parser, reactions.hasPrinterBuffer⟩

/-- The handler does not take the data for text of a terminal. -/
def Takes3270 (data : List UInt8) (handler : Tn3270Handler) : Prop :=
  detectVt100Sequences data = false ∧ handler.session.negotiator.asciiMode = false

/-- The read holds no data yet. -/
def Waits (part : List UInt8) (handler : Tn3270Handler) : Prop :=
  handler.telnetData part = [] ∧
    (handler.afterTelnet collaborators part).telnet.telnetBuffer ≠ []

theorem receivePart_waits {part : List UInt8} {handler : Tn3270Handler}
    (waits : Waits collaborators part handler) :
    receivePart collaborators part handler =
      .ok (some []) (handler.afterTelnet collaborators part) := by
  have pending : handler.telnetData part = [] ∧
      (handler.afterTelnet collaborators part).telnet.telnetBuffer ≠ [] := waits
  unfold receivePart
  rw [run_bind_ok (processTelnetStream_eq collaborators part handler)]
  simp only
  rw [run_get_bind, if_pos pending]
  rfl

theorem receivePart_takes {part : List UInt8} {handler : Tn3270Handler}
    (goesOn : ¬ Waits collaborators part handler)
    (takes : Takes3270 (handler.telnetData part)
      (handler.afterTelnet collaborators part)) :
    finalState (receivePart collaborators part handler) =
      finalState (handleTn3270Mode (handler.telnetData part)
        (handler.afterTelnet collaborators part)) := by
  have mode : detectAsciiMode (detectVt100Sequences (handler.telnetData part))
      (handler.afterTelnet collaborators part) =
        .ok false (handler.afterTelnet collaborators part) := by
    unfold detectAsciiMode
    rw [run_get_bind, takes.1]
    simp only [Bool.false_and, Bool.false_or, takes.2]
    rfl
  have complete : ¬ (handler.telnetData part = [] ∧
      (handler.afterTelnet collaborators part).telnet.telnetBuffer ≠ []) := goesOn
  unfold receivePart
  rw [run_bind_ok (processTelnetStream_eq collaborators part handler)]
  simp only
  rw [run_get_bind, if_neg complete, run_bind_ok mode]
  simp only [Bool.false_eq_true, if_false]
  cases outcome : handleTn3270Mode (handler.telnetData part)
      (handler.afterTelnet collaborators part) with
  | error fault after =>
      rw [run_bind_error outcome]
  | ok result after =>
      rw [run_bind_ok outcome]
      split
      · rfl
      · rfl

/-- The read leaves nothing to be seen: no data yet, or data in 3270 mode that is
padding or hidden by its header. -/
def LeavesOut (part : List UInt8) (handler : Tn3270Handler) : Prop :=
  Waits collaborators part handler ∨
    Takes3270 (handler.telnetData part) (handler.afterTelnet collaborators part) ∧
      ((handler.telnetData part).all (· = 0x19) ∨
        ∃ header, Tn3270eHeader.fromBytes (handler.telnetData part) = some header ∧
          Hides header (handler.afterTelnet collaborators part).session.negotiator)

theorem LeavesOut.showsSame {part : List UInt8} {handler : Tn3270Handler}
    (leavesOut : LeavesOut collaborators part handler) :
    ShowsSame handler (finalState (receivePart collaborators part handler)) := by
  have commands := afterTelnet_showsSame collaborators part handler
  by_cases waits : Waits collaborators part handler
  · rw [receivePart_waits collaborators waits]
    exact commands
  · obtain ⟨takes, padding | ⟨header, found, hides⟩⟩ := leavesOut.resolve_left waits
    · rw [receivePart_takes collaborators waits takes, handleTn3270Mode_padding padding]
      exact commands
    · rw [receivePart_takes collaborators waits takes]
      exact trans_of ShowsSame commands (handleTn3270Mode_hidden found hides)

/-- The handler behind a record of a trace: what the client sent is not received. -/
def receiveRecord (record : TraceRecord) (handler : Tn3270Handler) : Tn3270Handler :=
  match record.direction with
  | .fromHost => finalState (receivePart collaborators record.data handler)
  | .toHost => handler

/-- A session gets the records of the host in their order. -/
def liveSession (records : List TraceRecord) (handler : Tn3270Handler) : Tn3270Handler :=
  (records.filter (·.direction = .fromHost)).foldl
    (fun reached record => finalState (receivePart collaborators record.data reached))
    handler

end Tn3270Handler

end Pure3270
