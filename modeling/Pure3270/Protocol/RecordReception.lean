import Pure3270.Protocol.RecordHandover
import Pure3270.Protocol.RequestCorrelation
import Pure3270.Protocol.TelnetEncoding

/-!
# Records over several reads

A host sends records, each ended by IAC EOR, and the network cuts the stream
into reads.  The handler parses what one read yields, and the end of a record
leaves no trace in it.  So the parser sees the records as they were sent when no
read ends inside one, and a read ends between any two.
-/

namespace Pure3270

open Foundations

/-- A record of the host. -/
structure HostRecord where
  header : Option Tn3270eHeader
  body : List UInt8
  deriving DecidableEq

namespace HostRecord

open Telnet

def data (record : HostRecord) : List UInt8 :=
  (record.header.elim [] Tn3270eHeader.toBytes) ++ record.body

def dataType (record : HostRecord) : UInt8 :=
  record.header.elim Tn3270eHeader.tn3270Data Tn3270eHeader.dataType

/-- The call of the parser that the record is for. -/
def call (record : HostRecord) : List UInt8 × UInt8 :=
  (record.body, record.dataType)

/-- The record on the wire. -/
def encode (eor : UInt8) (record : HostRecord) : List UInt8 :=
  escape record.data ++ [iac, eor]

/-- How many bytes on the wire the data takes. -/
def extent (record : HostRecord) : Nat :=
  (escape record.data).length

/-- How many bytes on the wire the first byte of the data takes. -/
def lead (record : HostRecord) : Nat :=
  (escape (record.data.take 1)).length

/-- What the handler passes on unchanged: data that is not taken for VT100 text,
with a header that is recognised or without bytes that look like one, and with
no byte at either end that is taken off. -/
def Passes (hasPrinterBuffer : Bool) (record : HostRecord) : Prop :=
  detectVt100Sequences record.data = false ∧ record.body.getLast? ≠ some 0x19 ∧
    match record.header with
    | none =>
        record.body ≠ [] ∧ Tn3270eHeader.fromBytes record.body = none ∧
          record.body.head? ≠ some 0xF5 ∧
          ¬ [0x00, 0x00, 0x00, 0x00] <+: record.body
    | some header =>
        header.Accepted ∧ header.dataType ∈ Tn3270eHeader.tn3270eDataTypes ∧
          (header = ⟨0x00, 0x00, 0x00, 0xF5⟩ ∨
            record.body.head? ≠ some 0xF5 ∧
              ((header.dataType = Tn3270eHeader.scsData ∨
                header.dataType = Tn3270eHeader.printerStatusDataType) ∧
                  hasPrinterBuffer = true ∨
                ¬ [0x00, 0x00, 0x00, 0x00] <+: record.body))

/-- The items that the Telnet layer reads a record as. -/
def items (eor : UInt8) (record : HostRecord) : List TelnetItem :=
  record.data.map .data ++ [.command eor]

theorem encode_data (bytes : List UInt8) :
    (bytes.map TelnetItem.data).flatMap TelnetItem.encode = escape bytes := by
  rw [List.flatMap_map]
  rfl

theorem encode_items (eor : UInt8) (record : HostRecord) :
    (record.items eor).flatMap TelnetItem.encode = record.encode eor := by
  unfold items encode
  rw [List.flatMap_append, encode_data]
  rfl

theorem encode_flatMap_items (eor : UInt8) (records : List HostRecord) :
    (records.flatMap (items eor)).flatMap TelnetItem.encode =
      records.flatMap (encode eor) := by
  rw [List.flatMap_assoc]
  simp only [encode_items]

theorem lead_le_extent (record : HostRecord) : record.lead ≤ record.extent := by
  unfold lead extent escape
  cases record.data with
  | nil => exact Nat.le_refl _
  | cons byte rest =>
      rw [List.flatMap_cons, List.length_append]
      simp

end HostRecord

/-- The positions in the stream at which reads end. -/
def cuts (position : Nat) : List (List UInt8) → List Nat
  | [] => []
  | chunk :: chunks =>
      (position + chunk.length) :: cuts (position + chunk.length) chunks

theorem le_of_mem_cuts {position cut : Nat} {chunks : List (List UInt8)}
    (member : cut ∈ cuts position chunks) : position ≤ cut := by
  induction chunks generalizing position with
  | nil => cases member
  | cons chunk chunks ih =>
      rcases List.mem_cons.mp member with rfl | later
      · exact Nat.le_add_right _ _
      · exact (Nat.le_add_right _ _).trans (ih later)

/-- No read ends inside the data of a record, and between the data of two records
a read ends; `start` is where the first record starts. -/
def Separated (ends : List Nat) : Nat → List HostRecord → Prop
  | _, [] => True
  | start, record :: records =>
      (∀ cut ∈ ends, cut < start + record.lead ∨ start + record.extent ≤ cut) ∧
      (∀ next, records.head? = some next →
        ∃ cut ∈ ends, start + record.extent ≤ cut ∧
          cut < start + record.extent + 2 + next.lead) ∧
      Separated ends (start + record.extent + 2) records

/-- A read that ends before any data has arrived does not matter. -/
theorem Separated.drop_cut {cut : Nat} {ends : List Nat} {start : Nat}
    {records : List HostRecord} (separated : Separated (cut :: ends) start records)
    (early : ∀ record, records.head? = some record → cut < start + record.lead) :
    Separated ends start records := by
  induction records generalizing start with
  | nil => trivial
  | cons record records ih =>
      obtain ⟨whole, between, later⟩ := separated
      have before := early record rfl
      have lead := record.lead_le_extent
      refine ⟨fun other member => whole other (List.mem_cons_of_mem _ member), ?_, ?_⟩
      · intro next isNext
        obtain ⟨other, member, after, upTo⟩ := between next isNext
        rcases List.mem_cons.mp member with rfl | member
        · omega
        · exact ⟨other, member, after, upTo⟩
      · apply ih later
        intro next _
        omega

namespace TelnetItem

/-- The items of records: data and ends of records. -/
def OfRecord (eor : UInt8) (item : TelnetItem) : Prop :=
  (∃ byte, item = .data byte) ∨ item = .command eor

theorem OfRecord.reads {eor : UInt8} (mark : eor ∈ [0xEF, 0x19]) {item : TelnetItem}
    (ofRecord : item.OfRecord eor) :
    Telnet.tokenizer.Reads item.encode item.event := by
  rcases ofRecord with ⟨byte, rfl⟩ | rfl
  · exact TelnetItem.reads trivial trivial
  · have formed : (TelnetItem.command eor).WellFormed := by
      rcases List.mem_pair.mp mark with rfl | rfl
      · exact ⟨by decide, by decide, by decide, by decide⟩
      · exact ⟨by decide, by decide, by decide, by decide⟩
    exact TelnetItem.reads formed trivial

private theorem waits_escape (byte : UInt8) :
    Telnet.tokenizer.Waits [Telnet.iac, byte] := by
  intro part front short
  match part, short with
  | [], _ => rfl
  | [first], _ =>
      obtain ⟨rest, joined⟩ := front
      injection joined with same
      rw [same]
      rfl

theorem OfRecord.waits {eor : UInt8} {item : TelnetItem}
    (ofRecord : item.OfRecord eor) : Telnet.tokenizer.Waits item.encode := by
  rcases ofRecord with ⟨byte, rfl⟩ | rfl
  · show Telnet.tokenizer.Waits (Telnet.escapeByte byte)
    unfold Telnet.escapeByte
    split
    · exact waits_escape Telnet.iac
    · intro part _ short
      obtain rfl : part = [] := List.eq_nil_of_length_eq_zero (by simpa using short)
      rfl
  · exact waits_escape eor

theorem ofRecord_items (eor : UInt8) (records : List HostRecord) :
    ∀ item ∈ records.flatMap (HostRecord.items eor), item.OfRecord eor := by
  intro item member
  obtain ⟨record, -, member⟩ := List.mem_flatMap.mp member
  rcases List.mem_append.mp member with data | last
  · obtain ⟨byte, -, rfl⟩ := List.mem_map.mp data
    exact .inl ⟨byte, rfl⟩
  · exact .inr (List.mem_singleton.mp last)

variable {first second read left : List TelnetItem} {part : List UInt8}

/-- What lies before the point that has been reached has been read. -/
theorem read_of_le (split : first ++ second = read ++ left)
    (short : ∀ item later, left = item :: later → part.length < item.encode.length)
    (far : (first.flatMap encode).length ≤ (read.flatMap encode ++ part).length) :
    ∃ more, read = first ++ more ∧ second = more ++ left := by
  rcases List.append_eq_append_iff.mp split with
    ⟨more, readEq, leftEq⟩ | ⟨missing, firstEq, leftEq⟩
  · exact ⟨more, readEq, leftEq⟩
  · cases missing with
    | nil =>
        rw [List.append_nil] at firstEq
        exact ⟨[], by rw [firstEq, List.append_nil], by rw [leftEq]; rfl⟩
    | cons item missing =>
        have shorter := short item (missing ++ second) leftEq
        rw [firstEq] at far
        simp only [List.flatMap_append, List.flatMap_cons, List.length_append] at far
        omega

/-- What lies behind the point that has been reached has not been read. -/
theorem read_of_lt {item : TelnetItem}
    (split : first ++ item :: second = read ++ left)
    (near : (read.flatMap encode ++ part).length <
      (first.flatMap encode).length + item.encode.length) :
    ∃ missing, first = read ++ missing ∧ left = missing ++ item :: second := by
  rcases List.append_eq_append_iff.mp split with
    ⟨more, readEq, leftEq⟩ | ⟨missing, firstEq, leftEq⟩
  · cases more with
    | nil =>
        rw [List.append_nil] at readEq
        exact ⟨[], by rw [readEq, List.append_nil], by rw [leftEq]; rfl⟩
    | cons other more =>
        injection leftEq with same
        rw [readEq, ← same] at near
        simp only [List.flatMap_append, List.flatMap_cons, List.length_append] at near
        omega
  · exact ⟨missing, firstEq, leftEq⟩

end TelnetItem

namespace Session

theorem resendRequest_asciiMode (type : RequestType) (session : Session) :
    (session.resendRequest type).negotiator.asciiMode = session.negotiator.asciiMode := by
  cases type with
  | deviceTypeSend => exact (sendSupportedDeviceTypes_keeps session).asciiMode
  | functionsSend => exact (sendFunctionsIs_keeps session).asciiMode
  | other name => rfl

theorem handleCorrelated_asciiMode {header : Tn3270eHeader} {request : PendingRequest}
    {maxRetries : Nat} {signal : Session → Session}
    (keeps : ∀ session, Keeps session (signal session)) (session : Session) :
    (finalState (handleCorrelated header request maxRetries signal session)
      ).negotiator.asciiMode = session.negotiator.asciiMode := by
  unfold handleCorrelated
  split
  · split
    · exact resendRequest_asciiMode request.type _
    · rfl
  · exact (keeps session).asciiMode

theorem handleTn3270eResponse_asciiMode (header : Tn3270eHeader) (session : Session) :
    (finalState (handleTn3270eResponse header session)).negotiator.asciiMode =
      session.negotiator.asciiMode := by
  unfold handleTn3270eResponse
  rw [run_get_bind]
  cases session.negotiator.pendingRequests header.seqNumber with
  | none => rfl
  | some request =>
      dsimp only
      rw [run_bind_ok (modifyNegotiator_run _ session)]
      cases request.type with
      | deviceTypeSend => exact handleCorrelated_asciiMode signalDeviceEvent_keeps _
      | functionsSend => exact handleCorrelated_asciiMode signalFunctionsEvent_keeps _
      | other name => rfl

/-- How many error responses come under a number before another answer to it. -/
def errorsUnder (number : UInt16) (headers : List Tn3270eHeader) : Nat :=
  ((headers.filter (·.seqNumber = number)).takeWhile (·.isErrorResponse)).length

/-- No request is answered by more error responses than it may be sent again for. -/
def EnoughRetries (headers : List Tn3270eHeader) (negotiator : Negotiator) : Prop :=
  ∀ number request limit,
    negotiator.pendingRequests number = some request →
      retryLimit negotiator request.type = some limit →
        errorsUnder number headers = 0 ∨
          request.retryCount + errorsUnder number headers ≤ limit

theorem errorsUnder_cons_error {header : Tn3270eHeader}
    (error : header.isErrorResponse = true) (headers : List Tn3270eHeader) :
    errorsUnder header.seqNumber (header :: headers) =
      errorsUnder header.seqNumber headers + 1 := by
  unfold errorsUnder
  rw [List.filter_cons_of_pos (by simp), List.takeWhile_cons_of_pos error]
  rfl

theorem errorsUnder_cons_other {number : UInt16} {header : Tn3270eHeader}
    (other : number ≠ header.seqNumber) (headers : List Tn3270eHeader) :
    errorsUnder number (header :: headers) = errorsUnder number headers := by
  unfold errorsUnder
  rw [List.filter_cons_of_neg]
  simpa using other.symm

variable {header : Tn3270eHeader} {headers : List Tn3270eHeader} {session : Session}

theorem EnoughRetries.goesOn {negotiator : Negotiator}
    (enough : EnoughRetries (header :: headers) negotiator) :
    ¬ GivesUp header negotiator := by
  rintro ⟨error, request, limit, waiting, limited, reached⟩
  have bound := enough _ request limit waiting limited
  rw [errorsUnder_cons_error error] at bound
  omega

theorem EnoughRetries.response
    (enough : EnoughRetries (header :: headers) session.negotiator) :
    EnoughRetries headers
      (finalState (handleTn3270eResponse header session)).negotiator := by
  have left := waiting_handleTn3270eResponse header session
  have pending : (finalState (handleTn3270eResponse header session)
      ).negotiator.pendingRequests =
        alterEntry header.seqNumber (·.answered header session.negotiator)
          session.negotiator.pendingRequests := congrArg Prod.fst left
  have maxRetries : (finalState (handleTn3270eResponse header session)
      ).negotiator.maxRetries = session.negotiator.maxRetries := congrArg Prod.snd left
  intro number request limit waiting limited
  have limitedBefore : retryLimit session.negotiator request.type = some limit := by
    unfold retryLimit at limited ⊢
    rwa [maxRetries] at limited
  rw [pending] at waiting
  unfold alterEntry at waiting
  by_cases here : number = header.seqNumber
  · rw [if_pos here] at waiting
    obtain ⟨before, found, again⟩ := Option.bind_eq_some_iff.mp waiting
    obtain ⟨error, sameType, count⟩ := PendingRequest.answered_again again
    have bound := enough _ before limit found (sameType ▸ limitedBefore)
    rw [errorsUnder_cons_error error] at bound
    rw [here]
    omega
  · rw [if_neg here] at waiting
    rw [← errorsUnder_cons_other here headers]
    exact enough number request limit waiting limitedBefore

end Session

namespace Tn3270Handler

/-- A handler that receives 3270 data. -/
structure Ready (handler : Tn3270Handler) : Prop where
  notAscii : handler.session.negotiator.asciiMode = false
  noPayload : handler.pendingPayload = []

/-- The headers of records. -/
def headersOf (records : List HostRecord) : List Tn3270eHeader :=
  records.filterMap HostRecord.header

variable {handler : Tn3270Handler} {record : HostRecord} {rest : List HostRecord}

/-- What a record leaves behind when the parser has been called for it, before the
records that are left. -/
structure Taken (record : HostRecord) (rest : List HostRecord)
    (before after : Tn3270Handler) : Prop where
  parseCalls : after.parseCalls = before.parseCalls ++ [record.call]
  parser : after.parser =
    finalState (DataStreamParser.parse record.body record.dataType before.parser)
  telnet : after.telnet = before.telnet
  hasPrinterBuffer : after.hasPrinterBuffer = before.hasPrinterBuffer
  ready : Ready after
  enough : Session.EnoughRetries (headersOf rest) after.session.negotiator

/-- A record that passes is parsed as it was sent. -/
theorem handleTn3270Mode_passes (ready : Ready handler)
    (enough : Session.EnoughRetries (headersOf (record :: rest))
      handler.session.negotiator)
    (passes : record.Passes handler.hasPrinterBuffer) :
    ∃ next, handleTn3270Mode record.data handler =
        handOver (some record.body) record.body record.dataType next ∧
      Taken record rest handler (next.afterParse record.body record.dataType) := by
  obtain ⟨-, last, kind⟩ := passes
  obtain ⟨header, body⟩ := record
  cases header with
  | none =>
      obtain ⟨nonempty, noHeader, first, zeros⟩ := kind
      have kept := (strip_eq_self_iff body).mpr ⟨last, first, zeros⟩
      have ends := (rstripEor_eq_self_iff body).mpr last
      have run := parseRecord_eq (ends.symm ▸ nonempty) 0 Tn3270eHeader.tn3270Data
      rw [List.drop_zero, kept] at run
      refine ⟨handler, ?_, ?_⟩
      · show handleTn3270Mode body handler = _
        unfold handleTn3270Mode
        rw [noHeader]
        exact congrFun run handler
      · exact
          { parseCalls := rfl
            parser := rfl
            telnet := rfl
            hasPrinterBuffer := rfl
            ready := { ready with }
            enough }
  | some header =>
      obtain ⟨accepted, known, ends⟩ := kind
      have found : Tn3270eHeader.fromBytes header.toBytes = some header := by
        have read := Tn3270eHeader.fromBytes_toBytes accepted []
        rwa [List.append_nil] at read
      have fixture : header = ⟨0x00, 0x00, 0x00, 0xF5⟩ →
          header.toBytes = [0x00, 0x00, 0x00, 0x00, 0xF5] := by
        rintro rfl
        rfl
      have kept : handedOver header.toBytes header body handler = (body, body) :=
        (handedOver_eq_iff found body).mpr ⟨last, ends.imp_left fixture⟩
      obtain ⟨session, response, run⟩ := handleTn3270Mode_run
        header.length_toBytes found known enough.goesOn body
      have reached : session =
          finalState (Session.handleTn3270eResponse header handler.session) := by
        rw [response]
        rfl
      rw [kept] at run
      refine ⟨_, run, ?_⟩
      exact
        { parseCalls := rfl
          parser := rfl
          telnet := rfl
          hasPrinterBuffer := rfl
          ready :=
            { notAscii := by
                rw [← ready.notAscii]
                exact (congrArg (·.negotiator.asciiMode) reached).trans
                  (Session.handleTn3270eResponse_asciiMode header handler.session)
              noPayload := ready.noPayload }
          enough := reached ▸ enough.response }

/-- The data among the items that have been read. -/
def dataOf (read : List TelnetItem) : List UInt8 :=
  Telnet.cleaned (read.map TelnetItem.event)

theorem dataOf_append (first second : List TelnetItem) :
    dataOf (first ++ second) = dataOf first ++ dataOf second := by
  unfold dataOf Telnet.cleaned
  rw [List.map_append, List.filterMap_append]

theorem dataOf_data (bytes : List UInt8) : dataOf (bytes.map .data) = bytes := by
  induction bytes with
  | nil => rfl
  | cons byte bytes ih =>
      unfold dataOf Telnet.cleaned at ih ⊢
      rw [List.map_cons, List.map_cons, List.filterMap_cons, ih]
      rfl

variable (collaborators : Collaborators)

/-- The end of a record does nothing to the handler. -/
theorem foldl_reactTo {eor : UInt8} (mark : eor ∈ [0xEF, 0x19])
    {calls : List TelnetCall}
    (ends : ∀ call ∈ calls, call = .handleTelnetCommand eor)
    (handler : Tn3270Handler) :
    calls.foldl (reactTo collaborators) handler = handler := by
  have ignored : reactTo collaborators handler (.handleTelnetCommand eor) = handler := by
    rcases List.mem_pair.mp mark with rfl | rfl
    · rfl
    · rfl
  induction calls with
  | nil => rfl
  | cons call calls ih =>
      rw [List.foldl_cons, ends call List.mem_cons_self, ignored]
      exact ih fun other member => ends other (List.mem_cons_of_mem _ member)

theorem made_ofRecord {eor : UInt8} {read : List TelnetItem}
    (ofRecord : ∀ item ∈ read, item.OfRecord eor) :
    ∀ call ∈ Telnet.made (read.map TelnetItem.event),
      call = .handleTelnetCommand eor := by
  intro call member
  obtain ⟨event, isEvent, isCall⟩ := List.mem_filterMap.mp member
  obtain ⟨item, isItem, rfl⟩ := List.mem_map.mp isEvent
  rcases ofRecord item isItem with ⟨byte, rfl⟩ | rfl
  · cases isCall
  · injection isCall with same
    exact same.symm

theorem processTelnetStream_run {eor : UInt8} (mark : eor ∈ [0xEF, 0x19])
    {chunk part : List UInt8} {read : List TelnetItem}
    (ofRecord : ∀ item ∈ read, item.OfRecord eor)
    (scanned : Telnet.tokenizer.scan (handler.telnet.telnetBuffer ++ chunk) =
      (read.map TelnetItem.event, part)) :
    ∃ telnet, telnet.telnetBuffer = part ∧
      processTelnetStream collaborators chunk handler =
        .ok (dataOf read, detectVt100Sequences (dataOf read))
          { handler with telnet } := by
  refine ⟨⟨part, handler.telnet.calls ++ Telnet.made (read.map TelnetItem.event)⟩,
    rfl, ?_⟩
  unfold processTelnetStream TelnetStream.processTelnetStream
  rw [scanned]
  simp only [List.drop_left]
  rw [foldl_reactTo collaborators mark (made_ofRecord ofRecord)]
  rfl

/-- A read without data returns nothing. -/
theorem receivePart_quiet {chunk yielded : List UInt8} {telnet : TelnetStream}
    (notAscii : handler.session.negotiator.asciiMode = false)
    (nothing : yielded = [])
    (processed : processTelnetStream collaborators chunk handler =
      .ok (yielded, false) { handler with telnet }) :
    receivePart collaborators chunk handler = .ok (some []) { handler with telnet } := by
  unfold receivePart
  rw [run_bind_ok processed]
  simp only
  rw [run_get_bind]
  by_cases waiting : telnet.telnetBuffer = []
  · have goesOn : ¬ (yielded = [] ∧ telnet.telnetBuffer ≠ []) :=
      fun both => both.2 waiting
    have mode : detectAsciiMode false { handler with telnet } =
        .ok false { handler with telnet } := by
      unfold detectAsciiMode
      rw [run_get_bind]
      simp only [Bool.false_and, Bool.false_or, notAscii]
      rfl
    rw [if_neg goesOn, run_bind_ok mode, nothing]
    rfl
  · rw [if_pos ⟨nothing, waiting⟩]
    rfl

theorem receivePart_record {chunk : List UInt8} {telnet : TelnetStream}
    (ready : Ready handler)
    (enough : Session.EnoughRetries (headersOf (record :: rest))
      handler.session.negotiator)
    (nonempty : record.data ≠ [])
    (passes : record.Passes handler.hasPrinterBuffer)
    (processed : processTelnetStream collaborators chunk handler =
      .ok (record.data, detectVt100Sequences record.data) { handler with telnet }) :
    Taken record rest { handler with telnet }
        (finalState (receivePart collaborators chunk handler)) ∧
      ∀ next, receivePart collaborators chunk handler ≠ .ok none next := by
  have readyNext : Ready { handler with telnet } := { ready with }
  obtain ⟨before, run, taken⟩ := handleTn3270Mode_passes readyNext enough passes
  have goesOn : ¬ (record.data = [] ∧ telnet.telnetBuffer ≠ []) :=
    fun both => nonempty both.1
  have mode : detectAsciiMode (detectVt100Sequences record.data)
      { handler with telnet } = .ok false { handler with telnet } := by
    unfold detectAsciiMode
    rw [run_get_bind, passes.1]
    simp only [Bool.false_and, Bool.false_or, ready.notAscii]
    rfl
  rw [← @finalState_handOver (some record.body)] at taken
  unfold receivePart
  rw [run_bind_ok processed]
  simp only
  rw [run_get_bind, if_neg goesOn, run_bind_ok mode]
  simp only [Bool.false_eq_true, if_false]
  cases handed : handOver (some record.body) record.body record.dataType before with
  | ok value after =>
      have parses := handOver_returned handed
      rw [handOver_parses parses] at handed
      cases handed
      rw [handOver_parses parses] at run taken
      rw [run_bind_ok run]
      constructor
      · exact taken
      · intro next returned
        cases returned
  | error fault after =>
      rw [handed] at run taken
      rw [run_bind_error run]
      constructor
      · exact taken
      · intro next returned
        cases returned

theorem data_ne_nil {hasPrinterBuffer : Bool}
    (passes : record.Passes hasPrinterBuffer) : record.data ≠ [] := by
  obtain ⟨header, body⟩ := record
  cases header with
  | none => exact passes.2.2.1
  | some header => exact List.cons_ne_nil _ _

/-- The handler with which the loop of `receive_data` goes on to the next read. -/
def goingOn : EStateM.Result Fault Tn3270Handler (Option (List UInt8)) →
    Option Tn3270Handler
  | .ok none next => some next
  | .ok (some _) _ => none
  | .error _ _ => none

/-- The reads that the loop leaves, whether it returns or raises. -/
def readsLeft : List (List UInt8) → Tn3270Handler → List (List UInt8)
  | [], _ => []
  | part :: reads, handler =>
      if part = [] then reads
      else (goingOn (receivePart collaborators part handler)).elim reads (readsLeft reads)

/-- The reads that a call of `receive_data` leaves, whether it returns or raises. -/
def unread (reads : List (List UInt8)) (handler : Tn3270Handler) : List (List UInt8) :=
  if handler.pendingPayload = [] then readsLeft collaborators reads handler
  else
    (goingOn (receivePart collaborators handler.pendingPayload
      { handler with pendingPayload := [] })).elim reads (readsLeft collaborators reads)

theorem readsLeft_of_returned {reads left : List (List UInt8)} {payload : List UInt8}
    {after : Tn3270Handler}
    (returned : receiveReads collaborators reads handler = .ok (payload, left) after) :
    readsLeft collaborators reads handler = left := by
  induction reads generalizing handler with
  | nil => cases returned
  | cons part reads ih =>
      unfold receiveReads at returned
      unfold readsLeft
      by_cases closed : part = []
      · rw [if_pos closed] at returned
        cases returned
      · rw [if_neg closed] at returned ⊢
        cases received : receivePart collaborators part handler with
        | error fault next =>
            rw [run_bind_error received] at returned
            cases returned
        | ok result next =>
            rw [run_bind_ok received] at returned
            cases result with
            | none => exact ih returned
            | some value =>
                cases returned
                rfl

/-- Where a call returns, these are the reads that it hands back. -/
theorem unread_of_returned {reads left : List (List UInt8)} {payload : List UInt8}
    {after : Tn3270Handler}
    (returned : receiveData collaborators reads handler = .ok (payload, left) after) :
    unread collaborators reads handler = left := by
  unfold receiveData at returned
  unfold unread
  rw [run_get_bind] at returned
  by_cases noPayload : handler.pendingPayload = []
  · rw [if_pos noPayload] at returned ⊢
    exact readsLeft_of_returned collaborators returned
  · rw [if_neg noPayload] at returned ⊢
    have taken : (set { handler with pendingPayload := [] } : HandlerM Unit) handler =
        .ok () { handler with pendingPayload := [] } := rfl
    rw [run_bind_ok taken] at returned
    cases received : receivePart collaborators handler.pendingPayload
        { handler with pendingPayload := [] } with
    | error fault next =>
        rw [run_bind_error received] at returned
        cases returned
    | ok result next =>
        rw [run_bind_ok received] at returned
        cases result with
        | none => exact readsLeft_of_returned collaborators returned
        | some value =>
            cases returned
            rfl

/-- The handler after a number of calls of `receive_data`; a call that raises is followed
by the next one. -/
def receiveCalls : Nat → List (List UInt8) → Tn3270Handler → Tn3270Handler
  | 0, _, handler => handler
  | count + 1, reads, handler =>
      receiveCalls count (unread collaborators reads handler)
        (finalState (receiveData collaborators reads handler))

theorem receiveCalls_succ {chunk : List UInt8} {chunks : List (List UInt8)}
    (noPayload : handler.pendingPayload = []) (nonempty : chunk ≠ [])
    (ends : ∀ next, receivePart collaborators chunk handler ≠ .ok none next) :
    receiveCalls collaborators (chunk :: chunks).length (chunk :: chunks) handler =
      receiveCalls collaborators chunks.length chunks
        (finalState (receivePart collaborators chunk handler)) := by
  have data : receiveData collaborators (chunk :: chunks) handler =
      receiveReads collaborators (chunk :: chunks) handler := by
    unfold receiveData
    rw [run_get_bind, if_pos noPayload]
  rw [List.length_cons, receiveCalls, unread, if_pos noPayload, data, receiveReads,
    readsLeft, if_neg nonempty, if_neg nonempty]
  cases received : receivePart collaborators chunk handler with
  | error fault next =>
      rw [run_bind_error received]
      rfl
  | ok result next =>
      rw [run_bind_ok received]
      cases result with
      | none => exact absurd received (ends next)
      | some payload => rfl

theorem dataOf_commands {eor : UInt8} {read : List TelnetItem}
    (commands : ∀ item ∈ read, item = .command eor) : dataOf read = [] := by
  induction read with
  | nil => rfl
  | cons item read ih =>
      have later := ih fun other member => commands other (List.mem_cons_of_mem _ member)
      rw [commands item List.mem_cons_self]
      exact later

theorem mem_gap {eor : UInt8} {gap : List TelnetItem}
    (mark : gap <:+ [.command eor]) : ∀ item ∈ gap, item = .command eor :=
  fun _ member => List.mem_singleton.mp (mark.subset member)

/-- The state between two reads: `gap` is what is left of the end of the record
before, and `records` are those of which no data has been read. -/
structure Between (eor : UInt8) (gap : List TelnetItem) (records : List HostRecord)
    (position start : Nat) (chunks : List (List UInt8)) (handler : Tn3270Handler) :
    Prop where
  ready : Ready handler
  waits : Telnet.tokenizer.token handler.telnet.telnetBuffer = none
  mark : gap <:+ [.command eor]
  stream : handler.telnet.telnetBuffer ++ chunks.flatten =
    (gap ++ records.flatMap (HostRecord.items eor)).flatMap TelnetItem.encode
  place : position + (gap.flatMap TelnetItem.encode).length =
    start + handler.telnet.telnetBuffer.length
  nonempty : ∀ chunk ∈ chunks, chunk ≠ []
  separated : Separated (cuts position chunks) start records
  passes : ∀ record ∈ records, record.Passes handler.hasPrinterBuffer
  enough : Session.EnoughRetries (headersOf records) handler.session.negotiator

theorem items_cons {record : HostRecord} (nonempty : record.data ≠ []) (eor : UInt8) :
    ∃ item rest, record.items eor = item :: rest ∧
      item.encode.length = record.lead := by
  unfold HostRecord.items HostRecord.lead
  cases shape : record.data with
  | nil => exact absurd shape nonempty
  | cons byte bytes =>
      refine ⟨.data byte, bytes.map .data ++ [.command eor], rfl, ?_⟩
      show (Telnet.escapeByte byte).length = (Telnet.escape [byte]).length
      unfold Telnet.escape
      rw [List.flatMap_cons, List.flatMap_nil, List.append_nil]

theorem read_gap {eor : UInt8} {gap read left : List TelnetItem}
    {records : List HostRecord} {part : List UInt8}
    (nonempty : ∀ record ∈ records, record.data ≠ [])
    (split : gap ++ records.flatMap (HostRecord.items eor) = read ++ left)
    (near : ∀ record, records.head? = some record →
      (read.flatMap TelnetItem.encode ++ part).length <
        (gap.flatMap TelnetItem.encode).length + record.lead) :
    ∃ missing, gap = read ++ missing ∧
      left = missing ++ records.flatMap (HostRecord.items eor) := by
  cases records with
  | nil =>
      rw [List.flatMap_nil, List.append_nil] at split
      exact ⟨left, split, by rw [List.flatMap_nil, List.append_nil]⟩
  | cons record records =>
      obtain ⟨item, rest, shape, width⟩ :=
        items_cons (nonempty record List.mem_cons_self) eor
      have near := near record rfl
      rw [← width] at near
      rw [List.flatMap_cons, shape, List.cons_append] at split
      obtain ⟨missing, gapEq, leftEq⟩ := TelnetItem.read_of_lt split near
      refine ⟨missing, gapEq, ?_⟩
      rw [List.flatMap_cons, shape, List.cons_append]
      exact leftEq

/-- A read that ends behind the data of the next record, and before that of the one after
it, reads the data and what there is of its mark. -/
theorem read_record {eor : UInt8} {gap read left : List TelnetItem} {record : HostRecord}
    {rest : List HostRecord} {part : List UInt8}
    (nonempty : ∀ other ∈ rest, other.data ≠ [])
    (split : gap ++ (record :: rest).flatMap (HostRecord.items eor) = read ++ left)
    (short : ∀ item later, left = item :: later → part.length < item.encode.length)
    (late : (gap.flatMap TelnetItem.encode).length + record.extent ≤
      (read.flatMap TelnetItem.encode ++ part).length)
    (early : ∀ next, rest.head? = some next →
      (read.flatMap TelnetItem.encode ++ part).length <
        (gap.flatMap TelnetItem.encode).length + record.extent + 2 + next.lead) :
    ∃ more missing, read = gap ++ record.data.map TelnetItem.data ++ more ∧
      [.command eor] = more ++ missing ∧
      left = missing ++ rest.flatMap (HostRecord.items eor) ∧
      (read.flatMap TelnetItem.encode).length +
          (missing.flatMap TelnetItem.encode).length =
        (gap.flatMap TelnetItem.encode).length + record.extent + 2 := by
  have width : ((gap ++ record.data.map TelnetItem.data).flatMap
      TelnetItem.encode).length =
        (gap.flatMap TelnetItem.encode).length + record.extent := by
    rw [List.flatMap_append, List.length_append, HostRecord.encode_data]
    rfl
  have atItems : (gap ++ record.data.map TelnetItem.data) ++
      ([.command eor] ++ rest.flatMap (HostRecord.items eor)) = read ++ left := by
    rw [← split, List.flatMap_cons, HostRecord.items]
    simp only [List.append_assoc]
  obtain ⟨more, readEq, behind⟩ :=
    TelnetItem.read_of_le atItems short (width.trans_le late)
  have near : ∀ next, rest.head? = some next →
      (more.flatMap TelnetItem.encode ++ part).length <
        (([.command eor] : List TelnetItem).flatMap TelnetItem.encode).length +
          next.lead := by
    intro next isHead
    have before := early next isHead
    rw [readEq, List.flatMap_append, List.append_assoc, List.length_append, width] at before
    show _ < 2 + next.lead
    omega
  obtain ⟨missing, markEq, leftEq⟩ := read_gap nonempty behind near
  have mark : (more.flatMap TelnetItem.encode).length +
      (missing.flatMap TelnetItem.encode).length = 2 := by
    rw [← List.length_append, ← List.flatMap_append, ← markEq]
    rfl
  refine ⟨more, missing, readEq, markEq, leftEq, ?_⟩
  rw [readEq, List.flatMap_append, List.length_append, width]
  omega

section Step

variable {eor : UInt8} {gap : List TelnetItem} {records : List HostRecord}
  {position start : Nat} {chunk : List UInt8} {chunks : List (List UInt8)}

/-- What a read finds: some items, and a piece of the next one. -/
theorem Between.scan (mark : eor ∈ [0xEF, 0x19])
    (between : Between eor gap records position start (chunk :: chunks) handler) :
    ∃ read left part, gap ++ records.flatMap (HostRecord.items eor) = read ++ left ∧
      handler.telnet.telnetBuffer ++ chunk =
        read.flatMap TelnetItem.encode ++ part ∧
      part ++ chunks.flatten = left.flatMap TelnetItem.encode ∧
      Telnet.tokenizer.token part = none ∧
      (∀ item later, left = item :: later → part.length < item.encode.length) ∧
      ∃ telnet, telnet.telnetBuffer = part ∧
        processTelnetStream collaborators chunk handler =
          .ok (dataOf read, detectVt100Sequences (dataOf read))
            { handler with telnet } := by
  have ofRecord : ∀ item ∈ gap ++ records.flatMap (HostRecord.items eor),
      item.OfRecord eor := by
    intro item member
    rcases List.mem_append.mp member with inGap | inRecords
    · exact .inr (mem_gap between.mark item inGap)
    · exact TelnetItem.ofRecord_items eor records item inRecords
  have stream := between.stream
  rw [List.flatten_cons, ← List.append_assoc] at stream
  obtain ⟨read, left, part, split, shape, scanned, -, short⟩ :=
    Telnet.tokenizer.scan_prefix
      (fun item member => (ofRecord item member).reads mark)
      (fun item member => (ofRecord item member).waits) ⟨chunks.flatten, stream⟩
  refine ⟨read, left, part, split, shape, ?_, ?_, short, ?_⟩
  · rw [shape, split, List.flatMap_append, List.append_assoc] at stream
    exact List.append_cancel_left stream
  · have rest := Telnet.tokenizer.token_rest (handler.telnet.telnetBuffer ++ chunk)
    rwa [scanned] at rest
  · apply processTelnetStream_run collaborators mark _ scanned
    intro item member
    rw [split] at ofRecord
    exact ofRecord item (List.mem_append_left _ member)

/-- A read that ends before the next data does nothing. -/
theorem Between.quiet (mark : eor ∈ [0xEF, 0x19])
    (between : Between eor gap records position start (chunk :: chunks) handler)
    (early : ∀ record, records.head? = some record →
      position + chunk.length < start + record.lead) :
    ∃ missing telnet,
      receivePart collaborators chunk handler = .ok (some []) { handler with telnet } ∧
      Between eor missing records (position + chunk.length) start chunks
        { handler with telnet } := by
  obtain ⟨read, left, part, split, shape, stream, waits, -, telnet, buffer,
    processed⟩ := between.scan collaborators mark
  have lengths := congrArg List.length shape
  have place := between.place
  rw [List.length_append] at lengths
  have near : ∀ record, records.head? = some record →
      (read.flatMap TelnetItem.encode ++ part).length <
        (gap.flatMap TelnetItem.encode).length + record.lead := by
    intro record isHead
    have before := early record isHead
    omega
  obtain ⟨missing, gapEq, leftEq⟩ := read_gap
    (fun record member => data_ne_nil (between.passes record member)) split near
  have nothing : dataOf read = [] := dataOf_commands fun item member =>
    mem_gap between.mark item (gapEq ▸ List.mem_append_left _ member)
  rw [nothing] at processed
  refine ⟨missing, telnet, receivePart_quiet collaborators between.ready.notAscii rfl
    processed, ?_⟩
  exact
    { ready := { between.ready with }
      waits := by rwa [buffer]
      mark := (gapEq ▸ List.suffix_append read missing).trans between.mark
      stream := by rw [buffer, stream, leftEq]
      place := by
        rw [gapEq, List.flatMap_append, List.length_append] at place
        rw [List.length_append] at lengths
        rw [buffer]
        omega
      nonempty := fun other member =>
        between.nonempty other (List.mem_cons_of_mem _ member)
      separated := between.separated.drop_cut early
      passes := between.passes
      enough := between.enough }

/-- A read that ends behind the data of the next record, and before that of the
one after it, has the record parsed. -/
theorem Between.parses {record : HostRecord} {rest : List HostRecord}
    (mark : eor ∈ [0xEF, 0x19])
    (between : Between eor gap (record :: rest) position start (chunk :: chunks)
      handler)
    (late : start + record.extent ≤ position + chunk.length)
    (early : ∀ next, rest.head? = some next →
      position + chunk.length < start + record.extent + 2 + next.lead) :
    ∃ missing after, finalState (receivePart collaborators chunk handler) = after ∧
      (∀ next, receivePart collaborators chunk handler ≠ .ok none next) ∧
      after.parseCalls = handler.parseCalls ++ [record.call] ∧
      after.parser = finalState
        (DataStreamParser.parse record.body record.dataType handler.parser) ∧
      Between eor missing rest (position + chunk.length)
        (start + record.extent + 2) chunks after := by
  obtain ⟨read, left, part, split, shape, stream, waits, short, telnet, buffer,
    processed⟩ := between.scan collaborators mark
  have lengths := congrArg List.length shape
  have place := between.place
  rw [List.length_append] at lengths
  have far : (gap.flatMap TelnetItem.encode).length + record.extent ≤
      (read.flatMap TelnetItem.encode ++ part).length := by
    omega
  have near : ∀ next, rest.head? = some next →
      (read.flatMap TelnetItem.encode ++ part).length <
        (gap.flatMap TelnetItem.encode).length + record.extent + 2 + next.lead := by
    intro next isHead
    have before := early next isHead
    omega
  obtain ⟨more, missing, readEq, markEq, leftEq, widths⟩ := read_record
    (fun other member => data_ne_nil
      (between.passes other (List.mem_cons_of_mem _ member))) split short far near
  have passes := between.passes record List.mem_cons_self
  have yielded : dataOf read = record.data := by
    have gapData : dataOf gap = [] := dataOf_commands (mem_gap between.mark)
    have moreData : dataOf more = [] := dataOf_commands fun item member =>
      List.mem_singleton.mp (markEq ▸ List.mem_append_left missing member)
    rw [readEq, dataOf_append, dataOf_append, gapData, moreData, dataOf_data]
    simp
  rw [yielded] at processed
  obtain ⟨taken, ends⟩ := receivePart_record collaborators between.ready between.enough
    (data_ne_nil passes) passes processed
  refine ⟨missing, _, rfl, ends, taken.parseCalls, taken.parser, ?_⟩
  have sameTelnet : (finalState (receivePart collaborators chunk handler)
      ).telnet.telnetBuffer = part := by
    rw [taken.telnet]
    exact buffer
  exact
    { ready := taken.ready
      waits := by rwa [sameTelnet]
      mark := markEq ▸ List.suffix_append more missing
      stream := by rw [sameTelnet, stream, leftEq]
      place := by
        rw [List.length_append] at lengths
        rw [sameTelnet]
        omega
      nonempty := fun other member =>
        between.nonempty other (List.mem_cons_of_mem _ member)
      separated := between.separated.2.2.drop_cut early
      passes := fun other member => by
        rw [taken.hasPrinterBuffer]
        exact between.passes other (List.mem_cons_of_mem _ member)
      enough := taken.enough }

/-- Without further reads there are no further records. -/
theorem Between.token_ne_none {record : HostRecord} {rest : List HostRecord}
    (mark : eor ∈ [0xEF, 0x19])
    (between : Between eor gap (record :: rest) position start [] handler) :
    Telnet.tokenizer.token handler.telnet.telnetBuffer ≠ none := by
  have stream := between.stream
  rw [List.flatten_nil, List.append_nil] at stream
  have data := data_ne_nil (between.passes record List.mem_cons_self)
  obtain ⟨item, more, shape, -⟩ := items_cons data eor
  obtain ⟨first, later, whole, ofRecord⟩ : ∃ first later,
      gap ++ (record :: rest).flatMap (HostRecord.items eor) = first :: later ∧
        first.OfRecord eor := by
    cases gap with
    | nil =>
        refine ⟨item, more ++ rest.flatMap (HostRecord.items eor), ?_, ?_⟩
        · rw [List.flatMap_cons, shape]
          rfl
        · apply TelnetItem.ofRecord_items eor [record]
          rw [List.flatMap_singleton, shape]
          exact List.mem_cons_self
    | cons first gap =>
        exact ⟨first, _, rfl, .inr (mem_gap between.mark first List.mem_cons_self)⟩
  rw [stream, whole, List.flatMap_cons, ofRecord.reads mark]
  exact Option.some_ne_none _

end Step

theorem Between.run {eor : UInt8} (mark : eor ∈ [0xEF, 0x19])
    {gap : List TelnetItem} {records : List HostRecord} {position start : Nat}
    {chunks : List (List UInt8)} {handler : Tn3270Handler}
    (between : Between eor gap records position start chunks handler) :
    (receiveCalls collaborators chunks.length chunks handler).parseCalls =
        handler.parseCalls ++ records.map HostRecord.call ∧
      (receiveCalls collaborators chunks.length chunks handler).parser =
        DataStreamParser.afterCalls handler.parser (records.map HostRecord.call) := by
  induction chunks generalizing gap records position start handler with
  | nil =>
      cases records with
      | nil => exact ⟨(List.append_nil _).symm, rfl⟩
      | cons record rest =>
          -- Something complete would be waiting.
          exact absurd between.waits (between.token_ne_none mark)
  | cons chunk chunks ih =>
      have chunkNonempty := between.nonempty chunk List.mem_cons_self
      by_cases early : ∀ record, records.head? = some record →
          position + chunk.length < start + record.lead
      · obtain ⟨missing, telnet, received, next⟩ :=
          between.quiet collaborators mark early
        have ends : ∀ next, receivePart collaborators chunk handler ≠ .ok none next := by
          intro other returned
          rw [received] at returned
          cases returned
        rw [receiveCalls_succ collaborators between.ready.noPayload chunkNonempty ends,
          received]
        exact ih next
      · cases records with
        | nil => exact absurd (fun _ isHead => by cases isHead) early
        | cons record rest =>
            obtain ⟨whole, separating, -⟩ := between.separated
            have reached : ¬ position + chunk.length < start + record.lead := by
              intro before
              apply early
              rintro other ⟨⟩
              exact before
            have late := (whole _ List.mem_cons_self).resolve_left reached
            have upTo : ∀ next, rest.head? = some next →
                position + chunk.length <
                  start + record.extent + 2 + next.lead := by
              intro next isHead
              obtain ⟨cut, member, -, before⟩ := separating next isHead
              rcases List.mem_cons.mp member with rfl | later
              · exact before
              · exact (le_of_mem_cuts later).trans_lt before
            obtain ⟨missing, after, reached, ends, calls, parser, next⟩ :=
              between.parses collaborators mark late upTo
            rw [receiveCalls_succ collaborators between.ready.noPayload chunkNonempty
              ends, reached]
            obtain ⟨laterCalls, laterParser⟩ := ih next
            rw [laterCalls, laterParser, calls, parser]
            exact ⟨by simp, rfl⟩

/-- One call of the parser for each record, in order, and nothing else done to the
screen. -/
def OneParsePerRecord (records : List HostRecord) (chunks : List (List UInt8))
    (handler : Tn3270Handler) : Prop :=
  (receiveCalls collaborators chunks.length chunks handler).parseCalls =
      handler.parseCalls ++ records.map HostRecord.call ∧
    (receiveCalls collaborators chunks.length chunks handler).parser =
      DataStreamParser.afterCalls handler.parser (records.map HostRecord.call)

/-- Reads that end in no record, and between any two, have every record that
passes parsed once and as it was sent. -/
theorem receive_oneParsePerRecord {eor : UInt8} (mark : eor ∈ [0xEF, 0x19])
    {handler : Tn3270Handler} (ready : Ready handler)
    (fresh : handler.telnet.telnetBuffer = []) {records : List HostRecord}
    (passes : ∀ record ∈ records, record.Passes handler.hasPrinterBuffer)
    (enough : Session.EnoughRetries (headersOf records) handler.session.negotiator)
    {chunks : List (List UInt8)} (nonempty : ∀ chunk ∈ chunks, chunk ≠ [])
    (stream : chunks.flatten = records.flatMap (HostRecord.encode eor))
    (separated : Separated (cuts 0 chunks) 0 records) :
    OneParsePerRecord collaborators records chunks handler := by
  have between : Between eor [] records 0 0 chunks handler :=
    { ready
      waits := by
        rw [fresh]
        rfl
      mark := List.nil_suffix
      stream := by
        rw [fresh, List.nil_append, List.nil_append, stream,
          HostRecord.encode_flatMap_items]
      place := by
        rw [fresh]
        rfl
      nonempty
      separated
      passes
      enough }
  exact between.run collaborators mark

/-- Collaborators that do nothing. -/
def quietCollaborators : Collaborators where
  vt100Parse _ screen := screen
  handleIacCommand _ _ session := session
  handleSubnegotiation _ _ session := session

theorem smallHandler_ready : Ready smallHandler where
  notAscii := rfl
  noPayload := rfl

theorem smallHandler_enough {headers : List Tn3270eHeader} :
    Session.EnoughRetries headers smallHandler.session.negotiator := by
  intro number request limit waiting
  cases waiting

/-- Two records over three reads; one read ends inside the end of the first
record, the next one before the end of the second. -/
theorem receive_oneParsePerRecord_small :
    OneParsePerRecord quietCollaborators
      [⟨none, [0xF1, 0xC3, 0xC1]⟩, ⟨some ⟨0x00, 0x00, 0x00, 1⟩, [0xF1, 0xC3, 0xC2]⟩]
      [[0xF1, 0xC3, 0xC1, 0xFF],
        [0xEF, 0x00, 0x00, 0x00, 0x00, 0x01, 0xF1, 0xC3, 0xC2], [0xFF, 0xEF]]
      smallHandler :=
  receive_oneParsePerRecord quietCollaborators
    (by decide : (0xEF : UInt8) ∈ [0xEF, 0x19]) smallHandler_ready rfl
    (by simp [HostRecord.Passes]; decide)
    smallHandler_enough (by decide) (by decide)
    (by simp [Separated, cuts, HostRecord.lead, HostRecord.extent, HostRecord.data]; decide)

/-- Two records in one read are parsed as one. -/
theorem not_oneParsePerRecord_merged :
    [0xF1, 0xC3, 0xC1, 0xFF, 0xEF, 0xF1, 0xC3, 0xC2, 0xFF, 0xEF] =
        [(⟨none, [0xF1, 0xC3, 0xC1]⟩ : HostRecord), ⟨none, [0xF1, 0xC3, 0xC2]⟩].flatMap
          (HostRecord.encode 0xEF) ∧
      ¬ OneParsePerRecord quietCollaborators
        [⟨none, [0xF1, 0xC3, 0xC1]⟩, ⟨none, [0xF1, 0xC3, 0xC2]⟩]
        [[0xF1, 0xC3, 0xC1, 0xFF, 0xEF, 0xF1, 0xC3, 0xC2, 0xFF, 0xEF]]
        smallHandler := by
  constructor
  · decide
  · rintro ⟨calls, -⟩
    revert calls
    decide +kernel

end Tn3270Handler

end Pure3270
