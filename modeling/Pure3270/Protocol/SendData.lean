import Pure3270.Foundations.Runs
import Pure3270.Protocol.RecordHandover
import Pure3270.Protocol.TelnetEncoding

/-!
# Sending records

The handler hands a record to the writer as it stands, behind a header where
DATA-STREAM-CTL was agreed.  A peer that reads Telnet wants IAC doubled and
IAC EOR at the end of every record; neither is written, so that it finds the
records that were sent only where none was.
-/

namespace Pure3270

open Foundations

/-- The handler with what only sending reads and writes: the last number sent
and the bytes given to the writer. -/
structure DataSender where
  handler : Tn3270Handler
  lastSentSeqNumber : Nat
  written : List UInt8

abbrev SendM := EStateM Fault DataSender

namespace DataSender

/-- `_get_next_sent_sequence_number`. -/
def getNextSentSequenceNumber : SendM Nat := do
  let sender ← get
  let next := (sender.lastSentSeqNumber + 1) % 65536
  let sequence := sender.handler.sequence.recordSequenceNumber next .sent
  set { sender with
    lastSentSeqNumber := next
    handler := { sender.handler with sequence } }
  return next

/-- `_outgoing_request` with its default flags. -/
def outgoingRequest (type : RequestType) (dataType : UInt8) (seqNumber : Nat) :
    SendM Tn3270eHeader := do
  let header : Tn3270eHeader :=
    { dataType
      requestFlag := 0
      responseFlag := Tn3270eHeader.rsfNoResponse
      seqNumber := .ofNat seqNumber }
  modify fun sender =>
    let session := sender.handler.session
    let negotiator := session.negotiator.putRequest header.seqNumber ⟨type, 0⟩
    { sender with
      handler := { sender.handler with session := { session with negotiator } } }
  return header

/-- What `send_data` writes: a header goes first if DATA-STREAM-CTL is active. -/
def dataToSend (data : List UInt8) : SendM (List UInt8) := do
  let sender ← get
  if sender.handler.session.negotiator.isDataStreamCtlActive then do
    let nextSeq ← getNextSentSequenceNumber
    let header ← outgoingRequest (.other "CLIENT_DATA") Tn3270eHeader.tn3270Data nextSeq
    return header.toBytes ++ data
  else return data

/-- `send_data`. -/
def sendData (data : List UInt8) : SendM Unit := do
  let sender ← get
  if !sender.handler.hasWriter then throw (.other "Not connected")
  else do
    let bytes ← dataToSend data
    modify fun sender => { sender with written := sender.written ++ bytes }

/-- The header in front of the next record. -/
def nextHeader (sender : DataSender) : List UInt8 :=
  if sender.handler.session.negotiator.isDataStreamCtlActive then
    Tn3270eHeader.toBytes
      { dataType := Tn3270eHeader.tn3270Data
        requestFlag := 0
        responseFlag := Tn3270eHeader.rsfNoResponse
        seqNumber := .ofNat ((sender.lastSentSeqNumber + 1) % 65536) }
  else []

theorem dataToSend_eq (data : List UInt8) (sender : DataSender) :
    ∃ handler lastSentSeqNumber, dataToSend data sender =
      .ok (sender.nextHeader ++ data)
        { handler, lastSentSeqNumber, written := sender.written } := by
  unfold nextHeader
  cases active : sender.handler.session.negotiator.isDataStreamCtlActive with
  | true =>
      rw [dataToSend, run_get_bind, if_pos active]
      exact ⟨_, _, rfl⟩
  | false =>
      rw [dataToSend, run_get_bind, if_neg (by simp [active])]
      exact ⟨_, _, rfl⟩

/-- What may happen to a sender: a send, and whatever brings the handler to
another state between two sends. -/
inductive SendEvent where
  | sendData (data : List UInt8)
  | elsewhere (handler : Tn3270Handler) (lastSentSeqNumber : Nat)

def step : SendEvent → DataSender → DataSender
  | .sendData data, sender =>
      match sendData data sender with
      | .ok _ after => after
      | .error _ after => after
  | .elsewhere handler lastSentSeqNumber, sender =>
      { sender with handler, lastSentSeqNumber }

/-- The record of an event; a send without a writer raises and has none. -/
def record : SendEvent → DataSender → List (List UInt8)
  | .sendData data, sender =>
      if sender.handler.hasWriter then [sender.nextHeader ++ data] else []
  | .elsewhere _ _, _ => []

/-- The records of a run, in order. -/
def records : List SendEvent → DataSender → List (List UInt8)
  | [], _ => []
  | event :: events, sender =>
      record event sender ++ records events (step event sender)

theorem written_step (event : SendEvent) (sender : DataSender) :
    (step event sender).written =
      sender.written ++ (record event sender).flatten := by
  cases event with
  | elsewhere handler lastSentSeqNumber =>
      exact (List.append_nil _).symm
  | sendData data =>
      cases connected : sender.handler.hasWriter with
      | false =>
          have raised : sendData data sender = .error (.other "Not connected") sender := by
            rw [sendData, run_get_bind, if_pos (by simp [connected])]
            rfl
          simp [step, raised, record, connected]
      | true =>
          obtain ⟨handler, lastSentSeqNumber, bytes⟩ := dataToSend_eq data sender
          have sent : sendData data sender =
              .ok ()
                { handler, lastSentSeqNumber
                  written := sender.written ++ (sender.nextHeader ++ data) } := by
            rw [sendData, run_get_bind, if_neg (by simp [connected]),
              run_bind_ok bytes]
            rfl
          simp [step, sent, record, connected]

/-- A run writes its records one after another, with nothing between. -/
theorem written_run (events : List SendEvent) (sender : DataSender) :
    (run step events sender).written =
      sender.written ++ (records events sender).flatten := by
  induction events generalizing sender with
  | nil => exact (List.append_nil _).symm
  | cons event events ih =>
      rw [run, ih, written_step, records, List.flatten_append, List.append_assoc]

end DataSender

namespace Telnet

/-- Cut events into records at the command `eor`; what comes after the last one
is no record yet. -/
def cutRecords (eor : UInt8) : List UInt8 → List TelnetEvent → List (List UInt8)
  | _, [] => []
  | part, .data byte :: events => cutRecords eor (part ++ [byte]) events
  | part, .call (.handleTelnetCommand cmd) :: events =>
      if cmd = eor then part :: cutRecords eor [] events
      else cutRecords eor part events
  | part, .call _ :: events => cutRecords eor part events

/-- The records in what was written, by the rules of `_process_telnet_stream`. -/
def recordsOf (eor : UInt8) (written : List UInt8) : List (List UInt8) :=
  cutRecords eor [] (tokenizer.scan written).1

/-- A record as it should be written. -/
def frame (eor : UInt8) (record : List UInt8) : List UInt8 :=
  escape record ++ [iac, eor]

theorem cutRecords_data (eor : UInt8) (part record : List UInt8)
    (events : List TelnetEvent) :
    cutRecords eor part (record.map .data ++ events) =
      cutRecords eor (part ++ record) events := by
  induction record generalizing part with
  | nil => simp
  | cons byte record ih => simp [cutRecords, ih]

theorem cutRecords_frames (eor : UInt8) (records : List (List UInt8)) :
    cutRecords eor []
      (records.flatMap fun record =>
        record.map .data ++ [.call (.handleTelnetCommand eor)]) = records := by
  induction records with
  | nil => rfl
  | cons record records ih =>
      rw [List.flatMap_cons, List.append_assoc, cutRecords_data, List.nil_append,
        List.singleton_append, cutRecords, if_pos rfl, ih]

theorem recordsOf_frames {eor : UInt8} (mark : (TelnetItem.command eor).WellFormed)
    (records : List (List UInt8)) :
    recordsOf eor (records.flatMap (frame eor)) = records := by
  have items : records.flatMap (frame eor) =
      TelnetStream.encodeTelnet (records.flatMap fun record =>
        record.map .data ++ [.command eor]) := by
    induction records with
    | nil => rfl
    | cons record records ih =>
        rw [List.flatMap_cons, ih, List.flatMap_cons]
        simp [TelnetStream.encodeTelnet, frame, escape, List.flatMap_map,
          TelnetItem.encode]
  have formed : ∀ item ∈ records.flatMap fun record =>
      record.map TelnetItem.data ++ [.command eor], item.WellFormed ∧ item.Transparent := by
    intro item member
    obtain ⟨record, -, inside⟩ := List.mem_flatMap.mp member
    rcases List.mem_append.mp inside with data | command
    · obtain ⟨byte, -, rfl⟩ := List.mem_map.mp data
      exact ⟨trivial, trivial⟩
    · obtain rfl := List.mem_singleton.mp command
      exact ⟨mark, trivial⟩
  rw [recordsOf, items, TelnetStream.scan_encodeTelnet (fun item member =>
    (formed item member).1) (fun item member => (formed item member).2)]
  simpa [List.map_flatMap, Function.comp_def, TelnetItem.event] using
    cutRecords_frames eor records

/-- A byte of data is worth one byte, a command two. -/
def weight : TelnetEvent → Nat
  | .data _ => 1
  | .call _ => 2

theorem weight_le {input : List UInt8} {out : TelnetEvent} {count : Nat}
    (found : tokenizer.token input = some (out, count)) : weight out ≤ count := by
  cases complete_of_token found <;> simp [weight]

theorem length_cutRecords (eor : UInt8) (part : List UInt8)
    (events : List TelnetEvent) :
    ((cutRecords eor part events).map fun record => record.length + 2).sum ≤
      part.length + (events.map weight).sum := by
  induction events generalizing part with
  | nil => simp [cutRecords]
  | cons event events ih =>
      cases event with
      | data byte =>
          have later := ih (part ++ [byte])
          simp only [cutRecords, List.map_cons, List.sum_cons, weight,
            List.length_append, List.length_singleton] at later ⊢
          omega
      | call made =>
          have later := ih part
          have again := ih []
          simp only [List.length_nil] at again
          cases made with
          | handleTelnetCommand cmd =>
              by_cases ends : cmd = eor
              · simp only [cutRecords, if_pos ends, List.map_cons, List.sum_cons, weight]
                omega
              · simp only [cutRecords, if_neg ends, List.map_cons, List.sum_cons, weight]
                omega
          | _ =>
              simp only [cutRecords, List.map_cons, List.sum_cons, weight]
              omega

/-- Every record takes two bytes more than its own. -/
theorem length_recordsOf (eor : UInt8) (written : List UInt8) :
    ((recordsOf eor written).map fun record => record.length + 2).sum ≤
      written.length := by
  have cut := length_cutRecords eor [] (tokenizer.scan written).1
  have scanned := tokenizer.scan_weight weight_le written
  simp only [List.length_nil] at cut
  unfold recordsOf
  omega

private theorem length_flatten_le (records : List (List UInt8)) :
    records.flatten.length ≤ (records.map fun record => record.length + 2).sum := by
  induction records with
  | nil => exact Nat.le_refl _
  | cons record records ih =>
      simp only [List.flatten_cons, List.length_append, List.map_cons, List.sum_cons]
      omega

/-- Records one after another, with nothing between, are not found again. -/
theorem recordsOf_flatten {eor : UInt8} {records : List (List UInt8)} :
    recordsOf eor records.flatten = records ↔ records = [] := by
  constructor
  · intro found
    have bound := length_recordsOf eor records.flatten
    rw [found] at bound
    cases records with
    | nil => rfl
    | cons record records =>
        exfalso
        have rest := length_flatten_le records
        simp only [List.flatten_cons, List.length_append, List.map_cons,
          List.sum_cons] at bound
        omega
  · rintro rfl
    rfl

end Telnet

namespace DataSender

/-- No record is passed to the writer. -/
def Silent (event : SendEvent) (sender : DataSender) : Prop :=
  ∀ data, event = .sendData data → sender.handler.hasWriter = false

theorem records_eq_nil_iff (events : List SendEvent) (sender : DataSender) :
    records events sender = [] ↔ Along step Silent events sender := by
  induction events generalizing sender with
  | nil => exact ⟨fun _ => trivial, fun _ => rfl⟩
  | cons event events ih =>
      have here : record event sender = [] ↔ Silent event sender := by
        cases event with
        | elsewhere handler lastSentSeqNumber => simp [record, Silent]
        | sendData data => simp [record, Silent]
      rw [records, List.append_eq_nil_iff, here, ih]
      rfl

/-- Whatever is sent between whatever states of the handler, the peer finds the
records exactly when there is none. -/
theorem recordsOf_run_iff (eor : UInt8) (events : List SendEvent) {sender : DataSender}
    (fresh : sender.written = []) :
    Telnet.recordsOf eor (run step events sender).written = records events sender ↔
      Along step Silent events sender := by
  rw [written_run, fresh, List.nil_append, Telnet.recordsOf_flatten,
    records_eq_nil_iff]

/-- A sender that has sent nothing, for a handler. -/
def init (handler : Tn3270Handler) : DataSender where
  handler
  lastSentSeqNumber := 0
  written := []

/-- A key is lost without a writer, and runs on without an end with one. -/
theorem recordsOf_run_silent :
    let writerless := init { Tn3270Handler.smallHandler with hasWriter := false }
    let connected := init Tn3270Handler.smallHandler
    Telnet.recordsOf 0xEF (run step [.sendData [0x7D]] writerless).written =
        records [.sendData [0x7D]] writerless ∧
      Telnet.recordsOf 0xEF (run step [.sendData [0x7D]] connected).written ≠
        records [.sendData [0x7D]] connected := by
  constructor
  · exact (recordsOf_run_iff 0xEF _ rfl).mpr ⟨fun _ _ => rfl, trivial⟩
  · intro same
    have silent := ((recordsOf_run_iff 0xEF _ rfl).mp same).1
    exact Bool.noConfusion (silent [0x7D] rfl)

/-- The record of Enter on a screen without modified fields. -/
theorem not_recordsOf_run_enter :
    Telnet.recordsOf 0xEF
        (run step [.sendData [0x7D, 0x0D]] (init Tn3270Handler.smallHandler)).written ≠
      records [.sendData [0x7D, 0x0D]] (init Tn3270Handler.smallHandler) := by
  decide

end DataSender

end Pure3270
