import Pure3270.Foundations.Runs
import Pure3270.Trace.LiveSession
import Pure3270.Trace.Replayer

/-!
# Replayed sessions

A replay and the session that its trace shows, side by side.  The replayer
leaves the Telnet layer out: it knows commands by the first byte of a record
only, and what else is in a record goes to its parser, marks and doubled bytes
included, whoever sent it.  So the two show the same as long as every record is
passed over by both, or holds nothing but what the parser of the session gets of
it.
-/

namespace Pure3270

open Foundations

/-- A replayer and the handler of the session it replays. -/
structure ReplayedSession where
  replayer : Replayer
  handler : Tn3270Handler

namespace ReplayedSession

open DataStreamParser (SameButRecord ignoredTypes)
open Tn3270Handler (Takes3270 LeavesOut ShowsSame telnetData afterTelnet)

variable (collaborators : Collaborators)

/-- Both before the first record, with screens of the same size. -/
def start (rows cols : Nat) (rows_pos : 0 < rows) (cols_pos : 0 < cols) :
    ReplayedSession where
  replayer := .init rows cols rows_pos cols_pos
  handler := .init (.init (.init rows cols rows_pos cols_pos 0x40 "cp037") none true
    .mode12Bit)

def step (record : TraceRecord) (session : ReplayedSession) : ReplayedSession where
  replayer := session.replayer.replayRecord record.data
  handler := session.handler.receiveRecord collaborators record

theorem run_replayer (records : List TraceRecord) (session : ReplayedSession) :
    (run (step collaborators) records session).replayer =
      records.foldl (fun reached record => reached.replayRecord record.data)
        session.replayer := by
  induction records generalizing session with
  | nil => rfl
  | cons record records ih => exact ih _

theorem run_handler (records : List TraceRecord) (session : ReplayedSession) :
    (run (step collaborators) records session).handler =
      session.handler.liveSession collaborators records := by
  induction records generalizing session with
  | nil => rfl
  | cons record records ih =>
      rw [run, ih]
      unfold step Tn3270Handler.receiveRecord Tn3270Handler.liveSession
      cases direction : record.direction with
      | fromHost => simp [direction]
      | toHost => simp [direction]

/-- The screens are the same, and nothing that the replayer had parsed for it holds an
end of a record or a doubled IAC. -/
structure Agrees (session : ReplayedSession) : Prop where
  screen : session.replayer.parser.screen = session.handler.parser.screen
  undelimited : ∀ call ∈ session.replayer.visibleCalls,
    ¬ [0xFF, 0xEF] <:+: call.1 ∧ ¬ [0xFF, 0xFF] <:+: call.1

/-- What the client sent does not change the replayed screen. -/
def KeepsClientOut (record : TraceRecord) (session : ReplayedSession) : Prop :=
  record.direction = .toHost →
    (session.replayer.replayRecord record.data).parser.screen =
      session.replayer.parser.screen

/-- The replay of a trace agrees with the session, at the end and after every
record. -/
structure ReplayAgrees (lines : List (List Char)) (rows cols : Nat)
    (rows_pos : 0 < rows) (cols_pos : 0 < cols) : Prop where
  screen : ((start rows cols rows_pos cols_pos).replayer.replay lines).parser.screen =
    ((start rows cols rows_pos cols_pos).handler.liveSession collaborators
      (parseTrace lines)).parser.screen
  throughout : Always (step collaborators) Agrees (parseTrace lines)
    (start rows cols rows_pos cols_pos)
  client : Along (step collaborators) KeepsClientOut (parseTrace lines)
    (start rows cols rows_pos cols_pos)

/-- Nothing is taken off either end of the body. -/
def Unpadded (body : List UInt8) : Prop :=
  body.getLast? ≠ some 0x19 ∧ body.head? ≠ some 0xF5 ∧
    ¬ [0x00, 0x00, 0x00, 0x00] <+: body

instance (body : List UInt8) : Decidable (Unpadded body) := by
  unfold Unpadded
  infer_instance

/-- A record with a header that both take off and nothing else. -/
structure SameEnvelope (record : List UInt8) (session : ReplayedSession) : Prop where
  envelope : Replayer.IsEnvelope session.replayer.tn3270eActive record
  header : ∃ header, Tn3270eHeader.fromBytes record = some header ∧
    ¬ Session.GivesUp header session.handler.session.negotiator
  body : Unpadded (record.drop 5) ∨
    record.take 5 = [0x00, 0x00, 0x00, 0x00, 0xF5] ∧
      (record.drop 5).getLast? ≠ some 0x19

/-- A record in which neither finds a header. -/
structure SamePlain (record : List UInt8) (session : ReplayedSession) : Prop where
  plain : ¬ Replayer.IsEnvelope session.replayer.tn3270eActive record
  noHeader : ∀ header, Tn3270eHeader.fromBytes record = some header →
    header.dataType ∉ Tn3270eHeader.tn3270eDataTypes
  nonempty : record ≠ []
  body : Unpadded record

/-- A record without any IAC, of which both parsers get the same. -/
structure HandsAlike (record : List UInt8) (session : ReplayedSession) : Prop where
  noIac : 0xFF ∉ record
  whole : session.handler.telnet.telnetBuffer = []
  takes : Takes3270 record session.handler
  body : SameEnvelope record session ∨ SamePlain record session

/-- A record is replayed faithfully if it is passed over as the session does, or holds
what the parser of the session gets and nothing else. -/
def Faithful (record : TraceRecord) (session : ReplayedSession) : Prop :=
  match record.direction with
  | .toHost => session.replayer.PassesOver record.data
  | .fromHost =>
      session.replayer.PassesOver record.data ∧
          LeavesOut collaborators record.data session.handler ∨
        HandsAlike record.data session

/-- The parsers differ in what cannot be seen. -/
structure Linked (session : ReplayedSession) : Prop where
  parser : SameButRecord session.replayer.parser session.handler.parser
  noPrinter : session.handler.hasPrinterBuffer = false
  undelimited : ∀ call ∈ session.replayer.visibleCalls,
    ¬ [0xFF, 0xEF] <:+: call.1 ∧ ¬ [0xFF, 0xFF] <:+: call.1

variable {session : ReplayedSession} {record : List UInt8}

theorem parse_unknownType {dataType : UInt8}
    (unknown : dataType ∉ Tn3270eHeader.tn3270eDataTypes) (data : List UInt8)
    (parser : DataStreamParser) :
    DataStreamParser.parse data dataType parser =
      DataStreamParser.parse data 0x00 parser := by
  have listed : Tn3270eHeader.tn3270eDataTypes =
      [0x00, 0x01] ++ ([0x02, 0x03, 0x04, 0x05, 0x06, 0x07, 0x08, 0x09] ++ [0x0A]) := rfl
  have taken : DataStreamParser.takesFor3270 dataType parser = true := by
    unfold DataStreamParser.takesFor3270
    have other : dataType ≠ 0x01 := by
      rintro rfl
      exact unknown (by decide)
    have unlisted : dataType ∉ ([0x02, 0x03, 0x04, 0x05, 0x06, 0x07, 0x08, 0x09] :
        List UInt8) := fun member => unknown
      (listed ▸ List.mem_append_right _ (List.mem_append_left _ member))
    rw [decide_eq_false other, decide_eq_true unlisted]
    rfl
  exact DataStreamParser.parse_of_taken taken data

theorem HandsAlike.telnet (alike : HandsAlike record session) :
    ∃ telnet : TelnetStream, telnet.telnetBuffer = [] ∧
      session.handler.telnetData record = record ∧
      session.handler.afterTelnet collaborators record =
        { session.handler with telnet } := by
  have items : ∀ item ∈ record.map TelnetItem.data, item.OfRecord 0xEF := by
    intro item member
    obtain ⟨byte, -, rfl⟩ := List.mem_map.mp member
    exact .inl ⟨byte, rfl⟩
  have scanned : Telnet.tokenizer.scan (session.handler.telnet.telnetBuffer ++ record) =
      ((record.map TelnetItem.data).map TelnetItem.event, []) := by
    rw [alike.whole, List.nil_append]
    have encoded : TelnetStream.encodeTelnet (record.map TelnetItem.data) = record :=
      (HostRecord.encode_data record).trans (Telnet.escape_of_not_mem alike.noIac)
    have formed : ∀ item ∈ record.map TelnetItem.data,
        item.WellFormed ∧ item.Transparent := by
      intro item member
      obtain ⟨byte, -, rfl⟩ := List.mem_map.mp member
      exact ⟨trivial, trivial⟩
    have scan := TelnetStream.scan_encodeTelnet (fun item member => (formed item member).1)
      (fun item member => (formed item member).2)
    rwa [encoded] at scan
  obtain ⟨telnet, buffer, processed⟩ := Tn3270Handler.processTelnetStream_run
    collaborators (by decide : (0xEF : UInt8) ∈ [0xEF, 0x19]) items scanned
  rw [Tn3270Handler.dataOf_data,
    Tn3270Handler.processTelnetStream_eq collaborators] at processed
  injection processed with yielded after
  injection yielded with data
  exact ⟨telnet, buffer, data, after⟩

theorem HandsAlike.received (alike : HandsAlike record session) :
    ∃ telnet : TelnetStream,
      finalState (Tn3270Handler.receivePart collaborators record session.handler) =
        finalState (Tn3270Handler.handleTn3270Mode record
          { session.handler with telnet }) := by
  obtain ⟨telnet, buffer, data, after⟩ := alike.telnet collaborators
  have goesOn : ¬ Tn3270Handler.Waits collaborators record session.handler := by
    rintro ⟨-, waiting⟩
    rw [after] at waiting
    exact waiting buffer
  have takes : Takes3270 (session.handler.telnetData record)
      (session.handler.afterTelnet collaborators record) := by
    rw [data, after]
    exact alike.takes
  refine ⟨telnet, ?_⟩
  rw [Tn3270Handler.receivePart_takes collaborators goesOn takes, data, after]

/-- The handler has its parser called as the replayer calls its own. -/
theorem SameEnvelope.handled (same : SameEnvelope record session) (telnet : TelnetStream) :
    let handler := finalState (Tn3270Handler.handleTn3270Mode record
      { session.handler with telnet })
    handler.parser = finalState (DataStreamParser.parse (record.drop 5)
        (record.headD 0x00) session.handler.parser) ∧
      handler.hasPrinterBuffer = session.handler.hasPrinterBuffer := by
  obtain ⟨header, found, goesOn⟩ := same.header
  have long := same.envelope.2.1
  have five : (record.take 5).length = 5 := List.length_take_of_le long
  have split : record.take 5 ++ record.drop 5 = record := List.take_append_drop 5 record
  have foundHere : Tn3270eHeader.fromBytes (record.take 5) = some header := by
    rwa [← Tn3270eHeader.fromBytes_append five (record.drop 5), split]
  have kind : record.headD 0x00 = header.dataType := by
    have first := Tn3270eHeader.dataType_eq_head foundHere
    rw [List.head?_take, if_neg (by decide)] at first
    rw [List.headD_eq_head?_getD, first]
    rfl
  have known : header.dataType ∈ Tn3270eHeader.tn3270eDataTypes := by
    rw [← kind]
    exact same.envelope.2.2
  have body : Tn3270Handler.handedOver (record.take 5) header (record.drop 5)
      { session.handler with telnet } = (record.drop 5, record.drop 5) := by
    rw [Tn3270Handler.handedOver_eq_iff foundHere]
    rcases same.body with ⟨last, first, zeros⟩ | ⟨fixture, last⟩
    · exact ⟨last, .inr ⟨first, .inr zeros⟩⟩
    · exact ⟨last, .inl fixture⟩
  have goesOnHere : ¬ Session.GivesUp header
      ({ session.handler with telnet } : Tn3270Handler).session.negotiator := goesOn
  obtain ⟨after, -, handled⟩ := Tn3270Handler.handleTn3270Mode_run five foundHere
    known goesOnHere (record.drop 5)
  rw [split, body] at handled
  rw [handled, kind, Tn3270Handler.finalState_handOver]
  exact ⟨rfl, rfl⟩

theorem SamePlain.handled (same : SamePlain record session) (telnet : TelnetStream) :
    let handler := finalState (Tn3270Handler.handleTn3270Mode record
      { session.handler with telnet })
    handler.parser =
        finalState (DataStreamParser.parse record 0x00 session.handler.parser) ∧
      handler.hasPrinterBuffer = session.handler.hasPrinterBuffer := by
  have kept := (Tn3270Handler.strip_eq_self_iff record).mpr same.body
  have ends := (Tn3270Handler.rstripEor_eq_self_iff record).mpr same.body.1
  have run := fun dataType =>
    Tn3270Handler.parseRecord_eq (ends.symm ▸ same.nonempty) 0 dataType
  simp only [List.drop_zero, kept] at run
  unfold Tn3270Handler.handleTn3270Mode
  cases found : Tn3270eHeader.fromBytes record with
  | none =>
      simp only
      rw [congrFun (run _) _, Tn3270Handler.finalState_handOver]
      exact ⟨rfl, rfl⟩
  | some header =>
      have unknown := same.noHeader header found
      simp only
      rw [if_pos unknown, congrFun (run _) _, Tn3270Handler.finalState_handOver]
      exact ⟨congrArg finalState (parse_unknownType unknown record _), rfl⟩

/-- What both parsers get of a record without IAC is the same. -/
theorem HandsAlike.parsed (alike : HandsAlike record session) :
    ∃ body dataType,
      (∀ byte ∈ body, byte ∈ record) ∧
      session.replayer.replayRecord record =
        { session.replayer with
          parser := finalState
            (DataStreamParser.parse body dataType session.replayer.parser)
          parseCalls := session.replayer.parseCalls ++ [(body, dataType)] } ∧
      let handler :=
        finalState (Tn3270Handler.receivePart collaborators record session.handler)
      handler.parser =
          finalState (DataStreamParser.parse body dataType session.handler.parser) ∧
        handler.hasPrinterBuffer = session.handler.hasPrinterBuffer := by
  obtain ⟨telnet, received⟩ := alike.received collaborators
  rw [received]
  rcases alike.body with envelope | plain
  · refine ⟨record.drop 5, record.headD 0x00, fun byte => List.mem_of_mem_drop, ?_,
      envelope.handled telnet⟩
    exact Replayer.replayRecord_envelope envelope.envelope
  · refine ⟨record, 0x00, fun byte member => member, ?_, plain.handled telnet⟩
    apply Replayer.replayRecord_plain plain.plain
    intro iac
    exact alike.noIac (List.mem_of_head? iac)

theorem HandsAlike.linked (alike : HandsAlike record session) (linked : Linked session)
    (offset : Nat) : Linked (step collaborators ⟨.fromHost, offset, record⟩ session) := by
  obtain ⟨body, dataType, within, replayed, parser, printer⟩ := alike.parsed collaborators
  have undelimited : ∀ marks : List UInt8, 0xFF ∈ marks → ¬ marks <:+: body :=
    fun marks iac part => alike.noIac (within _ (part.subset iac))
  have handler : (step collaborators ⟨.fromHost, offset, record⟩ session).handler =
    finalState (Tn3270Handler.receivePart collaborators record session.handler) := rfl
  have replayer : (step collaborators ⟨.fromHost, offset, record⟩ session).replayer =
    session.replayer.replayRecord record := rfl
  constructor
  · rw [handler, parser, replayer, replayed]
    exact linked.parser.parse body dataType
  · rw [handler, printer]
    exact linked.noPrinter
  · rw [replayer, replayed]
    intro call member
    obtain ⟨made, visible⟩ := List.mem_filter.mp member
    rcases List.mem_append.mp made with earlier | last
    · exact linked.undelimited call (List.mem_filter.mpr ⟨earlier, visible⟩)
    · rw [List.mem_singleton.mp last]
      exact ⟨undelimited _ List.mem_cons_self, undelimited _ List.mem_cons_self⟩

theorem Linked.kept (linked : Linked session) {record : TraceRecord}
    (faithful : Faithful collaborators record session) :
    Linked (step collaborators record session) := by
  obtain ⟨direction, offset, data⟩ := record
  cases direction with
  | toHost =>
      have passes : session.replayer.PassesOver data := faithful
      obtain ⟨same, calls⟩ := passes.unseen
      exact
        { parser := same.symm.trans linked.parser
          noPrinter := linked.noPrinter
          undelimited := fun call member => linked.undelimited call (calls ▸ member) }
  | fromHost =>
      rcases faithful with ⟨passes, leavesOut⟩ | alike
      · obtain ⟨same, calls⟩ := passes.unseen
        have shows := leavesOut.showsSame collaborators
        exact
          { parser := (same.symm.trans linked.parser).trans shows.parser
            noPrinter := shows.hasPrinterBuffer.trans linked.noPrinter
            undelimited := fun call member => linked.undelimited call (calls ▸ member) }
      · exact alike.linked collaborators linked offset

theorem Linked.agrees (linked : Linked session) : Agrees session where
  screen := linked.parser.screen.symm
  undelimited := linked.undelimited

theorem start_linked (rows cols : Nat) (rows_pos : 0 < rows) (cols_pos : 0 < cols) :
    Linked (start rows cols rows_pos cols_pos) where
  parser := ⟨_, _, _, _, _, rfl⟩
  noPrinter := rfl
  undelimited := by
    intro call member
    cases member

theorem keepsClientOut_of_faithful {records : List TraceRecord}
    {session : ReplayedSession}
    (faithful : Along (step collaborators) (Faithful collaborators) records session) :
    Along (step collaborators) KeepsClientOut records session := by
  induction records generalizing session with
  | nil => trivial
  | cons record records ih =>
      refine ⟨?_, ih faithful.2⟩
      intro sent
      have here := faithful.1
      unfold Faithful at here
      rw [sent] at here
      have passes : session.replayer.PassesOver record.data := here
      exact passes.unseen.1.screen

/-- A replay whose records are all faithful agrees with the session. -/
theorem replayAgrees_of_faithful (lines : List (List Char)) {rows cols : Nat}
    (rows_pos : 0 < rows) (cols_pos : 0 < cols)
    (faithful : Along (step collaborators) (Faithful collaborators) (parseTrace lines)
      (start rows cols rows_pos cols_pos)) :
    ReplayAgrees collaborators lines rows cols rows_pos cols_pos := by
  have linked : Always (step collaborators) Linked (parseTrace lines)
      (start rows cols rows_pos cols_pos) :=
    always_of_along (fun here met => here.kept collaborators met)
      (start_linked rows cols rows_pos cols_pos) faithful
  constructor
  · have last := linked.last.agrees.screen
    rw [run_replayer, run_handler] at last
    exact last
  · exact linked.mono Linked.agrees
  · exact keepsClientOut_of_faithful collaborators faithful

/-- A negotiation, a write with its end in a record of its own, and a response of the
client. -/
theorem replayAgrees_small :
    ReplayAgrees Tn3270Handler.quietCollaborators
      ["< 0x0   fffd28".toList, "> 0x0   fffb28".toList,
        "< 0x0   0000000001f1c3c1".toList, "< 0x0   ffef".toList,
        "> 0x0   020000000100ffef".toList] 2 3 (Nat.succ_pos 1) (Nat.succ_pos 2) := by
  apply replayAgrees_of_faithful
  have records : parseTrace ["< 0x0   fffd28".toList, "> 0x0   fffb28".toList,
      "< 0x0   0000000001f1c3c1".toList, "< 0x0   ffef".toList,
      "> 0x0   020000000100ffef".toList] =
    [⟨.fromHost, 0, [0xFF, 0xFD, 0x28]⟩, ⟨.toHost, 0, [0xFF, 0xFB, 0x28]⟩,
      ⟨.fromHost, 0, [0x00, 0x00, 0x00, 0x00, 0x01, 0xF1, 0xC3, 0xC1]⟩,
      ⟨.fromHost, 0, [0xFF, 0xEF]⟩,
      ⟨.toHost, 0, [0x02, 0x00, 0x00, 0x00, 0x01, 0x00, 0xFF, 0xEF]⟩] := by
    decide +kernel
  rw [records]
  refine ⟨?_, ?_, ?_, ?_, ?_, trivial⟩
  · exact .inl ⟨.inl rfl, .inr ⟨⟨by decide +kernel, by decide +kernel⟩,
      .inl (by decide +kernel)⟩⟩
  · exact .inl rfl
  · refine .inr ⟨by decide, by decide +kernel, ⟨by decide +kernel, by decide +kernel⟩,
      .inl ⟨by decide +kernel, ⟨⟨0x00, 0x00, 0x00, 1⟩, by decide, ?_⟩,
        .inl (by decide)⟩⟩
    rintro ⟨-, request, limit, waiting, -⟩
    cases waiting
  · exact .inl ⟨.inl rfl, .inr ⟨⟨by decide +kernel, by decide +kernel⟩,
      .inl (by decide +kernel)⟩⟩
  · exact .inr (by decide +kernel)

/-- The end of a record is shown when it comes with the record. -/
theorem not_replayAgrees_eor :
    (parseTrace ["< 0x0   f1c3c1ffef".toList]).flatMap (·.data) =
        HostRecord.encode 0xEF ⟨none, [0xF1, 0xC3, 0xC1]⟩ ∧
      ¬ ReplayAgrees Tn3270Handler.quietCollaborators ["< 0x0   f1c3c1ffef".toList] 2 3
        (Nat.succ_pos 1) (Nat.succ_pos 2) := by
  constructor
  · decide +kernel
  · intro agrees
    have stored := congrArg ScreenBuffer.buffer agrees.screen
    revert stored
    decide +kernel

end ReplayedSession

end Pure3270
