import Pure3270.Protocol.ParserErrors
import Pure3270.Protocol.Tn3270Handler

/-!
# From the handler to the parser

A record with a header is handed to the parser without its header.  Bytes at
both ends of the body that look like padding, like a write command or like an
end of record are taken off too, wherever they come from.  An error of the
parser takes the place of the payload.
-/

namespace Pure3270

open Foundations

namespace Tn3270Handler

theorem rstripEor_eq_self_iff (data : List UInt8) :
    rstripEor data = data ↔ data.getLast? ≠ some 0x19 := by
  unfold rstripEor
  rw [List.rdropWhile_eq_self_iff]
  constructor
  · intro kept last
    obtain ⟨front, rfl⟩ := List.getLast?_eq_some_iff.mp last
    exact kept (by simp) (by simp)
  · intro kept nonempty eor
    apply kept
    rw [List.getLast?_eq_some_getLast nonempty, of_decide_eq_true eor]

theorem rstripEor_cons {byte : UInt8} (other : byte ≠ 0x19) (data : List UInt8) :
    rstripEor (byte :: data) = byte :: rstripEor data := by
  induction data using List.reverseRecOn with
  | nil =>
      have kept : ¬ decide (byte = 0x19) = true := by simpa using other
      unfold rstripEor
      rw [List.rdropWhile_singleton, if_neg kept, List.rdropWhile_nil]
  | append_singleton data last ih =>
      unfold rstripEor at ih ⊢
      rw [← List.cons_append, List.rdropWhile_concat, List.rdropWhile_concat, ih]
      split
      · rfl
      · rfl

/-- What is taken off the end of a record is taken off its body. -/
theorem drop_rstripEor (head body : List UInt8) :
    (rstripEor (head ++ body)).drop head.length = rstripEor body := by
  induction body using List.reverseRecOn with
  | nil =>
      have short : (rstripEor (head ++ [])).length ≤ head.length := by
        rw [List.append_nil]
        exact (List.rdropWhile_prefix _ _).length_le
      rw [List.drop_eq_nil_of_le short]
      rfl
  | append_singleton body last ih =>
      unfold rstripEor at ih ⊢
      rw [← List.append_assoc, List.rdropWhile_concat, List.rdropWhile_concat]
      split
      · exact ih
      · rw [List.append_assoc, List.drop_left]

theorem stripF5_suffix (data : List UInt8) : stripF5 data <:+ data := by
  unfold stripF5
  split
  · exact List.suffix_cons _ _
  · exact List.suffix_refl _

theorem stripF5_eq_self_iff (data : List UInt8) :
    stripF5 data = data ↔ data.head? ≠ some 0xF5 := by
  unfold stripF5
  split
  · simp
  · rename_i other
    constructor
    · intro _ first
      obtain ⟨rest, rfl⟩ := List.head?_eq_some_iff.mp first
      exact other rest rfl
    · exact fun _ => rfl

theorem stripZeroBlocks_suffix (data : List UInt8) :
    stripZeroBlocks data <:+ data := by
  induction data using stripZeroBlocks.induct with
  | case1 rest ih => exact ih.trans ⟨[0x00, 0x00, 0x00, 0x00], rfl⟩
  | case2 data other =>
      rw [stripZeroBlocks]
      exact other

theorem stripZeroBlocks_eq_self_iff (data : List UInt8) :
    stripZeroBlocks data = data ↔ ¬ [0x00, 0x00, 0x00, 0x00] <+: data := by
  constructor
  · rintro same ⟨rest, rfl⟩
    have shorter := (stripZeroBlocks_suffix rest).length_le
    have longer := congrArg List.length same
    simp only [List.cons_append, List.nil_append, stripZeroBlocks,
      List.length_cons] at longer
    omega
  · intro other
    unfold stripZeroBlocks
    split
    · exact absurd ⟨_, rfl⟩ other
    · rfl

private theorem eq_of_shrunk {shrunk body : List UInt8}
    (front : shrunk <+: body ∨ shrunk <:+ body) (back : body <:+ shrunk) :
    shrunk = body := by
  rcases front with front | front
  · exact front.eq_of_length (le_antisymm front.length_le back.length_le)
  · exact front.eq_of_length (le_antisymm front.length_le back.length_le)

theorem prefix_of_rstripEor (data : List UInt8) : rstripEor data <+: data :=
  List.rdropWhile_prefix _ _

/-- What the general path hands on is the body exactly when none of the three
applies to it. -/
theorem strip_eq_self_iff (body : List UInt8) :
    stripF5 (stripZeroBlocks (rstripEor body)) = body ↔
      body.getLast? ≠ some 0x19 ∧ body.head? ≠ some 0xF5 ∧
        ¬ [0x00, 0x00, 0x00, 0x00] <+: body := by
  rw [← rstripEor_eq_self_iff, ← stripF5_eq_self_iff,
    ← stripZeroBlocks_eq_self_iff]
  constructor
  · intro same
    have ends : rstripEor body = body := by
      apply eq_of_shrunk (.inl (prefix_of_rstripEor body))
      have shrunk := (stripF5_suffix _).trans
        (stripZeroBlocks_suffix (rstripEor body))
      rwa [same] at shrunk
    rw [ends] at same
    have zeros : stripZeroBlocks body = body := by
      apply eq_of_shrunk (.inr (stripZeroBlocks_suffix body))
      have shrunk := stripF5_suffix (stripZeroBlocks body)
      rwa [same] at shrunk
    rw [zeros] at same
    exact ⟨ends, same, zeros⟩
  · rintro ⟨ends, first, zeros⟩
    rw [ends, zeros, first]

/-- The same for the path of printer data. -/
theorem stripEnds_eq_self_iff (body : List UInt8) :
    stripF5 (rstripEor body) = body ↔
      body.getLast? ≠ some 0x19 ∧ body.head? ≠ some 0xF5 := by
  rw [← rstripEor_eq_self_iff, ← stripF5_eq_self_iff]
  constructor
  · intro same
    have ends : rstripEor body = body := by
      apply eq_of_shrunk (.inl (prefix_of_rstripEor body))
      have shrunk := stripF5_suffix (rstripEor body)
      rwa [same] at shrunk
    rw [ends] at same
    exact ⟨ends, same⟩
  · rintro ⟨ends, first⟩
    rw [ends, first]

/-- The handler after a call of the parser. -/
def afterParse (data : List UInt8) (dataType : UInt8) (handler : Tn3270Handler) :
    Tn3270Handler :=
  { handler with
    parser := finalState (DataStreamParser.parse data dataType handler.parser)
    parseCalls := handler.parseCalls ++ [(data, dataType)] }

/-- The parser is called for some data, and the value is returned unless it raises. -/
def handOver (value : Option (List UInt8)) (data : List UInt8) (dataType : UInt8) :
    HandlerM (Option (List UInt8)) := do
  callParse data dataType
  return value

variable {value : Option (List UInt8)} {data : List UInt8} {dataType : UInt8}
  {handler : Tn3270Handler}

theorem handOver_parses (parses : DataStreamParser.Parses data dataType handler.parser) :
    handOver value data dataType handler = .ok value (handler.afterParse data dataType) := by
  unfold handOver
  cases outcome : DataStreamParser.parse data dataType handler.parser with
  | ok exit after =>
      have called : callParse data dataType handler =
          .ok () (handler.afterParse data dataType) := by
        simp only [callParse, afterParse, outcome, finalState_ok]
      rw [run_bind_ok called]
      rfl
  | error fault after => exact absurd outcome (parses fault after)

theorem handOver_returned {result : Option (List UInt8)} {after : Tn3270Handler}
    (returned : handOver value data dataType handler = .ok result after) :
    DataStreamParser.Parses data dataType handler.parser := by
  intro fault parser raised
  unfold handOver at returned
  have called : callParse data dataType handler =
      .error fault (handler.afterParse data dataType) := by
    simp only [callParse, afterParse, raised, finalState_error]
  rw [run_bind_error called] at returned
  cases returned

/-- Whether the parser raises or not, it has been called. -/
theorem finalState_handOver :
    finalState (handOver value data dataType handler) = handler.afterParse data dataType := by
  unfold handOver
  cases outcome : DataStreamParser.parse data dataType handler.parser with
  | ok exit after =>
      have called : callParse data dataType handler =
          .ok () (handler.afterParse data dataType) := by
        simp only [callParse, afterParse, outcome, finalState_ok]
      rw [run_bind_ok called]
      rfl
  | error fault after =>
      have called : callParse data dataType handler =
          .error fault (handler.afterParse data dataType) := by
        simp only [callParse, afterParse, outcome, finalState_error]
      rw [run_bind_error called]
      rfl

theorem parsePrinterRecord_eq (processedData : List UInt8) (headerLen : Nat)
    (dataType : UInt8) :
    parsePrinterRecord processedData headerLen dataType =
      handOver (some (stripF5 ((rstripEor processedData).drop headerLen)))
        (stripF5 (processedData.drop headerLen)) dataType := rfl

theorem parseRecord_eq {processedData : List UInt8}
    (nonempty : rstripEor processedData ≠ []) (headerLen : Nat) (dataType : UInt8) :
    parseRecord processedData headerLen dataType =
      handOver (some (stripF5 (stripZeroBlocks ((rstripEor processedData).drop headerLen))))
        (stripF5 (stripZeroBlocks ((rstripEor processedData).drop headerLen))) dataType :=
  if_neg nonempty

/-- The handler after a header that the negotiator has taken. -/
def afterHeader (header : Tn3270eHeader) (session : Session)
    (handler : Tn3270Handler) : Tn3270Handler :=
  { handler with
    sequence := handler.sequence.receiveSequenceNumber header.seqNumber.toNat
    session }

theorem receiveHeader_gaveUp {header : Tn3270eHeader} {handler : Tn3270Handler}
    (gaveUp : Session.GivesUp header handler.session.negotiator) :
    ∃ after, receiveHeader header handler = .error Session.negativeResponse after := by
  rcases Session.handleTn3270eResponse_run header handler.session with
    ⟨-, session, raised⟩ | ⟨goesOn, -⟩
  · refine ⟨handler.afterHeader header session, ?_⟩
    show onSession _ _ = _
    unfold onSession
    rw [raised]
    rfl
  · exact absurd gaveUp goesOn

theorem receiveHeader_goesOn {header : Tn3270eHeader} {handler : Tn3270Handler}
    (goesOn : ¬ Session.GivesUp header handler.session.negotiator) :
    ∃ session, Session.handleTn3270eResponse header handler.session =
        .ok () session ∧
      receiveHeader header handler = .ok () (handler.afterHeader header session) := by
  rcases Session.handleTn3270eResponse_run header handler.session with
    ⟨gaveUp, -⟩ | ⟨-, session, returned⟩
  · exact absurd gaveUp goesOn
  · refine ⟨session, returned, ?_⟩
    show onSession _ _ = _
    unfold onSession
    rw [returned]
    rfl

/-- What the parser gets of a record and what is returned. -/
def handedOver (headerBytes : List UInt8) (header : Tn3270eHeader)
    (body : List UInt8) (handler : Tn3270Handler) : List UInt8 × List UInt8 :=
  if PrinterRecord header handler then (stripF5 body, stripF5 (rstripEor body))
  else if headerBytes = [0x00, 0x00, 0x00, 0x00, 0xF5] then
    (rstripEor body, rstripEor body)
  else
    (stripF5 (stripZeroBlocks (rstripEor body)),
      stripF5 (stripZeroBlocks (rstripEor body)))

theorem getFixtureHeaderLen_header {headerBytes : List UInt8}
    (five : headerBytes.length = 5) (body : List UInt8) (defaultLen : Nat) :
    getFixtureHeaderLen (headerBytes ++ body) defaultLen =
      if headerBytes = [0x00, 0x00, 0x00, 0x00, 0xF5] then 4 else defaultLen := by
  have same : [0x00, 0x00, 0x00, 0x00, 0xF5] <+: headerBytes ++ body ↔
      headerBytes = [0x00, 0x00, 0x00, 0x00, 0xF5] := by
    constructor
    · rintro ⟨rest, joined⟩
      exact (List.append_inj joined five.symm).1.symm
    · rintro rfl
      exact List.prefix_append _ _
  unfold getFixtureHeaderLen
  simp only [same]

section Header

variable {headerBytes : List UInt8} {header : Tn3270eHeader}

theorem not_printerRecord_fixture
    (found : Tn3270eHeader.fromBytes headerBytes = some header)
    (fixture : headerBytes = [0x00, 0x00, 0x00, 0x00, 0xF5]) :
    ¬ PrinterRecord header handler := by
  rintro ⟨printer, -⟩
  have first := Tn3270eHeader.dataType_eq_head found
  rw [fixture] at first
  injection first with zero
  rw [← zero] at printer
  exact absurd printer (by decide)

theorem rstripEor_header_ne_nil
    (found : Tn3270eHeader.fromBytes headerBytes = some header)
    (known : header.dataType ∈ Tn3270eHeader.tn3270eDataTypes)
    (body : List UInt8) : rstripEor (headerBytes ++ body) ≠ [] := by
  obtain ⟨rest, rfl⟩ :=
    List.head?_eq_some_iff.mp (Tn3270eHeader.dataType_eq_head found)
  have other : header.dataType ≠ 0x19 := by
    intro same
    rw [same] at known
    exact absurd known (by decide)
  rw [List.cons_append, rstripEor_cons other]
  exact List.cons_ne_nil _ _

theorem handleTn3270Mode_run (five : headerBytes.length = 5)
    (found : Tn3270eHeader.fromBytes headerBytes = some header)
    (known : header.dataType ∈ Tn3270eHeader.tn3270eDataTypes)
    (goesOn : ¬ Session.GivesUp header handler.session.negotiator)
    (body : List UInt8) :
    ∃ session, Session.handleTn3270eResponse header handler.session =
        .ok () session ∧
      handleTn3270Mode (headerBytes ++ body) handler =
        handOver (some (handedOver headerBytes header body handler).2)
          (handedOver headerBytes header body handler).1 header.dataType
          (handler.afterHeader header session) := by
  obtain ⟨session, response, received⟩ := receiveHeader_goesOn goesOn
  refine ⟨session, response, ?_⟩
  have nonempty := rstripEor_header_ne_nil found known body
  have dropped := drop_rstripEor headerBytes body
  unfold handleTn3270Mode
  rw [Tn3270eHeader.fromBytes_append five, found]
  simp only
  rw [if_neg (not_not_intro known), run_bind_ok received, run_get_bind,
    getFixtureHeaderLen_header five]
  unfold handedOver
  by_cases printer : PrinterRecord header handler
  · have plain : headerBytes ≠ [0x00, 0x00, 0x00, 0x00, 0xF5] :=
      fun fixture => not_printerRecord_fixture found fixture printer
    have printerNext : PrinterRecord header (handler.afterHeader header session) :=
      printer
    rw [if_pos printer, if_neg plain]
    rw [if_pos printerNext, parsePrinterRecord_eq, ← five, dropped, List.drop_left]
  · have printerNext : ¬ PrinterRecord header (handler.afterHeader header session) :=
      printer
    rw [if_neg printer, if_neg printerNext]
    rw [parseRecord_eq nonempty]
    by_cases fixture : headerBytes = [0x00, 0x00, 0x00, 0x00, 0xF5]
    · have split : headerBytes ++ body = [0x00, 0x00, 0x00, 0x00] ++ 0xF5 :: body := by
        rw [fixture]
        rfl
      have kept : (rstripEor (headerBytes ++ body)).drop 4 =
          0xF5 :: rstripEor body := by
        rw [split]
        exact (drop_rstripEor [0x00, 0x00, 0x00, 0x00] (0xF5 :: body)).trans
          (rstripEor_cons (by decide) body)
      rw [if_pos fixture, if_pos fixture, kept]
      rfl
    · rw [if_neg fixture, if_neg fixture, ← five, dropped]

/-- A header that makes the negotiator give up keeps the record from the
parser. -/
theorem handleTn3270Mode_gaveUp (five : headerBytes.length = 5)
    (found : Tn3270eHeader.fromBytes headerBytes = some header)
    (known : header.dataType ∈ Tn3270eHeader.tn3270eDataTypes)
    (gaveUp : Session.GivesUp header handler.session.negotiator)
    (body : List UInt8) :
    ∃ after, handleTn3270Mode (headerBytes ++ body) handler =
      .error Session.negativeResponse after := by
  obtain ⟨after, raised⟩ := receiveHeader_gaveUp gaveUp
  refine ⟨after, ?_⟩
  unfold handleTn3270Mode
  rw [Tn3270eHeader.fromBytes_append five, found]
  simp only
  rw [if_neg (not_not_intro known)]
  exact run_bind_error raised

theorem handedOver_eq_iff
    (found : Tn3270eHeader.fromBytes headerBytes = some header)
    (body : List UInt8) :
    handedOver headerBytes header body handler = (body, body) ↔
      body.getLast? ≠ some 0x19 ∧
        (headerBytes = [0x00, 0x00, 0x00, 0x00, 0xF5] ∨
          body.head? ≠ some 0xF5 ∧
            (PrinterRecord header handler ∨
              ¬ [0x00, 0x00, 0x00, 0x00] <+: body)) := by
  unfold handedOver
  by_cases printer : PrinterRecord header handler
  · have plain : headerBytes ≠ [0x00, 0x00, 0x00, 0x00, 0xF5] :=
      fun fixture => not_printerRecord_fixture found fixture printer
    rw [if_pos printer, Prod.mk.injEq, stripEnds_eq_self_iff, stripF5_eq_self_iff]
    constructor
    · rintro ⟨-, last, first⟩
      exact ⟨last, .inr ⟨first, .inl printer⟩⟩
    · rintro ⟨last, fixture | ⟨first, -⟩⟩
      · exact absurd fixture plain
      · exact ⟨first, last, first⟩
  · rw [if_neg printer]
    by_cases fixture : headerBytes = [0x00, 0x00, 0x00, 0x00, 0xF5]
    · rw [if_pos fixture, Prod.mk.injEq, and_self, rstripEor_eq_self_iff]
      constructor
      · exact fun last => ⟨last, .inl fixture⟩
      · exact And.left
    · rw [if_neg fixture, Prod.mk.injEq, and_self, strip_eq_self_iff]
      constructor
      · rintro ⟨last, first, zeros⟩
        exact ⟨last, .inr ⟨first, .inr zeros⟩⟩
      · rintro ⟨last, same | ⟨first, other | zeros⟩⟩
        · exact absurd same fixture
        · exact absurd other printer
        · exact ⟨last, first, zeros⟩

/-- The record is handed over as it is: the parser is called once, with the body
and the data type of the header, ends as it would on the body alone, and the
body is returned. -/
def HandsOver (headerBytes : List UInt8) (header : Tn3270eHeader)
    (body : List UInt8) (handler : Tn3270Handler) : Prop :=
  ∃ after, handleTn3270Mode (headerBytes ++ body) handler = .ok (some body) after ∧
    after.parseCalls = handler.parseCalls ++ [(body, header.dataType)] ∧
    after.parser =
      finalState (DataStreamParser.parse body header.dataType handler.parser)

/-- A record with a known header is handed over as it is exactly when the header
does not make the negotiator give up, parsing the body raises nothing, the body does
not end with 0x19, and, unless the header is the one that is taken for padding before
a write command, the body does not start with 0xF5 and, outside printer data, with
four zero bytes. -/
theorem handsOver_iff (five : headerBytes.length = 5)
    (found : Tn3270eHeader.fromBytes headerBytes = some header)
    (known : header.dataType ∈ Tn3270eHeader.tn3270eDataTypes)
    (body : List UInt8) :
    HandsOver headerBytes header body handler ↔
      ¬ Session.GivesUp header handler.session.negotiator ∧
        DataStreamParser.Parses body header.dataType handler.parser ∧
        body.getLast? ≠ some 0x19 ∧
        (headerBytes = [0x00, 0x00, 0x00, 0x00, 0xF5] ∨
          body.head? ≠ some 0xF5 ∧
            (PrinterRecord header handler ∨
              ¬ [0x00, 0x00, 0x00, 0x00] <+: body)) := by
  rw [← handedOver_eq_iff found]
  by_cases goesOn : ¬ Session.GivesUp header handler.session.negotiator
  · obtain ⟨session, -, run⟩ := handleTn3270Mode_run five found known goesOn body
    constructor
    · rintro ⟨after, returned, calls, -⟩
      rw [run] at returned
      have parses := handOver_returned returned
      rw [handOver_parses parses] at returned
      injection returned with payload state
      injection payload with payload
      rw [← state] at calls
      have call := List.append_cancel_left calls
      injection call with call
      injection call with parsed
      rw [parsed] at parses
      exact ⟨goesOn, parses, Prod.ext parsed payload⟩
    · rintro ⟨-, parses, same⟩
      rw [same] at run
      have returned := run.trans (handOver_parses parses)
      exact ⟨_, returned, rfl, rfl⟩
  · constructor
    · rintro ⟨after, returned, -⟩
      obtain ⟨failed, raised⟩ := handleTn3270Mode_gaveUp five found known
        (not_not.mp goesOn) body
      rw [raised] at returned
      cases returned
    · exact fun holds => absurd holds.1 goesOn

end Header

/-- A handler with a small blank screen. -/
def smallHandler : Tn3270Handler := init (DataStreamParser.smallParser 0 0)

theorem smallHandler_goesOn (header : Tn3270eHeader) :
    ¬ Session.GivesUp header smallHandler.session.negotiator := by
  rintro ⟨-, request, limit, waiting, -⟩
  cases waiting

/-- A plain Write behind a header. -/
theorem handsOver_small :
    HandsOver [0x00, 0x00, 0x00, 0x00, 0x01] ⟨0x00, 0x00, 0x00, 1⟩
      [0xF1, 0xC3, 0xC1] smallHandler := by
  have parses : DataStreamParser.Parses [0xF1, 0xC3, 0xC1] 0x00 smallHandler.parser := by
    apply (DataStreamParser.parses_iff rfl).mpr
    rintro ⟨-, command, data, -⟩
    cases data
  exact (handsOver_iff rfl (by decide) (by decide) [0xF1, 0xC3, 0xC1]).mpr
    ⟨smallHandler_goesOn _, parses, by decide, .inr ⟨by decide, .inr (by decide)⟩⟩

/-- An Erase/Write behind a header loses its command byte. -/
theorem not_handsOver_eraseWrite :
    Tn3270eHeader.fromBytes [0x00, 0x00, 0x00, 0x00, 0x01] =
        some ⟨0x00, 0x00, 0x00, 1⟩ ∧
      ¬ HandsOver [0x00, 0x00, 0x00, 0x00, 0x01] ⟨0x00, 0x00, 0x00, 1⟩
        [0xF5, 0xC3, 0xC1] smallHandler := by
  constructor
  · decide
  · rintro ⟨after, returned, -⟩
    obtain ⟨session, -, run⟩ := handleTn3270Mode_run
      (rfl : [0x00, 0x00, 0x00, 0x00, (0x01 : UInt8)].length = 5)
      (by decide : _ = some ⟨0x00, 0x00, 0x00, 1⟩) (by decide)
      (smallHandler_goesOn _) [0xF5, 0xC3, 0xC1]
    rw [run] at returned
    have parses := handOver_returned returned
    rw [handOver_parses parses] at returned
    injection returned with payload
    revert payload
    decide

end Tn3270Handler

end Pure3270
