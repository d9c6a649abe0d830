import Pure3270.Protocol.NegotiatorBlindness
import Pure3270.Trace.TraceFile

/-!
# The replayer

The replayer hands the records of a trace to a parser of its own.  It does not
ask who sent a record.  A record that starts with IAC is taken for Telnet
commands and left out, and a TN3270E header is taken off as long as the last
negotiation of TN3270E that was seen came out positive.
-/

namespace Pure3270

open Foundations

structure Replayer where
  parser : DataStreamParser
  tn3270eActive : Bool
  /-- The calls of `parser.parse` so far. -/
  parseCalls : List (List UInt8 × UInt8)

namespace Replayer

/-- A replayer with a screen of the size that was found in the trace. -/
def init (rows cols : Nat) (rows_pos : 0 < rows) (cols_pos : 0 < cols) : Replayer where
  parser := .init (.init rows cols rows_pos cols_pos 0x40 "cp037") none false .mode12Bit
  tn3270eActive := false
  parseCalls := []

/-- `tn3270e_envelope_types`. -/
def tn3270eEnvelopeTypes : List UInt8 :=
  [0x00, 0x01, 0x02, 0x03, 0x04, 0x05, 0x06, 0x07, 0x08, 0x09, 0x0A]

/-- DO and WILL TN3270E enter envelope mode, DONT and WONT TN3270E leave it. -/
def trackNegotiation (record : List UInt8) (tn3270eActive : Bool) : Bool :=
  match record with
  | 0xFF :: verb :: 0x28 :: _ =>
      if verb ∈ [0xFD, 0xFB, 0xFE, 0xFC] then decide (verb ∈ [0xFD, 0xFB])
      else tn3270eActive
  | _ => tn3270eActive

/-- The record is taken to start with a header. -/
def IsEnvelope (tn3270eActive : Bool) (record : List UInt8) : Prop :=
  tn3270eActive = true ∧ 5 ≤ record.length ∧
    record.headD 0x00 ∈ tn3270eEnvelopeTypes

instance (tn3270eActive : Bool) (record : List UInt8) :
    Decidable (IsEnvelope tn3270eActive record) := by
  unfold IsEnvelope
  infer_instance

/-- The call of the parser for a record. -/
def parseCall (tn3270eActive : Bool) (record : List UInt8) :
    Option (List UInt8 × UInt8) :=
  if IsEnvelope tn3270eActive record then some (record.drop 5, record.headD 0x00)
  else if record.head? = some 0xFF then none
  else some (record, 0x00)

/-- One record of `replay`.  Whatever the parser raises is logged and dropped. -/
def replayRecord (record : List UInt8) (replayer : Replayer) : Replayer :=
  let tn3270eActive := trackNegotiation record replayer.tn3270eActive
  match parseCall tn3270eActive record with
  | none => { replayer with tn3270eActive }
  | some (body, dataType) =>
      { parser := finalState (DataStreamParser.parse body dataType replayer.parser)
        tn3270eActive
        parseCalls := replayer.parseCalls ++ [(body, dataType)] }

/-- `replay`, for the lines of a trace file. -/
def replay (lines : List (List Char)) (replayer : Replayer) : Replayer :=
  (parseTrace lines).foldl (fun reached record => reached.replayRecord record.data)
    replayer

theorem trackNegotiation_data {record : List UInt8} (data : record.head? ≠ some 0xFF)
    (tn3270eActive : Bool) : trackNegotiation record tn3270eActive = tn3270eActive := by
  unfold trackNegotiation
  split
  · exact absurd rfl data
  · rfl

theorem not_isEnvelope_iac {record : List UInt8} (iac : record.head? = some 0xFF)
    (tn3270eActive : Bool) : ¬ IsEnvelope tn3270eActive record := by
  rintro ⟨-, -, listed⟩
  obtain ⟨rest, rfl⟩ := List.head?_eq_some_iff.mp iac
  simp [tn3270eEnvelopeTypes] at listed

/-- The replayer shows nothing of the record: it starts with IAC, or its header has a
data type that the parser ignores. -/
def PassesOver (record : List UInt8) (replayer : Replayer) : Prop :=
  record.head? = some 0xFF ∨
    IsEnvelope replayer.tn3270eActive record ∧
      record.headD 0x00 ∈ DataStreamParser.ignoredTypes

instance (record : List UInt8) (replayer : Replayer) :
    Decidable (PassesOver record replayer) := by
  unfold PassesOver
  infer_instance

theorem replayRecord_iac {record : List UInt8} (iac : record.head? = some 0xFF)
    (replayer : Replayer) :
    replayer.replayRecord record =
      { replayer with
        tn3270eActive := trackNegotiation record replayer.tn3270eActive } := by
  unfold replayRecord parseCall
  dsimp only
  rw [if_neg (not_isEnvelope_iac iac _), if_pos iac]

theorem replayRecord_envelope {record : List UInt8} {replayer : Replayer}
    (envelope : IsEnvelope replayer.tn3270eActive record) :
    replayer.replayRecord record =
      { replayer with
        parser := finalState
          (DataStreamParser.parse (record.drop 5) (record.headD 0x00) replayer.parser)
        parseCalls := replayer.parseCalls ++ [(record.drop 5, record.headD 0x00)] } := by
  have data : record.head? ≠ some 0xFF :=
    fun iac => not_isEnvelope_iac iac _ envelope
  unfold replayRecord parseCall
  dsimp only
  rw [trackNegotiation_data data, if_pos envelope]

theorem replayRecord_plain {record : List UInt8} {replayer : Replayer}
    (plain : ¬ IsEnvelope replayer.tn3270eActive record)
    (data : record.head? ≠ some 0xFF) :
    replayer.replayRecord record =
      { replayer with
        parser := finalState (DataStreamParser.parse record 0x00 replayer.parser)
        parseCalls := replayer.parseCalls ++ [(record, 0x00)] } := by
  unfold replayRecord parseCall
  dsimp only
  rw [trackNegotiation_data data, if_neg plain, if_neg data]

/-- The calls that can be seen. -/
def visibleCalls (replayer : Replayer) : List (List UInt8 × UInt8) :=
  replayer.parseCalls.filter fun call => call.2 ∉ DataStreamParser.ignoredTypes

theorem PassesOver.unseen {record : List UInt8} {replayer : Replayer}
    (passes : PassesOver record replayer) :
    DataStreamParser.SameButRecord replayer.parser
        (replayer.replayRecord record).parser ∧
      (replayer.replayRecord record).visibleCalls = replayer.visibleCalls := by
  rcases passes with iac | ⟨envelope, ignored⟩
  · rw [replayRecord_iac iac]
    exact ⟨.refl _, rfl⟩
  · rw [replayRecord_envelope envelope]
    refine ⟨DataStreamParser.parse_ignoredType ignored _ _, ?_⟩
    unfold visibleCalls
    rw [List.filter_append, List.append_right_eq_self, List.filter_eq_nil_iff]
    rintro call member
    rw [List.mem_singleton.mp member, decide_eq_true_eq]
    exact not_not_intro ignored

end Replayer

end Pure3270
