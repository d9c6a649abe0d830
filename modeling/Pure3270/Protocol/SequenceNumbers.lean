import Pure3270.Protocol.Tn3270eHeader

/-!
# Sequence numbers

The handler compares the sequence number of a header with the one it expects.
A number outside the window is not refused: the handler takes it over and
forgets the history.
-/

namespace Pure3270

inductive SequenceDirection where
  | sent
  | received
  | sync
  deriving DecidableEq, Repr

structure SequenceNumbers where
  lastReceivedSeqNumber : Nat
  sequenceNumberWindow : Nat
  sequenceSyncEnabled : Bool
  sequenceNumberHistory : List (Nat × SequenceDirection)
  maxSequenceHistory : Nat
  deriving DecidableEq, Repr

namespace SequenceNumbers

def init : SequenceNumbers where
  lastReceivedSeqNumber := 0
  sequenceNumberWindow := 2048
  sequenceSyncEnabled := true
  sequenceNumberHistory := []
  maxSequenceHistory := 100

/-- `_record_sequence_number`, without the time of the entry. -/
def recordSequenceNumber (seqNum : Nat) (direction : SequenceDirection)
    (numbers : SequenceNumbers) : SequenceNumbers :=
  let history := numbers.sequenceNumberHistory ++ [(seqNum, direction)]
  { numbers with
    sequenceNumberHistory :=
      if numbers.maxSequenceHistory < history.length then history.tail else history }

/-- `_detect_sequence_wraparound`. -/
def detectSequenceWraparound (newSeq lastSeq : Nat) (numbers : SequenceNumbers) :
    Bool :=
  newSeq < lastSeq &&
    let directDiff := lastSeq - newSeq
    let wraparoundDiff := ((65536 : Int) - lastSeq) + newSeq
    wraparoundDiff < directDiff && wraparoundDiff ≤ numbers.sequenceNumberWindow

/-- `_validate_sequence_number`. -/
def validateSequenceNumber (receivedSeq expectedSeq : Nat)
    (numbers : SequenceNumbers) : Bool :=
  if !numbers.sequenceSyncEnabled then true
  else if receivedSeq = expectedSeq then true
  else if numbers.detectSequenceWraparound receivedSeq expectedSeq then true
  else
    let seqDiff := ((receivedSeq : Int) - expectedSeq).natAbs
    let wraparoundDiff :=
      min ((receivedSeq : Int) - (expectedSeq + 65536)).natAbs
        ((receivedSeq : Int) - (expectedSeq - 65536)).natAbs
    seqDiff ≤ numbers.sequenceNumberWindow ||
      wraparoundDiff ≤ numbers.sequenceNumberWindow

/-- `_synchronize_sequence_numbers`. -/
def synchronizeSequenceNumbers (receivedSeq : Nat) (numbers : SequenceNumbers) :
    SequenceNumbers :=
  { recordSequenceNumber receivedSeq .sync
      { numbers with lastReceivedSeqNumber := receivedSeq } with
    sequenceNumberHistory := [] }

/-- What both modes do with the sequence number of a header. -/
def receiveSequenceNumber (receivedSeq : Nat) (numbers : SequenceNumbers) :
    SequenceNumbers :=
  let expectedSeq := (numbers.lastReceivedSeqNumber + 1) % 65536
  if numbers.validateSequenceNumber receivedSeq expectedSeq then
    { numbers with lastReceivedSeqNumber := receivedSeq }
  else numbers.synchronizeSequenceNumbers receivedSeq

end SequenceNumbers

end Pure3270
