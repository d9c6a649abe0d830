import Pure3270.Foundations.Residues
import Pure3270.Foundations.Runs
import Pure3270.Protocol.SequenceNumbers

/-!
# The window of sequence numbers

Sequence numbers are counted modulo 65536.  A number is accepted if it is equal to
the expected one, if a wraparound is detected, or if one of two differences lies in
the window; together these tests ask for the distance on the circle.  Where the
counting starts therefore makes no difference to any verdict.
-/

namespace Pure3270

open Foundations

namespace SequenceNumbers

/-- `_update_received_sequence_number`. -/
def updateReceivedSequenceNumber (receivedSeq : Nat) (numbers : SequenceNumbers) :
    SequenceNumbers :=
  if numbers.validateSequenceNumber receivedSeq (numbers.lastReceivedSeqNumber + 1) then
    recordSequenceNumber receivedSeq .received
      { numbers with lastReceivedSeqNumber := receivedSeq }
  else numbers.synchronizeSequenceNumbers receivedSeq

/-- `set_sequence_window`. -/
def setSequenceWindow (windowSize : Int) (numbers : SequenceNumbers) : SequenceNumbers :=
  { numbers with sequenceNumberWindow := (max 1 (min windowSize 65535)).toNat }

/-- `enable_sequence_sync`. -/
def enableSequenceSync (enable : Bool) (numbers : SequenceNumbers) : SequenceNumbers :=
  { numbers with sequenceSyncEnabled := enable }

theorem detectSequenceWraparound_near {numbers : SequenceNumbers}
    {receivedSeq expectedSeq : Nat}
    (detected : numbers.detectSequenceWraparound receivedSeq expectedSeq = true) :
    65536 + receivedSeq ≤ expectedSeq + numbers.sequenceNumberWindow := by
  simp only [detectSequenceWraparound, Bool.and_eq_true, decide_eq_true_eq] at detected
  omega

theorem validateSequenceNumber_iff {numbers : SequenceNumbers}
    (enabled : numbers.sequenceSyncEnabled = true) {receivedSeq expectedSeq : Nat}
    (received : receivedSeq < 65536) (expected : expectedSeq ≤ 65536) :
    numbers.validateSequenceNumber receivedSeq expectedSeq = true ↔
      circularDistance 65536 receivedSeq expectedSeq ≤ numbers.sequenceNumberWindow := by
  rw [circularDistance_of_near (by omega)]
  unfold validateSequenceNumber
  rw [enabled]
  simp only [Bool.not_true, Bool.false_eq_true, if_false]
  split
  · rename_i same
    refine iff_of_true rfl ?_
    omega
  · split
    · rename_i detected
      have near := detectSequenceWraparound_near detected
      refine iff_of_true rfl ?_
      omega
    · rw [Bool.or_eq_true, decide_eq_true_eq, decide_eq_true_eq]
      omega

/-- Moving both numbers along the circle keeps the verdict. -/
theorem validateSequenceNumber_shift {numbers : SequenceNumbers}
    (enabled : numbers.sequenceSyncEnabled = true) {receivedSeq expectedSeq : Nat}
    (received : receivedSeq < 65536) (expected : expectedSeq ≤ 65536) (shift : Nat) :
    numbers.validateSequenceNumber ((receivedSeq + shift) % 65536)
        ((expectedSeq + shift) % 65536) =
      numbers.validateSequenceNumber receivedSeq expectedSeq := by
  have same : circularDistance 65536 ((receivedSeq + shift) % 65536 : Nat)
      ((expectedSeq + shift) % 65536 : Nat) =
        circularDistance 65536 receivedSeq expectedSeq :=
    circularDistance_shift 65536 receivedSeq expectedSeq shift
  rw [Bool.eq_iff_iff, validateSequenceNumber_iff enabled received expected,
    validateSequenceNumber_iff enabled (Nat.mod_lt _ (by decide))
      (Nat.mod_lt _ (by decide)).le, same]

/-- The two ways in which the number of a header is taken: by the modes of the
handler, and by `_update_received_sequence_number`. -/
inductive SequenceReceiver where
  | modeHandler
  | update
  deriving DecidableEq, Repr

/-- What happens to the sequence numbers. -/
inductive SequenceEvent where
  | header (receiver : SequenceReceiver) (receivedSeq : Nat)
  | setWindow (windowSize : Int)
  | enableSync (enable : Bool)

/-- The number a header is expected to have; the update does not reduce it. -/
def expectedSeq (numbers : SequenceNumbers) : SequenceReceiver → Nat
  | .modeHandler => (numbers.lastReceivedSeqNumber + 1) % 65536
  | .update => numbers.lastReceivedSeqNumber + 1

def step : SequenceEvent → SequenceNumbers → SequenceNumbers
  | .header .modeHandler receivedSeq, numbers => numbers.receiveSequenceNumber receivedSeq
  | .header .update receivedSeq, numbers =>
      numbers.updateReceivedSequenceNumber receivedSeq
  | .setWindow windowSize, numbers => numbers.setSequenceWindow windowSize
  | .enableSync enable, numbers => numbers.enableSequenceSync enable

/-- Which headers of a run are accepted. -/
def verdicts : List SequenceEvent → SequenceNumbers → List Bool
  | [], _ => []
  | event :: events, numbers =>
      (match event with
      | .header receiver receivedSeq =>
          [numbers.validateSequenceNumber receivedSeq (numbers.expectedSeq receiver)]
      | .setWindow _ => []
      | .enableSync _ => []) ++ verdicts events (step event numbers)

/-- The same header with its number counted from elsewhere. -/
def shiftEvent (shift : Nat) : SequenceEvent → SequenceEvent
  | .header receiver receivedSeq => .header receiver ((receivedSeq + shift) % 65536)
  | event => event

/-- Two handlers that count from different places. -/
structure Shifted (shift : Nat) (numbers shifted : SequenceNumbers) : Prop where
  bounded : numbers.lastReceivedSeqNumber < 65536
  last : shifted.lastReceivedSeqNumber = (numbers.lastReceivedSeqNumber + shift) % 65536
  window : shifted.sequenceNumberWindow = numbers.sequenceNumberWindow
  sync : shifted.sequenceSyncEnabled = numbers.sequenceSyncEnabled

/-- The numbers that both count with. -/
def SixteenBits : SequenceEvent → Prop
  | .header _ receivedSeq => receivedSeq < 65536
  | _ => True

/-- Counting from elsewhere does not change a verdict. -/
theorem Shifted.verdict {shift : Nat} {numbers shifted : SequenceNumbers}
    (alike : Shifted shift numbers shifted) (receiver : SequenceReceiver)
    {receivedSeq : Nat} (received : receivedSeq < 65536) :
    shifted.validateSequenceNumber ((receivedSeq + shift) % 65536)
        (shifted.expectedSeq receiver) =
      numbers.validateSequenceNumber receivedSeq (numbers.expectedSeq receiver) := by
  have bounded := alike.bounded
  have last := alike.last
  cases enabled : numbers.sequenceSyncEnabled with
  | false =>
      have other := alike.sync.trans enabled
      simp [validateSequenceNumber, enabled, other]
  | true =>
      have expected : numbers.expectedSeq receiver ≤ 65536 := by
        cases receiver <;> simp only [expectedSeq] <;> omega
      have expectedShifted : shifted.expectedSeq receiver ≤ 65536 := by
        cases receiver <;> simp only [expectedSeq] <;> omega
      have residue : (shifted.expectedSeq receiver : Int) ≡
          ((numbers.expectedSeq receiver : Int) + shift) % 65536 [ZMOD 65536] := by
        cases receiver <;> simp only [expectedSeq, Int.ModEq] <;> omega
      rw [Bool.eq_iff_iff, validateSequenceNumber_iff enabled received expected,
        validateSequenceNumber_iff (alike.sync.trans enabled)
          (Nat.mod_lt _ (by decide)) expectedShifted, alike.window]
      have same : circularDistance 65536 ((receivedSeq + shift) % 65536 : Nat)
          (shifted.expectedSeq receiver) =
            circularDistance 65536 receivedSeq (numbers.expectedSeq receiver) := by
        rw [circularDistance_congr (Int.ModEq.refl _) residue]
        exact circularDistance_shift 65536 receivedSeq (numbers.expectedSeq receiver) shift
      rw [same]

theorem step_header_last (receiver : SequenceReceiver) (receivedSeq : Nat)
    (numbers : SequenceNumbers) :
    (step (.header receiver receivedSeq) numbers).lastReceivedSeqNumber = receivedSeq ∧
      (step (.header receiver receivedSeq) numbers).sequenceNumberWindow =
        numbers.sequenceNumberWindow ∧
      (step (.header receiver receivedSeq) numbers).sequenceSyncEnabled =
        numbers.sequenceSyncEnabled := by
  cases receiver with
  | modeHandler =>
      simp only [step, receiveSequenceNumber]
      split <;> exact ⟨rfl, rfl, rfl⟩
  | update =>
      simp only [step, updateReceivedSequenceNumber]
      split <;> exact ⟨rfl, rfl, rfl⟩

theorem Shifted.step {shift : Nat} {numbers shifted : SequenceNumbers}
    (alike : Shifted shift numbers shifted) {event : SequenceEvent}
    (bits : SixteenBits event) :
    Shifted shift (step event numbers) (step (shiftEvent shift event) shifted) := by
  cases event with
  | header receiver receivedSeq =>
      obtain ⟨last, window, sync⟩ := step_header_last receiver receivedSeq numbers
      obtain ⟨lastShifted, windowShifted, syncShifted⟩ :=
        step_header_last receiver ((receivedSeq + shift) % 65536) shifted
      exact {
        bounded := by rw [last]; exact bits
        last := by rw [last]; exact lastShifted
        window := windowShifted.trans (alike.window.trans window.symm)
        sync := syncShifted.trans (alike.sync.trans sync.symm) }
  | setWindow windowSize => exact ⟨alike.bounded, alike.last, rfl, alike.sync⟩
  | enableSync enable => exact ⟨alike.bounded, alike.last, alike.window, rfl⟩

/-- Counting from elsewhere does not change the verdicts of a run. -/
theorem Shifted.verdicts {shift : Nat} {numbers shifted : SequenceNumbers}
    (alike : Shifted shift numbers shifted) {events : List SequenceEvent}
    (bits : ∀ event ∈ events, SixteenBits event) :
    SequenceNumbers.verdicts (events.map (shiftEvent shift)) shifted =
      SequenceNumbers.verdicts events numbers := by
  induction events generalizing numbers shifted with
  | nil => rfl
  | cons event events ih =>
      have here := bits event List.mem_cons_self
      have later := ih (alike.step here) fun other member =>
        bits other (List.mem_cons_of_mem _ member)
      rw [List.map_cons]
      cases event with
      | header receiver receivedSeq =>
          show [_] ++ _ = [_] ++ _
          rw [alike.verdict receiver here]
          exact congrArg _ later
      | setWindow windowSize => exact later
      | enableSync enable => exact later

/-- With synchronisation a number is accepted if it lies within the window of the
expected one on the circle.  So a verdict stays the same if both numbers are moved, and
the verdicts of a run do not depend on where the counting starts. -/
theorem acceptance_circular :
    (∀ (numbers : SequenceNumbers) (receivedSeq expectedSeq : Nat),
      numbers.sequenceSyncEnabled = true → receivedSeq < 65536 → expectedSeq ≤ 65536 →
        (numbers.validateSequenceNumber receivedSeq expectedSeq = true ↔
          circularDistance 65536 receivedSeq expectedSeq ≤
            numbers.sequenceNumberWindow) ∧
        ∀ shift, numbers.validateSequenceNumber ((receivedSeq + shift) % 65536)
            ((expectedSeq + shift) % 65536) =
          numbers.validateSequenceNumber receivedSeq expectedSeq) ∧
      ∀ (numbers : SequenceNumbers) (shift : Nat) (events : List SequenceEvent),
        numbers.lastReceivedSeqNumber < 65536 → (∀ event ∈ events, SixteenBits event) →
          verdicts (events.map (shiftEvent shift))
              { numbers with
                lastReceivedSeqNumber :=
                  (numbers.lastReceivedSeqNumber + shift) % 65536 } =
            verdicts events numbers := by
  refine ⟨fun numbers receivedSeq expectedSeq enabled received expected => ⟨?_, ?_⟩, ?_⟩
  · exact validateSequenceNumber_iff enabled received expected
  · exact validateSequenceNumber_shift enabled received expected
  · intro numbers shift events bounded bits
    have alike : Shifted shift numbers
        { numbers with
          lastReceivedSeqNumber := (numbers.lastReceivedSeqNumber + shift) % 65536 } :=
      ⟨bounded, rfl, rfl, rfl⟩
    exact alike.verdicts bits

/-- The number 0 after 65535, and three headers counted from 65530 on. -/
theorem acceptance_circular_wrap :
    (init.validateSequenceNumber 0 65536 = true ↔
        circularDistance 65536 (0 : Nat) (65536 : Nat) ≤ 2048) ∧
      verdicts (([1, 7, 9000].map (.header .update)).map (shiftEvent 65530))
          { init with lastReceivedSeqNumber := (0 + 65530) % 65536 } =
        verdicts ([1, 7, 9000].map (.header .update)) init :=
  ⟨(acceptance_circular.1 init 0 65536 rfl (by decide) (by decide)).1,
    acceptance_circular.2 init 65530 ([1, 7, 9000].map (.header .update)) (by decide)
      (by simp [SixteenBits])⟩

end SequenceNumbers

end Pure3270
