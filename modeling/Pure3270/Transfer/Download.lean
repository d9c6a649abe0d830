import Pure3270.Foundations.Runs
import Pure3270.Transfer.IndFile

/-!
# Downloads

`receive` sends its request, makes an event and waits for it.  The messages of the
host come in between.  An event that is set says that the transfer is over, not how.
-/

namespace Pure3270

open Foundations

/-- How the host ends a transfer. -/
inductive TransferSignal where
  | eof
  | error
  deriving DecidableEq, Repr

namespace IndFileMessage

def signal? (message : IndFileMessage) : Option TransferSignal :=
  if message.subCommand = 0x03 then some .eof
  else if message.subCommand = 0x04 then some .error
  else none

/-- The first end of transfer among the messages. -/
def firstSignal (messages : List IndFileMessage) : Option TransferSignal :=
  messages.findSome? signal?

/-- The payloads of the DATA messages before the end of transfer. -/
def collected : List IndFileMessage → List UInt8
  | [] => []
  | message :: rest =>
      if message.signal?.isSome then []
      else (if message.subCommand = 0x02 then message.payload else []) ++ collected rest

theorem firstSignal_append (messages : List IndFileMessage) (message : IndFileMessage) :
    firstSignal (messages ++ [message]) = (firstSignal messages).or message.signal? := by
  unfold firstSignal
  rw [List.findSome?_append]
  simp

theorem collected_append (messages : List IndFileMessage) (message : IndFileMessage) :
    collected (messages ++ [message]) =
      collected messages ++
        (if firstSignal messages = none ∧ message.subCommand = 0x02 then message.payload
        else []) := by
  induction messages with
  | nil =>
      by_cases data : message.subCommand = 0x02
      · simp [collected, firstSignal, signal?, data]
      · simp [collected, firstSignal, data]
  | cons first rest ih =>
      cases ended : first.signal? with
      | some signal => simp [collected, firstSignal, ended]
      | none =>
          have later : firstSignal (first :: rest) = firstSignal rest := by
            simp [firstSignal, ended]
          rw [List.cons_append, collected, collected, ih, later]
          simp [ended]

end IndFileMessage

inductive ReceivePhase where
  | sending
  | waiting
  | ended (returned : Bool)
  deriving DecidableEq, Repr

/-- A running `receive`, with the messages that arrived while it ran. -/
structure Receiving where
  phase : ReceivePhase
  indFile : IndFile
  heard : List IndFileMessage
  deriving DecidableEq, Repr

inductive ReceiveEvent where
  | deliver (message : IndFileMessage) (fails : Bool)
  | sent
  | sendRaised
  | woken
  | timedOut
  deriving DecidableEq, Repr

namespace Receiving

/-- The transfer is started and its request is about to be sent. -/
def start (localFile : Option (List UInt8)) : Receiving where
  phase := .sending
  indFile := (IndFile.idle localFile).startDownload
  heard := []

/-- The end of `receive`: an exception aborts what is still active, and the event goes
in any case. -/
def leave (returned : Bool) (receiving : Receiving) : Receiving :=
  let left := if returned then receiving.indFile else receiving.indFile.abort
  { receiving with
    phase := .ended returned
    indFile := { left with transferCompleteEvent := none } }

def hear (message : IndFileMessage) (receiving : Receiving) : List IndFileMessage :=
  match receiving.phase with
  | .ended _ => receiving.heard
  | _ => receiving.heard ++ [message]

/-- One step of `receive`, or a message of the host.  The wait ends when the event is
set, and in a timeout before. -/
def step : ReceiveEvent → Receiving → Receiving
  | .deliver message fails, receiving =>
      { receiving with
        indFile := receiving.indFile.handleIncomingMessage message fails
        heard := receiving.hear message }
  | .sent, receiving =>
      if receiving.phase = .sending then
        { receiving with
          phase := .waiting
          indFile := { receiving.indFile with transferCompleteEvent := some false } }
      else receiving
  | .sendRaised, receiving =>
      if receiving.phase = .sending then receiving.leave false else receiving
  | .woken, receiving =>
      if receiving.phase = .waiting ∧ receiving.indFile.transferCompleteEvent = some true then
        receiving.leave true
      else receiving
  | .timedOut, receiving =>
      if receiving.phase = .waiting ∧ receiving.indFile.transferCompleteEvent = some false then
        receiving.leave false
      else receiving

/-- The outcome that the messages call for. -/
structure Settled (returned : Bool) (receiving : Receiving) : Prop where
  returned : returned = true ↔ IndFileMessage.firstSignal receiving.heard = some .eof
  content : IndFileMessage.firstSignal receiving.heard = some .eof →
    receiving.indFile.localFile = some (IndFileMessage.collected receiving.heard)
  removed : IndFileMessage.firstSignal receiving.heard = some .error →
    receiving.indFile.localFile = none
  inactive : receiving.indFile.activeTransfer = none

/-- The first end of transfer is an EOF that finds `receive` waiting and the transfer
active, or an ERROR that does not; and no operation on the file fails at the EOF or
while `receive` waits. -/
def Proper : ReceiveEvent → Receiving → Prop
  | .deliver message fails, receiving =>
      receiving.phase = .sending ∨ receiving.phase = .waiting →
        IndFileMessage.firstSignal receiving.heard = none →
        (message.signal? = some .eof → receiving.phase = .waiting ∧
          receiving.indFile.activeTransfer ≠ none ∧ fails = false) ∧
        (message.signal? = some .error →
          receiving.phase = .sending ∨ receiving.indFile.activeTransfer = none) ∧
        (message.subCommand = 0x02 → fails = true →
          receiving.phase = .sending ∨ receiving.indFile.activeTransfer = none)
  | _, _ => True

instance (event : ReceiveEvent) (receiving : Receiving) :
    Decidable (Proper event receiving) :=
  match event with
  | .deliver _ _ => inferInstanceAs (Decidable (_ → _ → _ ∧ _ ∧ _))
  | .sent => .isTrue trivial
  | .sendRaised => .isTrue trivial
  | .woken => .isTrue trivial
  | .timedOut => .isTrue trivial

/-- No end of transfer has reached the event. -/
def Unset (receiving : Receiving) : Prop :=
  receiving.phase = .sending ∧ receiving.indFile.transferCompleteEvent = none ∨
    receiving.phase = .waiting ∧ receiving.indFile.transferCompleteEvent = some false

/-- The event is set and `receive` has not seen it yet. -/
def Signalled (receiving : Receiving) : Prop :=
  receiving.phase = .waiting ∧ receiving.indFile.transferCompleteEvent = some true

/-- What a running or ended `receive` is like as long as all is well. -/
inductive Promising (receiving : Receiving) : Prop where
  | active (unset : receiving.Unset)
      (unsignalled : IndFileMessage.firstSignal receiving.heard = none)
      (active : receiving.indFile.activeTransfer = some ⟨.download, true⟩)
      (content : receiving.indFile.localFile =
        some (IndFileMessage.collected receiving.heard))
  | dropped (unset : receiving.Unset)
      (noEof : IndFileMessage.firstSignal receiving.heard ≠ some .eof)
      (inactive : receiving.indFile.activeTransfer = none)
      (removed : receiving.indFile.localFile = none)
  | completed (signalled : receiving.Signalled)
      (eof : IndFileMessage.firstSignal receiving.heard = some .eof)
      (inactive : receiving.indFile.activeTransfer = none)
      (content : receiving.indFile.localFile =
        some (IndFileMessage.collected receiving.heard))
  | settled (returned : Bool) (ended : receiving.phase = .ended returned)
      (settled : receiving.Settled returned)

/-- What it is like when it can no longer end well: an EOF was overlooked, or the
event was set although the file is gone. -/
inductive Doomed (receiving : Receiving) : Prop where
  | overlooked (unset : receiving.Unset)
      (eof : IndFileMessage.firstSignal receiving.heard = some .eof)
      (inactive : receiving.indFile.activeTransfer = none)
  | misreported (signalled : receiving.Signalled)
      (inactive : receiving.indFile.activeTransfer = none)
      (removed : receiving.indFile.localFile = none)
  | unsettled (returned : Bool) (ended : receiving.phase = .ended returned)
      (inactive : receiving.indFile.activeTransfer = none)
      (unsettled : ¬ receiving.Settled returned)

end Receiving

namespace IndFile

variable {indFile : IndFile} {message : IndFileMessage} {fails : Bool}

theorem abort_inactive (inactive : indFile.activeTransfer = none) : indFile.abort = indFile := by
  unfold abort
  rw [inactive]

theorem abort_active {handle : Bool}
    (active : indFile.activeTransfer = some ⟨.download, handle⟩) :
    indFile.abort = { indFile with activeTransfer := none, localFile := none } := by
  unfold abort
  rw [active]
  rfl

section Active

variable (active : indFile.activeTransfer = some ⟨.download, true⟩)

include active

theorem handle_eof (eof : message.signal? = some .eof) :
    indFile.handleIncomingMessage message fails =
      if fails then indFile.abort.signal else indFile.signal.finish := by
  have subCommand : message.subCommand = 0x03 := by
    unfold IndFileMessage.signal? at eof
    split at eof
    · assumption
    · split at eof <;> cases eof
  unfold handleIncomingMessage
  rw [active, subCommand]
  simp

theorem handle_error (error : message.signal? = some .error) :
    indFile.handleIncomingMessage message fails = indFile.abort.signal := by
  have subCommand : message.subCommand = 0x04 := by
    unfold IndFileMessage.signal? at error
    split at error
    · cases error
    · split at error
      · assumption
      · cases error
  unfold handleIncomingMessage
  rw [active, subCommand]
  simp

theorem handle_data (data : message.subCommand = 0x02) :
    indFile.handleIncomingMessage message fails =
      if fails then indFile.abort.signal
      else { indFile with
        localFile := indFile.localFile.map fun content => content ++ message.payload } := by
  unfold handleIncomingMessage
  rw [active, data]
  simp

theorem handle_other (other : message.signal? = none) (noData : message.subCommand ≠ 0x02) :
    indFile.handleIncomingMessage message fails = indFile := by
  unfold IndFileMessage.signal? at other
  unfold handleIncomingMessage
  rw [active]
  simp only [if_neg noData]
  split
  · rename_i eof
    rw [if_pos eof] at other
    cases other
  · rename_i noEof
    rw [if_neg noEof] at other
    split
    · rename_i error
      rw [if_pos error] at other
      cases other
    · rfl

end Active

end IndFile

namespace Receiving

open IndFileMessage

variable {receiving : Receiving} {message : IndFileMessage} {fails : Bool}

theorem Unset.phase (unset : receiving.Unset) :
    receiving.phase = .sending ∨ receiving.phase = .waiting := by
  rcases unset with ⟨sending, _⟩ | ⟨waiting, _⟩
  · exact .inl sending
  · exact .inr waiting

theorem hear_running (running : receiving.phase = .sending ∨ receiving.phase = .waiting)
    (message : IndFileMessage) : receiving.hear message = receiving.heard ++ [message] := by
  unfold hear
  rcases running with phase | phase <;> rw [phase]

theorem step_deliver_inactive (inactive : receiving.indFile.activeTransfer = none)
    (message : IndFileMessage) (fails : Bool) :
    receiving.step (.deliver message fails) =
      { receiving with heard := receiving.hear message } := by
  show { receiving with
    indFile := receiving.indFile.handleIncomingMessage message fails
    heard := _ } = _
  rw [IndFile.handleIncomingMessage_inactive inactive]

theorem firstSignal_later {signal : TransferSignal}
    (first : firstSignal receiving.heard = some signal) (message : IndFileMessage) :
    firstSignal (receiving.heard ++ [message]) = some signal := by
  rw [firstSignal_append, first]
  rfl

theorem collected_later {signal : TransferSignal}
    (first : firstSignal receiving.heard = some signal) (message : IndFileMessage) :
    collected (receiving.heard ++ [message]) = collected receiving.heard := by
  rw [collected_append, first]
  simp

theorem firstSignal_now (first : firstSignal receiving.heard = none)
    (message : IndFileMessage) :
    firstSignal (receiving.heard ++ [message]) = message.signal? := by
  rw [firstSignal_append, first]
  rfl

/-- An end of transfer carries no data. -/
theorem collected_now {signal : TransferSignal} (now : message.signal? = some signal) :
    collected (receiving.heard ++ [message]) = collected receiving.heard := by
  have noData : message.subCommand ≠ 0x02 := by
    intro data
    unfold signal? at now
    rw [data] at now
    cases now
  rw [collected_append, if_neg fun both => noData both.2, List.append_nil]

/-- The transfer is aborted under a running `receive`: nobody is told while the event
does not exist, and a waiting `receive` is told that the transfer is over. -/
theorem aborted_deliver (unset : receiving.Unset)
    (active : receiving.indFile.activeTransfer = some ⟨.download, true⟩)
    (aborts : receiving.indFile.handleIncomingMessage message fails =
      receiving.indFile.abort.signal) :
    (receiving.step (.deliver message fails)).indFile.activeTransfer = none ∧
      (receiving.step (.deliver message fails)).indFile.localFile = none ∧
      (receiving.phase = .sending → (receiving.step (.deliver message fails)).Unset) ∧
      (receiving.phase = .waiting → (receiving.step (.deliver message fails)).Signalled) := by
  unfold Unset Signalled step
  dsimp only
  rw [aborts, IndFile.abort_active active]
  unfold Unset at unset
  unfold IndFile.signal
  dsimp only
  rcases unset with ⟨sending, noEvent⟩ | ⟨waiting, unset⟩
  · rw [noEvent, sending]
    exact ⟨rfl, rfl, fun _ => .inl ⟨rfl, rfl⟩, nofun⟩
  · rw [unset, waiting]
    exact ⟨rfl, rfl, nofun, fun _ => ⟨rfl, rfl⟩⟩

/-- The event keeps the promise if it is proper, and dooms the transfer if not. -/
def Decides (event : ReceiveEvent) (receiving : Receiving) : Prop :=
  (Proper event receiving → (receiving.step event).Promising) ∧
    (¬ Proper event receiving → (receiving.step event).Doomed)

theorem decides_of_promising {event : ReceiveEvent} (proper : Proper event receiving)
    (promising : (receiving.step event).Promising) : Decides event receiving :=
  ⟨fun _ => promising, fun improper => absurd proper improper⟩

theorem decides_of_doomed {event : ReceiveEvent} (improper : ¬ Proper event receiving)
    (doomed : (receiving.step event).Doomed) : Decides event receiving :=
  ⟨fun proper => absurd proper improper, fun _ => doomed⟩

section Active

variable (unset : receiving.Unset) (unsignalled : firstSignal receiving.heard = none)
  (active : receiving.indFile.activeTransfer = some ⟨.download, true⟩)
  (content : receiving.indFile.localFile = some (collected receiving.heard))

include unset unsignalled active

theorem proper_active_iff : Proper (.deliver message fails) receiving ↔
    (message.signal? = some .eof → receiving.phase = .waiting ∧ fails = false) ∧
      (message.signal? = some .error → receiving.phase = .sending) ∧
      (message.subCommand = 0x02 → fails = true → receiving.phase = .sending) := by
  have different : receiving.indFile.activeTransfer ≠ none := by
    rw [active]
    nofun
  unfold Proper
  simp only [unset.phase, unsignalled, different, or_false, ne_eq, not_false_eq_true,
    true_and, forall_const]

theorem aborting_decides
    (aborts : receiving.indFile.handleIncomingMessage message fails =
      receiving.indFile.abort.signal)
    (noEof : message.signal? ≠ some .eof)
    (proper : Proper (.deliver message fails) receiving ↔ receiving.phase = .sending) :
    Decides (.deliver message fails) receiving := by
  obtain ⟨inactive, removed, unheard, told⟩ := aborted_deliver unset active aborts
  rcases unset.phase with sending | waiting
  · refine decides_of_promising (proper.mpr sending)
      (.dropped (unheard sending) ?_ inactive removed)
    show firstSignal (receiving.hear message) ≠ some .eof
    rw [hear_running unset.phase, firstSignal_now unsignalled]
    exact noEof
  · refine decides_of_doomed (fun still => ?_) (.misreported (told waiting) inactive removed)
    exact absurd ((proper.mp still).symm.trans waiting) nofun

include content

/-- A message that leaves the transfer active, with the data it brings. -/
theorem continuing_decides {data : List UInt8}
    (handled : receiving.indFile.handleIncomingMessage message fails =
      { receiving.indFile with
        localFile := receiving.indFile.localFile.map fun content => content ++ data })
    (noSignal : message.signal? = none)
    (brings : (if message.subCommand = 0x02 then message.payload else []) = data)
    (proper : Proper (.deliver message fails) receiving) :
    Decides (.deliver message fails) receiving := by
  refine decides_of_promising proper (.active ?_ ?_ ?_ ?_)
  · unfold Unset step
    dsimp only
    rw [handled]
    exact unset
  · show firstSignal (receiving.hear message) = none
    rw [hear_running unset.phase, firstSignal_now unsignalled, noSignal]
  · unfold step
    dsimp only
    rw [handled]
    exact active
  · show (receiving.indFile.handleIncomingMessage message fails).localFile =
      some (collected (receiving.hear message))
    rw [hear_running unset.phase, collected_append, handled, content]
    simp only [unsignalled, true_and, brings]
    rfl

/-- An EOF ends the wait, and goes unnoticed before it. -/
theorem eof_decides (eof : message.signal? = some .eof) :
    Decides (.deliver message fails) receiving := by
  have noData : message.subCommand ≠ 0x02 := by
    intro data
    unfold signal? at eof
    rw [data] at eof
    cases eof
  have proper : Proper (.deliver message fails) receiving ↔
      receiving.phase = .waiting ∧ fails = false := by
    simpa [eof, noData] using
      @proper_active_iff _ message fails unset unsignalled active
  have heard : (receiving.step (.deliver message fails)).heard =
    receiving.heard ++ [message] := hear_running unset.phase message
  have first : firstSignal (receiving.step (.deliver message fails)).heard = some .eof := by
    rw [heard, firstSignal_now unsignalled, eof]
  have handled := @IndFile.handle_eof _ message fails active eof
  cases fails with
  | true =>
      obtain ⟨inactive, removed, unheard, told⟩ :=
        aborted_deliver unset active (handled.trans (if_pos rfl))
      refine decides_of_doomed (fun still => nomatch (proper.mp still).2) ?_
      rcases unset.phase with sending | waiting
      · exact .overlooked (unheard sending) first inactive
      · exact .misreported (told waiting) inactive removed
  | false =>
      have finished : (receiving.step (.deliver message false)).indFile =
        receiving.indFile.signal.finish := handled.trans (if_neg nofun)
      rcases unset with ⟨sending, noEvent⟩ | ⟨waiting, event⟩
      · refine decides_of_doomed (fun still => ?_) (.overlooked (.inl ⟨sending, ?_⟩) first ?_)
        · exact absurd ((proper.mp still).1.symm.trans sending) nofun
        · rw [finished]
          exact congrArg (Option.map fun _ => true) noEvent
        · rw [finished]
          rfl
      · refine decides_of_promising (proper.mpr ⟨waiting, rfl⟩)
          (.completed ⟨waiting, ?_⟩ first ?_ ?_)
        · rw [finished]
          exact congrArg (Option.map fun _ => true) event
        · rw [finished]
          rfl
        · rw [finished, heard, collected_now eof]
          exact content

end Active

theorem active_decides (unset : receiving.Unset)
    (unsignalled : firstSignal receiving.heard = none)
    (active : receiving.indFile.activeTransfer = some ⟨.download, true⟩)
    (content : receiving.indFile.localFile = some (collected receiving.heard)) :
    Decides (.deliver message fails) receiving := by
  have proper := @proper_active_iff _ message fails unset unsignalled active
  cases signal : message.signal? with
  | some ending =>
      have noData : message.subCommand ≠ 0x02 := by
        intro data
        unfold signal? at signal
        rw [data] at signal
        cases signal
      cases ending with
      | eof => exact eof_decides unset unsignalled active content signal
      | error =>
          refine aborting_decides unset unsignalled active
            (IndFile.handle_error active signal) (by rw [signal]; nofun) ?_
          simpa [signal, noData] using proper
  | none =>
      by_cases data : message.subCommand = 0x02
      · have handled := @IndFile.handle_data _ message fails active data
        cases fails with
        | true =>
            refine aborting_decides unset unsignalled active (handled.trans (if_pos rfl))
              (by rw [signal]; nofun) ?_
            simpa [signal, data] using proper
        | false =>
            refine continuing_decides unset unsignalled active content
              (handled.trans (if_neg nofun)) signal (if_pos data) ?_
            simpa [signal, data] using proper
      · refine @continuing_decides _ message fails unset unsignalled active content []
          ?_ signal (if_neg data) ?_
        · rw [IndFile.handle_other active signal data]
          simp
        · simpa [signal, data] using proper

theorem dropped_decides (unset : receiving.Unset)
    (noEof : firstSignal receiving.heard ≠ some .eof)
    (inactive : receiving.indFile.activeTransfer = none)
    (removed : receiving.indFile.localFile = none) :
    Decides (.deliver message fails) receiving := by
  have after := step_deliver_inactive inactive message fails
  rw [hear_running unset.phase] at after
  have dropped : firstSignal (receiving.heard ++ [message]) ≠ some .eof →
      (receiving.step (.deliver message fails)).Promising := by
    intro noEof
    rw [after]
    exact .dropped unset noEof inactive removed
  cases first : firstSignal receiving.heard with
  | some signal =>
      refine decides_of_promising (fun _ unsignalled => ?_) (dropped ?_)
      · rw [first] at unsignalled
        cases unsignalled
      · rw [firstSignal_later first]
        rw [first] at noEof
        exact noEof
  | none =>
      have now := firstSignal_now first message
      by_cases eof : message.signal? = some .eof
      · refine decides_of_doomed (fun proper => ?_) ?_
        · exact ((proper unset.phase first).1 eof).2.1 inactive
        · rw [after]
          exact .overlooked unset (now.trans eof) inactive
      · refine decides_of_promising (fun _ _ => ⟨fun is => absurd is eof,
          fun _ => .inr inactive, fun _ _ => .inr inactive⟩) (dropped ?_)
        rw [now]
        exact eof

theorem completed_decides (signalled : receiving.Signalled)
    (eof : firstSignal receiving.heard = some .eof)
    (inactive : receiving.indFile.activeTransfer = none)
    (content : receiving.indFile.localFile = some (collected receiving.heard)) :
    Decides (.deliver message fails) receiving := by
  refine decides_of_promising (fun _ unsignalled => ?_) ?_
  · rw [eof] at unsignalled
    cases unsignalled
  · rw [step_deliver_inactive inactive, hear_running (.inr signalled.1)]
    refine .completed signalled (firstSignal_later eof message) inactive ?_
    rw [collected_later eof]
    exact content

theorem step_ended {returned : Bool} (ended : receiving.phase = .ended returned)
    (inactive : receiving.indFile.activeTransfer = none) (event : ReceiveEvent) :
    receiving.step event = receiving := by
  cases event with
  | deliver message fails =>
      have unheard : receiving.hear message = receiving.heard := by
        unfold hear
        rw [ended]
      rw [step_deliver_inactive inactive, unheard]
  | sent => exact if_neg (by rw [ended]; nofun)
  | sendRaised => exact if_neg (by rw [ended]; nofun)
  | woken => exact if_neg (by rw [ended]; nofun)
  | timedOut => exact if_neg (by rw [ended]; nofun)

theorem Promising.deliver (promising : receiving.Promising) (message : IndFileMessage)
    (fails : Bool) : Decides (.deliver message fails) receiving := by
  cases promising with
  | active unset unsignalled active content =>
      exact active_decides unset unsignalled active content
  | dropped unset noEof inactive removed =>
      exact dropped_decides unset noEof inactive removed
  | completed signalled eof inactive content =>
      exact completed_decides signalled eof inactive content
  | settled returned ended settled =>
      refine decides_of_promising (fun running => ?_) ?_
      · rw [ended] at running
        rcases running with running | running <;> cases running
      · rw [step_ended ended settled.inactive]
        exact .settled returned ended settled

/-- Leaving with an exception settles a transfer that no EOF has ended. -/
theorem leave_raised (noEof : firstSignal receiving.heard ≠ some .eof)
    (dropped : firstSignal receiving.heard = some .error →
      receiving.indFile.abort.localFile = none) :
    (receiving.leave false).Settled false where
  returned := ⟨nofun, fun eof => absurd eof noEof⟩
  content := fun eof => absurd eof noEof
  removed := dropped
  inactive := by
    show receiving.indFile.abort.activeTransfer = none
    unfold IndFile.abort
    split
    · assumption
    · rfl

/-- The request is out and the wait begins. -/
def wait (receiving : Receiving) : Receiving :=
  { receiving with
    phase := .waiting
    indFile := { receiving.indFile with transferCompleteEvent := some false } }

/-- A step of `receive` itself is not the delivery of a message. -/
def OwnStep : ReceiveEvent → Prop
  | .deliver _ _ => False
  | _ => True

/-- Before the event is set, `receive` goes on to wait or leaves with an exception. -/
theorem unset_step (unset : receiving.Unset) {event : ReceiveEvent} (own : OwnStep event) :
    receiving.step event = receiving ∨ receiving.step event = receiving.wait ∨
      receiving.step event = receiving.leave false := by
  rcases unset with ⟨sending, noEvent⟩ | ⟨waiting, unset⟩
  · cases event with
    | deliver message fails => exact own.elim
    | sent => exact .inr (.inl (if_pos sending))
    | sendRaised => exact .inr (.inr (if_pos sending))
    | woken => exact .inl (by simp [Receiving.step, sending])
    | timedOut => exact .inl (by simp [Receiving.step, sending])
  · cases event with
    | deliver message fails => exact own.elim
    | sent => exact .inl (by simp [Receiving.step, waiting])
    | sendRaised => exact .inl (by simp [Receiving.step, waiting])
    | woken => exact .inl (by simp [Receiving.step, unset])
    | timedOut => exact .inr (.inr (if_pos ⟨waiting, unset⟩))

/-- Once the event is set, `receive` returns. -/
theorem signalled_step (signalled : receiving.Signalled) {event : ReceiveEvent}
    (own : OwnStep event) :
    receiving.step event = receiving ∨ receiving.step event = receiving.leave true := by
  obtain ⟨waiting, told⟩ := signalled
  cases event with
  | deliver message fails => exact own.elim
  | sent => exact .inl (by simp [Receiving.step, waiting])
  | sendRaised => exact .inl (by simp [Receiving.step, waiting])
  | woken => exact .inr (if_pos ⟨waiting, told⟩)
  | timedOut => exact .inl (by simp [Receiving.step, told])

theorem Promising.ownStep (promising : receiving.Promising) {event : ReceiveEvent}
    (own : OwnStep event) : (receiving.step event).Promising := by
  have waits : receiving.wait.Unset := .inr ⟨rfl, rfl⟩
  cases promising with
  | active unset unsignalled active content =>
      rcases unset_step unset own with same | same | same
      · rw [same]
        exact .active unset unsignalled active content
      · rw [same]
        exact .active waits unsignalled active content
      · rw [same]
        refine .settled false rfl (leave_raised ?_ ?_)
        all_goals
          rw [unsignalled]
          nofun
  | dropped unset noEof inactive removed =>
      rcases unset_step unset own with same | same | same
      · rw [same]
        exact .dropped unset noEof inactive removed
      · rw [same]
        exact .dropped waits noEof inactive removed
      · rw [same]
        refine .settled false rfl (leave_raised noEof fun _ => ?_)
        rw [IndFile.abort_inactive inactive]
        exact removed
  | completed signalled eof inactive content =>
      rcases signalled_step signalled own with same | same
      · rw [same]
        exact .completed signalled eof inactive content
      · rw [same]
        exact .settled true rfl ⟨iff_of_true rfl eof, fun _ => content,
          fun error => absurd (eof.symm.trans error) nofun, inactive⟩
  | settled returned ended settled =>
      rw [step_ended ended settled.inactive]
      exact .settled returned ended settled

theorem Promising.decides (promising : receiving.Promising) (event : ReceiveEvent) :
    Decides event receiving := by
  cases event with
  | deliver message fails => exact promising.deliver message fails
  | sent => exact decides_of_promising trivial (promising.ownStep trivial)
  | sendRaised => exact decides_of_promising trivial (promising.ownStep trivial)
  | woken => exact decides_of_promising trivial (promising.ownStep trivial)
  | timedOut => exact decides_of_promising trivial (promising.ownStep trivial)

theorem not_settled_overlooked (eof : firstSignal receiving.heard = some .eof) :
    ¬ (receiving.leave false).Settled false :=
  fun settled => nomatch settled.returned.mpr eof

theorem not_settled_misreported (removed : receiving.indFile.localFile = none) :
    ¬ (receiving.leave true).Settled true := by
  intro settled
  have content := settled.content (settled.returned.mp rfl)
  cases removed.symm.trans content

theorem Doomed.deliver (doomed : receiving.Doomed) (message : IndFileMessage) (fails : Bool) :
    (receiving.step (.deliver message fails)).Doomed := by
  cases doomed with
  | overlooked unset eof inactive =>
      rw [step_deliver_inactive inactive, hear_running unset.phase]
      exact .overlooked unset (firstSignal_later eof message) inactive
  | misreported signalled inactive removed =>
      rw [step_deliver_inactive inactive]
      exact .misreported signalled inactive removed
  | unsettled returned ended inactive unsettled =>
      rw [step_ended ended inactive]
      exact .unsettled returned ended inactive unsettled

theorem Doomed.ownStep (doomed : receiving.Doomed) {event : ReceiveEvent}
    (own : OwnStep event) : (receiving.step event).Doomed := by
  cases doomed with
  | overlooked unset eof inactive =>
      rcases unset_step unset own with same | same | same
      · rw [same]
        exact .overlooked unset eof inactive
      · rw [same]
        exact .overlooked (.inr ⟨rfl, rfl⟩) eof inactive
      · rw [same]
        refine .unsettled false rfl ?_ (not_settled_overlooked eof)
        show receiving.indFile.abort.activeTransfer = none
        rw [IndFile.abort_inactive inactive]
        exact inactive
  | misreported signalled inactive removed =>
      rcases signalled_step signalled own with same | same
      · rw [same]
        exact .misreported signalled inactive removed
      · rw [same]
        exact .unsettled true rfl inactive (not_settled_misreported removed)
  | unsettled returned ended inactive unsettled =>
      rw [step_ended ended inactive]
      exact .unsettled returned ended inactive unsettled

theorem Doomed.step (doomed : receiving.Doomed) (event : ReceiveEvent) :
    (receiving.step event).Doomed := by
  cases event with
  | deliver message fails => exact doomed.deliver message fails
  | sent => exact doomed.ownStep trivial
  | sendRaised => exact doomed.ownStep trivial
  | woken => exact doomed.ownStep trivial
  | timedOut => exact doomed.ownStep trivial

theorem Promising.settles (promising : receiving.Promising) {returned : Bool}
    (ended : receiving.phase = .ended returned) : receiving.Settled returned := by
  cases promising with
  | active unset _ _ _ => rcases unset.phase with phase | phase <;> cases ended.symm.trans phase
  | dropped unset _ _ _ => rcases unset.phase with phase | phase <;> cases ended.symm.trans phase
  | completed signalled _ _ _ => cases ended.symm.trans signalled.1
  | settled other phase settled =>
      cases ended.symm.trans phase
      exact settled

theorem Doomed.unsettled_end (doomed : receiving.Doomed) {returned : Bool}
    (ended : receiving.phase = .ended returned) : ¬ receiving.Settled returned := by
  cases doomed with
  | overlooked unset _ _ => rcases unset.phase with phase | phase <;> cases ended.symm.trans phase
  | misreported signalled _ _ => cases ended.symm.trans signalled.1
  | unsettled other phase _ unsettled =>
      cases ended.symm.trans phase
      exact unsettled

section Runs

variable (localFile : Option (List UInt8)) (events : List ReceiveEvent)

theorem start_promising : (start localFile).Promising :=
  .active (.inl ⟨rfl, rfl⟩) rfl rfl rfl

theorem run_decides :
    Along step Proper events (start localFile) ∧
        (run step events (start localFile)).Promising ∨
      ¬ Along step Proper events (start localFile) ∧
        (run step events (start localFile)).Doomed :=
  along_or_spoiled (fun event _ promising => (promising.decides event).1)
    (fun event _ promising => (promising.decides event).2)
    (fun event _ doomed => doomed.step event) events (start_promising localFile)

theorem run_ends : (∃ returned, (run step events (start localFile)).phase = .ended returned) ∨
    ∃ event returned, OwnStep event ∧
      ((run step events (start localFile)).step event).phase = .ended returned := by
  have unset_ends : ∀ {receiving : Receiving}, receiving.Unset →
      ∃ event returned, OwnStep event ∧ (receiving.step event).phase = .ended returned := by
    rintro receiving (⟨sending, _⟩ | ⟨waiting, event⟩)
    · exact ⟨.sendRaised, false, trivial, by simp [Receiving.step, sending, leave]⟩
    · exact ⟨.timedOut, false, trivial, by simp [Receiving.step, waiting, event, leave]⟩
  have signalled_ends : ∀ {receiving : Receiving}, receiving.Signalled →
      ∃ event returned, OwnStep event ∧ (receiving.step event).phase = .ended returned := by
    rintro receiving ⟨waiting, event⟩
    exact ⟨.woken, true, trivial, by simp [Receiving.step, waiting, event, leave]⟩
  rcases run_decides localFile events with ⟨_, promising⟩ | ⟨_, doomed⟩
  · cases promising with
    | active unset _ _ _ => exact .inr (unset_ends unset)
    | dropped unset _ _ _ => exact .inr (unset_ends unset)
    | completed signalled _ _ _ => exact .inr (signalled_ends signalled)
    | settled returned ended _ => exact .inl ⟨returned, ended⟩
  · cases doomed with
    | overlooked unset _ _ => exact .inr (unset_ends unset)
    | misreported signalled _ _ => exact .inr (signalled_ends signalled)
    | unsettled returned ended _ _ => exact .inl ⟨returned, ended⟩

variable {localFile events}

/-- An ended `receive` has the outcome that the messages call for exactly if all that
arrived was proper. -/
theorem settled_iff {returned : Bool}
    (ended : (run step events (start localFile)).phase = .ended returned) :
    (run step events (start localFile)).Settled returned ↔
      Along step Proper events (start localFile) := by
  rcases run_decides localFile events with ⟨along, promising⟩ | ⟨broken, doomed⟩
  · exact iff_of_true (promising.settles ended) along
  · exact iff_of_false (doomed.unsettled_end ended) broken

end Runs

/-- Two pieces of data and an EOF, all of them while `receive` waits. -/
theorem settled_small :
    (run step [.sent, .deliver ⟨0x02, [0xC1]⟩ false, .deliver ⟨0x02, [0xC2]⟩ false,
        .deliver ⟨0x03, []⟩ false, .woken] (start none)).Settled true :=
  (@settled_iff none _ true rfl).mpr
    ⟨trivial, by decide, by decide, by decide, trivial, trivial⟩

/-- An ERROR sets the event that `receive` waits for. -/
theorem not_settled :
    ¬ ∀ (localFile : Option (List UInt8)) (events : List ReceiveEvent) (returned : Bool),
      (run step events (start localFile)).phase = .ended returned →
        (run step events (start localFile)).Settled returned := by
  intro claimed
  have misreported := claimed none [.sent, .deliver ⟨0x04, []⟩ false, .woken] true rfl
  exact nomatch misreported.returned.mp rfl

end Receiving

end Pure3270
