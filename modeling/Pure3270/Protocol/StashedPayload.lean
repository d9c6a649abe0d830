import Pure3270.Protocol.DecodedBytes
import Pure3270.Protocol.HandlerModes
import Pure3270.Protocol.RecordReception

/-!
# Payloads stored during the negotiation

While the negotiation runs, another reader takes the data off the connection,
has it handled, and keeps what is returned for the caller who asks first.  What
is kept has been decoded and has lost its header; the call that takes it puts
it through the decoder and the mode once more.
-/

namespace Pure3270

open Foundations

namespace Tn3270Handler

variable (collaborators : Collaborators)

/-- One read of `_reader_loop`.  ASCII mode is not taken up here, and data whose
handling fails is kept as it is. -/
def readerLoopPart (part : List UInt8) : HandlerM Unit := do
  let (cleaned, asciiDetected) ← processTelnetStream collaborators part
  if cleaned = [] then return
  else do
    let handler ← get
    let asciiMode := asciiDetected || handler.session.negotiator.asciiMode
    let payloadToStash ← tryCatch
      (do
        let ret ← handleMode collaborators asciiMode cleaned
        return ret.getD cleaned)
      fun _ => return cleaned
    modify fun handler =>
      { handler with pendingPayload := handler.pendingPayload ++ payloadToStash }

/-- Calls of `receive_data` in a row, with the reads that are left. -/
def receiveTurns : Nat → List (List UInt8) →
    HandlerM (List (List UInt8) × List (List UInt8))
  | 0, reads => return ([], reads)
  | count + 1, reads => do
      let (payload, left) ← receiveData collaborators reads
      let (payloads, rest) ← receiveTurns count left
      return (payload :: payloads, rest)

/-- How many calls it takes to get to what is read next: what has been kept is
returned by a call of its own. -/
def turns (handler : Tn3270Handler) : Nat :=
  if handler.pendingPayload = [] then 1 else 2

variable {payload : List UInt8} {handler : Tn3270Handler}

/-- The data that the Telnet layer yields for a read. -/
def decoded (part : List UInt8) (handler : Tn3270Handler) : List UInt8 :=
  (handler.telnet.processTelnetStream part).1.1

/-- The handler after the Telnet layer has been through a read. -/
def throughTelnet (part : List UInt8) (handler : Tn3270Handler) : Tn3270Handler :=
  finalState (processTelnetStream collaborators part handler)

/-- The mode that is chosen for the data of a read. -/
def modeFor (processedData : List UInt8) (handler : Tn3270Handler) : Bool :=
  detectVt100Sequences processedData || handler.session.negotiator.asciiMode

theorem processTelnetStream_ok (part : List UInt8) (handler : Tn3270Handler) :
    processTelnetStream collaborators part handler =
      .ok (decoded part handler, detectVt100Sequences (decoded part handler))
        (throughTelnet collaborators part handler) := rfl

/-- A reaction to the Telnet layer leaves what is not its own. -/
theorem reactTo_frame (handler : Tn3270Handler) (call : TelnetCall) :
    (reactTo collaborators handler call).parser = handler.parser ∧
      SameIntake handler (reactTo collaborators handler call) := by
  cases call with
  | handleIacCommand cmd option => exact ⟨rfl, ⟨rfl, rfl, rfl⟩⟩
  | handleSubnegotiation option subPayload => exact ⟨rfl, ⟨rfl, rfl, rfl⟩⟩
  | handleTelnetCommand cmd =>
      unfold reactTo handleTelnetCommand
      simp only
      split
      · split
        · exact ⟨rfl, ⟨rfl, rfl, rfl⟩⟩
        · exact ⟨rfl, refl_of SameIntake handler⟩
      · split
        · split
          · exact ⟨rfl, ⟨rfl, rfl, rfl⟩⟩
          · exact ⟨rfl, refl_of SameIntake handler⟩
        · exact ⟨rfl, refl_of SameIntake handler⟩

theorem foldl_reactTo_frame (calls : List TelnetCall) (handler : Tn3270Handler) :
    (calls.foldl (reactTo collaborators) handler).parser = handler.parser ∧
      SameIntake handler (calls.foldl (reactTo collaborators) handler) := by
  induction calls generalizing handler with
  | nil => exact ⟨rfl, refl_of SameIntake handler⟩
  | cons call calls ih =>
      obtain ⟨parser, intake⟩ := reactTo_frame collaborators handler call
      obtain ⟨laterParser, laterIntake⟩ := ih (reactTo collaborators handler call)
      exact ⟨laterParser.trans parser, trans_of SameIntake intake laterIntake⟩

theorem throughTelnet_frame (part : List UInt8) (handler : Tn3270Handler) :
    (throughTelnet collaborators part handler).parser = handler.parser ∧
      (throughTelnet collaborators part handler).pendingPayload = handler.pendingPayload ∧
      (throughTelnet collaborators part handler).telnet =
        (handler.telnet.processTelnetStream part).2 := by
  obtain ⟨parser, intake⟩ := foldl_reactTo_frame collaborators
    ((handler.telnet.processTelnetStream part).2.calls.drop handler.telnet.calls.length)
    { handler with telnet := (handler.telnet.processTelnetStream part).2 }
  exact ⟨parser, intake.pendingPayload, intake.telnet⟩

/-- Taking up ASCII mode changes the session only. -/
theorem detectAsciiMode_run (processedData : List UInt8) (handler : Tn3270Handler) :
    ∃ next, detectAsciiMode (detectVt100Sequences processedData) handler =
        .ok (modeFor processedData handler) next ∧
      Alike handler next ∧ SameIntake handler next := by
  unfold detectAsciiMode modeFor
  rw [run_get_bind]
  by_cases takes : (detectVt100Sequences processedData &&
      !handler.session.negotiatedTn3270e) = true
  · have detected : detectVt100Sequences processedData = true :=
      (Bool.and_eq_true_iff.mp takes).1
    rw [if_pos takes, detected]
    exact ⟨_, rfl, ⟨⟨rfl, rfl⟩, true, rfl⟩, ⟨rfl, rfl, rfl⟩⟩
  · rw [if_neg takes]
    exact ⟨handler, rfl, ⟨⟨rfl, rfl⟩, handler.session.negotiator.asciiMode, rfl⟩,
      refl_of SameIntake handler⟩

/-- A read whose data is not empty goes through the mode, as it would from any
handler that is alike. -/
theorem receivePart_lockstep {part : List UInt8} {handler left : Tn3270Handler}
    (alike : Alike left (throughTelnet collaborators part handler))
    (yields : decoded part handler ≠ []) :
    SameExit SameParser
      (handleMode collaborators
        (modeFor (decoded part handler) (throughTelnet collaborators part handler))
        (decoded part handler) left)
      (receivePart collaborators part handler) := by
  obtain ⟨next, mode, sameSession, -⟩ := detectAsciiMode_run (decoded part handler)
    (throughTelnet collaborators part handler)
  have same := handleMode_lockstep collaborators
    (modeFor (decoded part handler) (throughTelnet collaborators part handler))
    (decoded part handler) (alike.trans sameSession)
  have goesOn : ¬ (decoded part handler = [] ∧
      (throughTelnet collaborators part handler).telnet.telnetBuffer ≠ []) :=
    fun both => yields both.1
  have tail : (fun result : Option (List UInt8) =>
      (if result.isNone ∧ decoded part handler = [] then return some []
        else return result : HandlerM (Option (List UInt8)))) = pure := by
    funext result
    exact if_neg fun both => yields both.2
  unfold receivePart
  rw [run_bind_ok (processTelnetStream_ok collaborators part handler)]
  simp only
  rw [run_get_bind, if_neg goesOn, run_bind_ok mode, tail, bind_pure]
  exact same

/-- A read without data returns nothing. -/
theorem receivePart_empty {part payload : List UInt8} {handler after : Tn3270Handler}
    (nothing : decoded part handler = []) (nonempty : payload ≠ []) :
    receivePart collaborators part handler ≠ .ok (some payload) after := by
  intro received
  obtain ⟨next, mode, -, -⟩ := detectAsciiMode_run (decoded part handler)
    (throughTelnet collaborators part handler)
  unfold receivePart at received
  rw [run_bind_ok (processTelnetStream_ok collaborators part handler)] at received
  simp only at received
  rw [run_get_bind] at received
  split at received
  · cases received
    exact nonempty rfl
  · rw [run_bind_ok mode, nothing] at received
    split at received
    · have value := (handleAsciiMode_returns collaborators [] next).2 _ _ received
      have none := returned_nil true next
      unfold returned at none
      rw [if_pos rfl] at none
      rw [none] at value
      cases value
    · obtain ⟨result, middle, ran, later⟩ := exists_of_bind_ok received
      have value := (handleTn3270Mode_returns [] next).2 _ _ ran
      rw [value] at later
      cases later
      exact nonempty rfl

/-- What is kept for the caller does not change. -/
def SamePayload (before after : Tn3270Handler) : Prop :=
  after.pendingPayload = before.pendingPayload

instance : IsPreorder Tn3270Handler SamePayload where
  refl _ := rfl
  trans _ _ _ first second := second.trans first

theorem receivePart_samePayload (part : List UInt8) :
    Within SamePayload (receivePart collaborators part) := by
  intro handler
  have weaker : ∀ before after, SameIntake before after → SamePayload before after :=
    fun _ _ same => same.pendingPayload
  refine WithinAt.bind (throughTelnet_frame collaborators part handler).2.1 ?_
  rintro ⟨processedData, detected⟩ after ran
  cases ran
  refine .getBind (.ite (fun _ => .pure _) fun _ => ?_)
  obtain ⟨next, mode, -, same⟩ := detectAsciiMode_run (decoded part handler)
    (throughTelnet collaborators part handler)
  have moved : WithinAt SamePayload
      (detectAsciiMode (detectVt100Sequences (decoded part handler)))
      (throughTelnet collaborators part handler) := by
    unfold WithinAt
    rw [mode]
    exact same.pendingPayload
  refine moved.bind fun asciiMode after _ => .ite (fun _ => ?_) fun _ => ?_
  · exact (handleAsciiMode_returns collaborators _ after).1.mono weaker
  · refine ((handleTn3270Mode_returns _ after).1.mono weaker).bind fun _ after _ => ?_
    exact .ite (fun _ => .pure _) fun _ => .pure _

theorem receiveReads_left {reads left : List (List UInt8)} {payload : List UInt8}
    {handler after : Tn3270Handler}
    (received : receiveReads collaborators reads handler = .ok (payload, left) after) :
    left.length < reads.length ∧ SamePayload handler after := by
  induction reads generalizing handler with
  | nil => cases received
  | cons part reads ih =>
      unfold receiveReads at received
      split at received
      · cases received
      · obtain ⟨result, middle, ran, later⟩ := exists_of_bind_ok received
        have moved := receivePart_samePayload collaborators part handler
        unfold WithinAt at moved
        rw [ran] at moved
        cases result with
        | none =>
            obtain ⟨shorter, same⟩ := ih later
            exact ⟨Nat.lt_succ_of_lt shorter, trans_of SamePayload moved same⟩
        | some value =>
            cases later
            exact ⟨Nat.lt_succ_self _, moved⟩

theorem receiveReads_ne_unread {reads : List (List UInt8)} {payload : List UInt8}
    {handler after : Tn3270Handler} :
    receiveReads collaborators reads handler ≠ .ok (payload, reads) after :=
  fun received => absurd (receiveReads_left collaborators received).1 (Nat.lt_irrefl _)

/-- A call leaves nothing behind that has been kept, and takes a read unless
something had been kept. -/
theorem receiveData_left {reads left : List (List UInt8)} {payload : List UInt8}
    {handler after : Tn3270Handler}
    (received : receiveData collaborators reads handler = .ok (payload, left) after) :
    after.pendingPayload = [] ∧ left.length ≤ reads.length ∧
      (handler.pendingPayload = [] → left.length < reads.length) := by
  unfold receiveData at received
  rw [run_get_bind] at received
  split at received
  · rename_i none
    obtain ⟨shorter, same⟩ := receiveReads_left collaborators received
    exact ⟨same.trans none, Nat.le_of_lt shorter, fun _ => shorter⟩
  · rename_i kept
    obtain ⟨_, cleared, isCleared, received⟩ := exists_of_bind_ok received
    cases isCleared
    obtain ⟨result, middle, ran, later⟩ := exists_of_bind_ok received
    have moved := receivePart_samePayload collaborators handler.pendingPayload
      { handler with pendingPayload := [] }
    unfold WithinAt at moved
    rw [ran] at moved
    cases result with
    | none =>
        obtain ⟨shorter, same⟩ := receiveReads_left collaborators later
        exact ⟨same.trans moved, Nat.le_of_lt shorter, fun none => absurd none kept⟩
    | some value =>
        cases later
        exact ⟨moved, Nat.le_refl _, fun none => absurd none kept⟩

theorem receivePart_of_receiveData {part payload : List UInt8}
    {reads : List (List UInt8)} {handler after : Tn3270Handler}
    (none : handler.pendingPayload = [])
    (received : receiveData collaborators (part :: reads) handler =
      .ok (payload, reads) after) :
    receivePart collaborators part handler = .ok (some payload) after := by
  unfold receiveData receiveReads at received
  rw [run_get_bind, if_pos none] at received
  split at received
  · cases received
  · obtain ⟨result, middle, ran, later⟩ := exists_of_bind_ok received
    cases result with
    | none => exact absurd later (receiveReads_ne_unread collaborators)
    | some value =>
        cases later
        exact ran

/-- A call that returns without a read has what had been kept put through once
more. -/
theorem receiveData_kept_iff {payload : List UInt8} {reads : List (List UInt8)}
    {handler after : Tn3270Handler} (kept : handler.pendingPayload ≠ []) :
    receiveData collaborators reads handler = .ok (payload, reads) after ↔
      receivePart collaborators handler.pendingPayload
        { handler with pendingPayload := [] } = .ok (some payload) after := by
  unfold receiveData
  rw [run_get_bind, if_neg kept]
  constructor
  · intro received
    obtain ⟨_, cleared, isCleared, received⟩ := exists_of_bind_ok received
    cases isCleared
    obtain ⟨result, middle, ran, later⟩ := exists_of_bind_ok received
    cases result with
    | none => exact absurd later (receiveReads_ne_unread collaborators)
    | some value =>
        cases later
        exact ran
  · intro ran
    have cleared : (set { handler with pendingPayload := [] } : HandlerM PUnit)
        handler = .ok ⟨⟩ { handler with pendingPayload := [] } := rfl
    rw [run_bind_ok cleared, run_bind_ok ran]
    rfl

/-- A payload that has been kept is as good as new: the Telnet layer takes every
byte of it for data, the mode finds nothing to take off, and handling it a
second time neither fails nor does anything to the screen. -/
structure Unaffected (payload : List UInt8) (stored : Tn3270Handler) : Prop where
  decodes : Telnet.DecodesToItself stored.telnet.telnetBuffer payload
  nothingTaken : NothingTaken (modeFor payload stored) payload stored
  idle : ∃ value after,
    handleMode collaborators (modeFor payload stored) payload stored = .ok value after ∧
      after.parser.screen = stored.parser.screen

variable {payload : List UInt8} {stored : Tn3270Handler}

/-- Bytes that are all data have the Telnet layer react to nothing. -/
theorem throughTelnet_decodesToItself
    (itself : Telnet.DecodesToItself handler.telnet.telnetBuffer payload) :
    decoded payload handler = payload ∧
      (throughTelnet collaborators payload handler).session = handler.session ∧
      (throughTelnet collaborators payload handler).parser = handler.parser ∧
      (throughTelnet collaborators payload handler).hasPrinterBuffer =
        handler.hasPrinterBuffer := by
  have made : Telnet.made (payload.map .data) = [] := by
    rw [Telnet.made, List.filterMap_map]
    exact List.filterMap_eq_nil_iff.mpr fun _ _ => rfl
  have processed : handler.telnet.processTelnetStream payload =
      ((payload, detectVt100Sequences payload), ⟨[], handler.telnet.calls⟩) := by
    unfold TelnetStream.processTelnetStream
    rw [itself.scan]
    simp only [Telnet.cleaned_data, made, List.append_nil]
  have next : throughTelnet collaborators payload handler =
      { handler with telnet := ⟨[], handler.telnet.calls⟩ } := by
    unfold throughTelnet processTelnetStream
    rw [processed]
    simp only [finalState_ok, List.drop_length, List.foldl_nil]
  refine ⟨?_, ?_, ?_, ?_⟩
  · unfold decoded
    rw [processed]
  · rw [next]
  · rw [next]
  · rw [next]

/-- A payload that is handled anew and returned as it is consists of data. -/
theorem decodesToItself_of_receivePart {after : Tn3270Handler}
    (incomplete : Telnet.tokenizer.token handler.telnet.telnetBuffer = none)
    (nonempty : payload ≠ [])
    (received : receivePart collaborators payload handler = .ok (some payload) after) :
    Telnet.DecodesToItself handler.telnet.telnetBuffer payload := by
  apply (Telnet.cleaned_behind_eq_iff incomplete nonempty).mp
  show decoded payload handler = payload
  have yields : decoded payload handler ≠ [] :=
    fun nothing => receivePart_empty collaborators nothing nonempty received
  have alike : Alike (throughTelnet collaborators payload handler)
      (throughTelnet collaborators payload handler) := .of_session rfl rfl rfl
  have same := receivePart_lockstep collaborators alike yields
  rw [received] at same
  cases outcome : handleMode collaborators
      (modeFor (decoded payload handler) (throughTelnet collaborators payload handler))
      (decoded payload handler) (throughTelnet collaborators payload handler) with
  | error fault middle =>
      rw [outcome] at same
      cases same
  | ok value middle =>
      rw [outcome] at same
      cases same
      have returns := (handleMode_ok collaborators outcome).2
      have piece := returned_inside returns.symm
      have bound : (decoded payload handler).length ≤ payload.length :=
        Telnet.length_cleaned_behind incomplete payload
      exact (piece.sublist.eq_of_length_le bound).symm

/-- A stored payload of data is handled by the mode alike, whether or not it comes through
the Telnet layer once more. -/
theorem handleMode_kept_lockstep (nonempty : stored.pendingPayload ≠ [])
    (itself : Telnet.DecodesToItself stored.telnet.telnetBuffer stored.pendingPayload) :
    SameExit SameParser
      (handleMode collaborators (modeFor stored.pendingPayload stored)
        stored.pendingPayload stored)
      (receivePart collaborators stored.pendingPayload
        { stored with pendingPayload := [] }) := by
  obtain ⟨same, session, parser, printer⟩ := @throughTelnet_decodesToItself collaborators
    { stored with pendingPayload := [] } _ itself
  have alike : Alike stored (throughTelnet collaborators stored.pendingPayload
      { stored with pendingPayload := [] }) :=
    .of_session parser printer session
  have run := receivePart_lockstep collaborators alike (same.symm ▸ nonempty)
  unfold modeFor at run ⊢
  rwa [same, session] at run

theorem receiveData_kept_unaffected
    (incomplete : Telnet.tokenizer.token stored.telnet.telnetBuffer = none)
    (nonempty : stored.pendingPayload ≠ []) (reads : List (List UInt8)) :
    (∃ after, receiveData collaborators reads stored =
        .ok (stored.pendingPayload, reads) after ∧
      after.parser.screen = stored.parser.screen) ↔
      Unaffected collaborators stored.pendingPayload stored := by
  constructor
  · rintro ⟨after, received, screen⟩
    have ran := (receiveData_kept_iff collaborators nonempty).mp received
    have itself := @decodesToItself_of_receivePart collaborators
      { stored with pendingPayload := [] } _ _ incomplete nonempty ran
    have same := handleMode_kept_lockstep collaborators nonempty itself
    rw [ran] at same
    cases outcome : handleMode collaborators (modeFor stored.pendingPayload stored)
        stored.pendingPayload stored with
    | error fault middle =>
        rw [outcome] at same
        cases same
    | ok value middle =>
        rw [outcome] at same
        cases same with
        | ok _ sameParser =>
            have returns := (handleMode_ok collaborators outcome).2
            exact
              { decodes := itself
                nothingTaken := (returned_eq_iff _ nonempty).mp returns.symm
                idle := ⟨_, middle, outcome, by rw [← screen, sameParser.parser]⟩ }
  · intro unaffected
    obtain ⟨value, middle, outcome, idle⟩ := unaffected.idle
    have same := handleMode_kept_lockstep collaborators nonempty unaffected.decodes
    have returns := (handleMode_ok collaborators outcome).2
    rw [(returned_eq_iff _ nonempty).mpr unaffected.nothingTaken] at returns
    rw [outcome, returns] at same
    cases ran : receivePart collaborators stored.pendingPayload
        { stored with pendingPayload := [] } with
    | error fault after =>
        rw [ran] at same
        cases same
    | ok result after =>
        rw [ran] at same
        cases same with
        | ok _ sameParser =>
            refine ⟨after, (receiveData_kept_iff collaborators nonempty).mpr ran, ?_⟩
            rw [sameParser.parser, idle]

theorem readerLoopPart_run {part : List UInt8} {middle : Tn3270Handler}
    (yields : decoded part handler ≠ [])
    (outcome : handleMode collaborators
      (modeFor (decoded part handler) (throughTelnet collaborators part handler))
      (decoded part handler) (throughTelnet collaborators part handler) =
        .ok (some payload) middle) :
    readerLoopPart collaborators part handler =
      .ok () { middle with pendingPayload := middle.pendingPayload ++ payload } := by
  have stash : (do
        let ret ← handleMode collaborators
          (modeFor (decoded part handler) (throughTelnet collaborators part handler))
          (decoded part handler)
        return ret.getD (decoded part handler) : HandlerM (List UInt8))
      (throughTelnet collaborators part handler) = .ok payload middle := by
    rw [run_bind_ok outcome]
    rfl
  unfold readerLoopPart
  rw [run_bind_ok (processTelnetStream_ok collaborators part handler)]
  simp only
  rw [if_neg yields, run_get_bind]
  exact run_bind_ok (run_tryCatch_ok stash)

/-- What the reader has kept is a payload that would have been returned, together
with the screen that would have been left. -/
theorem readerLoopPart_kept {part : List UInt8} {direct : Tn3270Handler}
    (received : receivePart collaborators part handler = .ok (some payload) direct)
    (nonempty : payload ≠ []) :
    (finalState (readerLoopPart collaborators part handler)).pendingPayload =
        handler.pendingPayload ++ payload ∧
      (finalState (readerLoopPart collaborators part handler)).parser = direct.parser ∧
      Telnet.tokenizer.token
        (finalState (readerLoopPart collaborators part handler)).telnet.telnetBuffer =
          none := by
  have yields : decoded part handler ≠ [] :=
    fun nothing => receivePart_empty collaborators nothing nonempty received
  obtain ⟨-, payloadFrame, telnetFrame⟩ := throughTelnet_frame collaborators part handler
  have alike : Alike (throughTelnet collaborators part handler)
      (throughTelnet collaborators part handler) := .of_session rfl rfl rfl
  have same := receivePart_lockstep collaborators alike yields
  rw [received] at same
  cases outcome : handleMode collaborators
      (modeFor (decoded part handler) (throughTelnet collaborators part handler))
      (decoded part handler) (throughTelnet collaborators part handler) with
  | error fault middle =>
      rw [outcome] at same
      cases same
  | ok value middle =>
      rw [outcome] at same
      cases same with
      | ok _ sameParser =>
          have intake := (handleMode_ok collaborators outcome).1
          rw [readerLoopPart_run collaborators yields outcome]
          refine ⟨?_, sameParser.parser.symm, ?_⟩
          · show middle.pendingPayload ++ payload = _
            rw [intake.pendingPayload]
            exact congrArg (· ++ payload) payloadFrame
          · show Telnet.tokenizer.token middle.telnet.telnetBuffer = none
            rw [intake.telnet, telnetFrame]
            exact Telnet.tokenizer.token_rest _

/-- The calls return the payloads without a read that they return when the reader
leaves the part to them, and leave the same screen. -/
def Delivered (part : List UInt8) (reads payloads : List (List UInt8))
    (direct handler : Tn3270Handler) : Prop :=
  ∃ after, receiveTurns collaborators handler.turns reads
      (finalState (readerLoopPart collaborators part handler)) =
        .ok (payloads, reads) after ∧
    after.parser.screen = direct.parser.screen

theorem receiveTurns_one_iff {reads left payloads : List (List UInt8)}
    {after : Tn3270Handler} :
    receiveTurns collaborators 1 reads handler = .ok (payloads ++ [payload], left) after ↔
      payloads = [] ∧
        receiveData collaborators reads handler = .ok (payload, left) after := by
  unfold receiveTurns
  constructor
  · intro ran
    obtain ⟨⟨value, rest⟩, middle, received, later⟩ := exists_of_bind_ok ran
    injection later with values same
    injection values with values leftReads
    obtain ⟨rfl, last⟩ : payloads = [] ∧ [payload] = [value] := by
      cases payloads with
      | nil => exact ⟨rfl, values.symm⟩
      | cons first payloads =>
          injection values with _ none
          simp at none
    injection last with last
    rw [← leftReads, ← same, last]
    exact ⟨rfl, received⟩
  · rintro ⟨rfl, received⟩
    rw [run_bind_ok received]
    rfl

/-- Two calls take a read at least. -/
theorem receiveTurns_two_left {reads left payloads : List (List UInt8)}
    {after : Tn3270Handler}
    (ran : receiveTurns collaborators 2 reads handler = .ok (payloads, left) after) :
    left.length < reads.length := by
  obtain ⟨⟨first, rest⟩, middle, received, later⟩ := exists_of_bind_ok ran
  obtain ⟨more, between, turned, last⟩ := exists_of_bind_ok later
  obtain ⟨⟨second, rest'⟩, final, again, ended⟩ := exists_of_bind_ok turned
  obtain ⟨none, atMost, -⟩ := receiveData_left collaborators received
  have fewer := (receiveData_left collaborators again).2.2 none
  cases ended
  injection last with values
  injection values with _ same
  rw [← same]
  exact fewer.trans_le atMost

/-- A payload that is kept during the negotiation is delivered as if it had arrived
later exactly when nothing had been kept before it and it is unaffected by being
put through the decoder and the mode once more. -/
theorem delivered_iff {part payload : List UInt8} {reads payloads : List (List UInt8)}
    {handler direct : Tn3270Handler}
    (read : receiveTurns collaborators handler.turns (part :: reads) handler =
      .ok (payloads ++ [payload], reads) direct)
    (stores : payload ≠ []) :
    Delivered collaborators part reads (payloads ++ [payload]) direct handler ↔
      handler.pendingPayload = [] ∧
        Unaffected collaborators payload
          (finalState (readerLoopPart collaborators part handler)) := by
  by_cases none : handler.pendingPayload = []
  · have one : handler.turns = 1 := if_pos none
    unfold Delivered
    rw [one] at read ⊢
    obtain ⟨rfl, received⟩ := (receiveTurns_one_iff collaborators).mp read
    have direct := receivePart_of_receiveData collaborators none received
    obtain ⟨kept, parser, incomplete⟩ :=
      readerLoopPart_kept collaborators direct stores
    rw [none, List.nil_append] at kept
    have again := receiveData_kept_unaffected collaborators incomplete
      (kept.symm ▸ stores) reads
    rw [kept, parser] at again
    rw [and_iff_right none, ← again]
    simp only [receiveTurns_one_iff, true_and]
  · have two : handler.turns = 2 := if_neg none
    refine iff_of_false ?_ fun both => none both.1
    rintro ⟨after, ran, -⟩
    rw [two] at ran
    exact absurd (receiveTurns_two_left collaborators ran) (Nat.lt_irrefl _)

/-- An Erase/Write that is kept is delivered. -/
theorem delivered_eraseWrite :
    Delivered quietCollaborators [0x05, 0xC3, 0xC1] [] [[0x05, 0xC3, 0xC1]]
      (finalState (receiveTurns quietCollaborators 1 [[0x05, 0xC3, 0xC1]] smallHandler))
      smallHandler := by
  have read : receiveTurns quietCollaborators smallHandler.turns [[0x05, 0xC3, 0xC1]]
      smallHandler = .ok ([] ++ [[0x05, 0xC3, 0xC1]], [])
        (finalState (receiveTurns quietCollaborators 1 [[0x05, 0xC3, 0xC1]]
          smallHandler)) := rfl
  refine (delivered_iff quietCollaborators read (by decide)).mpr ⟨rfl, ?_, ?_, ?_⟩
  · exact .inl ⟨rfl, by decide⟩
  · refine ⟨by decide, ?_⟩
    rw [if_neg (by decide +kernel)]
    refine ⟨?_, by decide, by decide⟩
    rintro ⟨header, found, -⟩
    cases found
  · exact ⟨_, _, rfl, rfl⟩

/-- What a computation returns. -/
def valueOf : EStateM.Result Fault Tn3270Handler α → Option α
  | .ok value _ => some value
  | .error _ _ => none

/-- Of an Erase/Write with the byte 0xFF in it, that byte and the one behind it are
lost. -/
theorem not_delivered_escaped :
    ∃ direct, receiveTurns quietCollaborators 1 [[0x05, 0xC3, 0xC1, 0xFF, 0xFF, 0xC2]]
        smallHandler = .ok ([[0x05, 0xC3, 0xC1, 0xFF, 0xC2]], []) direct ∧
      ¬ Delivered quietCollaborators [0x05, 0xC3, 0xC1, 0xFF, 0xFF, 0xC2] []
        [[0x05, 0xC3, 0xC1, 0xFF, 0xC2]] direct smallHandler := by
  have read : valueOf (receiveTurns quietCollaborators 1
      [[0x05, 0xC3, 0xC1, 0xFF, 0xFF, 0xC2]] smallHandler) =
        some ([[0x05, 0xC3, 0xC1, 0xFF, 0xC2]], []) := by decide +kernel
  have reread : valueOf (receiveTurns quietCollaborators 1 []
      (finalState (readerLoopPart quietCollaborators
        [0x05, 0xC3, 0xC1, 0xFF, 0xFF, 0xC2] smallHandler))) =
          some ([[0x05, 0xC3, 0xC1]], []) := by decide +kernel
  cases ran : receiveTurns quietCollaborators 1
      [[0x05, 0xC3, 0xC1, 0xFF, 0xFF, 0xC2]] smallHandler with
  | error fault direct =>
      rw [ran] at read
      cases read
  | ok value direct =>
      rw [ran] at read
      injection read with value
      refine ⟨direct, by rw [value], ?_⟩
      rintro ⟨after, returned, -⟩
      have turns : smallHandler.turns = 1 := rfl
      rw [← turns, returned] at reread
      cases reread

end Tn3270Handler

end Pure3270
