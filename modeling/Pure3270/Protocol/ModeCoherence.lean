import Pure3270.Protocol.HostWill
import Pure3270.Protocol.Negotiation
import Pure3270.Protocol.Tn3270Handler

/-!
# Mode coherence

Negotiator and handler keep a flag each for TN3270E and for ASCII mode.  The
flags for TN3270E are always set together; the ASCII flags are not reset
together, and most of what sets the flag for TN3270E does not look at ASCII
mode.
-/

namespace Pure3270

open Foundations Telnet Tn3270e

/-- What changes the flags of a session.  `negotiate` is the negotiation up to the
moment from which only the reader loop goes on, `conclude` its end. -/
inductive ModeEvent where
  | host (event : HostEvent)
  | setAsciiMode
  | detectAscii
  | negotiate (outcome : NegotiationOutcome)
  | conclude (trace : List UInt8)
  deriving DecidableEq, Repr

namespace Session

/-- The ASCII flags of the negotiator and of the handler are equal. -/
def AsciiInSync (session : Session) : Prop :=
  session.asciiMode = session.negotiator.asciiMode

/-- The flags agree, and TN3270E and ASCII mode exclude each other. -/
structure Coherent (session : Session) : Prop where
  inSync : session.InSync
  asciiInSync : session.AsciiInSync
  exclusive : session.negotiator.asciiMode = true →
    session.negotiator.negotiatedTn3270e = false

/-- The negotiation ends in a cleanup. -/
def CleansUp (outcome : NegotiationOutcome) (negotiator : Negotiator) : Prop :=
  negotiator.forceMode = none ∧ negotiator.hasWriter = true ∧
    (negotiator.forcedFailure = true ∧ negotiator.allowFallback = false ∨
      outcome = .completed ∧ negotiator.waitsEnd = true ∧
        negotiator.forcedFailure = true ∨
      outcome = .timedOut ∧ negotiator.allowFallback = false)

end Session

/-- A session, and whether its handler has a negotiation to conclude. -/
structure ModeRun where
  session : Session
  concluding : Bool

namespace ModeRun

def step (event : ModeEvent) (state : ModeRun) : ModeRun :=
  match event with
  | .host event => { state with session := event.next state.session }
  | .setAsciiMode => { state with session := state.session.setAsciiMode }
  | .detectAscii => { state with session := state.session.takeUpAsciiMode }
  | .negotiate outcome =>
      match Session.performNegotiate outcome state.session with
      | .ok _ session => ⟨session, true⟩
      | .error _ session => ⟨session, false⟩
  | .conclude trace =>
      if state.concluding then ⟨state.session.concludeNegotiation trace, false⟩
      else state

/-- When an event leaves the flags coherent. -/
def MayCome (event : ModeEvent) (state : ModeRun) : Prop :=
  let negotiator := state.session.negotiator
  match event with
  | .setAsciiMode => negotiator.negotiatedTn3270e = false
  | .detectAscii => True
  | .host event =>
      negotiator.asciiMode = true →
        match event with
        | .iacCommand command option =>
            option = tn3270e →
              command ≠ dontCode ∧ (command = wontCode → ¬ negotiator.FailsForced)
        | .subnegotiation subPayload =>
            subPayload.length ≤ Session.maxSubpayloadBytes →
              Session.negotiates subPayload subPayload state.session = false
        | .endOfStream | .iterationLimit | .reset => False
  | .negotiate outcome =>
      negotiator.asciiMode = true → ¬ Session.CleansUp outcome negotiator
  | .conclude trace =>
      negotiator.asciiMode = true → state.concluding = true →
        negotiator.forceMode ≠ some .tn3270e ∧
          Negotiator.inferTn3270eFromTrace trace = false

end ModeRun

namespace Session

variable {session : Session}

theorem coherent_iff_of_keeps {before after : Session} (kept : Keeps before after)
    (coherent : before.Coherent) :
    after.Coherent ↔
      (before.negotiator.asciiMode = true →
        after.negotiator.negotiatedTn3270e = false) := by
  constructor
  · intro still ascii
    exact still.exclusive (kept.asciiMode.trans ascii)
  · intro exclusive
    refine ⟨kept.inSync coherent.inSync, ?_, fun ascii => exclusive ?_⟩
    · exact (kept.handlerAsciiMode.trans coherent.asciiInSync).trans
        kept.asciiMode.symm
    · exact kept.asciiMode.symm.trans ascii

theorem coherent_of_keepsFlags {before after : Session}
    (kept : KeepsFlags before after) (coherent : before.Coherent) :
    after.Coherent := by
  apply (coherent_iff_of_keeps kept.toKeeps coherent).mpr
  intro ascii
  exact kept.negotiatedTn3270e.trans (coherent.exclusive ascii)

theorem coherent_iff_of_negotiated {before after : Session}
    (kept : Keeps before after)
    (negotiated : after.negotiator.negotiatedTn3270e = true)
    (coherent : before.Coherent) :
    after.Coherent ↔ before.negotiator.asciiMode ≠ true := by
  rw [coherent_iff_of_keeps kept coherent, negotiated]
  constructor
  · intro exclusive ascii
    cases exclusive ascii
  · intro none ascii
    exact absurd ascii none

theorem coherent_iff_of_reset {before after : Session}
    (links : Links before after)
    (negotiated : after.negotiator.negotiatedTn3270e = false)
    (asciiMode : after.negotiator.asciiMode = false)
    (handlerAsciiMode : after.asciiMode = before.asciiMode)
    (coherent : before.Coherent) :
    after.Coherent ↔ before.negotiator.asciiMode ≠ true := by
  constructor
  · intro still ascii
    have handler : after.asciiMode = true :=
      (handlerAsciiMode.trans coherent.asciiInSync).trans ascii
    cases handler.symm.trans (still.asciiInSync.trans asciiMode)
  · intro none
    refine ⟨links.inSync coherent.inSync, ?_, fun _ => negotiated⟩
    have handler : before.asciiMode = false :=
      coherent.asciiInSync.trans (Bool.eq_false_iff.mpr none)
    exact (handlerAsciiMode.trans handler).trans asciiMode.symm

theorem setAsciiMode_coherent_iff (coherent : session.Coherent) :
    session.setAsciiMode.Coherent ↔
      session.negotiator.negotiatedTn3270e = false := by
  constructor
  · intro still
    exact still.exclusive rfl
  · intro none
    exact ⟨coherent.inSync, rfl, fun _ => none⟩

theorem takeUpAsciiMode_coherent (coherent : session.Coherent) :
    session.takeUpAsciiMode.Coherent := by
  unfold takeUpAsciiMode
  split
  · exact coherent
  · rename_i unset
    apply (setAsciiMode_coherent_iff coherent).mpr
    rw [← coherent.inSync]
    exact Bool.eq_false_iff.mpr unset

theorem handleIacCommand_coherent_iff (command option : UInt8)
    (coherent : session.Coherent) :
    (session.handleIacCommand command option).Coherent ↔
      (session.negotiator.asciiMode = true → option = tn3270e →
        command ≠ dontCode ∧
          (command = wontCode → ¬ session.negotiator.FailsForced)) := by
  by_cases dont : option = tn3270e ∧ command = dontCode
  · obtain ⟨rfl, rfl⟩ := dont
    refine (coherent_iff_of_negotiated (handleDont_keeps tn3270e session)
      (handleDont_negotiated session) coherent).trans ?_
    constructor
    · intro none ascii
      exact absurd ascii none
    · intro condition ascii
      exact absurd rfl (condition ascii rfl).1
  by_cases wont : option = tn3270e ∧ command = wontCode
  · obtain ⟨rfl, rfl⟩ := wont
    by_cases fails : session.negotiator.FailsForced
    · obtain ⟨kept, negotiated⟩ := handleWont_failsForced fails
      refine (coherent_iff_of_negotiated kept negotiated coherent).trans ?_
      constructor
      · intro none ascii
        exact absurd ascii none
      · intro condition ascii
        exact (condition ascii rfl).2 rfl fails
    · have still : (session.handleWont tn3270e).Coherent := by
        by_cases fallsBack : session.negotiator.FallsBack
        · obtain ⟨negotiated, ascii, handlerAscii⟩ := handleWont_fallsBack fallsBack
          exact ⟨(handleWont_links tn3270e session).inSync coherent.inSync,
            handlerAscii.trans ascii.symm, fun _ => negotiated⟩
        · exact coherent_of_keepsFlags (handleWont_stays fallsBack fails) coherent
      constructor
      · intro _ _ _
        exact ⟨by decide, fun _ => fails⟩
      · intro _
        exact still
  · have kept := @handleIacCommand_keepsFlags command option
      (fun same => ⟨fun isWont => wont ⟨same, isWont⟩,
        fun isDont => dont ⟨same, isDont⟩⟩) session
    constructor
    · intro _ _ same
      exact ⟨fun isDont => dont ⟨same, isDont⟩,
        fun isWont => absurd ⟨same, isWont⟩ wont⟩
    · intro _
      exact coherent_of_keepsFlags kept coherent

theorem handleTn3270eSubnegotiation_coherent_iff (subPayload : List UInt8)
    (unasked : session.Unasked) (coherent : session.Coherent) :
    (finalState (handleTn3270eSubnegotiation subPayload session)).Coherent ↔
      (session.negotiator.asciiMode = true →
        subPayload.length ≤ maxSubpayloadBytes →
          negotiates subPayload subPayload session = false) := by
  obtain ⟨kept, flag⟩ := handleTn3270eSubnegotiation_flags subPayload unasked
  rw [coherent_iff_of_keeps kept coherent, flag]
  constructor
  · intro exclusive ascii short
    have unset := (Bool.or_eq_false_iff.mp (exclusive ascii)).2
    rw [decide_eq_true short, Bool.true_and] at unset
    exact unset
  · intro condition ascii
    rw [coherent.exclusive ascii, Bool.false_or]
    by_cases short : subPayload.length ≤ maxSubpayloadBytes
    · rw [condition ascii short, Bool.and_false]
    · rw [decide_eq_false short, Bool.false_and]

/-- Equal flags of either kind stay equal, and no request is made. -/
structure Tracks (before after : Session) : Prop extends Links before after where
  asciiInSync : before.AsciiInSync → after.AsciiInSync

theorem Keeps.tracks {before after : Session} (kept : Keeps before after) :
    Tracks before after where
  toLinks := kept.links
  asciiInSync same :=
    (kept.handlerAsciiMode.trans same).trans kept.asciiMode.symm

theorem setEvents_keeps (session : Session) : Keeps session session.setEvents :=
  ⟨rfl, rfl, id, id⟩

theorem clearFlagInAscii_keeps (session : Session) :
    Keeps session session.clearFlagInAscii := by
  unfold clearFlagInAscii
  split
  · exact setNegotiatedFlag_keeps false session
  · exact .refl session

theorem clearFlagInAscii_coherent (inSync : session.InSync)
    (asciiInSync : session.AsciiInSync) : session.clearFlagInAscii.Coherent := by
  have kept := clearFlagInAscii_keeps session
  refine ⟨kept.inSync inSync, kept.tracks.asciiInSync asciiInSync, fun ascii => ?_⟩
  have before : session.negotiator.asciiMode = true := kept.asciiMode.symm.trans ascii
  unfold clearFlagInAscii
  rw [if_pos before]
  rfl

theorem completeNegotiation_keeps (session : Session) :
    Keeps session session.completeNegotiation := by
  unfold completeNegotiation
  dsimp only
  apply Keeps.trans _ (signalNegotiationComplete_keeps true _)
  apply Keeps.trans _ (clearFlagInAscii_keeps _)
  apply Keeps.trans _ (setNegotiatedFlag_keeps true _)
  split
  · exact .refl session
  · exact (setNegotiatedFlag_keeps true session).trans
      (markServerSupport_keepsFlags _).toKeeps

/-- The negotiation is cleaned up, raises without a change, or ends with flags
that are as equal as before. -/
inductive Negotiated (outcome : NegotiationOutcome) (before : Session) :
    EStateM.Result Fault Session Unit → Prop where
  | cleaned (cleans : CleansUp outcome before.negotiator) :
      Negotiated outcome before (.error negotiationFailed before.cleanupOnFailure)
  | raised (spared : ¬ CleansUp outcome before.negotiator) (fault : Fault) :
      Negotiated outcome before (.error fault before)
  | done (spared : ¬ CleansUp outcome before.negotiator) {after : Session}
      (tracks : Tracks before after) : Negotiated outcome before (.ok () after)

theorem awaitNegotiation_negotiated (outcome : NegotiationOutcome)
    (free : session.negotiator.forceMode = none)
    (writer : session.negotiator.hasWriter = true)
    (unrefused : ¬ (session.negotiator.forcedFailure = true ∧
      session.negotiator.allowFallback = false)) :
    Negotiated outcome session (awaitNegotiation outcome session) := by
  have cleans_iff : CleansUp outcome session.negotiator ↔
      outcome = .completed ∧ session.negotiator.waitsEnd = true ∧
        session.negotiator.forcedFailure = true ∨
      outcome = .timedOut ∧ session.negotiator.allowFallback = false := by
    unfold CleansUp
    rw [free, writer]
    tauto
  unfold awaitNegotiation
  rw [run_get_bind]
  cases outcome with
  | completed =>
      dsimp only
      by_cases ends : session.negotiator.waitsEnd = true
      · rw [if_pos ends]
        by_cases failure : session.negotiator.forcedFailure = true
        · rw [if_pos failure]
          exact .cleaned (cleans_iff.mpr (.inl ⟨rfl, ends, failure⟩))
        · rw [if_neg failure]
          refine .done (fun cleans => ?_) (completeNegotiation_keeps session).tracks
          rcases cleans_iff.mp cleans with ⟨_, _, fails⟩ | ⟨other, _⟩
          · exact failure fails
          · cases other
      · rw [if_neg ends]
        refine .raised (fun cleans => ?_) negotiationFailed
        rcases cleans_iff.mp cleans with ⟨_, past, _⟩ | ⟨other, _⟩
        · exact ends past
        · cases other
  | timedOut =>
      dsimp only
      by_cases fallback : session.negotiator.allowFallback = true
      · rw [if_pos fallback]
        refine .done (fun cleans => ?_)
          ((setNegotiatedFlag_keeps false session).trans (setEvents_keeps _)).tracks
        rcases cleans_iff.mp cleans with ⟨other, _⟩ | ⟨_, strict⟩
        · cases other
        · cases fallback.symm.trans strict
      · rw [if_neg fallback]
        exact .cleaned
          (cleans_iff.mpr (.inr ⟨rfl, Bool.eq_false_iff.mpr fallback⟩))
  | aborted =>
      refine .raised (fun cleans => ?_) negotiationFailed
      rcases cleans_iff.mp cleans with ⟨other, _⟩ | ⟨other, _⟩
      · cases other
      · cases other

theorem negotiateTn3270_negotiated (outcome : NegotiationOutcome)
    (session : Session) :
    Negotiated outcome session (negotiateTn3270 outcome session) := by
  have forced : ∀ {mode : ForceMode}, session.negotiator.forceMode = some mode →
      ¬ CleansUp outcome session.negotiator := by
    intro mode isForced cleans
    cases isForced.symm.trans cleans.1
  unfold negotiateTn3270
  rw [run_get_bind]
  cases mode : session.negotiator.forceMode with
  | some forcedMode =>
      cases forcedMode with
      | ascii =>
          apply Negotiated.done (forced mode)
          have kept := (setNegotiatedFlag_keeps false session.setAsciiMode).trans
            (setEvents_keeps _)
          exact ⟨⟨kept.inSync, kept.unasked⟩, fun _ => kept.tracks.asciiInSync rfl⟩
      | tn3270 =>
          apply Negotiated.done (forced mode)
          exact ((setNegotiatedFlag_keeps false session).trans
            (setEvents_keeps _)).tracks
      | tn3270e =>
          dsimp only
          split
          · exact .raised (forced mode) refusedByServer
          · apply Negotiated.done (forced mode)
            exact ((((sendSupportedDeviceTypes_keeps session).trans
              (setNegotiatedFlag_keeps true _)).trans
              (markServerSupport_keepsFlags _).toKeeps).trans
              (setEvents_keeps _)).tracks
  | none =>
      dsimp only
      cases writer : session.negotiator.hasWriter with
      | false =>
          refine .raised (fun cleans => ?_) invalidConnection
          cases writer.symm.trans cleans.2.1
      | true =>
          by_cases refused : session.negotiator.forcedFailure = true ∧
              session.negotiator.allowFallback = false
          · rw [refused.1, refused.2]
            exact .cleaned ⟨mode, writer, .inl refused⟩
          · have open' : ¬ ((session.negotiator.forcedFailure &&
                !session.negotiator.allowFallback) = true) := by
              intro both
              rw [Bool.and_eq_true, Bool.not_eq_true'] at both
              exact refused both
            rw [if_neg (by decide), if_neg open']
            exact awaitNegotiation_negotiated outcome mode writer refused

theorem performNegotiate_final (outcome : NegotiationOutcome) (session : Session) :
    (CleansUp outcome session.negotiator ∧
      finalState (performNegotiate outcome session) = session.cleanupOnFailure) ∨
    (¬ CleansUp outcome session.negotiator ∧
      (finalState (performNegotiate outcome session) = session ∨
        ∃ after, Tracks session after ∧
          finalState (performNegotiate outcome session) = after.clearFlagInAscii)) := by
  have negotiated := negotiateTn3270_negotiated outcome session
  unfold performNegotiate
  generalize result : negotiateTn3270 outcome session = reached at negotiated
  cases negotiated with
  | cleaned cleans =>
      left
      rw [run_bind_error result]
      exact ⟨cleans, rfl⟩
  | raised spared fault =>
      right
      rw [run_bind_error result]
      exact ⟨spared, .inl rfl⟩
  | done spared tracks =>
      right
      rw [run_bind_ok result]
      exact ⟨spared, .inr ⟨_, tracks, rfl⟩⟩

theorem cleanupOnFailure_links (session : Session) :
    Links session session.cleanupOnFailure :=
  (resetNegotiationState_links session).trans
    (signalNegotiationComplete_keeps false _).links

theorem cleanupOnFailure_coherent_iff (coherent : session.Coherent) :
    session.cleanupOnFailure.Coherent ↔ session.negotiator.asciiMode ≠ true := by
  have kept := signalNegotiationComplete_keeps false session.resetNegotiationState
  exact coherent_iff_of_reset (cleanupOnFailure_links session) rfl
    kept.asciiMode kept.handlerAsciiMode coherent

theorem performNegotiate_coherent_iff (outcome : NegotiationOutcome)
    (coherent : session.Coherent) :
    (finalState (performNegotiate outcome session)).Coherent ↔
      (session.negotiator.asciiMode = true →
        ¬ CleansUp outcome session.negotiator) := by
  rcases performNegotiate_final outcome session with
    ⟨cleans, cleaned⟩ | ⟨spared, same | ⟨after, tracks, cleared⟩⟩
  · rw [cleaned, cleanupOnFailure_coherent_iff coherent]
    constructor
    · intro none ascii
      exact absurd ascii none
    · intro condition ascii
      exact condition ascii cleans
  · rw [same]
    exact ⟨fun _ _ => spared, fun _ => coherent⟩
  · rw [cleared]
    exact ⟨fun _ _ => spared, fun _ =>
      clearFlagInAscii_coherent (tracks.inSync coherent.inSync)
        (tracks.asciiInSync coherent.asciiInSync)⟩

theorem performNegotiate_unasked (outcome : NegotiationOutcome)
    (unasked : session.Unasked) :
    (finalState (performNegotiate outcome session)).Unasked := by
  rcases performNegotiate_final outcome session with
    ⟨_, cleaned⟩ | ⟨_, same | ⟨after, tracks, cleared⟩⟩
  · rw [cleaned]
    exact (cleanupOnFailure_links session).unasked unasked
  · rw [same]
    exact unasked
  · rw [cleared]
    exact (clearFlagInAscii_keeps after).unasked (tracks.unasked unasked)

/-- The flag that is concluded does not look at ASCII mode. -/
theorem concludeNegotiation_coherent_iff (trace : List UInt8)
    (coherent : session.Coherent) :
    (session.concludeNegotiation trace).Coherent ↔
      (session.negotiator.asciiMode = true →
        session.negotiator.forceMode ≠ some .tn3270e ∧
          Negotiator.inferTn3270eFromTrace trace = false) := by
  refine (coherent_iff_of_keeps (setNegotiatedFlag_keeps _ session) coherent).trans ?_
  change (_ → (decide (session.negotiator.forceMode = some .tn3270e) ||
    session.negotiator.negotiatedTn3270e ||
      Negotiator.inferTn3270eFromTrace trace) = false) ↔ _
  constructor
  · intro exclusive ascii
    obtain ⟨known, inferred⟩ := Bool.or_eq_false_iff.mp (exclusive ascii)
    exact ⟨of_decide_eq_false (Bool.or_eq_false_iff.mp known).1, inferred⟩
  · intro condition ascii
    obtain ⟨unforced, inferred⟩ := condition ascii
    rw [decide_eq_false unforced, coherent.exclusive ascii, inferred]
    rfl

end Session

namespace ModeRun

open Session

theorem step_negotiate_session (outcome : NegotiationOutcome) (state : ModeRun) :
    (step (.negotiate outcome) state).session =
      finalState (performNegotiate outcome state.session) := by
  unfold step
  dsimp only
  cases performNegotiate outcome state.session with
  | ok => rfl
  | error => rfl

theorem step_unasked (event : ModeEvent) {state : ModeRun}
    (unasked : state.session.Unasked) : (step event state).session.Unasked := by
  cases event with
  | host event => exact (event.next_links unasked).unasked unasked
  | setAsciiMode => exact unasked
  | detectAscii =>
      change state.session.takeUpAsciiMode.Unasked
      unfold takeUpAsciiMode
      split
      · exact unasked
      · exact unasked
  | negotiate outcome =>
      rw [step_negotiate_session]
      exact performNegotiate_unasked outcome unasked
  | conclude trace =>
      unfold step
      dsimp only
      split
      · exact unasked
      · exact unasked

/-- An event leaves the flags coherent exactly under its condition. -/
theorem step_coherent_iff (event : ModeEvent) {state : ModeRun}
    (unasked : state.session.Unasked) (coherent : state.session.Coherent) :
    (step event state).session.Coherent ↔ MayCome event state := by
  cases event with
  | host event =>
      cases event with
      | iacCommand command option =>
          exact handleIacCommand_coherent_iff command option coherent
      | subnegotiation subPayload =>
          exact handleTn3270eSubnegotiation_coherent_iff subPayload unasked coherent
      | endOfStream =>
          exact coherent_iff_of_negotiated (signalAll_keeps _)
            (signalAll_negotiated _) coherent
      | iterationLimit =>
          exact coherent_iff_of_negotiated (iterationLimit_keeps _)
            (signalAll_negotiated _) coherent
      | reset =>
          exact coherent_iff_of_reset (resetNegotiationState_links _) rfl rfl rfl
            coherent
  | setAsciiMode => exact setAsciiMode_coherent_iff coherent
  | detectAscii => exact ⟨fun _ => trivial, fun _ => takeUpAsciiMode_coherent coherent⟩
  | negotiate outcome =>
      rw [step_negotiate_session]
      exact performNegotiate_coherent_iff outcome coherent
  | conclude trace =>
      unfold step MayCome
      dsimp only
      cases state.concluding with
      | false =>
          constructor
          · intro _ _ never
            cases never
          · intro _
            exact coherent
      | true =>
          refine (concludeNegotiation_coherent_iff trace coherent).trans ?_
          constructor
          · intro condition ascii _
            exact condition ascii
          · intro condition ascii
            exact condition ascii rfl

/-- The flags are coherent throughout a run exactly where every event of it may
come. -/
theorem coherent_throughout_iff {state : ModeRun} (unasked : state.session.Unasked)
    (coherent : state.session.Coherent) (events : List ModeEvent) :
    Always step (·.session.Coherent) events state ↔ Along step MayCome events state :=
  @always_iff_along ModeRun ModeEvent step (·.session.Unasked) (·.session.Coherent)
    MayCome (fun event _ => step_unasked event)
    (fun event _ => step_coherent_iff event) events state unasked coherent

/-- The start of a session. -/
def begin (mode : NegotiationMode) : ModeRun where
  session := ⟨.init mode, false, false⟩
  concluding := false

theorem begin_coherent (mode : NegotiationMode) : (begin mode).session.Coherent where
  inSync := rfl
  asciiInSync := rfl
  exclusive := fun ascii => Bool.noConfusion ascii

theorem begin_unasked (mode : NegotiationMode) : (begin mode).session.Unasked := by
  intro number request found
  cases found

/-- An offer, a functions message and a negotiation that is concluded. -/
theorem coherent_throughout_offer :
    Always step (·.session.Coherent)
      [.host (.iacCommand doCode tn3270e), .host (.subnegotiation [0x03, 0x04, 0x02]),
        .negotiate .completed, .conclude [0xFF, 0xFD, 0x28]] (begin .flexible) := by
  apply (coherent_throughout_iff (begin_unasked _) (begin_coherent _) _).mpr
  refine ⟨?_, ?_, ?_, ?_, trivial⟩
  · intro ascii
    cases ascii
  · intro ascii
    exact absurd ascii (by decide +kernel)
  · intro ascii
    exact absurd ascii (by decide +kernel)
  · intro ascii
    exact absurd ascii (by decide +kernel)

/-- The host refuses TN3270E, offers it after all and asks for functions: TN3270E
is negotiated in ASCII mode. -/
theorem offer_after_refusal :
    ¬ ∀ (mode : NegotiationMode) (events : List ModeEvent),
      Always step (·.session.Coherent) events (begin mode) := by
  intro every
  have after := (every .flexible
    [.host (.iacCommand wontCode tn3270e), .host (.iacCommand doCode tn3270e),
      .host (.subnegotiation [0x03, 0x07, 0x04, 0x02])]).last
  have unset := after.exclusive (by decide +kernel)
  exact absurd unset (by decide +kernel)

end ModeRun

end Pure3270
