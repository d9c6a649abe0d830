import Pure3270.Foundations.Runs
import Pure3270.Protocol.NegotiationFlags

/-!
# The host's will

The host says by its commands and subnegotiations whether it wants TN3270E.  A
run of the negotiation is followed together with the last word of the host,
which the code does not keep.  TN3270E is negotiated against the host's will
where a flag is set after a refusal, or before the host has said anything.
-/

namespace Pure3270

open Foundations Telnet Tn3270e

/-- What reaches the negotiator while it negotiates. -/
inductive HostEvent where
  | iacCommand (command option : UInt8)
  | subnegotiation (subPayload : List UInt8)
  | endOfStream
  | iterationLimit
  | reset
  deriving DecidableEq, Repr

/-- What a TN3270E subnegotiation says about the host: whether it accepts,
refuses, or neither.  A SEND may be followed by a further message. -/
def hostAnswer : List UInt8 → Option Bool
  | [] => none
  | command :: body =>
      if command = deviceType then body.head?.map (· ≠ reject)
      else if command = functions then body.head?.map fun _ => true
      else if command = Tn3270e.send then
        match body with
        | [] => none
        | sendType :: rest =>
            (hostAnswer rest).or
              (if sendType = deviceType ∨ sendType = functions then some true
              else none)
      else if command = is ∨ command = request then some true
      else none

namespace HostEvent

/-- What the negotiator makes of an event; an exception is caught. -/
def next : HostEvent → Session → Session
  | iacCommand command option, session => session.handleIacCommand command option
  | subnegotiation subPayload, session =>
      finalState (Session.handleTn3270eSubnegotiation subPayload session)
  | endOfStream, session => session.endOfStream
  | iterationLimit, session => session.iterationLimit
  | reset, session => session.resetNegotiationState

/-- The last word of the host after an event. -/
def willing : HostEvent → Bool → Bool
  | iacCommand command option, before =>
      if option = tn3270e then
        if command = willCode ∨ command = doCode then true
        else if command = wontCode ∨ command = dontCode then false
        else before
      else before
  | subnegotiation subPayload, before => (hostAnswer subPayload).getD before
  | endOfStream, before => before
  | iterationLimit, before => before
  | reset, _ => false

end HostEvent

/-- A session and the last word of the host. -/
structure HostRun where
  session : Session
  willing : Bool

namespace Session

variable {session : Session}

theorem handleIacCommand_links (command option : UInt8) (session : Session) :
    Links session (session.handleIacCommand command option) := by
  unfold handleIacCommand
  repeat' split
  · exact (handleWill_keepsFlags option session).toKeeps.links
  · exact handleWont_links option session
  · exact (handleDo_keepsFlags option session).toKeeps.links
  · exact (handleDont_keeps option session).links
  · exact (Keeps.refl session).links

theorem handleIacCommand_keepsFlags {command option : UInt8}
    (neutral : option = tn3270e → command ≠ wontCode ∧ command ≠ dontCode)
    (session : Session) :
    KeepsFlags session (session.handleIacCommand command option) := by
  unfold handleIacCommand
  by_cases will : command = willCode
  · rw [if_pos will]
    exact handleWill_keepsFlags option session
  rw [if_neg will]
  by_cases wont : command = wontCode
  · rw [if_pos wont]
    exact handleWont_other (fun same => (neutral same).1 wont) session
  rw [if_neg wont]
  by_cases does : command = doCode
  · rw [if_pos does]
    exact handleDo_keepsFlags option session
  rw [if_neg does]
  by_cases dont : command = dontCode
  · rw [if_pos dont]
    exact handleDont_other (fun same => (neutral same).2 dont) session
  rw [if_neg dont]
  exact .refl session

/-- A payload that says nothing of the host's will sets no flag. -/
theorem negotiates_of_silent {payload remaining : List UInt8}
    (silent : hostAnswer remaining = none) :
    negotiates payload remaining session = false := by
  induction length : remaining.length using Nat.strongRecOn
    generalizing remaining session with
  | ind size ih =>
      subst length
      cases remaining with
      | nil => rfl
      | cons command body =>
          unfold hostAnswer at silent
          unfold negotiates
          by_cases header : (headerOf payload (command :: body)).isSome
          · rw [if_pos header]
          rw [if_neg header]
          by_cases device : command = deviceType
          · rw [if_pos device] at silent ⊢
            cases body with
            | nil => rfl
            | cons sub body => cases silent
          rw [if_neg device] at silent ⊢
          by_cases functional : command = functions
          · rw [if_pos functional] at silent
            have notSend : ¬ command = Tn3270e.send := by rw [functional]; decide
            have notIs : ¬ command = is := by rw [functional]; decide
            rw [if_neg notSend, if_neg notIs, if_pos functional]
            cases body with
            | nil => rfl
            | cons sub body => cases silent
          rw [if_neg functional] at silent ⊢
          by_cases sends : command = Tn3270e.send
          · rw [if_pos sends] at silent ⊢
            cases body with
            | nil => rfl
            | cons sendType rest =>
                obtain ⟨later, here⟩ := Option.or_eq_none_iff.mp silent
                have other : ¬ (sendType = deviceType ∨ sendType = functions) := by
                  intro known
                  rw [if_pos known] at here
                  cases here
                dsimp only
                rw [ih rest.length (by simp only [List.length_cons]; omega) later rfl,
                  Bool.or_false]
                unfold sendNegotiates
                rw [if_neg (not_or.mp other).1, if_neg (not_or.mp other).2]
          rw [if_neg sends] at silent ⊢
          by_cases answers : command = is ∨ command = request
          · rw [if_pos answers] at silent
            cases silent
          · rw [if_neg (not_or.mp answers).1]
            exact decide_eq_false (not_or.mp answers).2

end Session

theorem HostEvent.next_links (event : HostEvent) {session : Session}
    (unasked : session.Unasked) : Session.Links session (event.next session) := by
  cases event with
  | iacCommand command option =>
      exact Session.handleIacCommand_links command option session
  | subnegotiation subPayload =>
      exact (Session.handleTn3270eSubnegotiation_flags subPayload unasked).1.links
  | endOfStream => exact (Session.signalAll_keeps session).links
  | iterationLimit => exact (Session.iterationLimit_keeps session).links
  | reset => exact Session.resetNegotiationState_links session

namespace HostRun

def step (event : HostEvent) (state : HostRun) : HostRun where
  session := event.next state.session
  willing := event.willing state.willing

/-- Where one of the flags says that TN3270E is negotiated, the host wants it. -/
def Respected (state : HostRun) : Prop :=
  state.session.negotiator.negotiatedTn3270e = true ∨
      state.session.negotiatedTn3270e = true →
    state.willing = true

/-- No flag is set, the host has said nothing, and no request waits. -/
structure Fresh (state : HostRun) : Prop where
  negotiatedTn3270e : state.session.negotiator.negotiatedTn3270e = false
  handlerNegotiatedTn3270e : state.session.negotiatedTn3270e = false
  willing : state.willing = false
  unasked : state.session.Unasked

/-- When an event leaves the flags as the host wants them: none of the signals
that release those who wait comes without the host's will, and a refusal either
resets the flag or finds it unset. -/
def MayCome : HostEvent → HostRun → Prop
  | .iacCommand command option, state =>
      option = tn3270e →
        command ≠ dontCode ∧
        (command = wontCode →
          state.session.negotiator.FallsBack ∨
            ¬ state.session.negotiator.FailsForced ∧
              state.session.negotiator.negotiatedTn3270e = false)
  | .subnegotiation subPayload, state =>
      hostAnswer subPayload = some false →
        state.session.negotiator.negotiatedTn3270e = false ∧
        (subPayload.length ≤ Session.maxSubpayloadBytes →
          Session.negotiates subPayload subPayload state.session = false)
  | .endOfStream, state => state.willing = true
  | .iterationLimit, state => state.willing = true
  | .reset, _ => True

/-- What holds in every run: the flags are equal and no request waits. -/
structure Linked (state : HostRun) : Prop where
  inSync : state.session.InSync
  unasked : state.session.Unasked

theorem step_linked (event : HostEvent) {state : HostRun} (linked : state.Linked) :
    (step event state).Linked := by
  have links := event.next_links linked.unasked
  exact ⟨links.inSync linked.inSync, links.unasked linked.unasked⟩

theorem Fresh.linked {state : HostRun} (fresh : state.Fresh) : state.Linked :=
  ⟨fresh.handlerNegotiatedTn3270e.trans fresh.negotiatedTn3270e.symm, fresh.unasked⟩

/-- With equal flags it is enough to look at the one of the negotiator. -/
theorem respected_iff {state : HostRun} (linked : state.Linked) :
    state.Respected ↔
      (state.session.negotiator.negotiatedTn3270e = true → state.willing = true) := by
  have same : state.session.negotiatedTn3270e =
      state.session.negotiator.negotiatedTn3270e := linked.inSync
  unfold Respected
  rw [same, or_self]

theorem command_respected_iff (command option : UInt8) {state : HostRun}
    (respected : state.session.negotiator.negotiatedTn3270e = true →
      state.willing = true) :
    ((step (.iacCommand command option) state).session.negotiator.negotiatedTn3270e =
        true → (step (.iacCommand command option) state).willing = true) ↔
      MayCome (.iacCommand command option) state := by
  change ((state.session.handleIacCommand command option).negotiator.negotiatedTn3270e =
    true → (HostEvent.iacCommand command option).willing state.willing = true) ↔
      (option = tn3270e → command ≠ dontCode ∧ (command = wontCode → _))
  by_cases offered : option = tn3270e
  · subst offered
    by_cases dont : command = dontCode
    · -- The signals set the flag again that the refusal has reset.
      subst dont
      have set := Session.handleDont_negotiated state.session
      constructor
      · intro after
        cases after set
      · intro condition
        exact absurd rfl (condition rfl).1
    by_cases wont : command = wontCode
    · subst wont
      by_cases fallsBack : state.session.negotiator.FallsBack
      · have reset := (Session.handleWont_fallsBack fallsBack).1
        constructor
        · intro _ _
          exact ⟨dont, fun _ => .inl fallsBack⟩
        · intro _ set
          rw [show state.session.handleIacCommand wontCode tn3270e =
            state.session.handleWont tn3270e from rfl, reset] at set
          cases set
      · by_cases fails : state.session.negotiator.FailsForced
        · have set := (Session.handleWont_failsForced fails).2
          constructor
          · intro after
            cases after set
          · intro condition
            rcases (condition rfl).2 rfl with falls | ⟨unforced, _⟩
            · exact absurd falls fallsBack
            · exact absurd fails unforced
        · have kept := (Session.handleWont_stays fallsBack fails).negotiatedTn3270e
          constructor
          · intro after _
            refine ⟨dont, fun _ => .inr ⟨fails, ?_⟩⟩
            apply Bool.eq_false_iff.mpr
            intro negotiated
            cases after (kept.trans negotiated)
          · intro condition set
            rcases (condition rfl).2 rfl with falls | ⟨_, unset⟩
            · exact absurd falls fallsBack
            · cases (kept.trans unset).symm.trans set
    · have kept := Session.handleIacCommand_keepsFlags
        (fun _ : tn3270e = tn3270e => ⟨wont, dont⟩) state.session
      constructor
      · intro _ _
        exact ⟨dont, fun same => absurd same wont⟩
      · intro _ set
        have willing := respected (kept.negotiatedTn3270e.symm.trans set)
        unfold HostEvent.willing
        dsimp only
        rw [if_pos rfl]
        split
        · rfl
        · rw [if_neg (not_or.mpr ⟨wont, dont⟩)]
          exact willing
  · have kept := @Session.handleIacCommand_keepsFlags command option
      (fun same => absurd same offered) state.session
    constructor
    · intro _ same
      exact absurd same offered
    · intro _ set
      unfold HostEvent.willing
      dsimp only
      rw [if_neg offered]
      exact respected (kept.negotiatedTn3270e.symm.trans set)

theorem subnegotiation_respected_iff (subPayload : List UInt8) {state : HostRun}
    (linked : state.Linked)
    (respected : state.session.negotiator.negotiatedTn3270e = true →
      state.willing = true) :
    ((step (.subnegotiation subPayload) state).session.negotiator.negotiatedTn3270e =
        true → (step (.subnegotiation subPayload) state).willing = true) ↔
      MayCome (.subnegotiation subPayload) state := by
  have flag := (Session.handleTn3270eSubnegotiation_flags subPayload
    linked.unasked).2
  change ((finalState (Session.handleTn3270eSubnegotiation subPayload state.session)
    ).negotiator.negotiatedTn3270e = true →
      (hostAnswer subPayload).getD state.willing = true) ↔
      (hostAnswer subPayload = some false → _)
  rw [flag]
  cases answer : hostAnswer subPayload with
  | none =>
      rw [Session.negotiates_of_silent answer, Bool.and_false, Bool.or_false]
      constructor
      · intro _ refusal
        cases refusal
      · intro _
        exact respected
  | some accepts =>
      cases accepts with
      | true =>
          constructor
          · intro _ refusal
            cases refusal
          · intro _ _
            rfl
      | false =>
          constructor
          · intro after _
            have unset := Bool.eq_false_iff.mpr fun set => Bool.noConfusion (after set)
            obtain ⟨before, here⟩ := Bool.or_eq_false_iff.mp unset
            refine ⟨before, fun short => ?_⟩
            rw [decide_eq_true short, Bool.true_and] at here
            exact here
          · intro condition set
            obtain ⟨before, here⟩ := condition rfl
            rw [before, Bool.false_or, Bool.and_eq_true] at set
            rw [here (of_decide_eq_true set.1)] at set
            cases set.2

/-- An event keeps the host's will respected exactly under its condition. -/
theorem step_respected_iff (event : HostEvent) {state : HostRun}
    (linked : state.Linked) (respected : state.Respected) :
    (step event state).Respected ↔ MayCome event state := by
  rw [respected_iff (step_linked event linked)]
  rw [respected_iff linked] at respected
  cases event with
  | iacCommand command option => exact command_respected_iff command option respected
  | subnegotiation subPayload =>
      exact subnegotiation_respected_iff subPayload linked respected
  | endOfStream =>
      constructor
      · intro after
        exact after (Session.signalAll_negotiated state.session)
      · intro willing _
        exact willing
  | iterationLimit =>
      constructor
      · intro after
        exact after (Session.signalAll_negotiated _)
      · intro willing _
        exact willing
  | reset =>
      constructor
      · intro _
        trivial
      · intro _ negotiated
        cases negotiated

/-- TN3270E is never negotiated against the host's will in a run exactly where
every event of it may come. -/
theorem respected_throughout_iff {state : HostRun} (fresh : state.Fresh)
    (events : List HostEvent) :
    Always step Respected events state ↔ Along step MayCome events state := by
  apply always_iff_along (fun event _ => step_linked event)
    (fun event _ => step_respected_iff event) fresh.linked
  rw [respected_iff fresh.linked, fresh.negotiatedTn3270e]
  intro set
  cases set

/-- The start of a negotiation. -/
def begin (mode : NegotiationMode) : HostRun where
  session := ⟨.init mode, false, false⟩
  willing := false

theorem begin_fresh (mode : NegotiationMode) : (begin mode).Fresh where
  negotiatedTn3270e := rfl
  handlerNegotiatedTn3270e := rfl
  willing := rfl
  unasked := by
    intro number request found
    cases found

/-- An offer, a FUNCTIONS REQUEST and the refusal that the negotiator falls back
from. -/
theorem respected_throughout_offer :
    Always step Respected
      [.iacCommand doCode tn3270e, .subnegotiation [0x03, 0x07, 0x04, 0x02],
        .iacCommand wontCode tn3270e] (begin .flexible) := by
  apply (respected_throughout_iff (begin_fresh .flexible) _).mpr
  refine ⟨fun _ => ⟨by decide, by decide⟩, fun refusal => ?_,
    fun _ => ⟨by decide, fun _ => .inl ?_⟩, trivial⟩
  · exact absurd refusal (by decide)
  · exact ⟨by decide +kernel, by decide +kernel⟩

/-- DONT TN3270E is all that the host says, and TN3270E counts as negotiated. -/
theorem dont_negotiates :
    ¬ ∀ (mode : NegotiationMode) (events : List HostEvent),
      Always step Respected events (begin mode) := by
  intro every
  have after := (every .flexible [.iacCommand dontCode tn3270e]).last
  have wanted : (run step [.iacCommand dontCode tn3270e] (begin .flexible)
    ).willing = true := after (.inl (by decide +kernel))
  cases wanted

end HostRun

end Pure3270
