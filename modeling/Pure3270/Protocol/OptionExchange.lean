import Mathlib.Logic.Relation
import Pure3270.Protocol.FunctionsBookkeeping

/-!
# The exchange of options

Two connected endpoints answer each other's commands.  Every command is
answered, and by one command, so that the number of commands in flight never
changes: an exchange that has begun does not end.
-/

namespace Pure3270

open Foundations Telnet

inductive OptionCommand where
  | will
  | wont
  | doIt
  | dont
  deriving DecidableEq, Repr

namespace OptionCommand

def code : OptionCommand → UInt8
  | will => willCode
  | wont => wontCode
  | doIt => doCode
  | dont => dontCode

def ofCode? (command : UInt8) : Option OptionCommand :=
  if command = willCode then some will
  else if command = wontCode then some wont
  else if command = doCode then some doIt
  else if command = dontCode then some dont
  else none

/-- Whether a command asks for an option that the endpoint accepts. -/
def accepted : OptionCommand → UInt8 → Bool
  | will, option => option ∈ acceptedWill
  | doIt, option => option ∈ acceptedDo
  | wont, _ => false
  | dont, _ => false

/-- The command that answers a command. -/
def answer (command : OptionCommand) (option : UInt8) : OptionCommand :=
  match command with
  | will | wont => if command.accepted option then doIt else dont
  | doIt | dont => if command.accepted option then will else wont

end OptionCommand

/-- The command among the messages of a negotiator. -/
def NegotiatorMessage.optionCommand? :
    NegotiatorMessage → Option (OptionCommand × UInt8)
  | iac command option => (OptionCommand.ofCode? command).map (·, option)
  | _ => none

namespace Session

variable {session : Session}

theorem books_signalNegotiationComplete (success : Bool) (session : Session) :
    (session.signalNegotiationComplete success).books = session.books := by
  cases success with
  | false => rfl
  | true => rfl

theorem books_signalAll (session : Session) :
    session.signalAll.books = session.books := by
  unfold signalAll
  rw [books_signalNegotiationComplete, books_signalFunctionsEvent,
    books_signalDeviceEvent]

theorem books_refuseTn3270e (session : Session) :
    session.refuseTn3270e.books = session.books := by
  unfold refuseTn3270e
  dsimp only
  split
  · unfold fallBackToAscii
    rw [books_signalNegotiationComplete, books_signalFunctionsEvent,
      books_signalDeviceEvent]
    rfl
  · split
    · exact books_signalAll _
    · rfl

/-- The answer is sent, with details that are no commands. -/
def Sends (command : OptionCommand) (option : UInt8) (before after : FunctionsBooks) :
    Prop :=
  after.hasWriter = true ∧ ∃ details,
    (∀ detail ∈ details, NegotiatorMessage.optionCommand? detail = none) ∧
      after.sent = before.sent ++ .iac command.code option :: details

theorem sends_of_send {command : OptionCommand} {option : UInt8}
    (writer : session.books.hasWriter = true) :
    Sends command option session.books
      (session.books.send (.iac command.code option)) := by
  unfold FunctionsBooks.send
  rw [if_pos writer]
  refine ⟨writer, [], ?_, rfl⟩
  intro detail member
  cases member

theorem Sends.markServerSupport {command : OptionCommand} {option : UInt8}
    {before : FunctionsBooks} (sends : Sends command option before session.books) :
    Sends command option before session.markServerSupport.books := sends

theorem Sends.sendDetails {command : OptionCommand} {option : UInt8}
    {before : FunctionsBooks} (sends : Sends command option before session.books)
    (other : UInt8) : Sends command option before (session.sendDetails other).books := by
  have detailed : ∀ (about : UInt8) (data : List UInt8),
      Sends command option before
        (session.send (.subnegotiation about data)).books := by
    intro about data
    obtain ⟨writer, details, noCommands, sent⟩ := sends
    rw [books_send]
    unfold FunctionsBooks.send
    rw [if_pos writer]
    refine ⟨writer, details ++ [.subnegotiation about data], ?_, ?_⟩
    · intro detail member
      rcases List.mem_append.mp member with earlier | last
      · exact noCommands detail earlier
      · rw [List.mem_singleton.mp last]
        rfl
    · dsimp only
      rw [sent, List.append_assoc, List.cons_append]
  unfold Session.sendDetails
  dsimp only
  split
  · exact detailed _ _
  · split
    · exact detailed _ _
    · exact sends

theorem handleIacCommand_sends (command : OptionCommand) (option : UInt8)
    (writer : session.negotiator.hasWriter = true) :
    Sends (command.answer option) option session.books
      (session.handleIacCommand command.code option).books := by
  cases command with
  | will =>
      change Sends _ option session.books (session.handleWill option).books
      unfold handleWill OptionCommand.answer OptionCommand.accepted
      dsimp only
      by_cases known : option ∈ acceptedWill
      · rw [if_pos known, if_pos (decide_eq_true known)]
        have sends : Sends .doIt option session.books
            (session.send (.iac doCode option)).books := by
          rw [books_send]
          exact sends_of_send writer
        split
        · exact sends.markServerSupport
        · exact sends
      · have refused : ¬ decide (option ∈ acceptedWill) = true :=
          fun accepts => known (of_decide_eq_true accepts)
        rw [if_neg known, if_neg refused, books_send]
        exact sends_of_send writer
  | wont =>
      change Sends _ option session.books (session.handleWont option).books
      unfold handleWont
      dsimp only
      rw [books_send]
      split
      · rw [books_refuseTn3270e]
        exact sends_of_send writer
      · exact sends_of_send writer
  | doIt =>
      change Sends _ option session.books (session.handleDo option).books
      unfold handleDo OptionCommand.answer OptionCommand.accepted
      dsimp only
      by_cases known : option ∈ acceptedDo
      · rw [if_pos known, if_pos (decide_eq_true known)]
        have sends : Sends .will option session.books
            (session.send (.iac willCode option)).books := by
          rw [books_send]
          exact sends_of_send writer
        split
        · exact (sends.sendDetails option).markServerSupport
        · exact sends.sendDetails option
      · have refused : ¬ decide (option ∈ acceptedDo) = true :=
          fun accepts => known (of_decide_eq_true accepts)
        rw [if_neg known, if_neg refused, books_send]
        exact sends_of_send writer
  | dont =>
      change Sends _ option session.books (session.handleDont option).books
      unfold handleDont
      dsimp only
      rw [books_send]
      split
      · rw [books_signalAll]
        exact sends_of_send writer
      · exact sends_of_send writer

end Session

/-- A connected end of the exchange, with the options that it performs and those
that the other end performs. -/
structure Endpoint where
  session : Session
  connected : session.negotiator.hasWriter = true
  performs : UInt8 → Bool
  otherPerforms : UInt8 → Bool

namespace Endpoint

/-- The table of one option is set. -/
def setOption (option : UInt8) (value : Bool) (table : UInt8 → Bool) : UInt8 → Bool :=
  fun other => if other = option then value else table other

/-- A command is handled, and the tables follow its answer. -/
def receive (message : OptionCommand × UInt8) (endpoint : Endpoint) : Endpoint where
  session := endpoint.session.handleIacCommand message.1.code message.2
  connected :=
    (Session.handleIacCommand_sends message.1 message.2 endpoint.connected).1
  performs :=
    match message.1 with
    | .doIt | .dont =>
        setOption message.2 (message.1.accepted message.2) endpoint.performs
    | .will | .wont => endpoint.performs
  otherPerforms :=
    match message.1 with
    | .will | .wont =>
        setOption message.2 (message.1.accepted message.2) endpoint.otherPerforms
    | .doIt | .dont => endpoint.otherPerforms

/-- The commands that answer a command. -/
def answers (message : OptionCommand × UInt8) (endpoint : Endpoint) :
    List (OptionCommand × UInt8) :=
  ((endpoint.receive message).session.negotiator.sent.drop
    endpoint.session.negotiator.sent.length).filterMap
      NegotiatorMessage.optionCommand?

/-- A command only says what is in force already. -/
def Restates (message : OptionCommand × UInt8) (endpoint : Endpoint) : Prop :=
  match message.1 with
  | .will => endpoint.otherPerforms message.2 = true
  | .wont => endpoint.otherPerforms message.2 = false
  | .doIt => endpoint.performs message.2 = true
  | .dont => endpoint.performs message.2 = false

theorem optionCommand?_iac (command : OptionCommand) (option : UInt8) :
    (NegotiatorMessage.iac command.code option).optionCommand? =
      some (command, option) := by
  cases command with
  | will => rfl
  | wont => rfl
  | doIt => rfl
  | dont => rfl

theorem answers_eq (message : OptionCommand × UInt8) (endpoint : Endpoint) :
    endpoint.answers message = [(message.1.answer message.2, message.2)] := by
  obtain ⟨-, details, noCommands, sent⟩ :=
    Session.handleIacCommand_sends message.1 message.2 endpoint.connected
  have added : (endpoint.receive message).session.negotiator.sent.drop
      endpoint.session.negotiator.sent.length =
        .iac (message.1.answer message.2).code message.2 :: details := by
    have dropped := congrArg
      (List.drop endpoint.session.negotiator.sent.length) sent
    exact dropped.trans List.drop_left
  unfold answers
  rw [added, List.filterMap_cons, optionCommand?_iac,
    List.filterMap_eq_nil_iff.mpr noCommands]

end Endpoint

/-- Two endpoints, and the commands in flight to each of them. -/
structure Exchange where
  left : Endpoint
  right : Endpoint
  toLeft : List (OptionCommand × UInt8)
  toRight : List (OptionCommand × UInt8)

/-- Any command in flight may be the next that is delivered. -/
inductive Delivers : Exchange → Exchange → Prop where
  | toLeft (left right : Endpoint) (earlier : List (OptionCommand × UInt8))
      (message : OptionCommand × UInt8) (later toRight : List (OptionCommand × UInt8)) :
      Delivers ⟨left, right, earlier ++ message :: later, toRight⟩
        ⟨left.receive message, right, earlier ++ later,
          toRight ++ left.answers message⟩
  | toRight (left right : Endpoint) (toLeft earlier : List (OptionCommand × UInt8))
      (message : OptionCommand × UInt8) (later : List (OptionCommand × UInt8)) :
      Delivers ⟨left, right, toLeft, earlier ++ message :: later⟩
        ⟨left, right.receive message, toLeft ++ right.answers message,
          earlier ++ later⟩

namespace Exchange

def inFlight (exchange : Exchange) : Nat :=
  exchange.toLeft.length + exchange.toRight.length

/-- Every run of deliveries ends, with no command in flight, and no command that
only restates what is in force is ever answered. -/
structure Settles (exchange : Exchange) : Prop where
  ends : ¬ ∃ run : Nat → Exchange,
    run 0 = exchange ∧ ∀ time, Delivers (run time) (run (time + 1))
  quiet : ∀ reached, Relation.ReflTransGen Delivers exchange reached →
    (∀ next, ¬ Delivers reached next) → reached.inFlight = 0
  silent : ∀ reached, Relation.ReflTransGen Delivers exchange reached →
    (∀ message ∈ reached.toLeft, reached.left.Restates message →
      reached.left.answers message = []) ∧
    (∀ message ∈ reached.toRight, reached.right.Restates message →
      reached.right.answers message = [])

/-- A delivery takes one command out of flight and puts one into it. -/
theorem inFlight_of_delivers {before after : Exchange}
    (delivers : Delivers before after) : after.inFlight = before.inFlight := by
  unfold inFlight
  cases delivers with
  | toLeft left right earlier message later toRight =>
      simp only [Endpoint.answers_eq, List.length_append, List.length_cons,
        List.length_nil]
      omega
  | toRight left right toLeft earlier message later =>
      simp only [Endpoint.answers_eq, List.length_append, List.length_cons,
        List.length_nil]
      omega

/-- As long as a command is in flight, one can be delivered. -/
theorem exists_delivers {exchange : Exchange} (busy : exchange.inFlight ≠ 0) :
    ∃ next, Delivers exchange next := by
  obtain ⟨left, right, toLeft, toRight⟩ := exchange
  cases toLeft with
  | cons message later => exact ⟨_, .toLeft left right [] message later toRight⟩
  | nil =>
      cases toRight with
      | cons message later => exact ⟨_, .toRight left right [] [] message later⟩
      | nil => exact absurd rfl busy

theorem not_delivers_of_idle {exchange next : Exchange} (idle : exchange.inFlight = 0) :
    ¬ Delivers exchange next := by
  intro delivers
  cases delivers with
  | toLeft left right earlier message later toRight =>
      unfold inFlight at idle
      simp at idle
  | toRight left right toLeft earlier message later =>
      unfold inFlight at idle
      simp at idle

/-- An exchange with a command in flight goes on for ever. -/
theorem exists_run {exchange : Exchange} (busy : exchange.inFlight ≠ 0) :
    ∃ run : Nat → Exchange,
      run 0 = exchange ∧ ∀ time, Delivers (run time) (run (time + 1)) := by
  have next : ∀ state : {state : Exchange // state.inFlight ≠ 0},
      ∃ after : {state : Exchange // state.inFlight ≠ 0},
        Delivers state.1 after.1 := by
    intro state
    obtain ⟨after, delivers⟩ := exists_delivers state.2
    exact ⟨⟨after, by rw [inFlight_of_delivers delivers]; exact state.2⟩, delivers⟩
  choose after delivers using next
  refine ⟨fun time => (after^[time] ⟨exchange, busy⟩).1, rfl, fun time => ?_⟩
  change Delivers _ (after^[time + 1] ⟨exchange, busy⟩).1
  rw [Function.iterate_succ_apply']
  exact delivers _

/-- An exchange settles exactly where no command is in flight. -/
theorem settles_iff (exchange : Exchange) :
    exchange.Settles ↔ exchange.inFlight = 0 := by
  constructor
  · intro settles
    apply Classical.byContradiction
    intro busy
    exact settles.ends (exists_run busy)
  · intro idle
    have stays : ∀ {reached}, Relation.ReflTransGen Delivers exchange reached →
        reached = exchange := by
      intro reached steps
      rcases Relation.ReflTransGen.cases_head steps with same | ⟨next, delivers, -⟩
      · exact same.symm
      · exact absurd delivers (not_delivers_of_idle idle)
    obtain ⟨noneToLeft, noneToRight⟩ := Nat.add_eq_zero_iff.mp idle
    refine ⟨?_, ?_, ?_⟩
    · rintro ⟨run, start, delivers⟩
      have first := delivers 0
      rw [start] at first
      exact not_delivers_of_idle idle first
    · intro reached steps _
      rw [stays steps]
      exact idle
    · intro reached steps
      rw [stays steps, List.length_eq_zero_iff.mp noneToLeft,
        List.length_eq_zero_iff.mp noneToRight]
      constructor
      · intro message member
        cases member
      · intro message member
        cases member

/-- An endpoint that has agreed on nothing. -/
def freshEndpoint : Endpoint where
  session := ⟨.init .flexible, false, false⟩
  connected := rfl
  performs := fun _ => false
  otherPerforms := fun _ => false

/-- A single DO ECHO is never done with. -/
theorem echo_never_settles : ¬ ∀ exchange : Exchange, exchange.Settles := by
  intro every
  have settles := every ⟨freshEndpoint, freshEndpoint, [(.doIt, echo)], []⟩
  exact settles.ends (exists_run (Nat.succ_ne_zero 0))

end Exchange

end Pure3270
