import Pure3270.Foundations.Handles
import Pure3270.Foundations.Runs
import Pure3270.Foundations.Trials

/-!
# The connections of a session

A session opens a connection and makes a handler for its streams; the handler then
connects by itself, through a `SessionManager`, and takes up the streams of that second
connection.  Closing ends the manager's connection.  Which connections the calls of a run
of connecting, reconnecting and closing have closed is accounted for; what the finalizers
of writers and sessions that are dropped close later is not.
-/

namespace Pure3270

open Foundations

namespace Dialling

/-- Who opened a connection. -/
inductive Opener where
  | session
  | handler
  deriving DecidableEq

/-- All connections, those that a call has closed, and those whose handler was let go before
any call had closed them.  The code keeps no such list. -/
structure World where
  network : Handles Opener := {}
  lost : List Nat := []

namespace World

def openConnection (opener : Opener) (world : World) : World :=
  { world with network := world.network.acquire opener }

def close (connection : Nat) (world : World) : World :=
  { world with network := world.network.release connection }

/-- The holder of a connection is let go. -/
def letGo (held : Option Nat) (world : World) : World :=
  match held with
  | none => world
  | some connection =>
      if connection ∈ world.network.closed then world
      else { world with lost := world.lost ++ [connection] }

end World

/-- What happens when streams are closed. -/
inductive Teardown where
  | done
  | closeFails
  | waitFails
  deriving DecidableEq

/-- What the network and the host do with an attempt to connect. -/
structure Attempt where
  /-- The session's own connection is made. -/
  opens : Bool
  /-- The handler's connection is made in time. -/
  handlerOpens : Bool
  /-- The handler negotiates without an error. -/
  negotiates : Bool
  /-- The handler takes ASCII mode up. -/
  setsAsciiMode : Bool
  teardown : Teardown

structure SessionManager where
  connected : Bool := false
  writer : Option Nat := none

/-- Errors of `wait_closed` are suppressed, those of `close` are not. -/
def SessionManager.teardownConnection (teardown : Teardown) (manager : SessionManager)
    (world : World) : World :=
  match manager.writer with
  | none => world
  | some connection => if teardown = .closeFails then world else world.close connection

structure Tn3270Streams where
  writer : Option Nat
  transport : Option SessionManager := none
  connected : Bool := false

namespace Tn3270Streams

/-- The connection that the handler has opened for itself. -/
def held (handler : Tn3270Streams) : Option Nat :=
  handler.transport.bind (·.writer)

/-- Whether `connect` returns, and what it leaves.  The manager refuses an empty host. -/
def connect (host : String) (attempt : Attempt) (handler : Tn3270Streams)
    (world : World) : Bool × Tn3270Streams × World :=
  let transport := handler.transport.getD {}
  if host = "" ∨ attempt.handlerOpens = false then
    (false, { handler with transport := some transport }, world)
  else
    let connection := world.network.next
    (attempt.negotiates,
      { writer := some connection
        transport := some { connected := true, writer := some connection }
        connected := true },
      world.openConnection .handler)

/-- The callers let the handler go afterwards, whether or not this raises. -/
def close (teardown : Teardown) (handler : Tn3270Streams) (world : World) : World :=
  match handler.transport with
  | some transport => transport.teardownConnection teardown world
  | none =>
      match handler.writer with
      | none => world
      | some connection => if teardown = .closeFails then world else world.close connection

/-- The handler is closed and let go. -/
def finish (teardown : Teardown) (handler : Tn3270Streams) (world : World) : World :=
  (handler.close teardown world).letGo handler.held

end Tn3270Streams

inductive DialFault where
  | valueError (message : String)
  /-- The error of `open_connection`. -/
  | openFailed
  /-- The error of the handler. -/
  | handlerFailed
  | connectionError (message : String)
  deriving DecidableEq

structure AsyncSession where
  host : Option String
  allowFallback : Bool
  handler : Option Tn3270Streams := none
  connectedFlag : Bool := false

namespace AsyncSession

def held (session : AsyncSession) : Option Nat :=
  session.handler.bind (·.held)

/-- The property `connected`. -/
def connected (session : AsyncSession) : Bool :=
  session.connectedFlag || session.handler.any (·.connected)

/-- After the handler has raised: ASCII mode on whatever streams the handler has, or no
handler at all. -/
def fallBack (attempt : Attempt) (handler : Tn3270Streams) (session : AsyncSession)
    (world : World) : Option DialFault × AsyncSession × World :=
  if session.allowFallback then
    if attempt.setsAsciiMode then
      (none, { session with handler := some handler, connectedFlag := true }, world)
    else
      (some (.connectionError "Negotiation failed and fallback could not be established"),
        { session with handler := none, connectedFlag := false },
        handler.finish attempt.teardown world)
  else (some .handlerFailed, { session with handler := some handler }, world)

/-- `connect` once the host is known.  A handler that the session has is replaced without
being closed. -/
def connectTo (host : String) (attempt : Attempt) (session : AsyncSession)
    (world : World) : Option DialFault × AsyncSession × World :=
  if attempt.opens = false then (some .openFailed, session, world)
  else
    let fresh : Tn3270Streams := { writer := some world.network.next }
    let (returned, handler, world) :=
      fresh.connect host attempt ((world.openConnection .session).letGo session.held)
    if returned then
      (none, { session with handler := some handler, connectedFlag := true }, world)
    else session.fallBack attempt handler world

def connect (host : Option String) (attempt : Attempt) (session : AsyncSession)
    (world : World) : Option DialFault × AsyncSession × World :=
  let named := { session with host := host.or session.host }
  match host.or session.host with
  | none => (some (.valueError "Host must be specified."), named, world)
  | some host => named.connectTo host attempt world

def close (teardown : Teardown) (session : AsyncSession) (world : World) :
    AsyncSession × World :=
  ({ session with handler := none, connectedFlag := false },
    match session.handler with
    | none => world
    | some handler => handler.finish teardown world)

/-- How one attempt of `reconnect` goes. -/
structure Trial where
  teardown : Teardown
  attempt : Attempt

/-- The attempts from the one numbered `made`, with the last error so far. -/
def reconnectFrom (trials : Nat → Trial) :
    Nat → Nat → Option DialFault → AsyncSession → World →
      Option DialFault × AsyncSession × World
  | 0, _, lastError, session, world => (lastError, session, world)
  | left + 1, made, _, session, world =>
      let (closed, world) := session.close (trials made).teardown world
      match closed.connect none (trials made).attempt world with
      | (none, session, world) => (none, session, world)
      | (some fault, session, world) =>
          reconnectFrom trials left (made + 1) (some fault) session world

def reconnect (maxAttempts : Int) (trials : Nat → Trial) (session : AsyncSession)
    (world : World) : Option DialFault × AsyncSession × World :=
  reconnectFrom trials maxAttempts.toNat 0 none session world

end AsyncSession

/-- A user of the synchronous `Session`, or of an `AsyncSession`. -/
structure Client where
  host : Option String
  allowFallback : Bool
  asyncSession : Option AsyncSession
  world : World

inductive DialEvent where
  | asyncConnect (host : Option String) (attempt : Attempt)
  | asyncClose (teardown : Teardown)
  | reconnect (maxAttempts : Int) (trials : Nat → AsyncSession.Trial)
  /-- `Session.connect`. -/
  | connect (host : Option String) (attempt : Attempt)
  /-- An operation under `_require_connected_session`. -/
  | operate (attempt : Attempt)
  /-- `Session.close`. -/
  | close (teardown : Teardown)

namespace Client

def held (client : Client) : Option Nat :=
  client.asyncSession.bind (·.held)

def new (host : Option String) (allowFallback asynchronous : Bool) : Client where
  host
  allowFallback
  asyncSession := if asynchronous then some { host, allowFallback } else none
  world := {}

/-- Carry an operation of the session out. -/
def onSession (client : Client) (operation : AsyncSession → World → AsyncSession × World) :
    Client :=
  match client.asyncSession with
  | none => client
  | some session =>
      let (session, world) := operation session client.world
      { client with asyncSession := some session, world }

/-- `Session.connect`; an earlier session is dropped as it is and left to its finalizer. -/
def connect (host : Option String) (attempt : Attempt) (client : Client) : Client :=
  let host := host.or client.host
  let fresh : AsyncSession := { host, allowFallback := client.allowFallback }
  let (_, session, world) := fresh.connect none attempt (client.world.letGo client.held)
  { client with host, asyncSession := some session, world }

/-- `Session.close`. -/
def close (teardown : Teardown) (client : Client) : Client :=
  match client.asyncSession with
  | none => client
  | some session =>
      { client with asyncSession := none, world := (session.close teardown client.world).2 }

def step : DialEvent → Client → Client
  | .asyncConnect host attempt, client =>
      client.onSession fun session world => (session.connect host attempt world).2
  | .asyncClose teardown, client => client.onSession (·.close teardown)
  | .reconnect maxAttempts trials, client =>
      client.onSession fun session world => (session.reconnect maxAttempts trials world).2
  | .connect host attempt, client => client.connect host attempt
  | .operate attempt, client =>
      client.onSession fun session world =>
        if session.connected then (session, world)
        else (session.connect none attempt world).2
  | .close teardown, client => client.close teardown

end Client

/-- The handler connections are accounted for. -/
def World.Accounts (held : Option Nat) (world : World) : Prop :=
  Tracked .handler held world.lost world.network

namespace World

variable {held : Option Nat} {world : World}

theorem letGo_of_closed {connection : Nat} (closed : connection ∈ world.network.closed) :
    world.letGo (some connection) = world :=
  if_pos closed

theorem Accounts.letGo (accounts : world.Accounts held) :
    (world.letGo held).Accounts none := by
  cases held with
  | none => exact accounts
  | some connection =>
      have unclosed : connection ∉ world.network.closed :=
        ((accounts.exact connection).mpr (.inl rfl)).2
      unfold World.letGo
      simp only
      rw [if_neg unclosed]
      exact accounts.lose

end World

namespace Tn3270Streams

variable {handler : Tn3270Streams} {world : World}

/-- A handler that has tried to connect, as its session finds it. -/
structure Dialled (handler : Tn3270Streams) : Prop where
  transport : handler.transport.isSome = true
  shown : handler.connected = false → handler.held = none

/-- Connecting a fresh handler. -/
theorem connect_spec (connection : Nat) (host : String) (attempt : Attempt)
    (accounts : world.Accounts none) :
    let result := ({ writer := some connection } : Tn3270Streams).connect host attempt world
    result.2.2.Accounts result.2.1.held ∧ result.2.1.Dialled ∧
      result.2.2.lost = world.lost := by
  unfold connect
  by_cases refused : host = "" ∨ attempt.handlerOpens = false
  · rw [if_pos refused]
    exact ⟨accounts, ⟨rfl, fun _ => rfl⟩, rfl⟩
  · rw [if_neg refused]
    exact ⟨accounts.acquire_own, ⟨rfl, fun unshown => by cases unshown⟩, rfl⟩

/-- A handler that has tried to connect closes the connection it holds, and no other. -/
theorem finish_spec (teardown : Teardown) (dialled : handler.Dialled)
    (accounts : world.Accounts handler.held) :
    (handler.finish teardown world).Accounts none ∧
      (teardown ≠ .closeFails → (handler.finish teardown world).lost = world.lost) := by
  obtain ⟨transport, has⟩ := Option.isSome_iff_exists.mp dialled.transport
  have same : handler.held = transport.writer := by
    unfold held
    rw [has]
    rfl
  have closes : handler.close teardown world = transport.teardownConnection teardown world := by
    unfold close
    rw [has]
  unfold finish
  rw [closes, same]
  rw [same] at accounts
  unfold SessionManager.teardownConnection
  cases writer : transport.writer with
  | none =>
      rw [writer] at accounts
      exact ⟨accounts, fun _ => rfl⟩
  | some connection =>
      rw [writer] at accounts
      simp only
      by_cases fails : teardown = .closeFails
      · rw [if_pos fails]
        exact ⟨accounts.letGo, fun smooth => absurd fails smooth⟩
      · rw [if_neg fails]
        have closed : connection ∈ (world.close connection).network.closed :=
          List.mem_cons_self
        rw [World.letGo_of_closed closed]
        exact ⟨accounts.release, fun _ => rfl⟩

end Tn3270Streams

namespace AsyncSession

variable {session : AsyncSession} {world : World}

/-- The handler connections are accounted for, and the session is connected only with a
handler. -/
structure Kept (session : AsyncSession) (world : World) : Prop where
  accounts : world.Accounts session.held
  dialled : ∀ handler, session.handler = some handler → handler.Dialled
  flagged : session.connectedFlag = true → session.handler.isSome = true

theorem Kept.held_of_not_connected (kept : session.Kept world)
    (unconnected : session.connected = false) : session.held = none := by
  unfold held
  cases exists_handler : session.handler with
  | none => rfl
  | some handler =>
      have unshown : handler.connected = false := by
        unfold connected at unconnected
        rw [exists_handler] at unconnected
        simpa using (Bool.or_eq_false_iff.mp unconnected).2
      exact (kept.dialled handler exists_handler).shown unshown

theorem kept_without (session : AsyncSession) (accounts : world.Accounts none) :
    ({ session with handler := none, connectedFlag := false } : AsyncSession).Kept world where
  accounts
  dialled _ found := by cases found
  flagged flag := by cases flag

theorem fallBack_spec (session : AsyncSession) (attempt : Attempt) {handler : Tn3270Streams}
    (dialled : handler.Dialled) (accounts : world.Accounts handler.held) :
    let result := session.fallBack attempt handler world
    result.2.1.Kept result.2.2 ∧
      (attempt.teardown ≠ .closeFails → result.2.2.lost = world.lost) := by
  have only : ∀ other, some handler = some other → other.Dialled := by
    rintro other ⟨⟩
    exact dialled
  unfold fallBack
  by_cases fallback : session.allowFallback = true
  · rw [if_pos fallback]
    by_cases ascii : attempt.setsAsciiMode = true
    · rw [if_pos ascii]
      exact ⟨⟨accounts, only, fun _ => rfl⟩, fun _ => rfl⟩
    · rw [if_neg ascii]
      have finished := handler.finish_spec attempt.teardown dialled accounts
      exact ⟨session.kept_without finished.1, finished.2⟩
  · rw [if_neg fallback]
    exact ⟨⟨accounts, only, fun _ => rfl⟩, fun _ => rfl⟩

theorem connectTo_spec (host : String) (attempt : Attempt) (kept : session.Kept world) :
    let result := session.connectTo host attempt world
    result.2.1.Kept result.2.2 ∧
      (session.held = none → attempt.teardown ≠ .closeFails →
        result.2.2.lost = world.lost) := by
  unfold connectTo
  by_cases refused : attempt.opens = false
  · rw [if_pos refused]
    exact ⟨kept, fun _ _ => rfl⟩
  · rw [if_neg refused]
    have opened : (world.openConnection .session).Accounts session.held :=
      kept.accounts.acquire_other (by decide)
    obtain ⟨accounts, dialled, lost⟩ :=
      Tn3270Streams.connect_spec world.network.next host attempt opened.letGo
    have before : session.held = none →
        ((world.openConnection .session).letGo session.held).lost = world.lost := by
      intro nothing
      rw [nothing]
      rfl
    simp only
    split
    · refine ⟨⟨accounts, ?_, fun _ => rfl⟩, fun nothing _ => lost.trans (before nothing)⟩
      rintro other ⟨⟩
      exact dialled
    · have fallen := session.fallBack_spec attempt dialled accounts
      exact ⟨fallen.1, fun nothing smooth =>
        (fallen.2 smooth).trans (lost.trans (before nothing))⟩

theorem connect_spec (host : Option String) (attempt : Attempt)
    (kept : session.Kept world) :
    let result := session.connect host attempt world
    result.2.1.Kept result.2.2 ∧
      (session.held = none → attempt.teardown ≠ .closeFails →
        result.2.2.lost = world.lost) := by
  unfold connect
  have named : ∀ known, ({ session with host := known } : AsyncSession).Kept world :=
    fun _ => ⟨kept.accounts, kept.dialled, kept.flagged⟩
  cases host.or session.host with
  | none => exact ⟨named none, fun _ _ => rfl⟩
  | some name => exact connectTo_spec name attempt (named (some name))

theorem close_spec (teardown : Teardown) (kept : session.Kept world) :
    let result := session.close teardown world
    result.1.Kept result.2 ∧ result.1.held = none ∧
      (teardown ≠ .closeFails → result.2.lost = world.lost) := by
  have accounts := kept.accounts
  unfold close
  unfold held at accounts
  cases exists_handler : session.handler with
  | none =>
      rw [exists_handler] at accounts
      exact ⟨session.kept_without accounts, rfl, fun _ => rfl⟩
  | some handler =>
      rw [exists_handler] at accounts
      have finished := handler.finish_spec teardown
        (kept.dialled handler exists_handler) accounts
      exact ⟨session.kept_without finished.1, rfl, finished.2⟩

/-- Teardowns that close what they are asked to close. -/
def Trial.Smooth (trial : Trial) : Prop :=
  trial.teardown ≠ .closeFails ∧ trial.attempt.teardown ≠ .closeFails

theorem reconnectFrom_spec (trials : Nat → Trial) (left made : Nat)
    (lastError : Option DialFault) (kept : session.Kept world) :
    let result := reconnectFrom trials left made lastError session world
    result.2.1.Kept result.2.2 ∧
      ((∀ number, (trials number).Smooth) → result.2.2.lost = world.lost) := by
  induction left generalizing made lastError session world with
  | zero => exact ⟨kept, fun _ => rfl⟩
  | succ left ih =>
      obtain ⟨closed, nothing, sameClosed⟩ := close_spec (trials made).teardown kept
      obtain ⟨connected, sameConnected⟩ := connect_spec none (trials made).attempt closed
      have lost := fun smooth : ∀ number, (trials number).Smooth =>
        (sameConnected nothing (smooth made).2).trans (sameClosed (smooth made).1)
      unfold reconnectFrom
      simp only
      split
      · rename_i ran
        rw [ran] at connected lost
        exact ⟨connected, lost⟩
      · rename_i fault _ _ ran
        rw [ran] at connected lost
        have later := ih (made + 1) (some fault) connected
        exact ⟨later.1, fun smooth => (later.2 smooth).trans (lost smooth)⟩

end AsyncSession

namespace Client

variable {client : Client}

/-- What holds of the session, or of no session. -/
def Sound (client : Client) : Prop :=
  match client.asyncSession with
  | none => client.world.Accounts none
  | some session => session.Kept client.world

theorem Sound.accounts (sound : client.Sound) : client.world.Accounts client.held := by
  unfold Sound at sound
  unfold held
  cases present : client.asyncSession with
  | none => rwa [present] at sound
  | some session =>
      rw [present] at sound
      exact sound.accounts

/-- Events that lose no connection: they connect only where none is held, and what they
close is closed. -/
def Tidy : DialEvent → Client → Prop
  | .asyncConnect _ attempt, client => client.held = none ∧ attempt.teardown ≠ .closeFails
  | .asyncClose teardown, _ => teardown ≠ .closeFails
  | .reconnect _ trials, _ => ∀ number, (trials number).Smooth
  | .connect _ attempt, client => client.held = none ∧ attempt.teardown ≠ .closeFails
  | .operate attempt, _ => attempt.teardown ≠ .closeFails
  | .close teardown, _ => teardown ≠ .closeFails

/-- An operation of the session that keeps what is known of it, and loses nothing under
a condition. -/
theorem onSession_spec {operation : AsyncSession → World → AsyncSession × World}
    {Condition : Prop} (sound : client.Sound)
    (spec : ∀ session, client.asyncSession = some session → session.Kept client.world →
      (operation session client.world).1.Kept (operation session client.world).2 ∧
        (Condition → (operation session client.world).2.lost = client.world.lost)) :
    (client.onSession operation).Sound ∧
      (Condition → (client.onSession operation).world.lost = client.world.lost) := by
  unfold onSession
  unfold Sound at sound
  cases present : client.asyncSession with
  | none =>
      rw [present] at sound
      refine ⟨?_, fun _ => rfl⟩
      unfold Sound
      rw [present]
      exact sound
  | some session =>
      rw [present] at sound
      exact spec session present sound

theorem held_of_session {session : AsyncSession}
    (present : client.asyncSession = some session) : client.held = session.held := by
  unfold held
  rw [present]
  rfl

theorem close_spec (teardown : Teardown) (sound : client.Sound) :
    (client.close teardown).Sound ∧
      (teardown ≠ .closeFails →
        (client.close teardown).world.lost = client.world.lost) := by
  unfold close
  cases present : client.asyncSession with
  | none => exact ⟨sound, fun _ => rfl⟩
  | some session =>
      unfold Sound at sound
      rw [present] at sound
      obtain ⟨closed, nothing, lost⟩ := AsyncSession.close_spec teardown sound
      have accounts := closed.accounts
      rw [nothing] at accounts
      exact ⟨accounts, lost⟩

theorem step_spec (event : DialEvent) (sound : client.Sound) :
    (step event client).Sound ∧
      (Tidy event client → (step event client).world.lost = client.world.lost) := by
  cases event with
  | asyncConnect host attempt =>
      refine onSession_spec sound fun session present kept => ?_
      obtain ⟨connected, lost⟩ := AsyncSession.connect_spec host attempt kept
      refine ⟨connected, fun tidy => lost ?_ tidy.2⟩
      exact held_of_session present ▸ tidy.1
  | asyncClose teardown =>
      refine onSession_spec sound fun session _ kept => ?_
      obtain ⟨closed, _, lost⟩ := AsyncSession.close_spec teardown kept
      exact ⟨closed, lost⟩
  | reconnect maxAttempts trials =>
      exact onSession_spec sound fun session _ kept =>
        AsyncSession.reconnectFrom_spec trials maxAttempts.toNat 0 none kept
  | connect host attempt =>
      have accounts := sound.accounts.letGo
      have fresh : AsyncSession.Kept
          { host := host.or client.host, allowFallback := client.allowFallback }
          (client.world.letGo client.held) :=
        AsyncSession.kept_without
          { host := host.or client.host, allowFallback := client.allowFallback } accounts
      obtain ⟨connected, lost⟩ := AsyncSession.connect_spec none attempt fresh
      refine ⟨connected, fun tidy => (lost rfl tidy.2).trans ?_⟩
      rw [tidy.1]
      rfl
  | operate attempt =>
      refine onSession_spec sound fun session _ kept => ?_
      by_cases connected : session.connected = true
      · rw [if_pos connected]
        exact ⟨kept, fun _ => rfl⟩
      · rw [if_neg connected]
        have nothing := kept.held_of_not_connected (Bool.eq_false_iff.mpr connected)
        obtain ⟨kept, lost⟩ := AsyncSession.connect_spec none attempt kept
        exact ⟨kept, lost nothing⟩
  | close teardown => exact close_spec teardown sound

theorem new_sound (host : Option String) (allowFallback asynchronous : Bool) :
    (new host allowFallback asynchronous).Sound := by
  cases asynchronous with
  | false => exact Tracked.empty
  | true => exact AsyncSession.kept_without { host, allowFallback } Tracked.empty

/-- In every run of connecting, reconnecting, operating and closing, no call closes a
connection that `connect` itself has opened; a connection that a handler has opened is not
closed by a call exactly while the handler is there, or if the handler has been let go with
it; and runs that are tidy let go of no further one. -/
theorem connections_of_every_run (host : Option String) (allowFallback asynchronous : Bool)
    (events later : List DialEvent) :
    let reached := run step events (new host allowFallback asynchronous)
    let network := reached.world.network
    (∀ connection, network.Given .session connection → connection ∉ network.closed) ∧
      (∀ connection, network.Given .handler connection →
        (connection ∉ network.closed ↔
          reached.held = some connection ∨ connection ∈ reached.world.lost)) ∧
      (∀ session, reached.asyncSession = some session → session.connectedFlag = true →
        session.handler.isSome = true) ∧
      (Along step Tidy later reached →
        (run step later reached).world.lost = reached.world.lost) := by
  intro reached network
  have sound : reached.Sound :=
    @run_invariant _ _ step Sound (fun event {_} kept => (step_spec event kept).1) events _
      (new_sound host allowFallback asynchronous)
  have accounts := sound.accounts
  refine ⟨fun connection given closed => ?_, fun connection given => ?_,
    fun session present flag => ?_, fun tidy => ?_⟩
  · have own : network.Given .handler connection := accounts.own connection closed
    cases given.symm.trans own
  · exact ⟨fun unclosed => (accounts.exact connection).mp ⟨given, unclosed⟩,
      fun kept => ((accounts.exact connection).mpr kept).2⟩
  · unfold Sound at sound
    rw [present] at sound
    exact sound.flagged flag
  · have kept : Always step
        (fun client => client.Sound ∧ client.world.lost = reached.world.lost) later reached :=
      always_of_along
        (fun {event _} kept tidy =>
          ⟨(step_spec event kept.1).1, ((step_spec event kept.1).2 tidy).trans kept.2⟩)
        ⟨sound, rfl⟩ tidy
    exact kept.last.2

end Client

/-- The session makes its connection to this host. -/
def Attempt.reaches (host : Option String) (attempt : Attempt) : Bool :=
  host.isSome && attempt.opens

/-- The attempt connects a session to this host. -/
def Attempt.works (host : Option String) (allowFallback : Bool) (attempt : Attempt) : Bool :=
  attempt.reaches host &&
    (decide (host ≠ some "") && attempt.handlerOpens && attempt.negotiates ||
      allowFallback && attempt.setsAsciiMode)

/-- How many connections sessions have opened. -/
def World.dialled (world : World) : Nat :=
  world.network.owners.count .session

theorem World.dialled_letGo (held : Option Nat) (world : World) :
    (world.letGo held).dialled = world.dialled := by
  unfold letGo
  cases held with
  | none => rfl
  | some connection =>
      simp only
      split <;> rfl

namespace Tn3270Streams

theorem connect_returned (host : String) (attempt : Attempt) (handler : Tn3270Streams)
    (world : World) :
    (handler.connect host attempt world).1 =
        (decide (host ≠ "") && attempt.handlerOpens && attempt.negotiates) ∧
      (handler.connect host attempt world).2.2.dialled = world.dialled := by
  unfold connect
  by_cases refused : host = "" ∨ attempt.handlerOpens = false
  · rw [if_pos refused]
    rcases refused with unnamed | closed
    · simp [unnamed]
    · simp [closed]
  · rw [if_neg refused]
    rw [not_or, Bool.not_eq_false] at refused
    simp [refused, World.dialled, World.openConnection, Handles.acquire]

theorem dialled_finish (teardown : Teardown) (handler : Tn3270Streams) (world : World) :
    (handler.finish teardown world).dialled = world.dialled := by
  unfold finish
  rw [World.dialled_letGo]
  unfold close SessionManager.teardownConnection
  split
  · split
    · rfl
    · split <;> rfl
  · split
    · rfl
    · split <;> rfl

end Tn3270Streams

namespace AsyncSession

variable {session : AsyncSession} {world : World}

theorem dialled_close (teardown : Teardown) (session : AsyncSession) (world : World) :
    (session.close teardown world).2.dialled = world.dialled := by
  unfold close
  cases session.handler with
  | none => rfl
  | some handler => exact handler.dialled_finish teardown world

/-- What an operation that connects does to a session that is not connected: whether it
returned is whether the session is connected. -/
structure Connects (worked opened : Bool) (session : AsyncSession) (world : World)
    (result : Option DialFault × AsyncSession × World) : Prop where
  returned : result.1.isNone = worked
  flag : result.2.1.connectedFlag = worked
  host : result.2.1.host = session.host
  allowFallback : result.2.1.allowFallback = session.allowFallback
  dialled : result.2.2.dialled = world.dialled + opened.toNat

theorem fallBack_connects (attempt : Attempt) (handler : Tn3270Streams)
    (session : AsyncSession) (world : World) (unconnected : session.connectedFlag = false) :
    Connects (session.allowFallback && attempt.setsAsciiMode) false session world
      (session.fallBack attempt handler world) := by
  unfold fallBack
  by_cases allowed : session.allowFallback = true
  · rw [if_pos allowed]
    by_cases ascii : attempt.setsAsciiMode = true
    · have works : (session.allowFallback && attempt.setsAsciiMode) = true := by
        rw [allowed, ascii, Bool.and_self]
      rw [if_pos ascii, works]
      exact ⟨rfl, rfl, rfl, rfl, rfl⟩
    · have fails : (session.allowFallback && attempt.setsAsciiMode) = false := by
        rw [Bool.eq_false_iff.mpr ascii, Bool.and_false]
      rw [if_neg ascii, fails]
      exact ⟨rfl, rfl, rfl, rfl, handler.dialled_finish attempt.teardown world⟩
  · have fails : (session.allowFallback && attempt.setsAsciiMode) = false := by
      rw [Bool.eq_false_iff.mpr allowed, Bool.false_and]
    rw [if_neg allowed, fails]
    exact ⟨rfl, unconnected, rfl, rfl, rfl⟩

theorem connectTo_connects (host : String) (attempt : Attempt) (session : AsyncSession)
    (world : World) (unconnected : session.connectedFlag = false) :
    Connects (attempt.works (some host) session.allowFallback) attempt.opens session world
      (session.connectTo host attempt world) := by
  unfold connectTo Attempt.works Attempt.reaches
  by_cases refused : attempt.opens = false
  · rw [if_pos refused, refused]
    exact ⟨rfl, unconnected, rfl, rfl, rfl⟩
  · have opens : attempt.opens = true := eq_true_of_ne_false refused
    rw [if_neg refused, opens]
    obtain ⟨returned, dialled⟩ := Tn3270Streams.connect_returned host attempt
      { writer := some world.network.next }
      ((world.openConnection .session).letGo session.held)
    rw [World.dialled_letGo] at dialled
    have opened : (world.openConnection .session).dialled = world.dialled + 1 := by
      simp [World.dialled, World.openConnection, Handles.acquire]
    have named : (some host ≠ some "") = (host ≠ "") := by simp
    simp only [named]
    rw [← returned]
    revert dialled
    generalize Tn3270Streams.connect host attempt _ _ = result
    obtain ⟨worked, handler, after⟩ := result
    intro dialled
    cases worked with
    | true => exact ⟨rfl, rfl, rfl, rfl, dialled.trans opened⟩
    | false =>
        have fallen := fallBack_connects attempt handler session after unconnected
        exact ⟨fallen.returned, fallen.flag, fallen.host, fallen.allowFallback,
          fallen.dialled.trans (dialled.trans opened)⟩

theorem connect_connects (attempt : Attempt) (session : AsyncSession) (world : World)
    (unconnected : session.connectedFlag = false) :
    Connects (attempt.works session.host session.allowFallback) (attempt.reaches session.host)
      session world (session.connect none attempt world) := by
  unfold connect
  cases known : session.host with
  | none => exact ⟨rfl, unconnected, known.symm, rfl, rfl⟩
  | some host =>
      have connects := connectTo_connects host attempt { session with host := some host } world
        unconnected
      exact ⟨connects.returned, connects.flag, connects.host.trans known.symm,
        connects.allowFallback, connects.dialled⟩

/-- The trials that reach the host, of those numbered below a bound. -/
def reached (host : Option String) (trials : Nat → Trial) (bound : Nat) : Nat :=
  (List.range bound).countP fun number => (trials number).attempt.reaches host

theorem reached_succ (host : Option String) (trials : Nat → Trial) (bound : Nat) :
    reached host trials (bound + 1) =
      reached host trials bound + ((trials bound).attempt.reaches host).toNat := by
  unfold reached
  rw [List.range_succ, List.countP_append, List.countP_singleton]
  cases (trials bound).attempt.reaches host <;> rfl

theorem trial_connects (trial : Trial) (session : AsyncSession) (world : World) :
    Connects (trial.attempt.works session.host session.allowFallback)
      (trial.attempt.reaches session.host) session world
      ((session.close trial.teardown world).1.connect none trial.attempt
        (session.close trial.teardown world).2) := by
  have connects := connect_connects trial.attempt (session.close trial.teardown world).1
    (session.close trial.teardown world).2 rfl
  exact ⟨connects.returned, connects.flag, connects.host, connects.allowFallback,
    connects.dialled.trans (congrArg (· + _) (dialled_close trial.teardown session world))⟩

/-- The attempts of `reconnect` are tries until one works, each of which opens a
connection of its own if it reaches the host. -/
theorem reconnectFrom_tries (trials : Nat → Trial) (left made : Nat) (fault : DialFault)
    (session : AsyncSession) (world : World) (unconnected : session.connectedFlag = false) :
    let works number := (trials number).attempt.works session.host session.allowFallback
    let tries := tryTimes works left made
    let result := reconnectFrom trials left made (some fault) session world
    result.1.isNone = tries.1 ∧ result.2.1.connectedFlag = tries.1 ∧
      result.2.2.dialled + reached session.host trials made =
        world.dialled + reached session.host trials tries.2 := by
  induction left generalizing made fault session world with
  | zero => exact ⟨rfl, unconnected, rfl⟩
  | succ left ih =>
      have connects := trial_connects (trials made) session world
      have more := reached_succ session.host trials made
      unfold tryTimes reconnectFrom
      simp only
      split
      · rename_i connected after ran
        rw [ran] at connects
        have dialled : after.dialled = _ := connects.dialled
        have worked : _ = true := connects.returned.symm
        rw [if_pos worked]
        refine ⟨rfl, connects.flag.trans connects.returned.symm, ?_⟩
        simp only
        omega
      · rename_i fault connected after ran
        rw [ran] at connects
        have dialled : after.dialled = _ := connects.dialled
        have later := ih (made + 1) fault connected after
          (connects.flag.trans connects.returned.symm)
        rw [connects.host, connects.allowFallback] at later
        rw [if_neg (Bool.eq_false_iff.mp connects.returned.symm)]
        refine ⟨later.1, later.2.1, ?_⟩
        have further := later.2.2
        omega

end AsyncSession

end Dialling

end Pure3270
