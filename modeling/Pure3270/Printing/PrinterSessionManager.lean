import Pure3270.Foundations.Runs
import Pure3270.Printing.ConnectionPool

/-!
# The manager of the printer sessions

The manager borrows a connection for each session it creates, and tracks a session
that it constructs itself.  What it returns when a session is closed is the latter.
-/

namespace Pure3270

open Foundations

inductive PrinterSessionState where
  | disconnected
  | connecting
  | negotiating
  | connected
  | active
  | error
  | closing
  deriving DecidableEq

/-- Why a call of the manager fails. -/
inductive ManagerError where
  | runtimeError (message : String)
  | failedToCreate (cause : BorrowError)
  /-- What the session itself raised. -/
  | operation

/-- How the borrowing of a connection goes, with `asyncio.wait_for` around it. -/
inductive Borrowing where
  | finishes (healthy : SessionRef → Bool) (connects : Bool)
  | timesOut

/-- `TCPIPPrinterSessionManager`, with the states of the sessions it has
constructed. -/
structure PrinterSessionManager where
  started : Bool
  connectionPool : ConnectionPool
  /-- `_active_sessions`, from the oldest entry on. -/
  activeSessions : List (String × SessionRef)
  stateOf : SessionRef → PrinterSessionState
  made : Nat

namespace PrinterSessionManager

/-- A manager with its pool, after `start`. -/
def startNew (maxConnections maxConnectionsPerHost : Nat) : PrinterSessionManager :=
  { started := true
    connectionPool := (ConnectionPool.new maxConnections maxConnectionsPerHost).start
    activeSessions := []
    stateOf := fun _ => .disconnected
    made := 0 }

def setState (session : SessionRef) (state : PrinterSessionState)
    (manager : PrinterSessionManager) : PrinterSessionManager :=
  { manager with
    stateOf := fun other => if other = session then state else manager.stateOf other }

/-- `TCPIPPrinterSession.close`. -/
def closeSession (closes : Bool) (session : SessionRef)
    (manager : PrinterSessionManager) : PrinterSessionManager :=
  match manager.stateOf session with
  | .disconnected => manager
  | .closing => manager
  | _ => manager.setState session (if closes then .disconnected else .error)

/-- `return_connection` of a session of the manager.  `sound` stands for the rest of
`_is_connection_healthy`: the handler is connected and there were few errors. -/
def returnSession (sound closes : Bool) (session : SessionRef)
    (manager : PrinterSessionManager) : PrinterSessionManager :=
  let healthy := decide (manager.stateOf session = .active) && sound
  let returned :=
    { manager with
      connectionPool := manager.connectionPool.returnConnection session healthy }
  if healthy then returned else returned.closeSession closes session

/-- `create_printer_session`.  `address` is what `id` gives for the new session, for
the identifier of a session that is not given one. -/
def createPrinterSession (host : String) (port : Int) (sessionId : Option String)
    (address : Nat) (borrowing : Borrowing) (manager : PrinterSessionManager) :
    Except ManagerError String × PrinterSessionManager :=
  if manager.started then
    let pool := manager.connectionPool
    match borrowing with
    | .timesOut =>
        (.error (.runtimeError "Failed to create printer session: timeout"),
          { manager with connectionPool := { pool with made := pool.made + 1 } })
    | .finishes healthy connects =>
        match pool.borrowConnection host port healthy connects with
        | (.error cause, after) =>
            (.error (.failedToCreate cause), { manager with connectionPool := after })
        | (.ok _, after) =>
            let session : SessionRef :=
              { maker := .elsewhere, number := manager.made, host, port }
            let identifier :=
              match sessionId with
              | none => "printer_" ++ toString address
              | some given => if given = "" then "printer_" ++ toString address else given
            (.ok identifier,
              { (manager.setState session .disconnected) with
                connectionPool := after
                activeSessions := assign identifier session manager.activeSessions
                made := manager.made + 1 })
  else (.error (.runtimeError "Session manager not started"), manager)

def getPrinterSession (sessionId : String) (manager : PrinterSessionManager) :
    Except ManagerError SessionRef :=
  match manager.activeSessions.lookup sessionId with
  | none => .error (.runtimeError ("Session " ++ sessionId ++ " not found"))
  | some session =>
      if manager.stateOf session = .active then .ok session
      else .error (.runtimeError ("Session " ++ sessionId ++ " is not active"))

def untrack (sessionId : String) (manager : PrinterSessionManager) :
    PrinterSessionManager :=
  { manager with
    activeSessions := manager.activeSessions.filter fun entry => entry.1 ≠ sessionId }

/-- `_handle_session_error`. -/
def handleSessionError (sessionId : String) (sound closes : Bool) (session : SessionRef)
    (manager : PrinterSessionManager) : PrinterSessionManager :=
  ((manager.setState session .error).untrack sessionId).returnSession sound closes session

/-- What `send_print_job`, `send_printer_status` and `receive_printer_data` share. -/
def operate (failure : ManagerError) (sessionId : String) (succeeds sound closes : Bool)
    (manager : PrinterSessionManager) : Except ManagerError Unit × PrinterSessionManager :=
  match manager.getPrinterSession sessionId with
  | .error error => (.error error, manager)
  | .ok session =>
      if succeeds then (.ok (), manager)
      else (.error failure, manager.handleSessionError sessionId sound closes session)

def sendPrintJob :=
  operate (.runtimeError "Failed to send print job")

def sendPrinterStatus := operate .operation

def receivePrinterData := operate .operation

def closePrinterSession (sessionId : String) (sound closes : Bool)
    (manager : PrinterSessionManager) : Except ManagerError Unit × PrinterSessionManager :=
  match manager.activeSessions.lookup sessionId with
  | none => (.error (.runtimeError ("Session " ++ sessionId ++ " not found")), manager)
  | some session =>
      (.ok (),
        ((manager.untrack sessionId).closeSession closes session).returnSession sound closes
          session)

def closeAllSessions (sound closes : Bool) (manager : PrinterSessionManager) :
    PrinterSessionManager :=
  (manager.activeSessions.map Prod.fst).foldl
    (fun manager sessionId => (manager.closePrinterSession sessionId sound closes).2) manager

end PrinterSessionManager

/-- The calls of the manager, with how the sessions fare in them. -/
inductive ManagerEvent where
  | create (host : String) (port : Int) (sessionId : Option String) (address : Nat)
      (borrowing : Borrowing)
  | sendPrintJob (sessionId : String) (succeeds sound closes : Bool)
  | sendPrinterStatus (sessionId : String) (succeeds sound closes : Bool)
  | receivePrinterData (sessionId : String) (succeeds sound closes : Bool)
  | close (sessionId : String) (sound closes : Bool)
  | closeAll (sound closes : Bool)

/-- A manager, and the session that its last call has created. -/
structure ManagedSessions where
  manager : PrinterSessionManager
  created : Option String

namespace ManagedSessions

def startNew (maxConnections maxConnectionsPerHost : Nat) : ManagedSessions :=
  { manager := .startNew maxConnections maxConnectionsPerHost, created := none }

def step : ManagerEvent → ManagedSessions → ManagedSessions
  | .create host port sessionId address borrowing, sessions =>
      let (result, manager) :=
        sessions.manager.createPrinterSession host port sessionId address borrowing
      { manager, created := result.toOption }
  | .sendPrintJob sessionId succeeds sound closes, sessions =>
      { manager := (sessions.manager.sendPrintJob sessionId succeeds sound closes).2
        created := none }
  | .sendPrinterStatus sessionId succeeds sound closes, sessions =>
      { manager := (sessions.manager.sendPrinterStatus sessionId succeeds sound closes).2
        created := none }
  | .receivePrinterData sessionId succeeds sound closes, sessions =>
      { manager := (sessions.manager.receivePrinterData sessionId succeeds sound closes).2
        created := none }
  | .close sessionId sound closes, sessions =>
      { manager := (sessions.manager.closePrinterSession sessionId sound closes).2
        created := none }
  | .closeAll sound closes, sessions =>
      { manager := sessions.manager.closeAllSessions sound closes, created := none }

def activeConnections (sessions : ManagedSessions) : List SessionRef :=
  sessions.manager.connectionPool.active.items

/-- One active connection for each session, and a session that has just been created
can be fetched. -/
structure Matched (sessions : ManagedSessions) : Prop where
  oneToOne : sessions.manager.activeSessions.length = sessions.activeConnections.length
  fetchable : ∀ sessionId, sessions.created = some sessionId →
    ∃ session, sessions.manager.getPrinterSession sessionId = .ok session

/-- A call that creates a session gets no connection. -/
def WithoutConnection (maxConnections maxConnectionsPerHost : Nat) :
    ManagerEvent → ManagedSessions → Prop
  | .create _ _ _ _ (.finishes _ connects), _ =>
      connects = false ∨ maxConnections = 0 ∨ maxConnectionsPerHost = 0
  | _, _ => True

/-- Nothing has been lent or tracked yet. -/
structure Untouched (maxConnections maxConnectionsPerHost : Nat)
    (sessions : ManagedSessions) : Prop where
  started : sessions.manager.started = true
  limit : sessions.manager.connectionPool.maxConnections = maxConnections
  hostLimit :
    sessions.manager.connectionPool.maxConnectionsPerHost = maxConnectionsPerHost
  active : sessions.manager.connectionPool.active.items = []
  idle : sessions.manager.connectionPool.idle.items = []
  untracked : sessions.manager.activeSessions = []

variable {sessions : ManagedSessions} {maxConnections maxConnectionsPerHost : Nat}

theorem Untouched.matched
    (untouched : Untouched maxConnections maxConnectionsPerHost sessions)
    (created : sessions.created = none) : Matched sessions where
  oneToOne := by
    unfold activeConnections
    rw [untouched.untracked, untouched.active]
    rfl
  fetchable sessionId fetched := by
    rw [created] at fetched
    cases fetched

theorem Untouched.totalActive
    (untouched : Untouched maxConnections maxConnectionsPerHost sessions) :
    sessions.manager.connectionPool.totalActive = 0 := by
  unfold ConnectionPool.totalActive
  rw [untouched.active]
  rfl

theorem Untouched.hostActive {hostKey : String}
    (untouched : Untouched maxConnections maxConnectionsPerHost sessions) :
    sessions.manager.connectionPool.hostActive hostKey = 0 := by
  unfold ConnectionPool.hostActive
  rw [Shelves.shelf_eq_nil untouched.active]
  rfl

/-- A connection that cannot be opened leaves nothing behind. -/
theorem Untouched.unconnected (host : String) (port : Int)
    (untouched : Untouched maxConnections maxConnectionsPerHost sessions)
    (created : Option String) :
    Untouched maxConnections maxConnectionsPerHost
      { manager :=
          { sessions.manager with
            connectionPool :=
              (sessions.manager.connectionPool.createConnection host port false).2 }
        created } := by
  have within := ConnectionPool.destroyConnection_within
    (sessions.manager.connectionPool.fresh host port)
    { sessions.manager.connectionPool with made := sessions.manager.connectionPool.made + 1 }
  refine { untouched with active := ?_, idle := ?_ }
  · exact List.eq_nil_of_subset_nil (untouched.active ▸ within.active)
  · exact List.eq_nil_of_subset_nil (untouched.idle ▸ within.idle)

theorem operate_untouched (failure : ManagerError) (sessionId : String)
    (succeeds sound closes : Bool)
    (untouched : Untouched maxConnections maxConnectionsPerHost sessions) :
    (sessions.manager.operate failure sessionId succeeds sound closes).2 =
      sessions.manager := by
  unfold PrinterSessionManager.operate PrinterSessionManager.getPrinterSession
  rw [untouched.untracked]
  rfl

/-- Without sessions there is nothing to send, to receive or to close. -/
theorem manager_step {event : ManagerEvent}
    (untouched : Untouched maxConnections maxConnectionsPerHost sessions)
    (creates : ∀ host port sessionId address borrowing,
      event ≠ .create host port sessionId address borrowing) :
    step event sessions = { manager := sessions.manager, created := none } := by
  cases event with
  | create host port sessionId address borrowing =>
      exact absurd rfl (creates host port sessionId address borrowing)
  | sendPrintJob sessionId succeeds sound closes =>
      simp only [step, PrinterSessionManager.sendPrintJob, operate_untouched _ _ _ _ _ untouched]
  | sendPrinterStatus sessionId succeeds sound closes =>
      simp only [step, PrinterSessionManager.sendPrinterStatus,
        operate_untouched _ _ _ _ _ untouched]
  | receivePrinterData sessionId succeeds sound closes =>
      simp only [step, PrinterSessionManager.receivePrinterData,
        operate_untouched _ _ _ _ _ untouched]
  | close sessionId sound closes =>
      simp only [step, PrinterSessionManager.closePrinterSession, untouched.untracked]
      rfl
  | closeAll sound closes =>
      simp only [step, PrinterSessionManager.closeAllSessions, untouched.untracked]
      rfl

theorem step_create_error (host : String) (port : Int) (sessionId : Option String)
    (address : Nat) {healthy : SessionRef → Bool} {connects : Bool} {cause : BorrowError}
    {pool : ConnectionPool} (started : sessions.manager.started = true)
    (failed : sessions.manager.connectionPool.borrowConnection host port healthy connects =
      (.error cause, pool)) :
    step (.create host port sessionId address (.finishes healthy connects)) sessions =
      { manager := { sessions.manager with connectionPool := pool }, created := none } := by
  simp only [step, PrinterSessionManager.createPrinterSession, if_pos started, failed]
  rfl

theorem step_create_ok (host : String) (port : Int) (sessionId : Option String)
    (address : Nat) {healthy : SessionRef → Bool} {connects : Bool} {session : SessionRef}
    {pool : ConnectionPool} (started : sessions.manager.started = true)
    (lent : sessions.manager.connectionPool.borrowConnection host port healthy connects =
      (.ok session, pool)) :
    let after := step (.create host port sessionId address (.finishes healthy connects))
      sessions
    ∃ identifier, after.created = some identifier ∧
      after.manager.getPrinterSession identifier =
        .error (.runtimeError ("Session " ++ identifier ++ " is not active")) := by
  simp only [step, PrinterSessionManager.createPrinterSession, if_pos started, lent]
  refine ⟨_, rfl, ?_⟩
  simp only [PrinterSessionManager.getPrinterSession, lookup_assign, if_pos,
    PrinterSessionManager.setState]
  rfl

/-- A call that creates a session finds no connection, or what it has created cannot
be fetched. -/
theorem step_create (host : String) (port : Int) (sessionId : Option String)
    (address : Nat) (borrowing : Borrowing)
    (untouched : Untouched maxConnections maxConnectionsPerHost sessions) :
    let after := step (.create host port sessionId address borrowing) sessions
    WithoutConnection maxConnections maxConnectionsPerHost
        (.create host port sessionId address borrowing) sessions ∧
        Untouched maxConnections maxConnectionsPerHost after ∧ after.created = none ∨
      ¬WithoutConnection maxConnections maxConnectionsPerHost
          (.create host port sessionId address borrowing) sessions ∧
        ∃ identifier, after.created = some identifier ∧
          after.manager.getPrinterSession identifier =
            .error (.runtimeError ("Session " ++ identifier ++ " is not active")) := by
  cases borrowing with
  | timesOut =>
      left
      simp only [step, PrinterSessionManager.createPrinterSession, if_pos untouched.started]
      exact ⟨trivial, { untouched with }, rfl⟩
  | finishes healthy connects =>
      rcases ConnectionPool.borrowConnection_of_idle_nil host port healthy connects
          untouched.idle with
        ⟨limited, error, refused⟩ | ⟨room, hostRoom, created⟩
      · left
        rw [untouched.totalActive, untouched.hostActive, untouched.limit,
          untouched.hostLimit] at limited
        rw [step_create_error host port sessionId address untouched.started refused]
        refine ⟨.inr ?_, { untouched with }, rfl⟩
        exact limited.imp Nat.le_zero.mp Nat.le_zero.mp
      · rw [untouched.totalActive, untouched.limit] at room
        rw [untouched.hostActive, untouched.hostLimit] at hostRoom
        cases connects with
        | false =>
            left
            have failed : sessions.manager.connectionPool.createConnection host port false =
                (.error .connection, _) := rfl
            rw [failed] at created
            rw [step_create_error host port sessionId address untouched.started created]
            exact ⟨.inl rfl, untouched.unconnected host port none, rfl⟩
        | true =>
            right
            have lent : sessions.manager.connectionPool.createConnection host port true =
                (.ok _, _) := rfl
            rw [lent] at created
            refine ⟨?_, step_create_ok host port sessionId address untouched.started created⟩
            rintro (unconnected | noRoom | noHostRoom)
            · cases unconnected
            · exact Nat.lt_irrefl 0 (noRoom ▸ room)
            · exact Nat.lt_irrefl 0 (noHostRoom ▸ hostRoom)

theorem step_untouched (event : ManagerEvent)
    (untouched : Untouched maxConnections maxConnectionsPerHost sessions)
    (without : WithoutConnection maxConnections maxConnectionsPerHost event sessions) :
    Untouched maxConnections maxConnectionsPerHost (step event sessions) := by
  cases event with
  | create host port sessionId address borrowing =>
      rcases step_create host port sessionId address borrowing untouched with
        ⟨_, kept, _⟩ | ⟨connected, _⟩
      · exact kept
      · exact absurd without connected
  | _ =>
      rw [manager_step untouched (by
        intro _ _ _ _ _ same
        cases same)]
      exact { untouched with }

theorem step_matched_iff (event : ManagerEvent)
    (untouched : Untouched maxConnections maxConnectionsPerHost sessions) :
    Matched (step event sessions) ↔
      WithoutConnection maxConnections maxConnectionsPerHost event sessions := by
  cases event with
  | create host port sessionId address borrowing =>
      rcases step_create host port sessionId address borrowing untouched with
        ⟨without, kept, created⟩ | ⟨connected, identifier, created, unfetched⟩
      · exact iff_of_true (kept.matched created) without
      · refine iff_of_false ?_ connected
        intro matched
        obtain ⟨session, fetched⟩ := matched.fetchable identifier created
        rw [unfetched] at fetched
        cases fetched
  | _ =>
      rw [manager_step untouched (by
        intro _ _ _ _ _ same
        cases same)]
      have kept : Untouched maxConnections maxConnectionsPerHost
          { manager := sessions.manager, created := none } := { untouched with }
      exact iff_of_true (kept.matched rfl) trivial

/-- Connections and sessions match throughout a run exactly when no session is ever
created. -/
theorem matched_throughout_iff (maxConnections maxConnectionsPerHost : Nat)
    (events : List ManagerEvent) :
    Always step Matched events (startNew maxConnections maxConnectionsPerHost) ↔
      Along step (WithoutConnection maxConnections maxConnectionsPerHost) events
        (startNew maxConnections maxConnectionsPerHost) := by
  have start : Untouched maxConnections maxConnectionsPerHost
      (startNew maxConnections maxConnectionsPerHost) :=
    ⟨rfl, rfl, rfl, rfl, rfl, rfl⟩
  exact @always_iff_along_while _ _ _ (Untouched maxConnections maxConnectionsPerHost) _ _
    (fun event _ => step_untouched event)
    (fun event _ kept _ => step_matched_iff event kept) _ _ start (start.matched rfl)

/-- One session that is created and closed. -/
theorem unmatched_after_close :
    ¬∀ events, Always step Matched events (startNew 10 2) := by
  intro always
  have last := (always
    [.create "printer" 23 (some "lp0") 0 (.finishes (fun _ => true) true),
      .close "lp0" true true]).last
  exact absurd last.oneToOne (by decide +kernel)

/-- The pool lends what it has made itself, the manager tracks what the manager has
made, and none of that is ever active. -/
structure Separate (manager : PrinterSessionManager) : Prop where
  lent : ∀ session ∈ manager.connectionPool.active.items,
    session.maker = .pool ∧ session.number < manager.connectionPool.made
  idle : manager.connectionPool.idle.items = []
  tracked : ∀ entry ∈ manager.activeSessions, entry.2.maker = .elsewhere
  inactive : ∀ session, manager.stateOf session ≠ .active

variable {manager : PrinterSessionManager}

/-- No session can be fetched, so nothing is sent or received. -/
theorem Separate.operate (separate : Separate manager) (failure : ManagerError)
    (sessionId : String) (succeeds sound closes : Bool) :
    (manager.operate failure sessionId succeeds sound closes).2 = manager := by
  unfold PrinterSessionManager.operate PrinterSessionManager.getPrinterSession
  cases manager.activeSessions.lookup sessionId with
  | none => rfl
  | some session => simp only [if_neg (separate.inactive session)]

theorem Separate.setState (separate : Separate manager) (session : SessionRef)
    {state : PrinterSessionState} (other : state ≠ .active) :
    Separate (manager.setState session state) := by
  refine { separate with inactive := ?_ }
  intro asked
  unfold PrinterSessionManager.setState
  dsimp only
  split
  · exact other
  · exact separate.inactive asked

theorem Separate.closeSession (separate : Separate manager) (closes : Bool)
    (session : SessionRef) : Separate (manager.closeSession closes session) := by
  unfold PrinterSessionManager.closeSession
  split
  · exact separate
  · exact separate
  · apply separate.setState
    cases closes <;> decide

theorem closeSession_pool (closes : Bool) (session : SessionRef) :
    (manager.closeSession closes session).connectionPool = manager.connectionPool := by
  unfold PrinterSessionManager.closeSession
  split <;> rfl

/-- What the manager returns was never lent. -/
theorem Separate.destroy_active (separate : Separate manager) {session : SessionRef}
    (own : session.maker = .elsewhere) :
    (manager.connectionPool.returnConnection session false).active.items.Perm
      manager.connectionPool.active.items := by
  have unlent : session ∉ manager.connectionPool.active.items := by
    intro lent
    cases own.symm.trans (separate.lent session lent).1
  have once := Shelves.items_erase session manager.connectionPool.active
  rw [List.erase_of_not_mem unlent] at once
  have twice := Shelves.items_erase session (manager.connectionPool.active.erase session)
  rw [List.erase_of_not_mem (mt once.mem_iff.mp unlent)] at twice
  exact twice.trans once

theorem Separate.returnSession (separate : Separate manager) (sound closes : Bool)
    {session : SessionRef} (own : session.maker = .elsewhere) :
    Separate (manager.returnSession sound closes session) ∧
      (manager.returnSession sound closes session).connectionPool.active.items.Perm
        manager.connectionPool.active.items := by
  have same := separate.destroy_active own
  unfold PrinterSessionManager.returnSession
  simp only [separate.inactive session, decide_false, Bool.false_and, Bool.false_eq_true,
    if_false]
  have returned : Separate
      { manager with
        connectionPool := manager.connectionPool.returnConnection session false } := by
    refine { separate with lent := ?_, idle := ?_ }
    · intro other member
      exact separate.lent other (same.mem_iff.mp member)
    · have within := ((ConnectionPool.destroyConnection_within session _).trans
        (ConnectionPool.eraseActive_within session manager.connectionPool)).idle
      exact List.eq_nil_of_subset_nil (separate.idle ▸ within)
  refine ⟨returned.closeSession closes session, ?_⟩
  rw [closeSession_pool]
  exact same

theorem Separate.close (separate : Separate manager) (sessionId : String)
    (sound closes : Bool) :
    Separate (manager.closePrinterSession sessionId sound closes).2 ∧
      (manager.closePrinterSession sessionId sound closes).2.connectionPool.active.items.Perm
        manager.connectionPool.active.items := by
  unfold PrinterSessionManager.closePrinterSession
  cases found : manager.activeSessions.lookup sessionId with
  | none => exact ⟨separate, List.Perm.refl _⟩
  | some session =>
      obtain ⟨before, after, listed, _⟩ := List.lookup_eq_some_iff.mp found
      have own := separate.tracked (sessionId, session)
        (listed ▸ List.mem_append_right before List.mem_cons_self)
      have untracked : Separate (manager.untrack sessionId) := by
        refine { separate with tracked := ?_ }
        intro entry member
        exact separate.tracked entry (List.mem_filter.mp member).1
      have closed := (untracked.closeSession closes session).returnSession sound closes own
      rw [closeSession_pool] at closed
      exact closed

theorem Separate.closeAll (separate : Separate manager) (sound closes : Bool) :
    Separate (manager.closeAllSessions sound closes) ∧
      (manager.closeAllSessions sound closes).connectionPool.active.items.Perm
        manager.connectionPool.active.items := by
  unfold PrinterSessionManager.closeAllSessions
  generalize manager.activeSessions.map Prod.fst = sessionIds
  induction sessionIds generalizing manager with
  | nil => exact ⟨separate, List.Perm.refl _⟩
  | cons sessionId sessionIds ih =>
      have first := separate.close sessionId sound closes
      have rest := ih first.1
      exact ⟨rest.1, rest.2.trans first.2⟩

/-- A connection that cannot be opened leaves the active ones as they were. -/
theorem Separate.createConnection_error (separate : Separate manager) {host : String}
    {port : Int} {connects : Bool} {cause : BorrowError} {pool : ConnectionPool}
    (failed : manager.connectionPool.createConnection host port connects =
      (.error cause, pool)) :
    Separate { manager with connectionPool := pool } ∧
      pool.active.items.Perm manager.connectionPool.active.items := by
  obtain ⟨made, idle, active⟩ := ConnectionPool.createConnection_error failed
  have unlent : manager.connectionPool.fresh host port ∉
      manager.connectionPool.active.items := by
    intro lent
    exact Nat.lt_irrefl _ (separate.lent _ lent).2
  rw [List.erase_of_not_mem unlent] at active
  refine ⟨{ separate with lent := ?_, idle := ?_ }, active⟩
  · intro other member
    have lent := separate.lent other (active.mem_iff.mp member)
    exact ⟨lent.1, made ▸ Nat.lt_succ_of_lt lent.2⟩
  · exact List.eq_nil_of_subset_nil (separate.idle ▸ idle)

/-- One that is opened becomes active. -/
theorem Separate.createConnection_ok (separate : Separate manager) {host : String}
    {port : Int} {connects : Bool} {session : SessionRef} {pool : ConnectionPool}
    (lent : manager.connectionPool.createConnection host port connects =
      (.ok session, pool)) :
    Separate { manager with connectionPool := pool } ∧
      pool.active.items.Perm (session :: manager.connectionPool.active.items) := by
  obtain ⟨new, made, idle, active⟩ := ConnectionPool.createConnection_active_perm lent
  refine ⟨{ separate with lent := ?_, idle := ?_ }, active⟩
  · intro other member
    rcases List.mem_cons.mp (active.mem_iff.mp member) with here | there
    · rw [here, new]
      exact ⟨rfl, made ▸ Nat.lt_succ_self _⟩
    · have lent := separate.lent other there
      exact ⟨lent.1, made ▸ Nat.lt_succ_of_lt lent.2⟩
  · exact (congrArg Shelves.items idle).trans separate.idle

/-- A call that creates a session leaves one more connection active. -/
theorem Separate.create (separate : Separate sessions.manager) (host : String)
    (port : Int) (sessionId : Option String) (address : Nat) (borrowing : Borrowing) :
    let after := step (.create host port sessionId address borrowing) sessions
    Separate after.manager ∧
      after.activeConnections.length =
        sessions.activeConnections.length + after.created.isSome.toNat := by
  unfold activeConnections
  simp only [step, PrinterSessionManager.createPrinterSession]
  by_cases started : sessions.manager.started = true
  · rw [if_pos started]
    cases borrowing with
    | timesOut =>
        refine ⟨{ separate with lent := ?_ }, rfl⟩
        intro session member
        have lent := separate.lent session member
        exact ⟨lent.1, Nat.lt_succ_of_lt lent.2⟩
    | finishes healthy connects =>
        dsimp only
        rcases ConnectionPool.borrowConnection_of_idle_nil host port healthy connects
            separate.idle with
          ⟨_, error, refused⟩ | ⟨_, _, created⟩
        · rw [refused]
          exact ⟨{ separate with }, rfl⟩
        · rw [created]
          cases outcome : sessions.manager.connectionPool.createConnection host port
              connects with
          | mk result pool =>
              cases result with
              | error cause =>
                  have failed := separate.createConnection_error outcome
                  exact ⟨failed.1, failed.2.length_eq⟩
              | ok session =>
                  have lent := separate.createConnection_ok outcome
                  dsimp only
                  refine ⟨{ (lent.1.setState _ PrinterSessionState.noConfusion) with
                    tracked := ?_ }, lent.2.length_eq⟩
                  intro entry member
                  rcases mem_assign member with here | there
                  · exact here ▸ rfl
                  · exact separate.tracked entry there
  · rw [if_neg started]
    exact ⟨separate, rfl⟩

/-- Whether a call creates a session. -/
def creates (event : ManagerEvent) (sessions : ManagedSessions) : Bool :=
  (step event sessions).created.isSome

theorem Separate.step (separate : Separate sessions.manager) (event : ManagerEvent) :
    Separate (ManagedSessions.step event sessions).manager ∧
      (ManagedSessions.step event sessions).activeConnections.length =
        sessions.activeConnections.length + (creates event sessions).toNat := by
  have kept : ∀ {manager : PrinterSessionManager}, manager = sessions.manager →
      Separate manager ∧ manager.connectionPool.active.items.length =
        sessions.activeConnections.length + 0 := by
    intro manager same
    rw [same]
    exact ⟨separate, rfl⟩
  cases event with
  | create host port sessionId address borrowing =>
      exact separate.create host port sessionId address borrowing
  | close sessionId sound closes =>
      have closed := separate.close sessionId sound closes
      exact ⟨closed.1, closed.2.length_eq⟩
  | closeAll sound closes =>
      have closed := separate.closeAll sound closes
      exact ⟨closed.1, closed.2.length_eq⟩
  | sendPrintJob sessionId succeeds sound closes =>
      have same := separate.operate (.runtimeError "Failed to send print job") sessionId
        succeeds sound closes
      exact kept same
  | sendPrinterStatus sessionId succeeds sound closes =>
      have same := separate.operate .operation sessionId succeeds sound closes
      exact kept same
  | receivePrinterData sessionId succeeds sound closes =>
      have same := separate.operate .operation sessionId succeeds sound closes
      exact kept same

/-- Every session that was ever created keeps a connection active, closed or not. -/
theorem activeConnections_run (maxConnections maxConnectionsPerHost : Nat)
    (events : List ManagerEvent) :
    (run step events (startNew maxConnections maxConnectionsPerHost)).activeConnections.length =
      tally step creates events (startNew maxConnections maxConnectionsPerHost) := by
  have start : Separate (startNew maxConnections maxConnectionsPerHost).manager := by
    constructor
    · intro session member
      cases member
    · rfl
    · intro entry member
      cases member
    · intro session active
      cases active
  have always := @always_of_invariant _ _ step (fun sessions => Separate sessions.manager)
    (fun event _ separate => (separate.step event).1) events _ start
  have counted := @measure_run _ _ step (fun sessions => Separate sessions.manager)
    (fun sessions => sessions.activeConnections.length) creates
    (fun separate _ => (separate.step _).2) events _ always
  rw [counted]
  exact Nat.zero_add _

end ManagedSessions

end Pure3270
