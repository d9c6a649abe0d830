import Mathlib.Data.Finset.Erase
import Mathlib.Data.Finset.Insert
import Pure3270.Foundations.Shelves

/-!
# The connection pool of the printer sessions

Sessions are references: two of them are the same exactly when they are one object.
The lists of active and idle connections are filed under `host:port`, and each
operation of the pool holds its lock from beginning to end.
-/

namespace Pure3270

open Foundations

/-- The key of a host in the pool. -/
def hostKeyOf (host : String) (port : Int) : String := host ++ ":" ++ toString port

/-- Who called the constructor of a session. -/
inductive SessionMaker where
  | pool
  | elsewhere
  deriving DecidableEq

/-- A reference to a `TCPIPPrinterSession`. -/
structure SessionRef where
  maker : SessionMaker
  number : Nat
  host : String
  port : Int
  deriving DecidableEq

def SessionRef.hostKey (session : SessionRef) : String :=
  hostKeyOf session.host session.port

structure ConnectionPool where
  maxConnections : Nat
  maxConnectionsPerHost : Nat
  active : Shelves SessionRef.hostKey
  idle : Shelves SessionRef.hostKey
  all : Finset SessionRef
  /-- How many sessions the pool has constructed. -/
  made : Nat
  totalCreated : Nat
  totalDestroyed : Nat
  totalBorrowed : Nat
  totalReturned : Nat
  running : Bool

/-- Why nothing is lent. -/
inductive BorrowError where
  | limit (message : String)
  | connection

namespace ConnectionPool

def new (maxConnections maxConnectionsPerHost : Nat) : ConnectionPool :=
  { maxConnections, maxConnectionsPerHost
    active := .empty
    idle := .empty
    all := ∅
    made := 0
    totalCreated := 0
    totalDestroyed := 0
    totalBorrowed := 0
    totalReturned := 0
    running := false }

def start (pool : ConnectionPool) : ConnectionPool := { pool with running := true }

/-- `stop` closes the sessions and forgets them, if the pool is running. -/
def stop (pool : ConnectionPool) : ConnectionPool :=
  if pool.running then
    { pool with running := false, active := .empty, idle := .empty, all := ∅ }
  else pool

/-- `_destroy_connection`. -/
def destroyConnection (session : SessionRef) (pool : ConnectionPool) : ConnectionPool :=
  { pool with
    active := pool.active.erase session
    idle := pool.idle.erase session
    all := pool.all.erase session
    totalDestroyed := pool.totalDestroyed + 1 }

def totalActive (pool : ConnectionPool) : Nat := pool.active.items.length

def hostActive (key : String) (pool : ConnectionPool) : Nat :=
  (pool.active.shelf key).length

/-- The session that the pool constructs next. -/
def fresh (host : String) (port : Int) (pool : ConnectionPool) : SessionRef :=
  { maker := .pool, number := pool.made, host, port }

/-- The end of `borrow_connection`: a new session is connected and activated. -/
def createConnection (host : String) (port : Int) (connects : Bool)
    (pool : ConnectionPool) : Except BorrowError SessionRef × ConnectionPool :=
  let session := pool.fresh host port
  let constructed := { pool with made := pool.made + 1 }
  if connects then
    (.ok session,
      { constructed with
        active := constructed.active.push session
        all := insert session constructed.all
        totalCreated := constructed.totalCreated + 1
        totalBorrowed := constructed.totalBorrowed + 1 })
  else (.error .connection, constructed.destroyConnection session)

/-- `borrow_connection`, where `healthy` answers `_is_connection_healthy` and
`connects` says whether a new session can be connected and activated. -/
def borrowConnection (host : String) (port : Int) (healthy : SessionRef → Bool)
    (connects : Bool) (pool : ConnectionPool) :
    Except BorrowError SessionRef × ConnectionPool :=
  let key := hostKeyOf host port
  if pool.maxConnections ≤ pool.totalActive then
    (.error (.limit ("Pool limit exceeded: " ++ toString pool.totalActive ++ "/" ++
      toString pool.maxConnections)), pool)
  else if pool.maxConnectionsPerHost ≤ pool.hostActive key then
    (.error (.limit ("Host limit exceeded: " ++ toString (pool.hostActive key) ++ "/" ++
      toString pool.maxConnectionsPerHost)), pool)
  else
    match (pool.idle.shelf key).getLast? with
    | none => pool.createConnection host port connects
    | some session =>
        let taken := { pool with idle := pool.idle.dropLast key }
        if healthy session then
          (.ok session,
            { taken with
              active := taken.active.push session
              totalBorrowed := taken.totalBorrowed + 1 })
        else (taken.destroyConnection session).createConnection host port connects

def returnConnection (session : SessionRef) (healthy : Bool) (pool : ConnectionPool) :
    ConnectionPool :=
  let taken := { pool with active := pool.active.erase session }
  if healthy then
    { taken with
      idle := taken.idle.push session
      totalReturned := taken.totalReturned + 1 }
  else taken.destroyConnection session

/-- What `_perform_health_checks` and `_perform_cleanup` share: the idle lists keep
some sessions, and the others are destroyed. -/
def keepIdle (kept : SessionRef → Bool) (pool : ConnectionPool) : ConnectionPool :=
  (pool.idle.items.filter fun session => !kept session).foldl
    (fun pool session => pool.destroyConnection session)
    { pool with idle := pool.idle.keep kept }

def performHealthChecks (healthy : SessionRef → Bool) (pool : ConnectionPool) :
    ConnectionPool :=
  pool.keepIdle healthy

/-- `_perform_cleanup`, where `expired` says which idle times have run out. -/
def performCleanup (expired : SessionRef → Bool) (pool : ConnectionPool) :
    ConnectionPool :=
  pool.keepIdle fun session => !expired session

/-- A session can be named once it has been constructed. -/
def constructed (session : SessionRef) (pool : ConnectionPool) : Bool :=
  match session.maker with
  | .pool => decide (session.number < pool.made)
  | .elsewhere => true

/-- The idle session that a borrower gets, if it gets one. -/
def idleServed (host : String) (port : Int) (healthy : SessionRef → Bool)
    (pool : ConnectionPool) : Option SessionRef :=
  if pool.maxConnections ≤ pool.totalActive ∨
      pool.maxConnectionsPerHost ≤ pool.hostActive (hostKeyOf host port) then none
  else (pool.idle.shelf (hostKeyOf host port)).getLast?.filter healthy

/-- The sessions on the lists of the pool, and those it is about to destroy. -/
def listed (pending : List SessionRef) (pool : ConnectionPool) : List SessionRef :=
  pool.active.items ++ (pool.idle.items ++ pending)

/-- Nothing is listed twice, and the listed sessions are those the pool knows. -/
structure Balanced (pending : List SessionRef) (pool : ConnectionPool) : Prop where
  once : (pool.listed pending).Nodup
  known : ∀ session, session ∈ pool.all ↔ session ∈ pool.listed pending

/-- The limits of the configuration. -/
structure WithinLimits (pool : ConnectionPool) : Prop where
  total : pool.totalActive ≤ pool.maxConnections
  perHost : ∀ key, pool.hostActive key ≤ pool.maxConnectionsPerHost

variable {pool : ConnectionPool} {pending : List SessionRef} {session : SessionRef}

/-- Balance depends on what is listed only. -/
theorem Balanced.of_perm {after : ConnectionPool} {later : List SessionRef}
    (balanced : pool.Balanced pending) (all : after.all = pool.all)
    (perm : (after.listed later).Perm (pool.listed pending)) : after.Balanced later where
  once := perm.nodup_iff.mpr balanced.once
  known session := by
    rw [all, balanced.known, perm.mem_iff]

theorem balanced_iff :
    pool.Balanced [] ↔
      pool.active.items.Nodup ∧ pool.idle.items.Nodup ∧
        (∀ session ∈ pool.active.items, session ∉ pool.idle.items) ∧
        ∀ session, session ∈ pool.all ↔
          session ∈ pool.active.items ∨ session ∈ pool.idle.items := by
  have listed : pool.listed [] = pool.active.items ++ pool.idle.items := by
    unfold ConnectionPool.listed
    rw [List.append_nil]
  constructor
  · intro balanced
    have once := balanced.once
    rw [listed, List.nodup_append] at once
    refine ⟨once.1, once.2.1, ?_, ?_⟩
    · intro session active idle
      exact once.2.2 session active session idle rfl
    · intro session
      rw [balanced.known, listed, List.mem_append]
  · rintro ⟨activeOnce, idleOnce, apart, known⟩
    constructor
    · rw [listed, List.nodup_append]
      refine ⟨activeOnce, idleOnce, ?_⟩
      intro session active other idle same
      exact apart session active (same ▸ idle)
    · intro session
      rw [known, listed, List.mem_append]

theorem listed_cons (session : SessionRef) (pending : List SessionRef)
    (pool : ConnectionPool) :
    (pool.listed (session :: pending)).Perm (session :: pool.listed pending) := by
  have middle : (pool.idle.items ++ session :: pending).Perm
      (session :: (pool.idle.items ++ pending)) := List.perm_middle
  exact (middle.append_left _).trans List.perm_middle

/-- A session that is destroyed is listed nowhere any more. -/
theorem Balanced.destroy (balanced : pool.Balanced pending) (session : SessionRef) :
    (pool.destroyConnection session).Balanced (pending.erase session) := by
  have active := Shelves.items_erase session pool.active
  have idle := Shelves.items_erase session pool.idle
  have perm : ((pool.destroyConnection session).listed (pending.erase session)).Perm
      (pool.active.items.erase session ++
        (pool.idle.items.erase session ++ pending.erase session)) :=
    active.append (idle.append_right _)
  obtain ⟨activeOnce, restOnce, _⟩ := List.nodup_append.mp balanced.once
  obtain ⟨idleOnce, pendingOnce, _⟩ := List.nodup_append.mp restOnce
  constructor
  · refine perm.nodup_iff.mpr (balanced.once.sublist ?_)
    exact List.erase_sublist.append (List.erase_sublist.append List.erase_sublist)
  · intro other
    change other ∈ pool.all.erase session ↔ _
    rw [perm.mem_iff, Finset.mem_erase, balanced.known]
    simp only [listed, List.mem_append, activeOnce.mem_erase_iff, idleOnce.mem_erase_iff,
      pendingOnce.mem_erase_iff, and_or_left]

theorem Balanced.destroyAll {sessions : List SessionRef}
    (balanced : pool.Balanced sessions) :
    (sessions.foldl (fun pool session => pool.destroyConnection session) pool).Balanced
      [] := by
  induction sessions generalizing pool with
  | nil => exact balanced
  | cons session sessions ih =>
      have destroyed := balanced.destroy session
      rw [List.erase_cons_head] at destroyed
      exact ih destroyed

/-- A session taken off its idle list is pending. -/
theorem Balanced.popIdle {key : String} (balanced : pool.Balanced [])
    (last : (pool.idle.shelf key).getLast? = some session) :
    { pool with idle := pool.idle.dropLast key }.Balanced [session] := by
  obtain ⟨rest, shelf⟩ := List.getLast?_eq_some_iff.mp last
  have popped := Shelves.items_dropLast shelf
  refine balanced.of_perm rfl ?_
  refine List.Perm.append_left _ ?_
  rw [List.append_nil]
  exact (List.perm_append_singleton session _).trans popped.symm

theorem Balanced.eraseActive (balanced : pool.Balanced [])
    (active : session ∈ pool.active.items) :
    { pool with active := pool.active.erase session }.Balanced [session] := by
  have erased := Shelves.items_erase session pool.active
  have whole := List.perm_cons_erase active
  refine balanced.of_perm rfl ((listed_cons session [] _).trans ?_)
  exact ((erased.append_right _).cons session).trans (whole.symm.append_right _)

theorem listed_eraseActive (inactive : session ∉ pool.active.items) :
    ({ pool with active := pool.active.erase session }.listed pending).Perm
      (pool.listed pending) := by
  have erased := Shelves.items_erase session pool.active
  rw [List.erase_of_not_mem inactive] at erased
  exact erased.append_right _

theorem Balanced.pushActive {after : ConnectionPool}
    (balanced : pool.Balanced (session :: pending)) (all : after.all = pool.all)
    (active : after.active = pool.active.push session) (idle : after.idle = pool.idle) :
    after.Balanced pending := by
  refine balanced.of_perm all (List.Perm.trans ?_ (listed_cons session pending pool).symm)
  unfold listed
  rw [active, idle]
  exact (Shelves.items_push session pool.active).append_right _

theorem Balanced.pushIdle {after : ConnectionPool}
    (balanced : pool.Balanced (session :: pending)) (all : after.all = pool.all)
    (active : after.active = pool.active) (idle : after.idle = pool.idle.push session) :
    after.Balanced pending := by
  refine balanced.of_perm all ?_
  unfold listed
  rw [active, idle]
  have pushed := (Shelves.items_push session pool.idle).append_right pending
  exact (pushed.trans List.perm_middle.symm).append_left _

theorem Balanced.enter {after : ConnectionPool} (balanced : pool.Balanced [])
    (unlisted : session ∉ pool.listed []) (all : after.all = insert session pool.all)
    (active : after.active = pool.active) (idle : after.idle = pool.idle) :
    after.Balanced [session] := by
  have same : after.listed [session] = pool.listed [session] := by
    unfold listed
    rw [active, idle]
  have cons := listed_cons session [] pool
  constructor
  · rw [same]
    exact cons.nodup_iff.mpr (List.nodup_cons.mpr ⟨unlisted, balanced.once⟩)
  · intro other
    rw [same, all, Finset.mem_insert, balanced.known, cons.mem_iff, List.mem_cons]

theorem Balanced.create (host : String) (port : Int) (connects : Bool)
    (balanced : pool.Balanced []) (unlisted : pool.fresh host port ∉ pool.listed []) :
    (pool.createConnection host port connects).2.Balanced [] := by
  unfold createConnection
  dsimp only
  split
  · have entered : { pool with
        made := pool.made + 1
        all := insert (pool.fresh host port) pool.all }.Balanced [pool.fresh host port] :=
      balanced.enter unlisted rfl rfl rfl
    exact entered.pushActive rfl rfl rfl
  · have constructed : { pool with made := pool.made + 1 }.Balanced [] :=
      balanced.of_perm rfl (List.Perm.refl _)
    exact constructed.destroy _

theorem Balanced.not_filed {after : ConnectionPool} (balanced : pool.Balanced [])
    (session : SessionRef) (all : after.all = pool.all)
    (perm : (after.listed []).Perm (session :: pool.listed [])) : ¬after.Balanced [] := by
  intro filed
  have once := List.nodup_cons.mp (perm.nodup_iff.mp filed.once)
  have known := (filed.known session).mpr (perm.mem_iff.mpr List.mem_cons_self)
  rw [all] at known
  exact once.1 ((balanced.known session).mp known)

/-- Nothing is listed that was not listed before. -/
structure Within (after before : ConnectionPool) : Prop where
  limit : after.maxConnections = before.maxConnections
  hostLimit : after.maxConnectionsPerHost = before.maxConnectionsPerHost
  made : before.made ≤ after.made
  total : after.totalActive ≤ before.totalActive
  host : ∀ key, after.hostActive key ≤ before.hostActive key
  active : after.active.items ⊆ before.active.items
  idle : after.idle.items ⊆ before.idle.items

theorem Within.refl (pool : ConnectionPool) : pool.Within pool where
  limit := rfl
  hostLimit := rfl
  made := Nat.le_refl _
  total := Nat.le_refl _
  host _ := Nat.le_refl _
  active := List.Subset.refl _
  idle := List.Subset.refl _

theorem Within.trans {first second third : ConnectionPool} (left : first.Within second)
    (right : second.Within third) : first.Within third where
  limit := left.limit.trans right.limit
  hostLimit := left.hostLimit.trans right.hostLimit
  made := Nat.le_trans right.made left.made
  total := Nat.le_trans left.total right.total
  host key := Nat.le_trans (left.host key) (right.host key)
  active := List.Subset.trans left.active right.active
  idle := List.Subset.trans left.idle right.idle

theorem erase_subset (session : SessionRef) (shelves : Shelves SessionRef.hostKey) :
    (shelves.erase session).items ⊆ shelves.items := by
  intro other member
  exact List.mem_of_mem_erase ((Shelves.items_erase session shelves).mem_iff.mp member)

theorem destroyConnection_within (session : SessionRef) (pool : ConnectionPool) :
    (pool.destroyConnection session).Within pool where
  limit := rfl
  hostLimit := rfl
  made := Nat.le_refl _
  total := by
    change (pool.active.erase session).items.length ≤ pool.active.items.length
    rw [(Shelves.items_erase session pool.active).length_eq]
    exact List.length_erase_le
  host key := by
    unfold hostActive
    change ((pool.active.erase session).shelf key).length ≤ _
    rw [Shelves.shelf_erase]
    exact List.length_erase_le
  active := erase_subset session pool.active
  idle := erase_subset session pool.idle

theorem eraseActive_within (session : SessionRef) (pool : ConnectionPool) :
    { pool with active := pool.active.erase session }.Within pool :=
  { destroyConnection_within session pool with idle := List.Subset.refl _ }

theorem keepIdle_within (kept : SessionRef → Bool) (pool : ConnectionPool) :
    (pool.keepIdle kept).Within pool := by
  have destroyed : ∀ (sessions : List SessionRef) (pool : ConnectionPool),
      (sessions.foldl (fun pool session => pool.destroyConnection session) pool).Within
        pool := by
    intro sessions
    induction sessions with
    | nil => exact Within.refl
    | cons session sessions ih =>
        intro pool
        exact (ih _).trans (destroyConnection_within session pool)
  refine (destroyed _ _).trans ?_
  refine { Within.refl pool with idle := ?_ }
  rw [Shelves.items_keep]
  exact List.filter_subset_self _

theorem stop_within (pool : ConnectionPool) : pool.stop.Within pool := by
  unfold stop
  split
  · refine { Within.refl pool with total := ?_, host := ?_, active := ?_, idle := ?_ }
    · exact Nat.zero_le _
    · intro key
      exact Nat.zero_le _
    · exact List.nil_subset _
    · exact List.nil_subset _
  · exact Within.refl pool

theorem popIdle_within {key : String}
    (last : (pool.idle.shelf key).getLast? = some session) :
    { pool with idle := pool.idle.dropLast key }.Within pool := by
  obtain ⟨rest, shelf⟩ := List.getLast?_eq_some_iff.mp last
  refine { Within.refl pool with idle := ?_ }
  intro other member
  exact (Shelves.items_dropLast shelf).mem_iff.mpr (List.mem_cons_of_mem session member)

theorem WithinLimits.of_within {after : ConnectionPool} (limits : pool.WithinLimits)
    (within : after.Within pool) : after.WithinLimits where
  total := by
    rw [within.limit]
    exact Nat.le_trans within.total limits.total
  perHost key := by
    rw [within.hostLimit]
    exact Nat.le_trans (within.host key) (limits.perHost key)

theorem WithinLimits.push {after : ConnectionPool} (limits : pool.WithinLimits)
    (room : pool.totalActive < pool.maxConnections)
    (hostRoom : pool.hostActive session.hostKey < pool.maxConnectionsPerHost)
    (active : after.active = pool.active.push session)
    (limit : after.maxConnections = pool.maxConnections)
    (hostLimit : after.maxConnectionsPerHost = pool.maxConnectionsPerHost) :
    after.WithinLimits where
  total := by
    unfold totalActive
    rw [active, limit, (Shelves.items_push session pool.active).length_eq]
    exact room
  perHost key := by
    unfold hostActive
    rw [active, hostLimit, Shelves.shelf_push]
    split
    · rw [List.length_append, List.length_singleton]
      exact hostRoom
    · exact limits.perHost key

theorem borrowConnection_cases (host : String) (port : Int)
    (healthy : SessionRef → Bool) (connects : Bool) (pool : ConnectionPool) :
    (∃ error, pool.borrowConnection host port healthy connects = (.error error, pool)) ∧
        pool.idleServed host port healthy = none ∨
      pool.totalActive < pool.maxConnections ∧
        pool.hostActive (hostKeyOf host port) < pool.maxConnectionsPerHost ∧
        ((∃ session, (pool.idle.shelf (hostKeyOf host port)).getLast? = some session ∧
            pool.idleServed host port healthy = some session ∧
            pool.borrowConnection host port healthy connects =
              (.ok session,
                { pool with
                  idle := pool.idle.dropLast (hostKeyOf host port)
                  active := pool.active.push session
                  totalBorrowed := pool.totalBorrowed + 1 })) ∨
          pool.idleServed host port healthy = none ∧
            ∃ cleared : ConnectionPool, cleared.Within pool ∧
              cleared.made = pool.made ∧
              (pool.Balanced [] → cleared.Balanced []) ∧
              pool.borrowConnection host port healthy connects =
                cleared.createConnection host port connects) := by
  unfold borrowConnection idleServed
  dsimp only
  by_cases full : pool.maxConnections ≤ pool.totalActive
  · left
    rw [if_pos full, if_pos (.inl full)]
    exact ⟨⟨_, rfl⟩, rfl⟩
  · rw [if_neg full]
    by_cases hostFull : pool.maxConnectionsPerHost ≤ pool.hostActive (hostKeyOf host port)
    · left
      rw [if_pos hostFull, if_pos (.inr hostFull)]
      exact ⟨⟨_, rfl⟩, rfl⟩
    · right
      rw [if_neg hostFull, if_neg (not_or.mpr ⟨full, hostFull⟩)]
      refine ⟨Nat.lt_of_not_le full, Nat.lt_of_not_le hostFull, ?_⟩
      cases last : (pool.idle.shelf (hostKeyOf host port)).getLast? with
      | none => exact .inr ⟨rfl, pool, Within.refl pool, rfl, id, rfl⟩
      | some session =>
          by_cases well : healthy session = true
          · left
            refine ⟨session, rfl, ?_, ?_⟩
            · rw [Option.filter_some, if_pos well]
            · dsimp only
              rw [if_pos well]
          · right
            refine ⟨?_, { pool with
              idle := pool.idle.dropLast (hostKeyOf host port) }.destroyConnection session,
              ?_, rfl, ?_, ?_⟩
            · rw [Option.filter_some, if_neg well]
            · exact (destroyConnection_within session _).trans (popIdle_within last)
            · intro balanced
              have destroyed := (balanced.popIdle last).destroy session
              rw [List.erase_cons_head] at destroyed
              exact destroyed
            · dsimp only
              rw [if_neg well]

theorem createConnection_idle (host : String) (port : Int) (connects : Bool)
    (pool : ConnectionPool) :
    (pool.createConnection host port connects).2.idle.items ⊆ pool.idle.items := by
  unfold createConnection
  dsimp only
  split
  · exact List.Subset.refl _
  · exact (destroyConnection_within _ _).idle

theorem createConnection_active {host : String} {port : Int} {connects : Bool}
    (lent : (pool.createConnection host port connects).1 = .ok session) :
    session ∈ (pool.createConnection host port connects).2.active.items := by
  unfold createConnection at lent ⊢
  dsimp only at lent ⊢
  split at lent
  · next connected =>
      cases lent
      rw [if_pos connected]
      exact (Shelves.items_push _ _).mem_iff.mpr List.mem_cons_self
  · cases lent

theorem borrowConnection_idle (host : String) (port : Int) (healthy : SessionRef → Bool)
    (connects : Bool) (pool : ConnectionPool) :
    (pool.borrowConnection host port healthy connects).2.idle.items ⊆
      pool.idle.items := by
  rcases borrowConnection_cases host port healthy connects pool with
    ⟨⟨error, refused⟩, _⟩ | ⟨_, _, ⟨session, last, _, served⟩ |
      ⟨_, cleared, within, _, _, created⟩⟩
  · rw [refused]
    exact List.Subset.refl _
  · rw [served]
    exact (popIdle_within last).idle
  · rw [created]
    exact List.Subset.trans (createConnection_idle host port connects cleared) within.idle

theorem borrowConnection_active {host : String} {port : Int}
    {healthy : SessionRef → Bool} {connects : Bool}
    (lent : (pool.borrowConnection host port healthy connects).1 = .ok session) :
    session ∈ (pool.borrowConnection host port healthy connects).2.active.items := by
  rcases borrowConnection_cases host port healthy connects pool with
    ⟨⟨error, refused⟩, _⟩ | ⟨_, _, ⟨other, _, _, served⟩ | ⟨_, cleared, _, _, _, created⟩⟩
  · rw [refused] at lent
    cases lent
  · rw [served] at lent ⊢
    cases lent
    exact (Shelves.items_push _ _).mem_iff.mpr List.mem_cons_self
  · rw [created] at lent ⊢
    exact createConnection_active lent

theorem borrowConnection_of_idle_nil (host : String) (port : Int)
    (healthy : SessionRef → Bool) (connects : Bool) (idle : pool.idle.items = []) :
    (pool.maxConnections ≤ pool.totalActive ∨
        pool.maxConnectionsPerHost ≤ pool.hostActive (hostKeyOf host port)) ∧
        (∃ error,
          pool.borrowConnection host port healthy connects = (.error error, pool)) ∨
      pool.totalActive < pool.maxConnections ∧
        pool.hostActive (hostKeyOf host port) < pool.maxConnectionsPerHost ∧
        pool.borrowConnection host port healthy connects =
          pool.createConnection host port connects := by
  unfold borrowConnection
  dsimp only
  rw [Shelves.shelf_eq_nil idle]
  by_cases full : pool.maxConnections ≤ pool.totalActive
  · rw [if_pos full]
    exact .inl ⟨.inl full, _, rfl⟩
  · rw [if_neg full]
    by_cases hostFull : pool.maxConnectionsPerHost ≤ pool.hostActive (hostKeyOf host port)
    · rw [if_pos hostFull]
      exact .inl ⟨.inr hostFull, _, rfl⟩
    · rw [if_neg hostFull]
      exact .inr ⟨Nat.lt_of_not_le full, Nat.lt_of_not_le hostFull, rfl⟩

theorem createConnection_active_perm {host : String} {port : Int} {connects : Bool}
    {after : ConnectionPool}
    (lent : pool.createConnection host port connects = (.ok session, after)) :
    session = pool.fresh host port ∧ after.made = pool.made + 1 ∧
      after.idle = pool.idle ∧
      after.active.items.Perm (session :: pool.active.items) := by
  unfold createConnection at lent
  dsimp only at lent
  split at lent
  · cases lent
    exact ⟨rfl, rfl, rfl, Shelves.items_push _ _⟩
  · cases lent

theorem createConnection_error {host : String} {port : Int} {connects : Bool}
    {cause : BorrowError} {after : ConnectionPool}
    (failed : pool.createConnection host port connects = (.error cause, after)) :
    after.made = pool.made + 1 ∧ after.idle.items ⊆ pool.idle.items ∧
      after.active.items.Perm (pool.active.items.erase (pool.fresh host port)) := by
  unfold createConnection at failed
  dsimp only at failed
  split at failed
  · cases failed
  · cases failed
    exact ⟨rfl, erase_subset _ _, Shelves.items_erase _ _⟩

end ConnectionPool

end Pure3270
