import Pure3270.Foundations.Runs
import Pure3270.Printing.ConnectionPool

/-!
# Lending the sessions of a pool

`return_connection` takes any session, from anyone, and files it as idle when it is
healthy.  What a borrower still has is not in the pool's own records, so the loans
are followed beside it.
-/

namespace Pure3270

open Foundations ConnectionPool

/-- A pool, and who has borrowed which session and not given it back. -/
structure Lending where
  pool : ConnectionPool
  loans : List (Nat × SessionRef)

/-- The calls of the pool.  Health is looked up in each call. -/
inductive PoolEvent where
  | start
  | stop
  | borrow (borrower : Nat) (host : String) (port : Int) (healthy : SessionRef → Bool)
      (connects : Bool)
  | giveBack (borrower : Nat) (session : SessionRef) (healthy : Bool)
  | healthChecks (healthy : SessionRef → Bool)
  | cleanup (expired : SessionRef → Bool)

namespace Lending

def new (maxConnections maxConnectionsPerHost : Nat) : Lending :=
  { pool := .new maxConnections maxConnectionsPerHost, loans := [] }

def lentSessions (lending : Lending) : List SessionRef := lending.loans.map Prod.snd

/-- What comes of a call of `borrow_connection`. -/
def lend (borrower : Nat) (lending : Lending) :
    Except BorrowError SessionRef × ConnectionPool → Lending
  | (.ok session, after) => { pool := after, loans := lending.loans ++ [(borrower, session)] }
  | (.error _, after) => { lending with pool := after }

def step : PoolEvent → Lending → Lending
  | .start, lending => { lending with pool := lending.pool.start }
  | .stop, lending => { lending with pool := lending.pool.stop }
  | .borrow borrower host port healthy connects, lending =>
      lending.lend borrower (lending.pool.borrowConnection host port healthy connects)
  | .giveBack borrower session healthy, lending =>
      if lending.pool.constructed session then
        { pool := lending.pool.returnConnection session healthy
          loans := lending.loans.erase (borrower, session) }
      else lending
  | .healthChecks healthy, lending =>
      { lending with pool := lending.pool.performHealthChecks healthy }
  | .cleanup expired, lending =>
      { lending with pool := lending.pool.performCleanup expired }

/-- What the pool is for: no session has two borrowers, the lists are what the pool
knows, and its limits are kept. -/
structure Exclusive (lending : Lending) : Prop where
  lentOnce : lending.lentSessions.Nodup
  activeOnce : lending.pool.active.items.Nodup
  idleOnce : lending.pool.idle.items.Nodup
  apart : ∀ session ∈ lending.pool.active.items, session ∉ lending.pool.idle.items
  known : ∀ session, session ∈ lending.pool.all ↔
    session ∈ lending.pool.active.items ∨ session ∈ lending.pool.idle.items
  limits : lending.pool.WithinLimits

/-- The condition of each call: a healthy session is returned only while it is active,
and an idle session is served only if nobody has it. -/
def Orderly : PoolEvent → Lending → Prop
  | .borrow _ host port healthy _, lending =>
      ∀ session, lending.pool.idleServed host port healthy = some session →
        session ∉ lending.lentSessions
  | .giveBack _ session healthy, lending =>
      lending.pool.constructed session = true → healthy = true →
        session ∈ lending.pool.active.items
  | _, _ => True

/-- What every call keeps, whoever makes it. -/
structure Accounted (lending : Lending) : Prop where
  limits : lending.pool.WithinLimits
  active : ∀ session ∈ lending.pool.active.items, lending.pool.constructed session = true
  idle : ∀ session ∈ lending.pool.idle.items, lending.pool.constructed session = true
  lent : ∀ session ∈ lending.lentSessions, lending.pool.constructed session = true

variable {lending : Lending}

theorem exclusive_iff :
    Exclusive lending ↔ lending.lentSessions.Nodup ∧ lending.pool.Balanced [] ∧
      lending.pool.WithinLimits := by
  rw [balanced_iff]
  constructor
  · intro exclusive
    exact ⟨exclusive.lentOnce, ⟨exclusive.activeOnce, exclusive.idleOnce, exclusive.apart,
      exclusive.known⟩, exclusive.limits⟩
  · rintro ⟨lentOnce, ⟨activeOnce, idleOnce, apart, known⟩, limits⟩
    exact ⟨lentOnce, activeOnce, idleOnce, apart, known, limits⟩

theorem new_accounted (maxConnections maxConnectionsPerHost : Nat) :
    Accounted (new maxConnections maxConnectionsPerHost) where
  limits := ⟨Nat.zero_le _, fun _ => Nat.zero_le _⟩
  active _ member := absurd member List.not_mem_nil
  idle _ member := absurd member List.not_mem_nil
  lent _ member := absurd member List.not_mem_nil

theorem constructed_mono {before after : ConnectionPool} {session : SessionRef}
    (grows : before.made ≤ after.made) (constructed : before.constructed session = true) :
    after.constructed session = true := by
  unfold ConnectionPool.constructed at constructed ⊢
  cases made : session.maker with
  | elsewhere => rfl
  | pool =>
      rw [made] at constructed
      exact decide_eq_true (Nat.lt_of_lt_of_le (of_decide_eq_true constructed) grows)

theorem Accounted.of_within {after : Lending} (accounted : Accounted lending)
    (within : after.pool.Within lending.pool)
    (lent : after.lentSessions ⊆ lending.lentSessions) : Accounted after where
  limits := accounted.limits.of_within within
  active session member :=
    constructed_mono within.made (accounted.active session (within.active member))
  idle session member :=
    constructed_mono within.made (accounted.idle session (within.idle member))
  lent session member :=
    constructed_mono within.made (accounted.lent session (lent member))

/-- A created session is accounted for. -/
theorem create_accounted {cleared : ConnectionPool} (borrower : Nat) (host : String)
    (port : Int) (connects : Bool)
    (accounted : Accounted { pool := cleared, loans := lending.loans })
    (room : cleared.totalActive < cleared.maxConnections)
    (hostRoom : cleared.hostActive (hostKeyOf host port) < cleared.maxConnectionsPerHost) :
    Accounted (lending.lend borrower (cleared.createConnection host port connects)) := by
  have made : ({ cleared with made := cleared.made + 1 } : ConnectionPool).Within cleared :=
    { Within.refl cleared with made := Nat.le_succ _ }
  unfold createConnection
  dsimp only
  by_cases connected : connects = true
  · rw [if_pos connected]
    have new : ∀ pool : ConnectionPool, pool.made = cleared.made + 1 →
        pool.constructed (cleared.fresh host port) = true := by
      intro pool grown
      change decide (cleared.made < pool.made) = true
      exact decide_eq_true (grown ▸ Nat.lt_succ_self _)
    constructor
    · exact @WithinLimits.push cleared (cleared.fresh host port) _ accounted.limits room
        hostRoom rfl rfl rfl
    · intro session member
      rcases List.mem_cons.mp ((Shelves.items_push _ _).mem_iff.mp member) with here | there
      · exact here ▸ new _ rfl
      · exact constructed_mono made.made (accounted.active session there)
    · intro session member
      exact constructed_mono made.made (accounted.idle session member)
    · intro session member
      unfold lentSessions lend at member
      rw [List.map_append, List.mem_append] at member
      rcases member with there | last
      · exact constructed_mono made.made (accounted.lent session there)
      · rw [List.mem_singleton.mp last]
        exact new _ rfl
  · rw [if_neg connected]
    exact accounted.of_within ((destroyConnection_within _ _).trans made)
      (List.Subset.refl _)

theorem borrow_accounted (borrower : Nat) (host : String) (port : Int)
    (healthy : SessionRef → Bool) (connects : Bool) (accounted : Accounted lending) :
    Accounted (step (.borrow borrower host port healthy connects) lending) := by
  unfold step
  dsimp only
  rcases borrowConnection_cases host port healthy connects lending.pool with
    ⟨⟨error, refused⟩, _⟩ |
      ⟨room, hostRoom, ⟨session, last, _, served⟩ | ⟨_, cleared, within, _, _, created⟩⟩
  · rw [refused]
    exact accounted
  · rw [served]
    have member : session ∈ lending.pool.idle.shelf (hostKeyOf host port) :=
      List.mem_of_getLast? last
    have known := accounted.idle session
      (Shelves.mem_items.mpr ((Shelves.filed_shelf member).symm ▸ member))
    have popped := popIdle_within last
    constructor
    · exact accounted.limits.push room (Shelves.filed_shelf member ▸ hostRoom) rfl rfl rfl
    · intro other member
      rcases List.mem_cons.mp ((Shelves.items_push _ _).mem_iff.mp member) with here | there
      · exact here ▸ known
      · exact accounted.active other there
    · intro other member
      exact accounted.idle other (popped.idle member)
    · intro other member
      unfold lentSessions lend at member
      rw [List.map_append, List.mem_append] at member
      rcases member with there | last
      · exact accounted.lent other there
      · rw [List.mem_singleton.mp last]
        exact known
  · rw [created]
    refine create_accounted borrower host port connects
      (accounted.of_within within (List.Subset.refl _)) ?_ ?_
    · rw [within.limit]
      exact Nat.lt_of_le_of_lt within.total room
    · rw [within.hostLimit]
      exact Nat.lt_of_le_of_lt (within.host _) hostRoom

theorem giveBack_accounted (borrower : Nat) (session : SessionRef) (healthy : Bool)
    (accounted : Accounted lending) :
    Accounted (step (.giveBack borrower session healthy) lending) := by
  unfold step
  dsimp only
  by_cases constructed : lending.pool.constructed session = true
  · rw [if_pos constructed]
    have fewer : (lending.loans.erase (borrower, session)).map Prod.snd ⊆
        lending.lentSessions :=
      List.map_subset Prod.snd (List.erase_subset)
    have erased := eraseActive_within session lending.pool
    unfold returnConnection
    dsimp only
    by_cases well : healthy = true
    · rw [if_pos well]
      constructor
      · have limits := accounted.limits.of_within erased
        exact ⟨limits.total, limits.perHost⟩
      · intro other member
        exact accounted.active other (erased.active member)
      · intro other member
        rcases List.mem_cons.mp ((Shelves.items_push _ _).mem_iff.mp member) with
          here | there
        · exact here ▸ constructed
        · exact accounted.idle other there
      · intro other member
        exact accounted.lent other (fewer member)
    · rw [if_neg well]
      exact accounted.of_within ((destroyConnection_within _ _).trans erased) fewer
  · rw [if_neg constructed]
    exact accounted

theorem step_accounted (event : PoolEvent) (accounted : Accounted lending) :
    Accounted (step event lending) := by
  cases event with
  | start => exact accounted.of_within { Within.refl lending.pool with } (List.Subset.refl _)
  | stop => exact accounted.of_within (stop_within lending.pool) (List.Subset.refl _)
  | borrow borrower host port healthy connects =>
      exact borrow_accounted borrower host port healthy connects accounted
  | giveBack borrower session healthy =>
      exact giveBack_accounted borrower session healthy accounted
  | healthChecks healthy =>
      exact accounted.of_within (keepIdle_within _ _) (List.Subset.refl _)
  | cleanup expired =>
      exact accounted.of_within (keepIdle_within _ _) (List.Subset.refl _)

/-- A session that is not yet constructed is nobody's. -/
theorem fresh_unlent {cleared : ConnectionPool} (host : String) (port : Int)
    (accounted : Accounted lending) (made : cleared.made = lending.pool.made)
    (within : cleared.Within lending.pool) :
    cleared.fresh host port ∉ cleared.listed [] ∧
      cleared.fresh host port ∉ lending.lentSessions := by
  have unconstructed : lending.pool.constructed (cleared.fresh host port) = false := by
    change decide (cleared.made < lending.pool.made) = false
    rw [made]
    exact decide_eq_false (Nat.lt_irrefl _)
  have absent : lending.pool.constructed (cleared.fresh host port) ≠ true := by
    rw [unconstructed]
    exact Bool.false_ne_true
  constructor
  · intro listed
    unfold ConnectionPool.listed at listed
    rw [List.append_nil, List.mem_append] at listed
    rcases listed with active | idle
    · exact absent (accounted.active _ (within.active active))
    · exact absent (accounted.idle _ (within.idle idle))
  · intro lent
    exact absent (accounted.lent _ lent)

/-- A new loan is the only one of its session exactly when nobody had the session. -/
theorem lentOnce_lend_iff (borrower : Nat) (session : SessionRef)
    (lentOnce : lending.lentSessions.Nodup) (after : ConnectionPool) :
    (lending.lend borrower (.ok session, after)).lentSessions.Nodup ↔
      session ∉ lending.lentSessions := by
  have loans : (lending.lend borrower (.ok session, after)).lentSessions =
      lending.lentSessions ++ [session] := by
    unfold lentSessions lend
    rw [List.map_append]
    rfl
  rw [loans, List.nodup_append]
  constructor
  · rintro ⟨_, _, apart⟩ member
    exact apart session member session List.mem_cons_self rfl
  · intro unlent
    refine ⟨lentOnce, List.nodup_singleton session, ?_⟩
    intro other member last listed same
    rw [List.mem_singleton.mp listed] at same
    exact unlent (same ▸ member)

theorem borrow_exclusive_iff (borrower : Nat) (host : String) (port : Int)
    (healthy : SessionRef → Bool) (connects : Bool) (accounted : Accounted lending)
    (exclusive : Exclusive lending) :
    Exclusive (step (.borrow borrower host port healthy connects) lending) ↔
      Orderly (.borrow borrower host port healthy connects) lending := by
  have after := borrow_accounted borrower host port healthy connects accounted
  obtain ⟨lentOnce, balanced, limits⟩ := exclusive_iff.mp exclusive
  rw [exclusive_iff]
  unfold Orderly step at *
  dsimp only at after ⊢
  rcases borrowConnection_cases host port healthy connects lending.pool with
    ⟨⟨error, refused⟩, unserved⟩ |
      ⟨_, _, ⟨session, last, taken, served⟩ |
        ⟨unserved, cleared, within, made, settled, created⟩⟩
  · rw [refused, unserved]
    constructor
    · intro _ session found
      cases found
    · intro _
      exact ⟨lentOnce, balanced, limits⟩
  · rw [served] at after ⊢
    rw [lentOnce_lend_iff borrower session lentOnce, taken]
    constructor
    · rintro ⟨unlent, _, _⟩ other same
      cases same
      exact unlent
    · intro unlent
      exact ⟨unlent session rfl, (balanced.popIdle last).pushActive rfl rfl rfl,
        after.limits⟩
  · rw [created] at after ⊢
    rw [unserved]
    constructor
    · intro _ session found
      cases found
    · intro _
      have unknown := fresh_unlent host port accounted made within
      have kept := (settled balanced).create host port connects unknown.1
      cases outcome : cleared.createConnection host port connects with
      | mk result pool =>
          rw [outcome] at kept after
          cases result with
          | error error => exact ⟨lentOnce, kept, after.limits⟩
          | ok session =>
              have new : session = cleared.fresh host port := by
                unfold createConnection at outcome
                dsimp only at outcome
                split at outcome
                · cases outcome
                  rfl
                · cases outcome
              rw [lentOnce_lend_iff borrower session lentOnce]
              exact ⟨new ▸ unknown.2, kept, after.limits⟩

theorem giveBack_exclusive_iff (borrower : Nat) (session : SessionRef) (healthy : Bool)
    (accounted : Accounted lending) (exclusive : Exclusive lending) :
    Exclusive (step (.giveBack borrower session healthy) lending) ↔
      Orderly (.giveBack borrower session healthy) lending := by
  have after := giveBack_accounted borrower session healthy accounted
  obtain ⟨lentOnce, balanced, limits⟩ := exclusive_iff.mp exclusive
  rw [exclusive_iff]
  unfold Orderly step at *
  dsimp only at after ⊢
  by_cases constructed : lending.pool.constructed session = true
  · rw [if_pos constructed] at after ⊢
    have fewer : ((lending.loans.erase (borrower, session)).map Prod.snd).Nodup :=
      lentOnce.sublist ((List.erase_sublist).map Prod.snd)
    unfold returnConnection at after ⊢
    dsimp only at after ⊢
    by_cases well : healthy = true
    · rw [if_pos well] at after ⊢
      constructor
      · rintro ⟨_, returned, _⟩ _ _
        apply Classical.byContradiction
        intro inactive
        have idle := Shelves.items_push session lending.pool.idle
        have filed := ((idle.append_right []).append_left
          (lending.pool.active.erase session).items).trans List.perm_middle
        refine absurd returned (balanced.not_filed session ?_ ?_)
        · rfl
        · exact filed.trans ((listed_eraseActive inactive).cons session)
      · intro active
        refine ⟨fewer, ?_, after.limits⟩
        exact (balanced.eraseActive (active constructed well)).pushIdle rfl rfl rfl
    · rw [if_neg well] at after ⊢
      constructor
      · intro _ _ healthy
        exact absurd healthy well
      · intro _
        refine ⟨fewer, ?_, after.limits⟩
        by_cases active : session ∈ lending.pool.active.items
        · have destroyed := (balanced.eraseActive active).destroy session
          rw [List.erase_cons_head] at destroyed
          exact destroyed
        · have unchanged :
              { lending.pool with
                active := lending.pool.active.erase session }.Balanced [] :=
            balanced.of_perm rfl (listed_eraseActive active)
          exact unchanged.destroy session
  · rw [if_neg constructed]
    constructor
    · intro _ known
      exact absurd known constructed
    · intro _
      exact ⟨lentOnce, balanced, limits⟩

/-- Maintenance of the idle lists keeps the balance. -/
theorem keepIdle_balanced (kept : SessionRef → Bool) {pool : ConnectionPool}
    (balanced : pool.Balanced []) : (pool.keepIdle kept).Balanced [] := by
  unfold keepIdle
  refine Balanced.destroyAll (balanced.of_perm rfl ?_)
  unfold listed
  dsimp only
  rw [Shelves.items_keep, List.append_nil]
  exact (List.filter_append_perm kept pool.idle.items).append_left _

theorem stop_balanced {pool : ConnectionPool} (balanced : pool.Balanced []) :
    pool.stop.Balanced [] := by
  unfold stop
  split
  · constructor
    · exact List.nodup_nil
    · intro session
      exact iff_of_false (Finset.notMem_empty session) List.not_mem_nil
  · exact balanced

theorem step_exclusive_iff (event : PoolEvent) (accounted : Accounted lending)
    (exclusive : Exclusive lending) :
    Exclusive (step event lending) ↔ Orderly event lending := by
  have after := (step_accounted event accounted).limits
  obtain ⟨lentOnce, balanced, _⟩ := exclusive_iff.mp exclusive
  cases event with
  | start =>
      refine iff_of_true (exclusive_iff.mpr ⟨lentOnce, ?_, after⟩) trivial
      exact balanced.of_perm rfl (List.Perm.refl _)
  | stop =>
      exact iff_of_true (exclusive_iff.mpr ⟨lentOnce, stop_balanced balanced, after⟩) trivial
  | borrow borrower host port healthy connects =>
      exact borrow_exclusive_iff borrower host port healthy connects accounted exclusive
  | giveBack borrower session healthy =>
      exact giveBack_exclusive_iff borrower session healthy accounted exclusive
  | healthChecks healthy =>
      exact iff_of_true
        (exclusive_iff.mpr ⟨lentOnce, keepIdle_balanced _ balanced, after⟩) trivial
  | cleanup expired =>
      exact iff_of_true
        (exclusive_iff.mpr ⟨lentOnce, keepIdle_balanced _ balanced, after⟩) trivial

theorem new_exclusive (maxConnections maxConnectionsPerHost : Nat) :
    Exclusive (new maxConnections maxConnectionsPerHost) := by
  refine exclusive_iff.mpr ⟨List.nodup_nil, ?_, ?_⟩
  · constructor
    · exact List.nodup_nil
    · intro session
      exact iff_of_false (Finset.notMem_empty session) List.not_mem_nil
  · exact (new_accounted maxConnections maxConnectionsPerHost).limits

/-- A pool lends exclusively throughout a run exactly when healthy sessions are
returned only while they are active, and no idle session is served that somebody
still has. -/
theorem exclusive_throughout_iff (maxConnections maxConnectionsPerHost : Nat)
    (events : List PoolEvent) :
    Always step Exclusive events (new maxConnections maxConnectionsPerHost) ↔
      Along step Orderly events (new maxConnections maxConnectionsPerHost) :=
  always_iff_along (fun event _ => step_accounted event)
    (fun event _ => step_exclusive_iff event)
    (new_accounted maxConnections maxConnectionsPerHost)
    (new_exclusive maxConnections maxConnectionsPerHost)

/-- The only session of the run below. -/
def onlySession : SessionRef :=
  { maker := .pool, number := 0, host := "printer", port := 23 }

/-- A session that is returned twice is lent to two borrowers. -/
theorem lent_twice_of_returned_twice :
    ¬∀ events, Always step Exclusive events (new 10 2) := by
  intro always
  have last := (always
    [.borrow 0 "printer" 23 (fun _ => true) true,
      .giveBack 0 onlySession true, .giveBack 0 onlySession true,
      .borrow 1 "printer" 23 (fun _ => true) true,
      .borrow 2 "printer" 23 (fun _ => true) true]).last
  exact absurd last.lentOnce (by decide +kernel)

/-- A borrower returns what it has and what the pool has lent, or what it finds
unhealthy. -/
def ByHolder : PoolEvent → Lending → Prop
  | .giveBack borrower session healthy, lending =>
      healthy = true →
        (borrower, session) ∈ lending.loans ∧ session ∈ lending.pool.active.items
  | _, _ => True

/-- Where sessions are returned by their holders, no idle session is held by anyone. -/
structure Settled (lending : Lending) : Prop where
  accounted : Accounted lending
  exclusive : Exclusive lending
  unheld : ∀ session ∈ lending.pool.idle.items, session ∉ lending.lentSessions

theorem orderly_of_byHolder (event : PoolEvent) (settled : Settled lending)
    (byHolder : ByHolder event lending) : Orderly event lending := by
  cases event with
  | borrow borrower host port healthy connects =>
      intro session served
      unfold idleServed at served
      split at served
      · cases served
      · have last := (Option.filter_eq_some_iff.mp served).1
        have member := List.mem_of_getLast? last
        exact settled.unheld session
          (Shelves.mem_items.mpr ((Shelves.filed_shelf member).symm ▸ member))
  | giveBack borrower session healthy => exact fun _ well => (byHolder well).2
  | _ => trivial

theorem borrow_unheld (borrower : Nat) (host : String) (port : Int)
    (healthy : SessionRef → Bool) (connects : Bool) (settled : Settled lending)
    (after : Exclusive (step (.borrow borrower host port healthy connects) lending)) :
    ∀ session ∈ (step (.borrow borrower host port healthy connects) lending).pool.idle.items,
      session ∉ (step (.borrow borrower host port healthy connects) lending).lentSessions := by
  have idle := borrowConnection_idle host port healthy connects lending.pool
  have active := fun session =>
    @borrowConnection_active lending.pool session host port healthy connects
  intro session member
  unfold step at *
  dsimp only at *
  cases outcome : lending.pool.borrowConnection host port healthy connects with
  | mk result pool =>
      rw [outcome] at idle active after member
      cases result with
      | error error => exact settled.unheld session (idle member)
      | ok new =>
          intro lent
          unfold lentSessions lend at lent
          rw [List.map_append, List.mem_append] at lent
          rcases lent with before | last
          · exact settled.unheld session (idle member) before
          · rw [List.mem_singleton.mp last] at member
            exact after.apart new (active new rfl) member

theorem giveBack_unheld (borrower : Nat) (session : SessionRef) (healthy : Bool)
    (settled : Settled lending)
    (byHolder : ByHolder (.giveBack borrower session healthy) lending) :
    ∀ other ∈ (step (.giveBack borrower session healthy) lending).pool.idle.items,
      other ∉ (step (.giveBack borrower session healthy) lending).lentSessions := by
  intro other member
  unfold step at member ⊢
  dsimp only at member ⊢
  by_cases constructed : lending.pool.constructed session = true
  · rw [if_pos constructed] at member ⊢
    have fewer : (lending.loans.erase (borrower, session)).map Prod.snd ⊆
        lending.lentSessions :=
      List.map_subset Prod.snd List.erase_subset
    unfold returnConnection at member
    dsimp only at member
    by_cases well : healthy = true
    · rw [if_pos well] at member
      rcases List.mem_cons.mp ((Shelves.items_push _ _).mem_iff.mp member) with here | there
      · have loan := List.perm_cons_erase (byHolder well).1
        have once := (loan.map Prod.snd).nodup_iff.mp settled.exclusive.lentOnce
        exact here ▸ (List.nodup_cons.mp once).1
      · exact fun lent => settled.unheld other there (fewer lent)
    · rw [if_neg well] at member
      have before := ((destroyConnection_within _ _).trans
        (eraseActive_within session lending.pool)).idle member
      exact fun lent => settled.unheld other before (fewer lent)
  · rw [if_neg constructed] at member ⊢
    exact settled.unheld other member

theorem step_settled {event : PoolEvent} (settled : Settled lending)
    (byHolder : ByHolder event lending) : Settled (step event lending) := by
  have after := (step_exclusive_iff event settled.accounted settled.exclusive).mpr
    (orderly_of_byHolder event settled byHolder)
  refine ⟨step_accounted event settled.accounted, after, ?_⟩
  cases event with
  | start => exact settled.unheld
  | stop =>
      intro session member
      exact settled.unheld session ((stop_within lending.pool).idle member)
  | borrow borrower host port healthy connects =>
      exact borrow_unheld borrower host port healthy connects settled after
  | giveBack borrower session healthy =>
      exact giveBack_unheld borrower session healthy settled byHolder
  | healthChecks healthy =>
      intro session member
      exact settled.unheld session ((keepIdle_within _ _).idle member)
  | cleanup expired =>
      intro session member
      exact settled.unheld session ((keepIdle_within _ _).idle member)

/-- A pool lends exclusively as long as sessions come back from their holders. -/
theorem always_exclusive_of_byHolder (maxConnections maxConnectionsPerHost : Nat)
    {events : List PoolEvent}
    (along : Along step ByHolder events (new maxConnections maxConnectionsPerHost)) :
    Always step Exclusive events (new maxConnections maxConnectionsPerHost) := by
  have start : Settled (new maxConnections maxConnectionsPerHost) :=
    ⟨new_accounted _ _, new_exclusive _ _, fun _ _ => List.not_mem_nil⟩
  have always := always_of_along (fun settled met => step_settled settled met) start along
  exact always.mono fun settled => settled.exclusive

end Lending

end Pure3270
