import Mathlib.Data.Finset.Card
import Pure3270.Printing.PoolLending

/-!
# The counters of a pool

The pool counts the sessions it has created, destroyed, lent and taken back.  Whatever is
destroyed is counted, whether it had been counted when it was created or not, and `stop`
forgets all sessions without counting them.
-/

namespace Pure3270

open Foundations ConnectionPool

namespace ConnectionPool

/-- What the counters say beyond the sessions that the pool knows. -/
def balance (pool : ConnectionPool) : Int :=
  pool.totalCreated - pool.totalDestroyed - pool.all.card

/-- The sessions of a list are known to the pool, and each is listed once. -/
def KnownOnce (sessions : List SessionRef) (pool : ConnectionPool) : Prop :=
  sessions.Nodup ∧ ∀ session ∈ sessions, session ∈ pool.all

/-- The idle sessions that do not stay. -/
def dropped (kept : SessionRef → Bool) (pool : ConnectionPool) : List SessionRef :=
  pool.idle.items.filter fun session => !kept session

variable {pool : ConnectionPool} {session : SessionRef}

theorem balance_destroyConnection (session : SessionRef) (pool : ConnectionPool) :
    (pool.destroyConnection session).balance =
      pool.balance - if session ∈ pool.all then 0 else 1 := by
  unfold balance destroyConnection
  dsimp only
  by_cases known : session ∈ pool.all
  · have positive := Finset.card_pos.mpr ⟨session, known⟩
    rw [if_pos known, Finset.card_erase_of_mem known]
    omega
  · rw [if_neg known, Finset.erase_eq_of_notMem known]
    omega

theorem balance_destroyAll (sessions : List SessionRef) (pool : ConnectionPool) :
    (sessions.foldl (fun pool session => pool.destroyConnection session) pool).balance ≤
        pool.balance ∧
      ((sessions.foldl (fun pool session => pool.destroyConnection session) pool).balance =
        pool.balance ↔ pool.KnownOnce sessions) := by
  induction sessions generalizing pool with
  | nil =>
      have empty : pool.KnownOnce [] :=
        ⟨List.nodup_nil, fun _ none => absurd none List.not_mem_nil⟩
      exact ⟨Int.le_refl _, iff_of_true rfl empty⟩
  | cons session sessions ih =>
      obtain ⟨below, exact⟩ := ih (pool.destroyConnection session)
      have first := balance_destroyConnection session pool
      rw [List.foldl_cons]
      have split : pool.KnownOnce (session :: sessions) ↔ session ∈ pool.all ∧
          (pool.destroyConnection session).KnownOnce sessions := by
        unfold KnownOnce destroyConnection
        simp only [List.nodup_cons, List.forall_mem_cons, Finset.mem_erase]
        constructor
        · rintro ⟨⟨new, once⟩, known, others⟩
          exact ⟨known, once, fun other member =>
            ⟨fun same => new (same ▸ member), others other member⟩⟩
        · rintro ⟨known, once, others⟩
          exact ⟨⟨fun member => (others session member).1 rfl, once⟩, known,
            fun other member => (others other member).2⟩
      rw [split]
      by_cases known : session ∈ pool.all
      · rw [if_pos known, Int.sub_zero] at first
        rw [← first]
        exact ⟨below, exact.trans (and_iff_right known).symm⟩
      · rw [if_neg known] at first
        exact ⟨by omega, iff_of_false (by omega) fun met => known met.1⟩

theorem balance_createConnection (host : String) (port : Int) (connects : Bool)
    (new : pool.fresh host port ∉ pool.all) :
    (pool.createConnection host port connects).2.balance =
      pool.balance - if connects then 0 else 1 := by
  unfold createConnection
  dsimp only
  by_cases connected : connects = true
  · rw [if_pos connected, if_pos connected]
    unfold balance
    dsimp only
    rw [Finset.card_insert_of_notMem new]
    omega
  · rw [if_neg connected, if_neg connected, balance_destroyConnection]
    exact congrArg (pool.balance - ·) (if_neg new)

theorem balance_keepIdle (kept : SessionRef → Bool) (pool : ConnectionPool) :
    (pool.keepIdle kept).balance = pool.balance ↔ pool.KnownOnce (pool.dropped kept) :=
  (balance_destroyAll _ { pool with idle := pool.idle.keep kept }).2

/-- The borrower gets no idle session and one has to be created, after an unhealthy one has
been destroyed if there is one. -/
def Creates (host : String) (port : Int) (healthy : SessionRef → Bool)
    (pool : ConnectionPool) : Prop :=
  pool.totalActive < pool.maxConnections ∧
    pool.hostActive (hostKeyOf host port) < pool.maxConnectionsPerHost ∧
    ∀ session, (pool.idle.shelf (hostKeyOf host port)).getLast? = some session →
      healthy session = false

/-- What destroying sessions leaves alone, and what it may not add. -/
theorem destroyAll_counters (sessions : List SessionRef) (pool : ConnectionPool) :
    let after := sessions.foldl (fun pool session => pool.destroyConnection session) pool
    after.totalBorrowed = pool.totalBorrowed ∧ after.totalReturned = pool.totalReturned ∧
      after.made = pool.made ∧ after.all ⊆ pool.all := by
  induction sessions generalizing pool with
  | nil => exact ⟨rfl, rfl, rfl, Finset.Subset.refl _⟩
  | cons session sessions ih =>
      obtain ⟨borrowed, returned, made, all⟩ := ih (pool.destroyConnection session)
      exact ⟨borrowed, returned, made, all.trans (Finset.erase_subset _ _)⟩

theorem createConnection_returned (host : String) (port : Int) (connects : Bool)
    (pool : ConnectionPool) :
    (pool.createConnection host port connects).2.totalReturned = pool.totalReturned := by
  unfold createConnection
  dsimp only
  split <;> rfl

theorem createConnection_borrowed (host : String) (port : Int) (connects : Bool)
    (pool : ConnectionPool) :
    pool.totalBorrowed ≤ (pool.createConnection host port connects).2.totalBorrowed := by
  unfold createConnection
  dsimp only
  split
  · exact Nat.le_succ _
  · exact Nat.le_refl _

theorem borrowConnection_balance (host : String) (port : Int)
    (healthy : SessionRef → Bool) (connects : Bool)
    (new : pool.fresh host port ∉ pool.all) :
    (pool.borrowConnection host port healthy connects).2.totalReturned =
        pool.totalReturned ∧
      pool.totalBorrowed ≤
        (pool.borrowConnection host port healthy connects).2.totalBorrowed ∧
      ((pool.borrowConnection host port healthy connects).2.balance = pool.balance ↔
        (pool.Creates host port healthy → connects = true ∧
          ∀ session, (pool.idle.shelf (hostKeyOf host port)).getLast? = some session →
            session ∈ pool.all)) := by
  unfold borrowConnection Creates
  dsimp only
  by_cases full : pool.maxConnections ≤ pool.totalActive
  · rw [if_pos full]
    exact ⟨rfl, Nat.le_refl _, iff_of_true rfl fun creates =>
      absurd creates.1 (Nat.not_lt_of_le full)⟩
  · rw [if_neg full]
    by_cases hostFull : pool.maxConnectionsPerHost ≤ pool.hostActive (hostKeyOf host port)
    · rw [if_pos hostFull]
      exact ⟨rfl, Nat.le_refl _, iff_of_true rfl fun creates =>
        absurd creates.2.1 (Nat.not_lt_of_le hostFull)⟩
    · rw [if_neg hostFull]
      have room := Nat.lt_of_not_le full
      have hostRoom := Nat.lt_of_not_le hostFull
      cases last : (pool.idle.shelf (hostKeyOf host port)).getLast? with
      | none =>
          refine ⟨createConnection_returned .., createConnection_borrowed .., ?_⟩
          rw [balance_createConnection host port connects new]
          constructor
          · intro same _
            refine ⟨?_, fun _ none => by cases none⟩
            by_contra failed
            rw [if_neg failed] at same
            omega
          · intro met
            rw [if_pos (met ⟨room, hostRoom, fun _ none => by cases none⟩).1]
            omega
      | some session =>
          dsimp only
          by_cases well : healthy session = true
          · rw [if_pos well]
            refine ⟨rfl, Nat.le_succ _, iff_of_true rfl fun creates => ?_⟩
            rw [creates.2.2 session rfl] at well
            cases well
          · rw [if_neg well]
            let cleared := { pool with
              idle := pool.idle.dropLast (hostKeyOf host port) }.destroyConnection session
            have unlisted : cleared.fresh host port ∉ cleared.all := fun member =>
              new (Finset.mem_of_mem_erase member)
            have destroyed : cleared.balance = _ := balance_destroyConnection session
              { pool with idle := pool.idle.dropLast (hostKeyOf host port) }
            have created := balance_createConnection host port connects unlisted
            refine ⟨createConnection_returned host port connects cleared,
              createConnection_borrowed host port connects cleared, ?_⟩
            have unhealthy : ∀ other, some session = some other → healthy other = false := by
              rintro other ⟨⟩
              exact Bool.eq_false_iff.mpr well
            have same : (cleared.createConnection host port connects).2.balance =
                pool.balance - (if session ∈ pool.all then 0 else 1) -
                  (if connects = true then 0 else 1) :=
              created.trans (congrArg (· - _) destroyed)
            refine Iff.trans (Eq.congr same rfl) ?_
            by_cases known : session ∈ pool.all
            · by_cases connected : connects = true
              · rw [if_pos known, if_pos connected]
                refine iff_of_true (by omega) fun _ => ⟨connected, ?_⟩
                rintro other ⟨⟩
                exact known
              · rw [if_pos known, if_neg connected]
                exact iff_of_false (by omega) fun met =>
                  connected (met ⟨room, hostRoom, unhealthy⟩).1
            · rw [if_neg known]
              refine iff_of_false ?_ fun met =>
                known ((met ⟨room, hostRoom, unhealthy⟩).2 session rfl)
              split <;> omega

end ConnectionPool

namespace Lending

/-- The pool's books are right. -/
structure Counted (lending : Lending) : Prop where
  sessions : (lending.pool.totalCreated : Int) - lending.pool.totalDestroyed =
    lending.pool.all.card
  returns : lending.pool.totalReturned ≤ lending.pool.totalBorrowed

/-- The condition of each call: what is destroyed is known to the pool and a session that
has to be created connects, healthy sessions come back less often than sessions have been
lent, and nothing is left when the pool stops. -/
def Counts : PoolEvent → Lending → Prop
  | .start, _ => True
  | .stop, lending => lending.pool.running = true → lending.pool.all = ∅
  | .borrow _ host port healthy connects, lending =>
      lending.pool.Creates host port healthy → connects = true ∧
        ∀ session, (lending.pool.idle.shelf (hostKeyOf host port)).getLast? = some session →
          session ∈ lending.pool.all
  | .giveBack _ session true, lending =>
      lending.pool.constructed session = true →
        lending.pool.totalReturned < lending.pool.totalBorrowed
  | .giveBack _ session false, lending =>
      lending.pool.constructed session = true → session ∈ lending.pool.all
  | .healthChecks healthy, lending =>
      lending.pool.KnownOnce (lending.pool.dropped healthy)
  | .cleanup expired, lending =>
      lending.pool.KnownOnce (lending.pool.dropped fun session => !expired session)

/-- The pool knows no session before it is constructed. -/
def AllConstructed (lending : Lending) : Prop :=
  ∀ session ∈ lending.pool.all, lending.pool.constructed session = true

variable {lending : Lending}

theorem counted_iff :
    Counted lending ↔ lending.pool.balance = 0 ∧
      lending.pool.totalReturned ≤ lending.pool.totalBorrowed := by
  constructor
  · rintro ⟨sessions, returns⟩
    refine ⟨?_, returns⟩
    unfold ConnectionPool.balance
    omega
  · rintro ⟨balanced, returns⟩
    unfold ConnectionPool.balance at balanced
    exact ⟨by omega, returns⟩

theorem AllConstructed.fresh_notMem (all : AllConstructed lending) (host : String)
    (port : Int) : lending.pool.fresh host port ∉ lending.pool.all := by
  intro member
  have made : decide (lending.pool.made < lending.pool.made) = true := all _ member
  exact Nat.lt_irrefl _ (of_decide_eq_true made)

theorem new_allConstructed (maxConnections maxConnectionsPerHost : Nat) :
    AllConstructed (new maxConnections maxConnectionsPerHost) :=
  fun session member => absurd member (Finset.notMem_empty session)

theorem new_counted (maxConnections maxConnectionsPerHost : Nat) :
    Counted (new maxConnections maxConnectionsPerHost) :=
  ⟨rfl, Nat.le_refl 0⟩

/-- What only takes sessions away leaves constructed ones. -/
theorem AllConstructed.of_subset {after : Lending} (all : AllConstructed lending)
    (made : lending.pool.made ≤ after.pool.made) (subset : after.pool.all ⊆ lending.pool.all) :
    AllConstructed after :=
  fun session member => constructed_mono made (all session (subset member))

theorem create_allConstructed {cleared : ConnectionPool} (host : String) (port : Int)
    (connects : Bool)
    (all : ∀ session ∈ cleared.all, cleared.constructed session = true) :
    ∀ session ∈ (cleared.createConnection host port connects).2.all,
      (cleared.createConnection host port connects).2.constructed session = true := by
  unfold createConnection
  dsimp only
  split
  · intro session member
    rcases Finset.mem_insert.mp member with rfl | before
    · exact decide_eq_true (Nat.lt_succ_self cleared.made)
    · exact constructed_mono (Nat.le_succ cleared.made) (all session before)
  · intro session member
    exact constructed_mono (Nat.le_succ cleared.made)
      (all session (Finset.mem_of_mem_erase member))

theorem lend_pool (borrower : Nat) (outcome : Except BorrowError SessionRef × ConnectionPool) :
    (lending.lend borrower outcome).pool = outcome.2 := by
  obtain ⟨result, after⟩ := outcome
  cases result <;> rfl

theorem borrow_allConstructed (host : String) (port : Int) (healthy : SessionRef → Bool)
    (connects : Bool) (all : AllConstructed lending) :
    ∀ session ∈ (lending.pool.borrowConnection host port healthy connects).2.all,
      (lending.pool.borrowConnection host port healthy connects).2.constructed session =
        true := by
  unfold borrowConnection
  dsimp only
  split
  · exact all
  · split
    · exact all
    · split
      · exact create_allConstructed host port connects all
      · split
        · exact all
        · exact create_allConstructed host port connects fun session member =>
            all session (Finset.mem_of_mem_erase member)

theorem step_allConstructed (event : PoolEvent) (all : AllConstructed lending) :
    AllConstructed (step event lending) := by
  cases event with
  | start => exact all
  | stop =>
      refine all.of_subset (stop_within lending.pool).made ?_
      unfold step ConnectionPool.stop
      dsimp only
      split
      · exact Finset.empty_subset _
      · exact Finset.Subset.refl _
  | borrow borrower host port healthy connects =>
      unfold AllConstructed step
      dsimp only
      rw [lend_pool]
      exact borrow_allConstructed host port healthy connects all
  | giveBack borrower session healthy =>
      unfold step
      dsimp only
      split
      · unfold returnConnection
        dsimp only
        split
        · exact all
        · exact all.of_subset (Nat.le_refl _) (Finset.erase_subset _ _)
      · exact all
  | healthChecks healthy =>
      obtain ⟨_, _, made, subset⟩ := destroyAll_counters
        (lending.pool.dropped healthy) { lending.pool with idle := lending.pool.idle.keep healthy }
      exact all.of_subset (Nat.le_of_eq made.symm) subset
  | cleanup expired =>
      obtain ⟨_, _, made, subset⟩ := destroyAll_counters
        (lending.pool.dropped fun session => !expired session)
        { lending.pool with idle := lending.pool.idle.keep fun session => !expired session }
      exact all.of_subset (Nat.le_of_eq made.symm) subset

theorem keepIdle_counted_iff {after : Lending} (kept : SessionRef → Bool)
    (counted : Counted lending) (pool : after.pool = lending.pool.keepIdle kept) :
    Counted after ↔ lending.pool.KnownOnce (lending.pool.dropped kept) := by
  obtain ⟨borrowed, returned, _, _⟩ := destroyAll_counters (lending.pool.dropped kept)
    { lending.pool with idle := lending.pool.idle.keep kept }
  obtain ⟨balanced, returns⟩ := counted_iff.mp counted
  have exact := balance_keepIdle kept lending.pool
  rw [balanced] at exact
  rw [counted_iff, pool]
  exact (and_iff_left (returned.trans_le (returns.trans_eq borrowed.symm))).trans exact

/-- Stopping forgets the sessions without counting them. -/
theorem stop_counted_iff (counted : Counted lending) :
    Counted (step .stop lending) ↔ Counts .stop lending := by
  unfold Counts step ConnectionPool.stop
  dsimp only
  by_cases running : lending.pool.running = true
  · rw [if_pos running]
    constructor
    · rintro ⟨sessions, _⟩ _
      exact Finset.card_eq_zero.mp (Int.ofNat.inj (counted.sessions.symm.trans sessions))
    · intro empty
      refine ⟨counted.sessions.trans ?_, counted.returns⟩
      rw [empty running]
  · rw [if_neg running]
    exact iff_of_true ⟨counted.sessions, counted.returns⟩ fun runs => absurd runs running

theorem giveBack_counted_iff (borrower : Nat) (session : SessionRef) (healthy : Bool)
    (counted : Counted lending) :
    Counted (step (.giveBack borrower session healthy) lending) ↔
      Counts (.giveBack borrower session healthy) lending := by
  obtain ⟨balanced, returns⟩ := counted_iff.mp counted
  unfold step
  dsimp only
  by_cases constructed : lending.pool.constructed session = true
  · rw [if_pos constructed]
    cases healthy with
    | true =>
        refine Iff.trans ?_ (forall_prop_of_true constructed).symm
        exact ⟨fun after => after.returns, fun fewer => ⟨counted.sessions, fewer⟩⟩
    | false =>
        refine Iff.trans ?_ (forall_prop_of_true constructed).symm
        have destroyed : (lending.pool.returnConnection session false).balance =
            lending.pool.balance - if session ∈ lending.pool.all then 0 else 1 :=
          balance_destroyConnection session
            { lending.pool with active := lending.pool.active.erase session }
        rw [counted_iff]
        refine (and_iff_left returns).trans ((Eq.congr destroyed rfl).trans ?_)
        rw [balanced]
        by_cases known : session ∈ lending.pool.all
        · rw [if_pos known]
          exact iff_of_true rfl known
        · rw [if_neg known]
          exact iff_of_false (by decide) known
  · rw [if_neg constructed]
    refine iff_of_true counted ?_
    cases healthy with
    | true => exact fun known => absurd known constructed
    | false => exact fun known => absurd known constructed

/-- A call keeps the books right exactly if it meets its condition. -/
theorem step_counted_iff (event : PoolEvent) (all : AllConstructed lending)
    (counted : Counted lending) : Counted (step event lending) ↔ Counts event lending := by
  obtain ⟨balanced, returns⟩ := counted_iff.mp counted
  cases event with
  | start => exact iff_of_true ⟨counted.sessions, counted.returns⟩ trivial
  | stop => exact stop_counted_iff counted
  | borrow borrower host port healthy connects =>
      obtain ⟨returned, borrowed, exact⟩ := borrowConnection_balance host port healthy connects
        (all.fresh_notMem host port)
      rw [balanced] at exact
      rw [counted_iff]
      unfold step
      dsimp only
      rw [lend_pool, returned]
      exact (and_iff_left (Nat.le_trans returns borrowed)).trans exact
  | giveBack borrower session healthy =>
      exact giveBack_counted_iff borrower session healthy counted
  | healthChecks healthy => exact keepIdle_counted_iff healthy counted rfl
  | cleanup expired => exact keepIdle_counted_iff _ counted rfl

/-- The books are right throughout a run exactly if every call meets its condition. -/
theorem counted_throughout_iff (maxConnections maxConnectionsPerHost : Nat)
    (events : List PoolEvent) :
    Always step Counted events (new maxConnections maxConnectionsPerHost) ↔
      Along step Counts events (new maxConnections maxConnectionsPerHost) :=
  always_iff_along (fun event _ => step_allConstructed event)
    (fun event _ => step_counted_iff event)
    (new_allConstructed maxConnections maxConnectionsPerHost)
    (new_counted maxConnections maxConnectionsPerHost)

/-- A session that cannot connect is destroyed and was never created. -/
theorem destroyed_more_than_created :
    ¬∀ events, Always step Counted events (new 10 2) := by
  intro always
  have last := (always [.borrow 0 "printer" 23 (fun _ => true) false]).last
  exact absurd last.sessions (by decide +kernel)

end Lending

end Pure3270
