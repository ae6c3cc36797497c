import BackendComponents.Lib.Books
import BackendComponents.RedisPool.Accounting

/-!
# The Redis pool from `init` to `shutdown` and back

Sequences of whole calls, as if one thread made them, with any settings. A call of
`get_connection` that has to wait finds nothing, because nobody else gives back.
-/

namespace BackendComponents.RedisPool.Lifecycle

open BackendComponents.Lib.Books
open BackendComponents.Lib.Paths
open BackendComponents.Lib.Sweeping
open BackendComponents.Lib.Threads
open BackendComponents.RedisPool.Model (Conn Entry HealthStatus Pool PoolStatistics
  createConnection destroyConnection recordIdle recordSizes recordWait recycleIdleConnections)
open BackendComponents.RedisPool.Sweeping
open BackendComponents.RedisPool.Accounting (create_initialized)

set_option autoImplicit false

/-- The arguments of `init`, which it takes as they are. -/
structure Settings where
  minSize : Int
  maxSize : Int
  maxIdleTime : Int
  opNum : Int
  deriving DecidableEq, Repr

/-- Whether the call of the factory with this number returns a connection or null. -/
abbrev Factory := Nat → Bool

def createConnections (factory : Factory) : Nat → Pool → Pool
  | 0, pool => pool
  | count + 1, pool =>
      createConnections factory count (createConnection (factory pool.attempts) pool)

def sourceConnections (settings : Settings) (factory : Factory) (pool : Pool) : Pool :=
  recordSizes (createConnections factory settings.minSize.toNat pool)

def expandConnections (settings : Settings) (factory : Factory) (pool : Pool) : Pool :=
  let available := settings.maxSize - pool.currentSize
  let toCreate := min available settings.opNum
  if toCreate ≤ 0 then pool
  else recordSizes (createConnections factory toCreate.toNat pool)

def expandWhenEmpty (settings : Settings) (factory : Factory) (pool : Pool) : Pool :=
  if pool.connQueue = [] ∧ pool.currentSize < settings.maxSize then
    expandConnections settings factory pool
  else pool

/-- A wait that finds the queue as empty as before; it ends by its time or for no reason. -/
def waitInVain (timedOut : Bool) (ms : Nat) (pool : Pool) : Pool :=
  if timedOut then
    { pool with
      stats := { pool.stats with totalTimeoutErrors := pool.stats.totalTimeoutErrors + 1 } }
  else { pool with stats := recordWait ms pool.stats }

def getConnection (settings : Settings) (factory : Factory) (timedOut : Bool) (ms : Nat)
    (pool : Pool) : Pool × Option Conn :=
  if pool.initialized = false then (pool, none)
  else
    let expanded := expandWhenEmpty settings factory pool
    match expanded.connQueue with
    | [] => (waitInVain timedOut ms expanded, none)
    | entry :: rest =>
        ({ expanded with
          connQueue := rest
          stats := { expanded.stats with
            totalBorrowed := expanded.stats.totalBorrowed + 1
            activeConnections := expanded.stats.activeConnections + 1
            idleConnections := rest.length } }, some entry.conn)

def giveBackHealthy (conn : Conn) (pool : Pool) : Pool :=
  recordIdle { pool with
    connQueue := pool.connQueue ++ [⟨conn, pool.clock⟩]
    stats := { pool.stats with
      totalReleased := pool.stats.totalReleased + 1
      activeConnections := pool.stats.activeConnections - 1 } }

/-- The other branch of `return_connection` up to the test of `m_min_size`. -/
def giveUp (conn : Conn) (pool : Pool) : Pool :=
  let destroyed := destroyConnection conn pool
  { destroyed with
    stats := { destroyed.stats with
      totalReconnectCount := destroyed.stats.totalReconnectCount + 1
      activeConnections := destroyed.stats.activeConnections - 1
      totalReleased := destroyed.stats.totalReleased + 1 } }

def replenish (settings : Settings) (factory : Factory) (pool : Pool) : Pool :=
  if pool.currentSize < settings.minSize then createConnection (factory pool.attempts) pool
  else pool

def returnConnection (settings : Settings) (factory : Factory) (conn : Conn)
    (status : HealthStatus) (pool : Pool) : Pool :=
  if status = .healthy then giveBackHealthy conn pool
  else recordIdle (replenish settings factory (giveUp conn pool))

def shutdown (pool : Pool) : Pool :=
  { pool with
    connQueue := []
    destroyed := pool.destroyed ++ pool.connQueue.map Entry.conn
    currentSize := 0
    initialized := false
    stats := { pool.stats with
      activeConnections := 0
      idleConnections := 0
      totalConnections := 0 } }

/-- The pool with its settings, and the guards by what they give back when they end. -/
structure Service where
  settings : Settings
  pool : Pool
  guards : List (Option Conn)
  deriving DecidableEq, Repr

/-- The first form of `init` leaves the sizes as they are. -/
inductive Call
  | init (sizes : Option Settings)
  | getConnection (timedOut : Bool) (ms : Nat)
  | release (guard : Nat) (status : HealthStatus)
  | recycle (reads : List Entry)
  | wait (ticks : Nat)
  | shutdown
  deriving DecidableEq, Repr

def init (factory : Factory) (sizes : Option Settings) (service : Service) : Service :=
  let settings := sizes.getD service.settings
  { service with
    settings := settings
    pool := sourceConnections settings factory { service.pool with initialized := true } }

def step (factory : Factory) (service : Service) : Call → Option Service
  | .init sizes => some (init factory sizes service)
  | .getConnection timedOut ms =>
      let borrowed := getConnection service.settings factory timedOut ms service.pool
      some { service with pool := borrowed.1, guards := service.guards ++ [borrowed.2] }
  | .release guard status =>
      match service.guards[guard]? with
      | some (some conn) => some { service with
          pool := returnConnection service.settings factory conn status service.pool
          guards := service.guards.set guard none }
      | some none => some service
      | none => none
  | .recycle reads => some { service with
      pool := recycleIdleConnections service.settings.minSize service.settings.maxIdleTime reads
        service.pool }
  | .wait ticks =>
      some { service with pool := { service.pool with clock := service.pool.clock + ticks } }
  | .shutdown => some { service with pool := shutdown service.pool }

/-- The constructor; `hardware` is the number of processors. -/
def constructed (hardware : Nat) (clock : Int) : Service where
  settings := { minSize := hardware, maxSize := hardware * 2, maxIdleTime := 60 * 3, opNum := 4 }
  pool := {
    connQueue := [], mutex := none, waiting := [], currentSize := 0, initialized := false,
    stats := {}, clock := clock, attempts := 0, failures := 0, destroyed := [] }
  guards := []

def stock (pool : Pool) : Stock where
  size := pool.currentSize
  idle := pool.connQueue.map Entry.conn
  gone := pool.destroyed
  attempts := pool.attempts

def depot (service : Service) : Depot where
  stock := stock service.pool
  limit := service.settings.maxSize
  running := service.pool.initialized
  holders := service.guards

/-- How many connections a call of `get_connection` asks the factory for. -/
def creations (settings : Settings) (pool : Pool) : Nat :=
  if pool.initialized = true ∧ pool.connQueue = [] ∧ pool.currentSize < settings.maxSize then
    (min (settings.maxSize - pool.currentSize) settings.opNum).toNat
  else 0

/-- The calls of the factory from number `first` on all return a connection. -/
def delivers (factory : Factory) (first count : Nat) : Prop :=
  ∀ attempt, first ≤ attempt → attempt < first + count → factory attempt = true

/-- The factory does not fail, nobody has a connection when the pool is shut down, and an
`init` makes no more than there is room for. -/
def keepsBooks (factory : Factory) (service : Service) : Call → Prop
  | .init sizes =>
      let settings := sizes.getD service.settings
      delivers factory service.pool.attempts settings.minSize.toNat ∧
        ((depot service).existing : Int) + settings.minSize.toNat ≤ settings.maxSize
  | .getConnection _ _ =>
      delivers factory service.pool.attempts (creations service.settings service.pool)
  | .release guard status =>
      ∀ conn, service.guards[guard]? = some (some conn) → status ≠ .healthy →
        service.pool.currentSize - 1 < service.settings.minSize →
          factory service.pool.attempts = true
  | .shutdown => lent id service.guards = 0
  | .recycle _ | .wait _ => True

def readsLive (service : Service) : Call → Bool
  | .recycle _ => !pushesBack service.settings.minSize service.settings.maxIdleTime service.pool
  | _ => true

/-! ## What the calls do to the stock -/

theorem stock_create (succeeds : Bool) (pool : Pool) :
    stock (createConnection succeeds pool) = (stock pool).attempt succeeds 1 := by
  unfold stock Stock.attempt createConnection
  cases succeeds with
  | true => simp only [if_true, List.map_append, List.map_singleton]
  | false => simp only [Bool.false_eq_true, if_false]

theorem exchange_create {factory : Factory} {pool : Pool} {succeeds : Bool}
    (answer : factory pool.attempts = succeeds) :
    Exchange factory (stock pool) none (stock (createConnection succeeds pool)) none
      (indicator (!succeeds)) := by
  rw [stock_create]
  apply exchange_attempt answer
  cases succeeds <;> rfl

theorem create_attempts (succeeds : Bool) (pool : Pool) :
    (createConnection succeeds pool).attempts = pool.attempts + 1 := by
  cases succeeds <;> rfl

/-- What the loop over the factory keeps; `phantom` counts its failures. -/
structure Growth (factory : Factory) (pool : Pool) (count : Nat) (after : Pool) : Prop where
  exchange : Exchange factory (stock pool) none (stock after) none
    (misses factory pool.attempts count)
  size : after.currentSize = pool.currentSize + count
  initialized : after.initialized = pool.initialized

theorem growth_refl (factory : Factory) (pool : Pool) : Growth factory pool 0 pool := by
  constructor
  · exact exchange_refl factory (stock pool) none
  · exact (Int.add_zero _).symm
  · rfl

theorem growth_create (factory : Factory) (count : Nat) (pool : Pool) :
    Growth factory pool count (createConnections factory count pool) := by
  induction count generalizing pool with
  | zero => exact growth_refl factory pool
  | succ count ih =>
      unfold createConnections
      have here : Exchange factory (stock pool) none
          (stock (createConnection (factory pool.attempts) pool)) none
          (indicator (!factory pool.attempts)) := exchange_create rfl
      have later := ih (createConnection (factory pool.attempts) pool)
      constructor
      · have rest := later.exchange
        rw [create_attempts] at rest
        exact exchange_trans here rest
      · rw [later.size, Accounting.create_size]
        push_cast
        omega
      · rw [later.initialized, create_initialized]

theorem growth_expand (settings : Settings) (factory : Factory) {pool : Pool}
    (on : pool.initialized = true) :
    Growth factory pool (creations settings pool) (expandWhenEmpty settings factory pool) := by
  unfold creations expandWhenEmpty
  by_cases expands : pool.connQueue = [] ∧ pool.currentSize < settings.maxSize
  · rw [if_pos ⟨on, expands⟩, if_pos expands]
    unfold expandConnections
    dsimp only
    split
    · next nothing =>
        rw [Int.toNat_of_nonpos nothing]
        exact growth_refl factory pool
    · have grown := growth_create factory
        (min (settings.maxSize - pool.currentSize) settings.opNum).toNat pool
      exact ⟨grown.exchange, grown.size, grown.initialized⟩
  · rw [if_neg fun all => expands all.2, if_neg expands]
    exact growth_refl factory pool

theorem wait_stock (timedOut : Bool) (ms : Nat) (pool : Pool) :
    stock (waitInVain timedOut ms pool) = stock pool := by
  cases timedOut <;> rfl

theorem creations_off {settings : Settings} {pool : Pool} (off : pool.initialized = false) :
    creations settings pool = 0 := by
  unfold creations
  rw [off, if_neg fun all => Bool.false_ne_true all.1]

theorem exchange_get (settings : Settings) (factory : Factory) (timedOut : Bool) (ms : Nat)
    (pool : Pool) :
    Exchange factory (stock pool) none
      (stock (getConnection settings factory timedOut ms pool).1)
      (getConnection settings factory timedOut ms pool).2
      (misses factory pool.attempts (creations settings pool)) := by
  unfold getConnection
  split
  · next off =>
      rw [creations_off off]
      exact exchange_refl factory (stock pool) none
  · next on =>
      have grown := (growth_expand settings factory (Bool.not_eq_false _ ▸ on)).exchange
      dsimp only
      split
      · rw [wait_stock]
        exact grown
      · next entry rest front =>
          have first : (stock (expandWhenEmpty settings factory pool)).idle =
              entry.conn :: rest.map Entry.conn := by
            unfold stock
            rw [front, List.map_cons]
          exact exchange_trans grown (exchange_take factory first)

theorem get_size (settings : Settings) (factory : Factory) (timedOut : Bool) (ms : Nat)
    (pool : Pool) :
    (getConnection settings factory timedOut ms pool).1.currentSize =
      pool.currentSize + creations settings pool := by
  unfold getConnection
  split
  · next off =>
      rw [creations_off off]
      exact (Int.add_zero _).symm
  · next on =>
      have grown := (growth_expand settings factory (Bool.not_eq_false _ ▸ on)).size
      dsimp only
      split
      · have same := congrArg Stock.size
          (wait_stock timedOut ms (expandWhenEmpty settings factory pool))
        exact same.trans grown
      · exact grown

theorem get_initialized (settings : Settings) (factory : Factory) (timedOut : Bool) (ms : Nat)
    (pool : Pool) :
    (getConnection settings factory timedOut ms pool).1.initialized = pool.initialized := by
  unfold getConnection
  split
  · rfl
  · next on =>
      have grown := (growth_expand settings factory (Bool.not_eq_false _ ▸ on)).initialized
      dsimp only
      split
      · cases timedOut <;> exact grown
      · exact grown

theorem exchange_healthy (factory : Factory) (conn : Conn) (pool : Pool) :
    Exchange factory (stock pool) (some conn) (stock (giveBackHealthy conn pool)) none 0 := by
  have put : stock (giveBackHealthy conn pool) = (stock pool).put conn := by
    unfold giveBackHealthy recordIdle stock Stock.put
    dsimp only
    rw [List.map_append, List.map_singleton]
  rw [put]
  exact exchange_put factory (stock pool) conn

def replenishMisses (settings : Settings) (factory : Factory) (pool : Pool) : Nat :=
  if pool.currentSize - 1 < settings.minSize then indicator (!factory pool.attempts) else 0

theorem exchange_unhealthy (settings : Settings) (factory : Factory) (conn : Conn) (pool : Pool) :
    Exchange factory (stock pool) (some conn)
      (stock (recordIdle (replenish settings factory (giveUp conn pool)))) none
      (replenishMisses settings factory pool) := by
  have gone : Exchange factory (stock pool) (some conn) (stock (giveUp conn pool)) none 0 :=
    exchange_discard factory (stock pool) conn
  have size : (giveUp conn pool).currentSize = pool.currentSize - 1 := rfl
  have filled : Exchange factory (stock (giveUp conn pool)) none
      (stock (replenish settings factory (giveUp conn pool))) none
      (replenishMisses settings factory pool) := by
    unfold replenish replenishMisses
    rw [size]
    split
    · exact exchange_create rfl
    · exact exchange_refl factory _ none
  have whole := exchange_trans gone filled
  rw [Nat.zero_add] at whole
  exact whole

theorem unhealthy_size (settings : Settings) (factory : Factory) (conn : Conn) (pool : Pool) :
    (recordIdle (replenish settings factory (giveUp conn pool))).currentSize ≤
      pool.currentSize := by
  have size : (giveUp conn pool).currentSize = pool.currentSize - 1 := rfl
  dsimp only [recordIdle]
  unfold replenish
  split
  · rw [Accounting.create_size]
    omega
  · omega

theorem unhealthy_initialized (settings : Settings) (factory : Factory) (conn : Conn)
    (pool : Pool) :
    (recordIdle (replenish settings factory (giveUp conn pool))).initialized =
      pool.initialized := by
  dsimp only [recordIdle]
  unfold replenish
  split
  · exact create_initialized _ _
  · rfl

theorem exchange_recycle {minSize maxIdleTime : Int} (factory : Factory) {pool : Pool}
    (reads : List Entry) (kept : pushesBack minSize maxIdleTime pool = false) :
    Exchange factory (stock pool) none
      (stock (recycleIdleConnections minSize maxIdleTime reads pool)) none 0 := by
  have moved : ((pool.connQueue.take (excessIn minSize maxIdleTime pool)).map Entry.conn ++
      (pool.connQueue.drop (excessIn minSize maxIdleTime pool)).map Entry.conn).Perm
        (stock pool).idle := by
    rw [← List.map_append, List.take_append_drop]
    exact List.Perm.refl _
  have retired := exchange_retire_all factory (stock pool) moved
  rw [List.length_map] at retired
  rw [recycle_eq, sweep_kept reads kept]
  dsimp only
  split
  · exact retired
  · exact retired

theorem recycle_less (minSize maxIdleTime : Int) (reads : List Entry) (pool : Pool) :
    (recycleIdleConnections minSize maxIdleTime reads pool).currentSize ≤ pool.currentSize := by
  rw [(recycled minSize maxIdleTime reads pool).size]
  omega

/-! ## What the calls do to the books -/

/-- The failures of the factory during a call, each of which is counted as a connection. -/
def phantoms (factory : Factory) (service : Service) : Call → Nat
  | .init sizes =>
      misses factory service.pool.attempts (sizes.getD service.settings).minSize.toNat
  | .getConnection _ _ =>
      misses factory service.pool.attempts (creations service.settings service.pool)
  | .release guard status =>
      match service.guards[guard]? with
      | some (some _) =>
          if status = .healthy then 0 else replenishMisses service.settings factory service.pool
      | _ => 0
  | _ => 0

theorem growth_init (factory : Factory) (sizes : Option Settings) (service : Service) :
    Growth factory { service.pool with initialized := true }
      (sizes.getD service.settings).minSize.toNat (init factory sizes service).pool := by
  have grown := growth_create factory (sizes.getD service.settings).minSize.toNat
    { service.pool with initialized := true }
  exact ⟨grown.exchange, grown.size, grown.initialized⟩

theorem trade_init (factory : Factory) (sizes : Option Settings) (service : Service) :
    Trade factory (depot service) (depot (init factory sizes service))
      (phantoms factory service (.init sizes)) := by
  have growth := growth_init factory sizes service
  have stopped : (init factory sizes service).pool.initialized = false →
      service.pool.initialized = false ∧
        (init factory sizes service).pool.currentSize ≤ service.pool.currentSize := by
    rw [growth.initialized]
    intro impossible
    cases impossible
  exact trade_inside growth.exchange stopped

theorem trade_get (factory : Factory) (service : Service) (timedOut : Bool) (ms : Nat) :
    Trade factory (depot service)
      (depot { service with
        pool := (getConnection service.settings factory timedOut ms service.pool).1
        guards := service.guards ++
          [(getConnection service.settings factory timedOut ms service.pool).2] })
      (phantoms factory service (.getConnection timedOut ms)) := by
  have stopped :
      (getConnection service.settings factory timedOut ms service.pool).1.initialized = false →
        service.pool.initialized = false ∧
          (getConnection service.settings factory timedOut ms service.pool).1.currentSize ≤
            service.pool.currentSize := by
    rw [get_initialized, get_size]
    intro off
    rw [creations_off off]
    exact ⟨off, Int.le_of_eq (Int.add_zero _)⟩
  exact trade_new (exchange_get service.settings factory timedOut ms service.pool) stopped

theorem trade_release {factory : Factory} {service : Service} {guard : Nat} {conn : Conn}
    (status : HealthStatus) (found : service.guards[guard]? = some (some conn)) :
    Trade factory (depot service)
      (depot { service with
        pool := returnConnection service.settings factory conn status service.pool
        guards := service.guards.set guard none })
      (phantoms factory service (.release guard status)) := by
  unfold phantoms returnConnection
  dsimp only
  rw [found]
  dsimp only
  split
  · exact trade_back found (exchange_healthy factory conn service.pool)
      fun off => ⟨off, Int.le_refl _⟩
  · have stopped : (recordIdle (replenish service.settings factory
        (giveUp conn service.pool))).initialized = false →
          service.pool.initialized = false ∧ (recordIdle (replenish service.settings factory
            (giveUp conn service.pool))).currentSize ≤ service.pool.currentSize := by
      rw [unhealthy_initialized]
      intro off
      exact ⟨off, unhealthy_size service.settings factory conn service.pool⟩
    exact trade_back found (exchange_unhealthy service.settings factory conn service.pool) stopped

theorem trade_recycle (factory : Factory) {service : Service} (reads : List Entry)
    (live : readsLive service (.recycle reads) = true) :
    Trade factory (depot service)
      (depot { service with
        pool := recycleIdleConnections service.settings.minSize service.settings.maxIdleTime reads
          service.pool }) 0 := by
  have kept : pushesBack service.settings.minSize service.settings.maxIdleTime service.pool =
      false := by simpa [readsLive] using live
  have left := recycled service.settings.minSize service.settings.maxIdleTime reads service.pool
  apply trade_inside (exchange_recycle factory reads kept)
  intro off
  exact ⟨left.initialized.symm.trans off, recycle_less _ _ reads service.pool⟩

theorem trade_step {factory : Factory} {service after : Service} {call : Call}
    (taken : step factory service call = some after) (live : readsLive service call = true)
    (running : call ≠ .shutdown) :
    Trade factory (depot service) (depot after) (phantoms factory service call) := by
  cases call with
  | init sizes =>
      obtain rfl := Option.some.inj taken
      exact trade_init factory sizes service
  | getConnection timedOut ms =>
      obtain rfl := Option.some.inj taken
      exact trade_get factory service timedOut ms
  | release guard status =>
      dsimp only [step] at taken
      split at taken
      · next conn found =>
          obtain rfl := Option.some.inj taken
          exact trade_release status found
      · next found =>
          obtain rfl := Option.some.inj taken
          unfold phantoms
          dsimp only
          rw [found]
          exact trade_refl factory (depot service)
      · cases taken
  | recycle reads =>
      obtain rfl := Option.some.inj taken
      exact trade_recycle factory reads live
  | wait ticks =>
      obtain rfl := Option.some.inj taken
      exact trade_refl factory (depot service)
  | shutdown => exact absurd rfl running

theorem shutdown_closes {factory : Factory} {service after : Service}
    (taken : step factory service .shutdown = some after) :
    depot after = (depot service).close := by
  obtain rfl := Option.some.inj taken
  rfl

theorem kept_step {factory : Factory} {service after : Service} {call : Call}
    (kept : Kept factory (depot service)) (live : readsLive service call = true)
    (taken : step factory service call = some after) : Kept factory (depot after) := by
  by_cases stops : call = .shutdown
  · subst stops
    rw [shutdown_closes taken]
    exact kept_close kept
  · exact kept_trade kept (trade_step taken live stops)

theorem creations_bounded {settings : Settings} {pool : Pool}
    (bounded : pool.currentSize ≤ settings.maxSize) :
    pool.currentSize + creations settings pool ≤ settings.maxSize := by
  unfold creations
  split <;> omega

theorem release_keeps_iff (factory : Factory) (service : Service) (guard : Nat)
    (status : HealthStatus) :
    phantoms factory service (.release guard status) = 0 ↔
      keepsBooks factory service (.release guard status) := by
  unfold phantoms keepsBooks replenishMisses
  dsimp only
  cases service.guards[guard]? with
  | none => simp
  | some slot =>
      cases slot with
      | none => simp
      | some conn =>
          by_cases healthy : status = .healthy
          · simp [healthy]
          · cases factory service.pool.attempts <;> simp [healthy]

instance (factory : Factory) (first count : Nat) : Decidable (delivers factory first count) :=
  decidable_of_iff (misses factory first count = 0) (misses_eq_zero_iff factory first count)

instance (factory : Factory) (service : Service) :
    (call : Call) → Decidable (keepsBooks factory service call)
  | .init _ => instDecidableAnd
  | .getConnection _ _ => inferInstanceAs (Decidable (delivers _ _ _))
  | .release guard status => decidable_of_iff _ (release_keeps_iff factory service guard status)
  | .shutdown => Nat.decEq _ _
  | .recycle _ | .wait _ => isTrue True.intro

theorem keeps_step_iff {factory : Factory} {service after : Service} {call : Call}
    (lawful : Lawful factory (depot service)) (taken : step factory service call = some after)
    (running : call ≠ .shutdown) :
    phantoms factory service call = 0 ∧ after.pool.currentSize ≤ after.settings.maxSize ↔
      keepsBooks factory service call := by
  have counted : service.pool.currentSize = (depot service).existing := lawful.counted
  have bounded : service.pool.currentSize ≤ service.settings.maxSize := by
    rw [counted]
    exact lawful.bounded
  cases call with
  | init sizes =>
      obtain rfl := Option.some.inj taken
      have size : (init factory sizes service).pool.currentSize =
          service.pool.currentSize + (sizes.getD service.settings).minSize.toNat :=
        (growth_init factory sizes service).size
      rw [size, counted]
      exact and_congr (misses_eq_zero_iff _ _ _) Iff.rfl
  | getConnection timedOut ms =>
      obtain rfl := Option.some.inj taken
      dsimp only
      rw [get_size]
      have within := creations_bounded bounded
      exact (and_iff_left within).trans (misses_eq_zero_iff _ _ _)
  | release guard status =>
      rw [← release_keeps_iff]
      apply and_iff_left
      dsimp only [step] at taken
      split at taken
      · obtain rfl := Option.some.inj taken
        dsimp only
        unfold returnConnection
        split
        · exact bounded
        · exact Int.le_trans (unhealthy_size _ _ _ _) bounded
      · obtain rfl := Option.some.inj taken
        exact bounded
      · cases taken
  | recycle reads =>
      obtain rfl := Option.some.inj taken
      have less := recycle_less service.settings.minSize service.settings.maxIdleTime reads
        service.pool
      exact iff_of_true ⟨rfl, Int.le_trans less bounded⟩ True.intro
  | wait ticks =>
      obtain rfl := Option.some.inj taken
      exact iff_of_true ⟨rfl, bounded⟩ True.intro
  | shutdown => exact absurd rfl running

theorem lawful_step_iff {factory : Factory} {service after : Service} {call : Call}
    (kept : Kept factory (depot service)) (lawful : Lawful factory (depot service))
    (live : readsLive service call = true) (taken : step factory service call = some after) :
    Lawful factory (depot after) ↔ keepsBooks factory service call := by
  by_cases stops : call = .shutdown
  · subst stops
    rw [shutdown_closes taken]
    exact lawful_close_iff kept lawful
  · rw [lawful_trade_iff kept lawful (trade_step taken live stops)]
    exact keeps_step_iff lawful taken stops

theorem kept_constructed (factory : Factory) (hardware : Nat) (clock : Int) :
    Kept factory (depot (constructed hardware clock)) := by
  constructor
  · intro conn
    simp [stored, made, lentTo, stock, depot, constructed]
  · intro _
    exact Int.le_refl 0

theorem lawful_constructed (factory : Factory) (hardware : Nat) (clock : Int) :
    Lawful factory (depot (constructed hardware clock)) := by
  apply (lawful_iff (kept_constructed factory hardware clock)).mpr
  constructor
  · rfl
  · dsimp only [depot, constructed, stock]
    omega

/-- In every history of calls in which no popped entry is read: the books are right
throughout if and only if the factory does not fail, each shutdown finds no connection with
a guard and each `init` makes no more than there is room for. -/
theorem lawful_iff_keeps_books (factory : Factory) (hardware : Nat) (clock : Int)
    {trail : List (Service × Call)} {last : Service}
    (path : Path (step factory) (constructed hardware clock) trail last)
    (live : ∀ taken ∈ trail, readsLive taken.1 taken.2 = true) :
    (∀ service ∈ visited trail last, Lawful factory (depot service)) ↔
      ∀ taken ∈ trail, keepsBooks factory taken.1 taken.2 := by
  apply path_property_iff_good (fun service => Kept factory (depot service))
    (fun service => Lawful factory (depot service)) (keepsBooks factory)
    (kept_constructed factory hardware clock) (lawful_constructed factory hardware clock) _ _
    (path_restrict path live)
  · intro service call after kept taken
    obtain ⟨alive, stepped⟩ := restrict_cases taken
    exact kept_step kept alive stepped
  · intro service call after kept lawful taken
    obtain ⟨alive, stepped⟩ := restrict_cases taken
    exact lawful_step_iff kept lawful alive stepped

end BackendComponents.RedisPool.Lifecycle
