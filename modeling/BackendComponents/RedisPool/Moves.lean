import BackendComponents.RedisPool.Model

/-!
# What one step of a caller can do

The steps of `get_connection` and `return_connection` as relations with one constructor
for each branch of the source.
-/

namespace BackendComponents.RedisPool.Moves

open BackendComponents.Lib.Threads
open BackendComponents.RedisPool.Model

set_option autoImplicit false

inductive GetMove (cfg : Config) (id : Nat) (pool : Pool) :
    GetPc → Answer → Pool → GetPc → Prop
  | refused (uninitialised : pool.initialized = false) :
      GetMove cfg id pool .enter .go pool (.returned none)
  | lock (free : pool.mutex = none) :
      GetMove cfg id pool .enter .go { pool with mutex := some id } .testExpand
  | expand (empty : pool.connQueue = []) (below : pool.currentSize < cfg.maxSize)
      (creates : 0 < toCreate cfg pool) :
      GetMove cfg id pool .testExpand .go pool (.expanding (toCreate cfg pool).toNat)
  | noExpand (skip : ¬(pool.connQueue = [] ∧ pool.currentSize < cfg.maxSize ∧
      0 < toCreate cfg pool)) :
      GetMove cfg id pool .testExpand .go pool .testEmpty
  | create (succeeds : Bool) (waiter left : Nat) :
      GetMove cfg id pool (.expanding (left + 1)) (.created succeeds waiter) (createConnection succeeds pool)
        (.expanding left)
  | expanded : GetMove cfg id pool (.expanding 0) .go (recordSizes pool) .testEmpty
  | block (empty : pool.connQueue = []) :
      GetMove cfg id pool .testEmpty .go { pool with
        mutex := none
        waiting := pool.waiting ++ [id]
        stats := { pool.stats with pendingWaiters := pool.stats.pendingWaiters + 1 } } .waiting
  | found (nonempty : pool.connQueue ≠ []) : GetMove cfg id pool .testEmpty .go pool .take
  | notified (unblocked : id ∉ pool.waiting) :
      GetMove cfg id pool .waiting .go pool (.relock false)
  | woken (timedOut : Bool) :
      GetMove cfg id pool .waiting (.woken timedOut) { pool with waiting := pool.waiting.erase id }
        (.relock timedOut)
  | relock (timedOut : Bool) (free : pool.mutex = none) :
      GetMove cfg id pool (.relock timedOut) .go { pool with
        mutex := some id
        stats := { pool.stats with pendingWaiters := pool.stats.pendingWaiters - 1 } }
        (.awake timedOut)
  | timeout (ms : Nat) (empty : pool.connQueue = []) :
      GetMove cfg id pool (.awake true) (.waited ms) { pool with
        mutex := none
        stats := { pool.stats with totalTimeoutErrors := pool.stats.totalTimeoutErrors + 1 } }
        (.returned none)
  | waited (timedOut : Bool) (ms : Nat)
      (served : ¬(timedOut = true ∧ pool.connQueue = [])) :
      GetMove cfg id pool (.awake timedOut) (.waited ms) { pool with stats := recordWait ms pool.stats } .take
  | takeNone (empty : pool.connQueue = []) :
      GetMove cfg id pool .take .go { pool with mutex := none } (.returned none)
  | take (entry : Entry) (rest : List Entry) (front : pool.connQueue = entry :: rest) :
      GetMove cfg id pool .take .go { pool with
        connQueue := rest
        mutex := none
        stats := { pool.stats with
          totalBorrowed := pool.stats.totalBorrowed + 1
          activeConnections := pool.stats.activeConnections + 1
          idleConnections := rest.length } } (.returned (some entry.conn))

theorem get_move_of_step {cfg : Config} {id : Nat} {pool : Pool} {pc : GetPc} {answer : Answer}
    {result : Pool × GetPc} (taken : getStep cfg id pool pc answer = some result) :
    GetMove cfg id pool pc answer result.1 result.2 := by
  unfold getStep at taken
  split at taken
  · split at taken
    · next uninitialised =>
        obtain rfl := Option.some.inj taken
        exact .refused uninitialised
    · split at taken
      · next free =>
          obtain rfl := Option.some.inj taken
          exact .lock free
      · cases taken
  · split at taken
    · next expands =>
        obtain rfl := Option.some.inj taken
        exact .expand expands.1 expands.2.1 expands.2.2
    · next skip =>
        obtain rfl := Option.some.inj taken
        exact .noExpand skip
  · obtain rfl := Option.some.inj taken
    exact .create _ _ _
  · obtain rfl := Option.some.inj taken
    exact .expanded
  · split at taken
    · next empty =>
        obtain rfl := Option.some.inj taken
        exact .block empty
    · next nonempty =>
        obtain rfl := Option.some.inj taken
        exact .found nonempty
  · split at taken
    · cases taken
    · next unblocked =>
        obtain rfl := Option.some.inj taken
        exact .notified unblocked
  · obtain rfl := Option.some.inj taken
    exact .woken _
  · split at taken
    · next free =>
        obtain rfl := Option.some.inj taken
        exact .relock _ free
    · cases taken
  · split at taken
    · next expired =>
        obtain ⟨rfl, empty⟩ := expired
        obtain rfl := Option.some.inj taken
        exact .timeout _ empty
    · next served =>
        obtain rfl := Option.some.inj taken
        exact .waited _ _ served
  · split at taken
    · next empty =>
        obtain rfl := Option.some.inj taken
        exact .takeNone empty
    · next entry rest front =>
        obtain rfl := Option.some.inj taken
        exact .take entry rest front
  · cases taken

inductive ReturnMove (cfg : Config) (id : Nat) (pool : Pool) :
    ReturnPc → Answer → Pool → ReturnPc → Prop
  | healthy (conn : Conn) :
      ReturnMove cfg id pool (.check conn) (.health .healthy) pool (.push conn)
  | unhealthy (conn : Conn) (status : HealthStatus) (sick : status ≠ .healthy) :
      ReturnMove cfg id pool (.check conn) (.health status) pool (.destroy conn)
  | push (conn : Conn) (waiter : Nat) (waiting : List Nat) (free : pool.mutex = none)
      (notified : notifyOne waiter pool.waiting = some waiting) :
      ReturnMove cfg id pool (.push conn) (.notified waiter) (recordIdle { pool with
        connQueue := pool.connQueue ++ [⟨conn, pool.clock⟩]
        waiting := waiting
        stats := { pool.stats with
          totalReleased := pool.stats.totalReleased + 1
          activeConnections := pool.stats.activeConnections - 1 } }) .returned
  | destroy (conn : Conn) :
      ReturnMove cfg id pool (.destroy conn) .go (deleteConnection conn pool)
        (.store pool.currentSize)
  | store (read : Int) : ReturnMove cfg id pool (.store read) .go (storeSize read pool) .lock
  | overwritten (read : Int) :
      ReturnMove cfg id pool (.store read) .overwritten (recordDestroyed pool) .lock
  | lock (free : pool.mutex = none) :
      ReturnMove cfg id pool .lock .go { pool with
        mutex := some id
        stats := { pool.stats with
          totalReconnectCount := pool.stats.totalReconnectCount + 1
          activeConnections := pool.stats.activeConnections - 1
          totalReleased := pool.stats.totalReleased + 1 } } .testMin
  | below (short : pool.currentSize < cfg.minSize) :
      ReturnMove cfg id pool .testMin .go pool .replenish
  | enough (full : ¬pool.currentSize < cfg.minSize) :
      ReturnMove cfg id pool .testMin .go pool .finish
  | replenishNull (waiter : Nat) :
      ReturnMove cfg id pool .replenish (.created false waiter) (createConnection false pool)
        .finish
  | replenish (waiter : Nat) (waiting : List Nat)
      (notified : notifyOne waiter pool.waiting = some waiting) :
      ReturnMove cfg id pool .replenish (.created true waiter)
        { createConnection true pool with waiting := waiting } .finish
  | finish : ReturnMove cfg id pool .finish .go { recordIdle pool with mutex := none } .returned

theorem return_move_of_step {cfg : Config} {id : Nat} {pool : Pool} {pc : ReturnPc}
    {answer : Answer} {result : Pool × ReturnPc}
    (taken : returnStep cfg id pool pc answer = some result) :
    ReturnMove cfg id pool pc answer result.1 result.2 := by
  unfold returnStep at taken
  split at taken
  · obtain rfl := Option.some.inj taken
    dsimp only
    split
    · next healthy =>
        subst healthy
        exact .healthy _
    · next sick => exact .unhealthy _ _ sick
  · split at taken
    · next free =>
        obtain ⟨waiting, notified, rfl⟩ := Option.map_eq_some_iff.mp taken
        exact .push _ _ waiting free notified
    · cases taken
  · obtain rfl := Option.some.inj taken
    exact .destroy _
  · obtain rfl := Option.some.inj taken
    exact .store _
  · obtain rfl := Option.some.inj taken
    exact .overwritten _
  · split at taken
    · next free =>
        obtain rfl := Option.some.inj taken
        exact .lock free
    · cases taken
  · obtain rfl := Option.some.inj taken
    dsimp only
    split
    · next short => exact .below short
    · next full => exact .enough full
  · obtain ⟨after, made, rfl⟩ := Option.map_eq_some_iff.mp taken
    unfold replenished at made
    dsimp only at made
    split at made
    · next succeeded =>
        subst succeeded
        obtain ⟨waiting, notified, rfl⟩ := Option.map_eq_some_iff.mp made
        exact .replenish _ waiting notified
    · next failed =>
        obtain rfl := Bool.eq_false_iff.mpr failed
        obtain rfl := Option.some.inj made
        exact .replenishNull _
  · obtain rfl := Option.some.inj taken
    exact .finish
  · cases taken

inductive CallerMove (cfg : Config) (id : Nat) (pool : Pool) (answer : Answer) :
    Caller → Pool → Caller → Prop
  | get {pc after : GetPc} {moved : Pool} (move : GetMove cfg id pool pc answer moved after) :
      CallerMove cfg id pool answer (.getting pc) moved (afterGet after)
  | giveBack {pc after : ReturnPc} {moved : Pool}
      (move : ReturnMove cfg id pool pc answer moved after) :
      CallerMove cfg id pool answer (.returning pc) moved (afterReturn after)

theorem caller_move_of_step {cfg : Config} {id : Nat} {pool : Pool} {caller : Caller}
    {answer : Answer} {result : Pool × Caller}
    (taken : callerStep cfg id pool answer caller = some result) :
    CallerMove cfg id pool answer caller result.1 result.2 := by
  cases caller with
  | idle => cases taken
  | holding conn => cases taken
  | getting pc =>
      obtain ⟨moved, stepped, rfl⟩ := Option.map_eq_some_iff.mp taken
      exact .get (get_move_of_step stepped)
  | returning pc =>
      obtain ⟨moved, stepped, rfl⟩ := Option.map_eq_some_iff.mp taken
      exact .giveBack (return_move_of_step stepped)

inductive Move (cfg : Config) (state : State) : Action → State → Prop
  | call (id : Nat) (found : state.callers[id]? = some .idle) :
      Move cfg state (.call id) (moveCaller state id (state.pool, .getting .enter))
  | release (id : Nat) (conn : Conn) (found : state.callers[id]? = some (.holding conn)) :
      Move cfg state (.release id) (moveCaller state id (state.pool, .returning (.check conn)))
  | caller (id : Nat) (answer : Answer) (caller : Caller) (moved : Pool × Caller)
      (found : state.callers[id]? = some caller)
      (stepped : callerStep cfg id state.pool answer caller = some moved) :
      Move cfg state (.caller id answer) (moveCaller state id moved)
  | recycle (reads : List Entry) (free : state.pool.mutex = none) :
      Move cfg state (.recycle reads) { state with
        pool := recycleIdleConnections cfg.minSize cfg.maxIdleTime reads state.pool }
  | wait (ticks : Nat) :
      Move cfg state (.wait ticks)
        { state with pool := { state.pool with clock := state.pool.clock + ticks } }

theorem move_of_step {cfg : Config} {state after : State} {action : Action}
    (taken : step cfg state action = some after) : Move cfg state action after := by
  cases action with
  | call id =>
      dsimp only [step] at taken
      split at taken
      · next found =>
          obtain rfl := Option.some.inj taken
          exact .call id found
      · cases taken
  | release id =>
      dsimp only [step] at taken
      split at taken
      · next conn found =>
          obtain rfl := Option.some.inj taken
          exact .release id conn found
      · cases taken
  | caller id answer =>
      obtain ⟨caller, found, continued⟩ := Option.bind_eq_some_iff.mp taken
      obtain ⟨moved, stepped, rfl⟩ := Option.map_eq_some_iff.mp continued
      exact .caller id answer caller moved found stepped
  | recycle reads =>
      dsimp only [step] at taken
      split at taken
      · next free =>
          obtain rfl := Option.some.inj taken
          exact .recycle reads free
      · cases taken
  | wait ticks =>
      obtain rfl := Option.some.inj taken
      exact .wait ticks

end BackendComponents.RedisPool.Moves
