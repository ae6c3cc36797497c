import BackendComponents.Lib.Paths
import BackendComponents.Lib.Threads

/-!
# The Redis connection pool

A transcription of `RedisConnectionPool.cpp`. Under `m_mutex` one step is what no other
thread can tell apart from it: `destroy_connection` runs without the mutex in
`return_connection`, so the reads of `m_current_size` and the creations that follow them
are steps of their own. There `m_current_size--` is a read and a store, and what others
write in between is lost. A write under the mutex is one step; a store that falls into one
is overwritten. The section of a healthy return and the loop of the recycler are each one
step.

A connection is named by its place in the order of creation. What the factory, the health
check, the condition variable and the clock answer is an input of the step.

The recycler puts an entry back through a reference that `pop` has made invalid. What it
reads there is undefined, so the entries read are an input as well. A pointer that is no
connection is a number like any other.
-/

namespace BackendComponents.RedisPool.Model

open BackendComponents.Lib.Threads

set_option autoImplicit false

/-- The arguments of `init` that the pool uses, in seconds and connections. -/
structure Config where
  minSize : Int
  maxSize : Int
  maxIdleTime : Int
  opNum : Int
  ordered : 0 ≤ minSize ∧ minSize ≤ maxSize
  deriving DecidableEq, Repr

abbrev Conn := Nat

/-- A connection in `m_conn_queue` with the time of its last use, in ticks. -/
structure Entry where
  conn : Conn
  lastUse : Int
  deriving DecidableEq, Repr

inductive HealthStatus
  | healthy
  | unhealthy
  | unknown
  deriving DecidableEq, Repr

/-- `PoolStatistics` without its two timestamps. -/
structure PoolStatistics where
  activeConnections : Int := 0
  idleConnections : Int := 0
  totalConnections : Int := 0
  totalBorrowed : Int := 0
  totalReleased : Int := 0
  totalCreated : Int := 0
  totalDestroyed : Int := 0
  totalTimeoutErrors : Int := 0
  totalReconnectCount : Int := 0
  pendingWaiters : Int := 0
  avgWaitTimeMs : Int := 0
  maxWaitTimeMs : Int := 0
  deriving DecidableEq, Repr

/-- The members. `waiting` are the threads blocked in `m_cv_empty`; `attempts` counts the
calls of the factory, `failures` those that returned null, and `destroyed` lists the
connections deleted. -/
structure Pool where
  connQueue : List Entry
  mutex : Option Nat
  waiting : List Nat
  currentSize : Int
  initialized : Bool
  stats : PoolStatistics
  clock : Int
  attempts : Nat
  failures : Nat
  destroyed : List Conn
  deriving DecidableEq, Repr

/-- What a step is told from outside the pool. `overwritten` is a store of `m_current_size--`
that a write under the mutex does not see. -/
inductive Answer
  | go
  | created (succeeds : Bool) (notified : Nat)
  | health (status : HealthStatus)
  | notified (waiter : Nat)
  | woken (timedOut : Bool)
  | waited (ms : Nat)
  | overwritten
  deriving DecidableEq, Repr

/-- `create_connection`; the connection is pushed unless it is null. -/
def createConnection (succeeds : Bool) (pool : Pool) : Pool :=
  let made := { pool with
    attempts := pool.attempts + 1
    currentSize := pool.currentSize + 1
    stats := { pool.stats with totalCreated := pool.stats.totalCreated + 1 } }
  if succeeds then
    { made with connQueue := made.connQueue ++ [⟨pool.attempts, pool.clock⟩] }
  else { made with failures := made.failures + 1 }

def deleteConnection (conn : Conn) (pool : Pool) : Pool :=
  { pool with destroyed := pool.destroyed ++ [conn] }

def recordDestroyed (pool : Pool) : Pool :=
  { pool with stats := { pool.stats with totalDestroyed := pool.stats.totalDestroyed + 1 } }

def storeSize (read : Int) (pool : Pool) : Pool :=
  recordDestroyed { pool with currentSize := read - 1 }

/-- `destroy_connection` under the mutex. -/
def destroyConnection (conn : Conn) (pool : Pool) : Pool :=
  storeSize pool.currentSize (deleteConnection conn pool)

def recordIdle (pool : Pool) : Pool :=
  { pool with stats := { pool.stats with idleConnections := pool.connQueue.length } }

def recordSizes (pool : Pool) : Pool :=
  { pool with stats := { pool.stats with
    idleConnections := pool.connQueue.length
    totalConnections := pool.currentSize } }

/-- The program points of `get_connection`; `returned` carries what the guard gets. -/
inductive GetPc
  | enter
  | testExpand
  | expanding (left : Nat)
  | testEmpty
  | waiting
  | relock (timedOut : Bool)
  | awake (timedOut : Bool)
  | take
  | returned (result : Option Conn)
  deriving DecidableEq, Repr

/-- `to_create` in `expand_connections` -/
def toCreate (cfg : Config) (pool : Pool) : Int :=
  min (cfg.maxSize - pool.currentSize) cfg.opNum

/-- The running mean is over `total_borrowed`, as the source has it. -/
def recordWait (ms : Nat) (stats : PoolStatistics) : PoolStatistics :=
  { stats with
    avgWaitTimeMs :=
      if 0 < stats.totalBorrowed then
        (stats.avgWaitTimeMs * (stats.totalBorrowed - 1) + ms) / stats.totalBorrowed
      else ms
    maxWaitTimeMs := if stats.maxWaitTimeMs < ms then ms else stats.maxWaitTimeMs }

def getStep (cfg : Config) (id : Nat) (pool : Pool) : GetPc → Answer → Option (Pool × GetPc)
  | .enter, .go =>
      if pool.initialized = false then some (pool, .returned none)
      else if pool.mutex = none then some ({ pool with mutex := some id }, .testExpand)
      else none
  | .testExpand, .go =>
      if pool.connQueue = [] ∧ pool.currentSize < cfg.maxSize ∧ 0 < toCreate cfg pool then
        some (pool, .expanding (toCreate cfg pool).toNat)
      else some (pool, .testEmpty)
  | .expanding (left + 1), .created succeeds _ =>
      some (createConnection succeeds pool, .expanding left)
  | .expanding 0, .go => some (recordSizes pool, .testEmpty)
  | .testEmpty, .go =>
      if pool.connQueue = [] then
        some ({ pool with
          mutex := none
          waiting := pool.waiting ++ [id]
          stats := { pool.stats with pendingWaiters := pool.stats.pendingWaiters + 1 } }, .waiting)
      else some (pool, .take)
  | .waiting, .go => if id ∈ pool.waiting then none else some (pool, .relock false)
  | .waiting, .woken timedOut =>
      -- the time is up, also after a notification, or a wake-up without one
      some ({ pool with waiting := pool.waiting.erase id }, .relock timedOut)
  | .relock timedOut, .go =>
      if pool.mutex = none then
        some ({ pool with
          mutex := some id
          stats := { pool.stats with pendingWaiters := pool.stats.pendingWaiters - 1 } },
          .awake timedOut)
      else none
  | .awake timedOut, .waited ms =>
      if timedOut = true ∧ pool.connQueue = [] then
        some ({ pool with
          mutex := none
          stats := { pool.stats with totalTimeoutErrors := pool.stats.totalTimeoutErrors + 1 } },
          .returned none)
      else some ({ pool with stats := recordWait ms pool.stats }, .take)
  | .take, .go =>
      match pool.connQueue with
      | [] => some ({ pool with mutex := none }, .returned none)
      | entry :: rest =>
          some ({ pool with
            connQueue := rest
            mutex := none
            stats := { pool.stats with
              totalBorrowed := pool.stats.totalBorrowed + 1
              activeConnections := pool.stats.activeConnections + 1
              idleConnections := rest.length } }, .returned (some entry.conn))
  | _, _ => none

/-- The program points of `return_connection`, with the connection until it is gone, and
then with the size that `m_current_size--` has read. -/
inductive ReturnPc
  | check (conn : Conn)
  | push (conn : Conn)
  | destroy (conn : Conn)
  | store (read : Int)
  | lock
  | testMin
  | replenish
  | finish
  | returned
  deriving DecidableEq, Repr

/-- The push of a replenished connection wakes a waiter; a null one is dropped. -/
def replenished (succeeds : Bool) (waiter : Nat) (pool : Pool) : Option Pool :=
  let created := createConnection succeeds pool
  if succeeds then
    (notifyOne waiter pool.waiting).map fun waiting => { created with waiting := waiting }
  else some created

def returnStep (cfg : Config) (id : Nat) (pool : Pool) :
    ReturnPc → Answer → Option (Pool × ReturnPc)
  | .check conn, .health status =>
      some (pool, if status = .healthy then .push conn else .destroy conn)
  | .push conn, .notified waiter =>
      if pool.mutex = none then
        (notifyOne waiter pool.waiting).map fun waiting =>
          (recordIdle { pool with
            connQueue := pool.connQueue ++ [⟨conn, pool.clock⟩]
            waiting := waiting
            stats := { pool.stats with
              totalReleased := pool.stats.totalReleased + 1
              activeConnections := pool.stats.activeConnections - 1 } }, .returned)
      else none
  | .destroy conn, .go => some (deleteConnection conn pool, .store pool.currentSize)
  | .store read, .go => some (storeSize read pool, .lock)
  | .store _, .overwritten => some (recordDestroyed pool, .lock)
  | .lock, .go =>
      if pool.mutex = none then
        some ({ pool with
          mutex := some id
          stats := { pool.stats with
            totalReconnectCount := pool.stats.totalReconnectCount + 1
            activeConnections := pool.stats.activeConnections - 1
            totalReleased := pool.stats.totalReleased + 1 } }, .testMin)
      else none
  | .testMin, .go =>
      some (pool, if pool.currentSize < cfg.minSize then .replenish else .finish)
  | .replenish, .created succeeds waiter =>
      (replenished succeeds waiter pool).map fun after => (after, .finish)
  | .finish, .go => some ({ recordIdle pool with mutex := none }, .returned)
  | _, _ => none

/-- `steady_clock` counts nanoseconds. -/
def ticksPerSecond : Int := 1000000000

/-- `duration_cast` to seconds drops the fraction. -/
def idleDuration (now lastUse : Int) : Int := (now - lastUse).tdiv ticksPerSecond

/-- The loop of `recycle_idle_connections` over `count` entries, `can` of which may go. For
an entry that is not idle long enough the next one of `reads` goes to the back, or, where
there is none, what the entry was. -/
def recycleLoop (maxIdleTime : Int) : List Entry → Nat → Nat → Pool → Pool
  | _, 0, _, pool | _, _, 0, pool => pool
  | reads, count + 1, can + 1, pool =>
      match pool.connQueue with
      | [] => pool
      | entry :: rest =>
          if maxIdleTime ≤ idleDuration pool.clock entry.lastUse then
            recycleLoop maxIdleTime reads count can
              (destroyConnection entry.conn { pool with connQueue := rest })
          else
            -- the reference is to the entry that has just been popped
            recycleLoop maxIdleTime reads.tail count (can + 1)
              { pool with connQueue := rest ++ [reads.headD entry] }

def recycleIdleConnections (minSize maxIdleTime : Int) (reads : List Entry) (pool : Pool) : Pool :=
  let canRecycle := (pool.connQueue.length : Int) - minSize
  if canRecycle ≤ 0 then pool
  else
    let recycled := recycleLoop maxIdleTime reads pool.connQueue.length canRecycle.toNat pool
    if recycled.connQueue.length < pool.connQueue.length then recordSizes recycled else recycled

/-- `source_connections` with the answers of the factory, one for each connection. -/
def sourceConnections (answers : List Bool) (pool : Pool) : Pool :=
  recordSizes (answers.foldl (fun made succeeds => createConnection succeeds made) pool)

def initialised (clock : Int) (answers : List Bool) : Pool :=
  sourceConnections answers {
    connQueue := [], mutex := none, waiting := [], currentSize := 0, initialized := true,
    stats := {}, clock := clock, attempts := 0, failures := 0, destroyed := [] }

/-- A thread that borrows a connection and gives it back, again and again. -/
inductive Caller
  | idle
  | getting (pc : GetPc)
  | holding (conn : Conn)
  | returning (pc : ReturnPc)
  deriving DecidableEq, Repr

structure State where
  pool : Pool
  callers : List Caller
  deriving DecidableEq, Repr

inductive Action
  | call (id : Nat)
  | release (id : Nat)
  | caller (id : Nat) (answer : Answer)
  | recycle (reads : List Entry)
  | wait (ticks : Nat)
  deriving DecidableEq, Repr

/-- What the caller has once `get_connection` returns; an empty guard leaves it idle. -/
def afterGet : GetPc → Caller
  | .returned none => .idle
  | .returned (some conn) => .holding conn
  | pc => .getting pc

def afterReturn : ReturnPc → Caller
  | .returned => .idle
  | pc => .returning pc

def moveCaller (state : State) (id : Nat) (moved : Pool × Caller) : State :=
  { pool := moved.1, callers := state.callers.set id moved.2 }

def callerStep (cfg : Config) (id : Nat) (pool : Pool) (answer : Answer) :
    Caller → Option (Pool × Caller)
  | .getting pc => (getStep cfg id pool pc answer).map fun moved => (moved.1, afterGet moved.2)
  | .returning pc =>
      (returnStep cfg id pool pc answer).map fun moved => (moved.1, afterReturn moved.2)
  | .idle | .holding _ => none

def step (cfg : Config) (state : State) : Action → Option State
  | .call id =>
      match state.callers[id]? with
      | some .idle => some (moveCaller state id (state.pool, .getting .enter))
      | _ => none
  | .release id =>
      match state.callers[id]? with
      | some (.holding conn) => some (moveCaller state id (state.pool, .returning (.check conn)))
      | _ => none
  | .caller id answer =>
      (state.callers[id]?).bind fun caller =>
        (callerStep cfg id state.pool answer caller).map fun moved => moveCaller state id moved
  | .recycle reads =>
      if state.pool.mutex = none then
        some { state with
          pool := recycleIdleConnections cfg.minSize cfg.maxIdleTime reads state.pool }
      else none
  | .wait ticks => some { state with pool := { state.pool with clock := state.pool.clock + ticks } }

/-- `init` has made `min` attempts, and no thread has called yet. -/
def launched (clock : Int) (answers : List Bool) (threads : Nat) : State where
  pool := initialised clock answers
  callers := List.replicate threads .idle

end BackendComponents.RedisPool.Model
