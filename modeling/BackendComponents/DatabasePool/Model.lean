import BackendComponents.Lib.Paths
import BackendComponents.Lib.Threads

/-!
# The database connection pool

A transcription of `ConnectionPool.cpp`. Every access to the queue and to `m_current_size`
is inside a section of `m_mutex`, and a section blocks nowhere but in the wait, which gives
the mutex up. So each section is one step, and in every state the mutex is free.

A connection is named by the call of the factory that made it. Which calls of
`create_connection` throw is a parameter; the answers of `is_valid`, of the condition
variable and of the clock are inputs of the steps.

The recycler puts an entry back through a reference that `pop` has made invalid. What it
reads there is undefined, so the entries read are an input as well. A pointer that is no
connection is a number like any other.
-/

namespace BackendComponents.DatabasePool.Model

open BackendComponents.Lib.Threads

set_option autoImplicit false

/-- The arguments of `init` that the pool uses, in seconds and connections. -/
structure Config where
  minSize : Int
  maxSize : Int
  maxIdleTime : Int
  opNum : Int
  deriving DecidableEq, Repr

abbrev Conn := Nat

/-- A connection in `m_conn_queue` with the time of its last use, in ticks. -/
structure Entry where
  conn : Conn
  lastUse : Int
  deriving DecidableEq, Repr

/-- `waiting` are the calls blocked in `m_cv_empty`; `attempts` counts the calls of the
factory, and `destroyed` lists the connections deleted. -/
structure Pool where
  connQueue : List Entry
  waiting : List Nat
  currentSize : Int
  initialized : Bool
  clock : Int
  attempts : Nat
  destroyed : List Conn
  deriving DecidableEq, Repr

/-- Whether the call of `create_connection` with this number returns; otherwise it throws. -/
abbrev Factory := Nat → Bool

def pushConnection (pool : Pool) : Pool :=
  { pool with
    connQueue := pool.connQueue ++ [⟨pool.attempts, pool.clock⟩]
    attempts := pool.attempts + 1
    currentSize := pool.currentSize + 1 }

/-- The loop of `source_connections` and `expand_connections`. It is left with `false` when
the factory throws; what has been pushed stays. -/
def createConnections (factory : Factory) : Nat → Pool → Pool × Bool
  | 0, pool => (pool, true)
  | count + 1, pool =>
      if factory pool.attempts then createConnections factory count (pushConnection pool)
      else ({ pool with attempts := pool.attempts + 1 }, false)

def sourceConnections (cfg : Config) (factory : Factory) (pool : Pool) : Pool × Bool :=
  createConnections factory cfg.minSize.toNat pool

def expandConnections (cfg : Config) (factory : Factory) (pool : Pool) : Pool × Bool :=
  let available := cfg.maxSize - pool.currentSize
  let toCreate := min available cfg.opNum
  if toCreate ≤ 0 then (pool, true) else createConnections factory toCreate.toNat pool

/-- A call of `get_connection` and the guard it returns, which holds nothing if it is
empty. `returning` is inside `return_connection`, after `is_valid` has answered. -/
inductive Caller
  | idle
  | waiting
  | relock (timedOut : Bool)
  | holding (conn : Option Conn)
  | returning (conn : Conn) (valid : Bool)
  deriving DecidableEq, Repr

/-- The end of `get_connection`: the front connection, or what `otherwise` says. -/
def takeFront (pool : Pool) (otherwise : Pool × Caller) : Pool × Caller :=
  match pool.connQueue with
  | [] => otherwise
  | entry :: rest => ({ pool with connQueue := rest }, .holding (some entry.conn))

def block (id : Nat) (pool : Pool) : Pool := { pool with waiting := pool.waiting ++ [id] }

/-- The first test of `get_connection`: nothing is idle and the limit is not reached. -/
def expandWhenEmpty (cfg : Config) (factory : Factory) (pool : Pool) : Pool × Bool :=
  if pool.connQueue = [] ∧ pool.currentSize < cfg.maxSize then expandConnections cfg factory pool
  else (pool, true)

/-- `get_connection` up to its return or its wait. An exception of the factory leaves the
caller without a guard. -/
def getConnection (cfg : Config) (factory : Factory) (id : Nat) (pool : Pool) : Pool × Caller :=
  if pool.initialized = false then (pool, .holding none)
  else
    let expanded := expandWhenEmpty cfg factory pool
    if expanded.2 then takeFront expanded.1 (block id expanded.1, .waiting)
    else (expanded.1, .idle)

def afterWait (timedOut : Bool) (pool : Pool) : Pool × Caller :=
  if timedOut = true ∧ pool.connQueue = [] then (pool, .holding none)
  else takeFront pool (pool, .holding none)

/-- The two sections of `return_connection`; `waiter` is the call that the notification
reaches. -/
def returnConnection (conn : Conn) (waiter : Nat) : Bool → Pool → Option Pool
  | true, pool =>
      (notifyOne waiter pool.waiting).map fun waiting =>
        { pool with connQueue := pool.connQueue ++ [⟨conn, pool.clock⟩], waiting := waiting }
  | false, pool =>
      some { pool with
        currentSize := pool.currentSize - 1
        destroyed := pool.destroyed ++ [conn] }

def destroyConnection (conn : Conn) (pool : Pool) : Pool :=
  { pool with
    destroyed := pool.destroyed ++ [conn]
    currentSize := pool.currentSize - 1 }

/-- `steady_clock` counts nanoseconds. -/
def ticksPerSecond : Int := 1000000000

/-- `duration_cast` to seconds drops the fraction. -/
def idleDuration (now lastUse : Int) : Int := (now - lastUse).tdiv ticksPerSecond

/-- The loop of `recycle_idle_connections` over `count` entries, `can` of which may go. For
an entry that is not idle long enough the next one of `reads` goes to the back, or, where
there is none, what the entry was. -/
def recycleLoop (cfg : Config) : List Entry → Nat → Nat → Pool → Pool
  | _, 0, _, pool | _, _, 0, pool => pool
  | reads, count + 1, can + 1, pool =>
      match pool.connQueue with
      | [] => pool
      | entry :: rest =>
          if cfg.maxIdleTime ≤ idleDuration pool.clock entry.lastUse then
            recycleLoop cfg reads count can
              (destroyConnection entry.conn { pool with connQueue := rest })
          else
            -- the reference is to the entry that has just been popped
            recycleLoop cfg reads.tail count (can + 1)
              { pool with connQueue := rest ++ [reads.headD entry] }

def recycleIdleConnections (cfg : Config) (reads : List Entry) (pool : Pool) : Pool :=
  let canRecycle := (pool.connQueue.length : Int) - cfg.minSize
  if canRecycle ≤ 0 then pool
  else recycleLoop cfg reads pool.connQueue.length canRecycle.toNat pool

structure State where
  pool : Pool
  callers : List Caller
  deriving DecidableEq, Repr

/-- `release` is the end of a guard, with the answer of `is_valid`; `giveBack` is the
section of `return_connection`. -/
inductive Action
  | arrive
  | call (id : Nat)
  | wake (id : Nat) (timedOut : Bool)
  | resume (id : Nat)
  | release (id : Nat) (valid : Bool)
  | giveBack (id : Nat) (waiter : Nat)
  | recycle (reads : List Entry)
  | wait (ticks : Nat)
  deriving DecidableEq, Repr

def moveCaller (state : State) (id : Nat) (moved : Pool × Caller) : State :=
  { pool := moved.1, callers := state.callers.set id moved.2 }

/-- One step of the call `id`. A wait ends by a notification, which takes the call out of
`waiting`, when its time is up, or for no reason. The time can also run out between the
notification and the return of the mutex. -/
def callerStep (cfg : Config) (factory : Factory) (pool : Pool) :
    Action → Caller → Option (Pool × Caller)
  | .call id, .idle => some (getConnection cfg factory id pool)
  | .wake id timedOut, .waiting =>
      some ({ pool with waiting := pool.waiting.erase id }, .relock timedOut)
  | .resume _, .relock timedOut => some (afterWait timedOut pool)
  | .release _ _, .holding none => some (pool, .idle)
  | .release _ valid, .holding (some conn) => some (pool, .returning conn valid)
  | .giveBack _ waiter, .returning conn valid =>
      (returnConnection conn waiter valid pool).map fun after => (after, .idle)
  | _, _ => none

/-- The call that takes the action; `recycle` and `wait` are nobody's. -/
def actor : Action → Option Nat
  | .call id | .wake id _ | .resume id | .release id _ | .giveBack id _ => some id
  | .arrive | .recycle _ | .wait _ => none

def step (cfg : Config) (factory : Factory) (state : State) (action : Action) : Option State :=
  match action with
  | .arrive => some { state with callers := state.callers ++ [.idle] }
  | .recycle reads =>
      some { state with pool := recycleIdleConnections cfg reads state.pool }
  | .wait ticks =>
      some { state with pool := { state.pool with clock := state.pool.clock + ticks } }
  | action =>
      (actor action).bind fun id => state.callers[id]?.bind fun caller =>
        (callerStep cfg factory state.pool action caller).map fun moved => moveCaller state id moved

def emptyPool (clock : Int) : Pool where
  connQueue := []
  waiting := []
  currentSize := 0
  initialized := true
  clock := clock
  attempts := 0
  destroyed := []

/-- After `init`, also when the factory has thrown in it. -/
def initialised (cfg : Config) (factory : Factory) (clock : Int) : State where
  pool := (sourceConnections cfg factory (emptyPool clock)).1
  callers := []

end BackendComponents.DatabasePool.Model
