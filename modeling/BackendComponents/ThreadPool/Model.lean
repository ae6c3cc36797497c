import BackendComponents.Lib.Paths
import BackendComponents.Lib.Threads

/-!
# The thread pool, one critical section per step

A transcription of `threadPool.cpp` of both implementations. They differ in two
places only: how a worker tests `m_exit_threads`, and whether the destructor
wakes the workers before or after it releases `m_queue_mutex`.

A section of `m_pool_mutex` is one step: it never blocks inside, so the mutex is
free between any two steps. A section of `m_queue_mutex` is not, because the
shutdown flag, the counters and the manager's notifications can move while it is
held; the mutex therefore has an explicit owner. A queue operation and the
`notify_one` after it form one step: nobody else can look at the queue between
the two. Sleeping, logging and `m_check_freq` have no effect on the state.
-/

namespace BackendComponents.ThreadPool.Model

open BackendComponents.Lib.Threads

set_option autoImplicit false

inductive Implementation
  | stl
  | pthread
  deriving DecidableEq, Repr

/-- Constructor arguments. A pool with `min > max` writes outside its slot vector. -/
structure Config where
  minThreads : Nat
  maxThreads : Nat
  opNum : Int
  capacity : Nat
  ordered : minThreads ≤ maxThreads
  deriving DecidableEq, Repr

/-- A task is named by the `submit` call that hands it over. -/
abbrev Task := Nat

inductive Owner
  | worker (id : Nat)
  | producer (id : Nat)
  | destructor
  deriving DecidableEq, Repr

/-- The shared members. `full` and `empty` hold the threads blocked in
`m_full.wait` and `m_empty.wait`; the last six lists record what happened to the
tasks, in order. -/
structure Pool where
  taskQ : List Task
  queueMutex : Option Owner
  full : List Nat
  empty : List Nat
  threadWorkGroup : List (Option Nat)
  liveThreads : Int
  busyThreads : Int
  exitThreads : Int
  isShutdown : Bool
  pushed : List Task
  taken : List Task
  started : List Task
  finished : List Task
  deleted : List Task
  rejected : List Task
  deriving DecidableEq, Repr

inductive WorkerPc
  | lockQueue
  | testWait
  | waiting
  | testExit
  | takeExit
  | testShutdown
  | decLive
  | unlockExit
  | threadExit
  | exited
  | getTask
  | unlockTask (task : Option Task)
  | incBusy (task : Option Task)
  | runTask (task : Option Task)
  | running (task : Task)
  | deleteTask (task : Task)
  | decBusy
  deriving DecidableEq, Repr

inductive ProducerPc
  | testShutdown
  | lockQueue
  | testFull
  | waiting
  | push
  | unlock
  | returned
  | rejected
  | refused
  deriving DecidableEq, Repr

inductive ManagerPc
  | testShutdown
  | readQueue
  | readCounters (qsize : Int)
  | grow (qsize liveNum busyNum : Int)
  | shrink (qsize liveNum busyNum : Int)
  | notify (left : Nat)
  | done
  deriving DecidableEq, Repr

inductive DestructorPc
  | notEntered
  | lockQueue
  | broadcast
  | unlockQueue
  | notifyAll
  | joinManager
  | poll
  | leftLoop
  | returned
  deriving DecidableEq, Repr

structure State where
  pool : Pool
  workers : List WorkerPc
  producers : List ProducerPc
  manager : ManagerPc
  destructor : DestructorPc
  deriving DecidableEq, Repr

def getTask (pool : Pool) : Option Task × Pool :=
  match pool.taskQ with
  | [] => (none, pool)
  | task :: rest => (some task, { pool with taskQ := rest, taken := pool.taken ++ [task] })

/-- The loop of `thread_exit_`: the first slot that holds this thread becomes empty. -/
def releaseSlot (id : Nat) : List (Option Nat) → List (Option Nat)
  | [] => []
  | slot :: rest => if slot = some id then none :: rest else slot :: releaseSlot id rest

def exitCredit (pool : Pool) : Pool :=
  { pool with exitThreads := pool.exitThreads - 1, liveThreads := pool.liveThreads - 1 }

/-- One step of `work` by worker `id`; `pick` is the producer that
`m_full.notify_one` wakes. Running a null task is undefined. -/
def work (impl : Implementation) (id pick : Nat) (pool : Pool) :
    WorkerPc → Option (Pool × WorkerPc)
  | .lockQueue =>
      if pool.queueMutex = none then
        some ({ pool with queueMutex := some (.worker id) }, .testWait)
      else none
  | .testWait =>
      if pool.taskQ = [] ∧ pool.isShutdown = false then
        some ({ pool with queueMutex := none, empty := pool.empty ++ [id] }, .waiting)
      else some (pool, .testShutdown)
  | .waiting =>
      if id ∉ pool.empty ∧ pool.queueMutex = none then
        some ({ pool with queueMutex := some (.worker id) }, .testExit)
      else none
  | .testExit =>
      if 0 < pool.exitThreads then
        match impl with
        -- test and decrement in one section of m_pool_mutex
        | .stl => some (exitCredit pool, .unlockExit)
        -- the test reads m_exit_threads without the mutex
        | .pthread => some (pool, .takeExit)
      else some (pool, .testWait)
  | .takeExit => some (exitCredit pool, .unlockExit)
  | .testShutdown => if pool.isShutdown = true then some (pool, .decLive) else some (pool, .getTask)
  | .decLive => some ({ pool with liveThreads := pool.liveThreads - 1 }, .unlockExit)
  | .unlockExit => some ({ pool with queueMutex := none }, .threadExit)
  | .threadExit =>
      some ({ pool with threadWorkGroup := releaseSlot id pool.threadWorkGroup }, .exited)
  | .exited => none
  | .getTask =>
      (notifyOne pick pool.full).map fun full =>
        ({ (getTask pool).2 with full := full }, .unlockTask (getTask pool).1)
  | .unlockTask task => some ({ pool with queueMutex := none }, .incBusy task)
  | .incBusy task => some ({ pool with busyThreads := pool.busyThreads + 1 }, .runTask task)
  | .runTask none => none
  | .runTask (some task) => some ({ pool with started := pool.started ++ [task] }, .running task)
  | .running task => some ({ pool with finished := pool.finished ++ [task] }, .deleteTask task)
  | .deleteTask task => some ({ pool with deleted := pool.deleted ++ [task] }, .decBusy)
  | .decBusy => some ({ pool with busyThreads := pool.busyThreads - 1 }, .lockQueue)

/-- One step of `submit` for the task named `id`, past the null test; `pick` is
the worker that `m_empty.notify_one` wakes. -/
def submit (cfg : Config) (id pick : Nat) (pool : Pool) : ProducerPc → Option (Pool × ProducerPc)
  | .testShutdown =>
      if pool.isShutdown = true then
        some ({ pool with rejected := pool.rejected ++ [id] }, .rejected)
      else some (pool, .lockQueue)
  | .lockQueue =>
      if pool.queueMutex = none then
        some ({ pool with queueMutex := some (.producer id) }, .testFull)
      else none
  | .testFull =>
      if cfg.capacity ≤ pool.taskQ.length ∧ pool.isShutdown = false then
        some ({ pool with queueMutex := none, full := pool.full ++ [id] }, .waiting)
      else some (pool, .push)
  | .waiting =>
      if id ∉ pool.full ∧ pool.queueMutex = none then
        some ({ pool with queueMutex := some (.producer id) }, .testFull)
      else none
  | .push =>
      (notifyOne pick pool.empty).map fun empty =>
        ({ pool with taskQ := pool.taskQ ++ [id], pushed := pool.pushed ++ [id], empty := empty },
          .unlock)
  | .unlock => some ({ pool with queueMutex := none }, .returned)
  | .returned => none
  | .rejected => none
  | .refused => none

/-- `static_cast<int>` of a 64-bit size: its low 32 bits, read as a signed number. -/
def castInt (size : Nat) : Int := Int.bmod size 0x100000000

/-- The loop that adds threads: it walks the slots and fills the free ones with
the workers numbered from `next` on, while `cnt < m_op_num` and the live count is
below the maximum. The result is the slots, the live count and the next number. -/
def growLoop (cfg : Config) :
    List (Option Nat) → Int → Int → Nat → List (Option Nat) × Int × Nat
  | [], live, _, next => ([], live, next)
  | slot :: rest, live, cnt, next =>
      if cnt < cfg.opNum ∧ live < cfg.maxThreads then
        match slot with
        | none =>
            let result := growLoop cfg rest (live + 1) (cnt + 1) (next + 1)
            (some next :: result.1, result.2)
        | some thread =>
            let result := growLoop cfg rest live cnt next
            (some thread :: result.1, result.2)
      else (slot :: rest, live, next)

def canExit (cfg : Config) (liveNum : Int) : Int := min cfg.opNum (liveNum - cfg.minThreads)

/-- One step of `manager`, with the number of workers it has started; `created`
is the number of workers so far. -/
def manager (cfg : Config) (pick created : Nat) (pool : Pool) :
    ManagerPc → Option (Pool × Nat × ManagerPc)
  | .testShutdown =>
      if pool.isShutdown = true then some (pool, 0, .done) else some (pool, 0, .readQueue)
  | .readQueue =>
      if pool.queueMutex = none then
        some (pool, 0, .readCounters (castInt pool.taskQ.length))
      else none
  | .readCounters qsize => some (pool, 0, .grow qsize pool.liveThreads pool.busyThreads)
  | .grow qsize liveNum busyNum =>
      if liveNum < qsize ∧ liveNum < cfg.maxThreads then
        let grown := growLoop cfg pool.threadWorkGroup pool.liveThreads 0 created
        some ({ pool with threadWorkGroup := grown.1, liveThreads := grown.2.1 },
          grown.2.2 - created, .shrink qsize liveNum busyNum)
      else some (pool, 0, .shrink qsize liveNum busyNum)
  | .shrink qsize liveNum busyNum =>
      if (busyNum * 2 < liveNum ∨ (qsize = 0 ∧ busyNum = 0)) ∧ cfg.minThreads < liveNum then
        some ({ pool with exitThreads := canExit cfg liveNum }, 0,
          .notify (canExit cfg liveNum).toNat)
      else some (pool, 0, .testShutdown)
  | .notify 0 => some (pool, 0, .testShutdown)
  | .notify (left + 1) =>
      (notifyOne pick pool.empty).map fun empty => ({ pool with empty := empty }, 0, .notify left)
  | .done => none

/-- One step of `~ThreadPool`; the last one destroys the members. The STL version
wakes the workers after it released `m_queue_mutex`, the pthread version while it
holds it. -/
def destructor (impl : Implementation) (managerPc : ManagerPc) (pool : Pool) :
    DestructorPc → Option (Pool × DestructorPc)
  | .notEntered => some ({ pool with isShutdown := true }, .lockQueue)
  | .lockQueue =>
      if pool.queueMutex = none then
        some ({ pool with queueMutex := some .destructor },
          match impl with
          | .stl => .unlockQueue
          | .pthread => .broadcast)
      else none
  | .broadcast => some ({ pool with empty := [] }, .unlockQueue)
  | .unlockQueue =>
      some ({ pool with queueMutex := none },
        match impl with
        | .stl => .notifyAll
        | .pthread => .joinManager)
  | .notifyAll => some ({ pool with empty := [] }, .joinManager)
  | .joinManager => if managerPc = .done then some (pool, .poll) else none
  | .poll => if pool.liveThreads = 0 then some (pool, .leftLoop) else some (pool, .poll)
  -- `m_empty` and `m_full` cannot be destroyed while somebody is blocked on them
  | .leftLoop => if pool.empty = [] ∧ pool.full = [] then some (pool, .returned) else none
  | .returned => none

/-- Who moves next. `submit` is a new call by some client thread, with a null
task or with a task of its own. -/
inductive Action
  | submit (null : Bool)
  | producer (id pick : Nat)
  | worker (id pick : Nat)
  | manager (pick : Nat)
  | destructor
  deriving DecidableEq, Repr

def stepWorker (impl : Implementation) (id pick : Nat) (state : State) : Option State :=
  state.workers[id]?.bind fun pc =>
    (work impl id pick state.pool pc).map fun result =>
      { state with pool := result.1, workers := state.workers.set id result.2 }

def stepProducer (cfg : Config) (id pick : Nat) (state : State) : Option State :=
  state.producers[id]?.bind fun pc =>
    (submit cfg id pick state.pool pc).map fun result =>
      { state with pool := result.1, producers := state.producers.set id result.2 }

def stepManager (cfg : Config) (pick : Nat) (state : State) : Option State :=
  (manager cfg pick state.workers.length state.pool state.manager).map fun result =>
    { state with
      pool := result.1
      workers := state.workers ++ List.replicate result.2.1 .lockQueue
      manager := result.2.2 }

def stepDestructor (impl : Implementation) (state : State) : Option State :=
  (destructor impl state.manager state.pool state.destructor).map fun result =>
    { state with pool := result.1, destructor := result.2 }

/-- The pool's members exist until the destructor has returned. -/
def step (impl : Implementation) (cfg : Config) (state : State) (action : Action) : Option State :=
  if state.destructor = .returned then none
  else
    match action with
    | .submit null =>
        some { state with
          producers := state.producers ++ [if null then .refused else .testShutdown] }
    | .producer id pick => stepProducer cfg id pick state
    | .worker id pick => stepWorker impl id pick state
    | .manager pick => stepManager cfg pick state
    | .destructor => stepDestructor impl state

/-- The state the constructor leaves: `min` workers started in the first slots,
the manager started, nobody having moved. -/
def constructed (cfg : Config) : State where
  pool :=
    { taskQ := []
      queueMutex := none
      full := []
      empty := []
      threadWorkGroup :=
        (List.range cfg.minThreads).map some ++
          List.replicate (cfg.maxThreads - cfg.minThreads) none
      liveThreads := cfg.minThreads
      busyThreads := 0
      exitThreads := 0
      isShutdown := false
      pushed := []
      taken := []
      started := []
      finished := []
      deleted := []
      rejected := [] }
  workers := List.replicate cfg.minThreads .lockQueue
  producers := []
  manager := .testShutdown
  destructor := .notEntered

end BackendComponents.ThreadPool.Model
