import BackendComponents.Lib.Progress
import BackendComponents.ThreadPool.Submission
import BackendComponents.ThreadPool.Wakeups

/-!
# What is left to do

Every thread of the pool has a number of steps left before it waits, or is done. A queued
task has the steps of the worker that will run it, and a producer has those of its task. A
notification gives steps back: a woken thread has to look again.
-/

namespace BackendComponents.ThreadPool.Progress

open BackendComponents.Lib.Threads
open BackendComponents.Lib.Progress
open BackendComponents.ThreadPool.Model
open BackendComponents.ThreadPool.Moves
open BackendComponents.ThreadPool.Exclusion
open BackendComponents.ThreadPool.Ownership
open BackendComponents.ThreadPool.Submission

set_option autoImplicit false

def workerLeft : WorkerPc → Nat
  | .exited => 0
  | .threadExit => 1
  | .unlockExit => 2
  | .decLive | .takeExit | .getTask => 3
  | .testShutdown => 4
  | .testWait => 5
  | .testExit | .lockQueue => 6
  | .waiting | .decBusy => 7
  | .deleteTask _ => 8
  | .running _ => 9
  | .runTask _ => 10
  | .incBusy _ => 11
  | .unlockTask _ => 12

/-- What a push adds: the run of the task, and a producer that looks again. -/
def taskLeft : Nat := 12

def producerLeft : ProducerPc → Nat
  | .returned | .rejected | .refused => 0
  | .unlock => 1
  | .push => 21
  | .testFull => 22
  | .lockQueue | .waiting => 23
  | .testShutdown => 24

def left (state : State) : Nat :=
  (state.workers.map workerLeft).sum + (state.producers.map producerLeft).sum +
    taskLeft * state.pool.taskQ.length

/-- What the blocked threads do not have to do before somebody notifies them. -/
def resting (pool : Pool) : Nat := 7 * pool.empty.length + 2 * pool.full.length

theorem worker_move_left {impl : Implementation} {id : Nat} {pool poolAfter : Pool}
    {pc after : WorkerPc} (move : WorkerMove impl id pool pc poolAfter after)
    (loaded : pc = .getTask → pool.taskQ ≠ []) :
    workerLeft after + taskLeft * poolAfter.taskQ.length + resting pool + 1 ≤
      workerLeft pc + taskLeft * pool.taskQ.length + resting poolAfter := by
  unfold taskLeft resting
  cases move with
  | takes head notified =>
      have one := notify_one_length notified
      rw [head]
      simp only [workerLeft, List.length_cons]
      omega
  | takesNull nothing => exact absurd nothing (loaded rfl)
  | blocks =>
      simp only [workerLeft, List.length_append, List.length_singleton]
      omega
  | _ =>
      simp only [workerLeft, exitCredit]
      omega

theorem producer_move_left {cfg : Config} {id : Nat} {pool poolAfter : Pool}
    {pc after : ProducerPc} (move : ProducerMove cfg id pool pc poolAfter after) :
    producerLeft after + taskLeft * poolAfter.taskQ.length + resting pool + 1 ≤
      producerLeft pc + taskLeft * pool.taskQ.length + resting poolAfter := by
  unfold taskLeft resting
  cases move with
  | pushes notified =>
      have one := notify_one_length notified
      simp only [producerLeft, List.length_append, List.length_singleton]
      omega
  | blocks =>
      simp only [producerLeft, List.length_append, List.length_singleton]
      omega
  | _ =>
      simp only [producerLeft]
      omega

/-! ## Who can move -/

theorem worker_can_move (impl : Implementation) {id : Nat} {pool : Pool} {pc : WorkerPc}
    (here : pc ≠ .exited) (pointer : hasNull pc = false)
    (free : workerHolds pc = true ∨ pool.queueMutex = none)
    (awake : pc = .waiting → id ∉ pool.empty) :
    ∃ poolAfter after, WorkerMove impl id pool pc poolAfter after := by
  cases pc with
  | lockQueue => exact ⟨_, _, .locks (free.resolve_left Bool.false_ne_true)⟩
  | testWait =>
      by_cases idle : pool.taskQ = [] ∧ pool.isShutdown = false
      · exact ⟨_, _, .blocks idle.1 idle.2⟩
      · exact ⟨_, _, .passesWait idle⟩
  | waiting => exact ⟨_, _, .resumes (awake rfl) (free.resolve_left Bool.false_ne_true)⟩
  | testExit =>
      by_cases credit : 0 < pool.exitThreads
      · cases impl with
        | stl => exact ⟨_, _, .takesCredit rfl credit⟩
        | pthread => exact ⟨_, _, .seesCredit rfl credit⟩
      · exact ⟨_, _, .noCredit credit⟩
  | takeExit => exact ⟨_, _, .spendsCredit⟩
  | testShutdown =>
      cases flag : pool.isShutdown with
      | true => exact ⟨_, _, .seesShutdown flag⟩
      | false => exact ⟨_, _, .staysOpen flag⟩
  | decLive => exact ⟨_, _, .retires⟩
  | unlockExit => exact ⟨_, _, .unlocksExit⟩
  | threadExit => exact ⟨_, _, .releases⟩
  | exited => exact absurd rfl here
  | getTask =>
      obtain ⟨pick, full, notified⟩ := exists_notify_one pool.full
      cases head : pool.taskQ with
      | nil => exact ⟨_, _, .takesNull head notified⟩
      | cons task rest => exact ⟨_, _, .takes head notified⟩
  | unlockTask task => exact ⟨_, _, .unlocksTask⟩
  | incBusy task => exact ⟨_, _, .getsBusy⟩
  | runTask task =>
      cases task with
      | none => cases pointer
      | some task => exact ⟨_, _, .starts⟩
  | running task => exact ⟨_, _, .finishes⟩
  | deleteTask task => exact ⟨_, _, .deletes⟩
  | decBusy => exact ⟨_, _, .getsIdle⟩

def isOver : ProducerPc → Bool
  | .returned | .rejected | .refused => true
  | _ => false

theorem producer_can_move (cfg : Config) {id : Nat} {pool : Pool} {pc : ProducerPc}
    (here : isOver pc = false) (free : producerHolds pc = true ∨ pool.queueMutex = none)
    (awake : pc = .waiting → id ∉ pool.full) :
    ∃ poolAfter after, ProducerMove cfg id pool pc poolAfter after := by
  cases pc with
  | testShutdown =>
      cases flag : pool.isShutdown with
      | true => exact ⟨_, _, .rejects flag⟩
      | false => exact ⟨_, _, .accepts flag⟩
  | lockQueue => exact ⟨_, _, .locks (free.resolve_left Bool.false_ne_true)⟩
  | testFull =>
      by_cases crowded : cfg.capacity ≤ pool.taskQ.length ∧ pool.isShutdown = false
      · exact ⟨_, _, .blocks crowded.1 crowded.2⟩
      · exact ⟨_, _, .passesFull crowded⟩
  | waiting => exact ⟨_, _, .resumes (awake rfl) (free.resolve_left Bool.false_ne_true)⟩
  | push =>
      obtain ⟨pick, empty, notified⟩ := exists_notify_one pool.empty
      exact ⟨_, _, .pushes notified⟩
  | unlock => exact ⟨_, _, .unlocks⟩
  | _ => cases here

def isWork : Action → Bool
  | .worker _ _ | .producer _ _ => true
  | _ => false

def isSubmit : Action → Bool
  | .submit _ => true
  | _ => false

section Steps

variable {impl : Implementation} {cfg : Config} {state : State}

theorem worker_steps (present : state.destructor ≠ .returned) {id : Nat} {pc after : WorkerPc}
    {pool : Pool} (at_pc : state.workers[id]? = some pc)
    (move : WorkerMove impl id state.pool pc pool after) :
    ∃ action next, isWork action = true ∧ step impl cfg state action = some next := by
  obtain ⟨pick, worked⟩ := work_of_worker_move move
  refine ⟨.worker id pick,
    { state with pool := pool, workers := state.workers.set id after }, rfl, ?_⟩
  unfold step
  rw [if_neg present]
  dsimp only
  unfold stepWorker
  rw [at_pc, Option.bind_some, worked]
  rfl

theorem producer_steps (present : state.destructor ≠ .returned) {id : Nat}
    {pc after : ProducerPc} {pool : Pool} (at_pc : state.producers[id]? = some pc)
    (move : ProducerMove cfg id state.pool pc pool after) :
    ∃ action next, isWork action = true ∧ step impl cfg state action = some next := by
  obtain ⟨pick, submitted⟩ := submit_of_producer_move move
  refine ⟨.producer id pick,
    { state with pool := pool, producers := state.producers.set id after }, rfl, ?_⟩
  unfold step
  rw [if_neg present]
  dsimp only
  unfold stepProducer
  rw [at_pc, Option.bind_some, submitted]
  rfl

theorem holder_steps (present : state.destructor ≠ .returned) (holder : HolderPresent state)
    (loaded : Loaded state) (outside : destructorHolds state.destructor = false)
    (taken : state.pool.queueMutex ≠ none) :
    ∃ action next, isWork action = true ∧ step impl cfg state action = some next := by
  cases mutex : state.pool.queueMutex with
  | none => exact absurd mutex taken
  | some owner =>
      cases owner with
      | worker id =>
          obtain ⟨pc, found, holds⟩ := holder.worker id mutex
          have here : pc ≠ .exited := by
            rintro rfl
            cases holds
          have awake : pc = .waiting → id ∉ state.pool.empty := by
            rintro rfl
            cases holds
          obtain ⟨pool, after, move⟩ :=
            worker_can_move impl here (loaded.pointer id pc found) (.inl holds) awake
          exact worker_steps present found move
      | producer id =>
          obtain ⟨pc, found, holds⟩ := holder.producer id mutex
          have here : isOver pc = false := by
            cases pc <;> first | rfl | cases holds
          have awake : pc = .waiting → id ∉ state.pool.full := by
            rintro rfl
            cases holds
          obtain ⟨pool, after, move⟩ := producer_can_move cfg here (.inl holds) awake
          exact producer_steps present found move
      | destructor =>
          rw [holder.destructor mutex] at outside
          cases outside

end Steps

end BackendComponents.ThreadPool.Progress
