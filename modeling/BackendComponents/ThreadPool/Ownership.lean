import BackendComponents.ThreadPool.Exclusion

/-!
# Where each task is

A task pushed by `submit` moves from `m_taskQ` to one worker and from there to the
deleted ones. The counts below follow one task through the program points of all
workers, so that no task is lost, run twice or deleted early, whatever the number
of workers and however the pool grows, shrinks or shuts down meanwhile.
-/

namespace BackendComponents.ThreadPool.Ownership

open BackendComponents.Lib.Paths
open BackendComponents.Lib.Threads
open BackendComponents.ThreadPool.Model
open BackendComponents.ThreadPool.Moves
open BackendComponents.ThreadPool.Exclusion

set_option autoImplicit false

def holdsTask (task : Task) : WorkerPc → Bool
  | .unlockTask pointer | .incBusy pointer | .runTask pointer => pointer == some task
  | .running current | .deleteTask current => current == task
  | _ => false

def hasStarted (task : Task) : WorkerPc → Bool
  | .running current | .deleteTask current => current == task
  | _ => false

def hasFinished (task : Task) : WorkerPc → Bool
  | .deleteTask current => current == task
  | _ => false

def hasNull : WorkerPc → Bool
  | .unlockTask none | .incBusy none | .runTask none => true
  | _ => false

/-- A log of task events agrees with the workers' hands: each entry is a task some
worker has passed this event with, or a task deleted since. -/
def LogCounts (log : Pool → List Task) (past : Task → WorkerPc → Bool) (state : State) : Prop :=
  ∀ task, (log state.pool).count task =
    state.workers.countP (past task) + state.pool.deleted.count task

structure Ledger (state : State) : Prop where
  order : state.pool.pushed = state.pool.taken ++ state.pool.taskQ
  taken : LogCounts Pool.taken holdsTask state
  started : LogCounts Pool.started hasStarted state
  finished : LogCounts Pool.finished hasFinished state

/-- A task is pushed exactly by its own call of `submit`, and once. -/
structure Named (state : State) : Prop where
  distinct : state.pool.pushed.Nodup
  pushed : ∀ task, task ∈ state.pool.pushed ↔
    state.producers[task]? = some .unlock ∨ state.producers[task]? = some .returned

/-- Past the wait loop the queue has a task, unless the pool is shutting down. -/
structure Loaded (state : State) : Prop where
  tested : ∀ id : Nat, state.workers[id]? = some .testShutdown →
    state.pool.isShutdown = false → state.pool.taskQ ≠ []
  taking : ∀ id : Nat, state.workers[id]? = some .getTask → state.pool.taskQ ≠ []
  pointer : ∀ (id : Nat) (pc : WorkerPc), state.workers[id]? = some pc → hasNull pc = false

/-! ## The ledger -/

theorem worker_move_order {impl : Implementation} {id : Nat} {pool poolAfter : Pool}
    {pc after : WorkerPc} (move : WorkerMove impl id pool pc poolAfter after) :
    poolAfter.pushed = pool.pushed ∧
      poolAfter.taken ++ poolAfter.taskQ = pool.taken ++ pool.taskQ := by
  cases move with
  | takes head notified => simp [head]
  | _ => exact ⟨rfl, rfl⟩

/-- What a worker's move has to do for a log to stay counted. -/
def MoveCounts (log : Pool → List Task) (past : Task → WorkerPc → Bool)
    (pool poolAfter : Pool) (pc after : WorkerPc) : Prop :=
  ∀ task, (log poolAfter).count task + indicator (past task pc) + pool.deleted.count task =
    (log pool).count task + indicator (past task after) + poolAfter.deleted.count task

theorem worker_move_taken {impl : Implementation} {id : Nat} {pool poolAfter : Pool}
    {pc after : WorkerPc} (move : WorkerMove impl id pool pc poolAfter after) :
    MoveCounts Pool.taken holdsTask pool poolAfter pc after := by
  intro task
  cases move <;>
    simp [holdsTask, indicator, exitCredit, List.count_append, List.count_singleton]
  omega

theorem worker_move_started {impl : Implementation} {id : Nat} {pool poolAfter : Pool}
    {pc after : WorkerPc} (move : WorkerMove impl id pool pc poolAfter after) :
    MoveCounts Pool.started hasStarted pool poolAfter pc after := by
  intro task
  cases move <;>
    simp [hasStarted, indicator, exitCredit, List.count_append, List.count_singleton]
  omega

theorem worker_move_finished {impl : Implementation} {id : Nat} {pool poolAfter : Pool}
    {pc after : WorkerPc} (move : WorkerMove impl id pool pc poolAfter after) :
    MoveCounts Pool.finished hasFinished pool poolAfter pc after := by
  intro task
  cases move <;>
    simp [hasFinished, indicator, exitCredit, List.count_append, List.count_singleton]
  omega

theorem log_counts_worker {log : Pool → List Task} {past : Task → WorkerPc → Bool}
    {state : State} {id : Nat} {pc after : WorkerPc} {pool : Pool}
    (counts : LogCounts log past state) (at_pc : state.workers[id]? = some pc)
    (move : MoveCounts log past state.pool pool pc after) :
    LogCounts log past { state with pool := pool, workers := state.workers.set id after } := by
  intro task
  have before := counts task
  have moved := move task
  have table : (state.workers.set id after).countP (past task) + indicator (past task pc) =
      state.workers.countP (past task) + indicator (past task after) :=
    countP_move (past task) at_pc
  dsimp only
  omega

theorem log_counts_manager {log : Pool → List Task} {past : Task → WorkerPc → Bool}
    {state : State} {pool : Pool} {pc : ManagerPc} {spawned : Nat}
    (counts : LogCounts log past state) (same : log pool = log state.pool)
    (kept : pool.deleted = state.pool.deleted)
    (fresh : ∀ task, past task .lockQueue = false) :
    LogCounts log past
      { state with
        pool := pool
        workers := state.workers ++ List.replicate spawned .lockQueue
        manager := pc } := by
  intro task
  have before := counts task
  have table := countP_spawn (past task) state.workers spawned .lockQueue
  simp only [fresh, indicator_false, Nat.mul_zero, Nat.add_zero] at table
  simp only [same, kept, table]
  exact before

/-- The task logs of a pool; only workers and producers write them. -/
def taskLogs (pool : Pool) : List (List Task) :=
  [pool.taskQ, pool.pushed, pool.taken, pool.started, pool.finished, pool.deleted]

theorem manager_move_logs {cfg : Config} {created spawned : Nat} {pool poolAfter : Pool}
    {pc after : ManagerPc} (move : ManagerMove cfg created pool pc poolAfter spawned after) :
    taskLogs poolAfter = taskLogs pool := by
  cases move <;> rfl

theorem destructor_move_logs {impl : Implementation} {managerPc : ManagerPc}
    {pool poolAfter : Pool} {pc after : DestructorPc}
    (move : DestructorMove impl managerPc pool pc poolAfter after) :
    taskLogs poolAfter = taskLogs pool := by
  cases move <;> rfl

theorem task_logs_eq {pool poolAfter : Pool} (same : taskLogs poolAfter = taskLogs pool) :
    poolAfter.taskQ = pool.taskQ ∧ poolAfter.pushed = pool.pushed ∧
      poolAfter.taken = pool.taken ∧ poolAfter.started = pool.started ∧
      poolAfter.finished = pool.finished ∧ poolAfter.deleted = pool.deleted := by
  simpa only [taskLogs, List.cons.injEq, and_true] using same

theorem producer_move_logs {cfg : Config} {id : Nat} {pool poolAfter : Pool}
    {pc after : ProducerPc} (move : ProducerMove cfg id pool pc poolAfter after) :
    (taskLogs poolAfter = taskLogs pool ∧
        (pc ≠ .push ∧ (pc = .unlock ↔ after = .returned) ∧ after ≠ .unlock)) ∨
      (pc = .push ∧ after = .unlock ∧ poolAfter.taskQ = pool.taskQ ++ [id] ∧
        poolAfter.pushed = pool.pushed ++ [id] ∧ poolAfter.taken = pool.taken ∧
        poolAfter.started = pool.started ∧ poolAfter.finished = pool.finished ∧
        poolAfter.deleted = pool.deleted) := by
  cases move with
  | pushes => exact .inr ⟨rfl, rfl, rfl, rfl, rfl, rfl, rfl, rfl⟩
  | _ => exact .inl ⟨rfl, by simp, by simp, by simp⟩

theorem ledger_constructed (cfg : Config) : Ledger (constructed cfg) where
  order := rfl
  taken := fun task => by simp [constructed, List.countP_replicate, holdsTask]
  started := fun task => by simp [constructed, List.countP_replicate, hasStarted]
  finished := fun task => by simp [constructed, List.countP_replicate, hasFinished]

theorem ledger_same_logs {state after : State} (ledger : Ledger state)
    (same : taskLogs after.pool = taskLogs state.pool) (workers : after.workers = state.workers) :
    Ledger after := by
  obtain ⟨queue, pushed, taken, started, finished, deleted⟩ := task_logs_eq same
  constructor <;>
    simp only [LogCounts, queue, pushed, taken, started, finished, deleted, workers]
  · exact ledger.order
  · exact ledger.taken
  · exact ledger.started
  · exact ledger.finished

theorem ledger_move {impl : Implementation} {cfg : Config} {state after : State}
    {action : Action} (ledger : Ledger state) (moved : Move impl cfg state action after) :
    Ledger after := by
  cases moved with
  | call null => exact ⟨ledger.order, ledger.taken, ledger.started, ledger.finished⟩
  | producer at_pc move =>
      rcases producer_move_logs move with ⟨same, _⟩ | ⟨_, _, queue, pushed, taken, rest⟩
      · exact ledger_same_logs ledger same rfl
      · obtain ⟨started, finished, deleted⟩ := rest
        constructor <;> simp only [LogCounts, queue, pushed, taken, started, finished, deleted]
        · rw [ledger.order, List.append_assoc]
        · exact ledger.taken
        · exact ledger.started
        · exact ledger.finished
  | worker at_pc move =>
      obtain ⟨pushed, order⟩ := worker_move_order move
      exact
        { order := pushed.trans (ledger.order.trans order.symm)
          taken := log_counts_worker ledger.taken at_pc (worker_move_taken move)
          started := log_counts_worker ledger.started at_pc (worker_move_started move)
          finished := log_counts_worker ledger.finished at_pc (worker_move_finished move) }
  | manager move =>
      obtain ⟨queue, pushed, taken, started, finished, deleted⟩ :=
        task_logs_eq (manager_move_logs move)
      exact
        { order := by simp only [queue, pushed, taken, ledger.order]
          taken := log_counts_manager ledger.taken taken deleted fun _ => rfl
          started := log_counts_manager ledger.started started deleted fun _ => rfl
          finished := log_counts_manager ledger.finished finished deleted fun _ => rfl }
  | destructor move =>
      exact ledger_same_logs ledger (destructor_move_logs move) rfl

/-! ## Names -/

theorem named_constructed (cfg : Config) : Named (constructed cfg) where
  distinct := List.nodup_nil
  pushed := by
    intro task
    simp [constructed]

theorem named_same_pushes {state after : State} (named : Named state)
    (pushed : after.pool.pushed = state.pool.pushed)
    (producers : after.producers = state.producers) : Named after := by
  constructor <;> simp only [pushed, producers]
  · exact named.distinct
  · exact named.pushed

theorem named_producer {cfg : Config} {state : State} {id : Nat} {pc after : ProducerPc}
    {pool : Pool} (named : Named state) (at_pc : state.producers[id]? = some pc)
    (move : ProducerMove cfg id state.pool pc pool after) :
    Named { state with pool := pool, producers := state.producers.set id after } := by
  rcases producer_move_logs move with ⟨same, notPush, unlocks, notUnlock⟩ |
    ⟨rfl, rfl, queue, pushed, _⟩
  · obtain ⟨_, pushed, _⟩ := task_logs_eq same
    refine ⟨by simpa only [pushed] using named.distinct, ?_⟩
    intro task
    simp only [pushed, named.pushed task]
    by_cases own : task = id
    · subst own
      rw [at_pc, lookup_move_self at_pc]
      have fixed : pc ≠ .returned := by
        rintro rfl
        cases move
      simp [unlocks, notUnlock, fixed]
    · rw [lookup_move_other own]
  · have absent : id ∉ state.pool.pushed := by
      rw [named.pushed id, at_pc]
      simp
    constructor
    · simp only [pushed]
      rw [List.nodup_append]
      refine ⟨named.distinct, by simp, ?_⟩
      intro task member other single
      rw [List.mem_singleton.mp single]
      rintro rfl
      exact absent member
    · intro task
      simp only [pushed, List.mem_append, List.mem_singleton]
      by_cases own : task = id
      · subst own
        rw [lookup_move_self at_pc]
        simp
      · rw [lookup_move_other own, named.pushed task]
        simp [own]

theorem named_call {state : State} (named : Named state) (null : Bool) :
    Named { state with
      producers := state.producers ++ [if null then .refused else .testShutdown] } := by
  refine ⟨named.distinct, ?_⟩
  intro task
  rw [named.pushed task]
  constructor
  · rintro (found | found)
    · exact .inl (lookup_spawn_old _ found)
    · exact .inr (lookup_spawn_old _ found)
  · rintro (found | found)
    · rcases lookup_append found with old | ⟨_, impossible⟩
      · exact .inl old
      · cases null <;> cases impossible
    · rcases lookup_append found with old | ⟨_, impossible⟩
      · exact .inr old
      · cases null <;> cases impossible

theorem named_move {impl : Implementation} {cfg : Config} {state after : State}
    {action : Action} (named : Named state) (moved : Move impl cfg state action after) :
    Named after := by
  cases moved with
  | call null => exact named_call named null
  | producer at_pc move => exact named_producer named at_pc move
  | worker at_pc move =>
      exact named_same_pushes named (worker_move_order move).1 rfl
  | manager move =>
      obtain ⟨_, pushed, _⟩ := task_logs_eq (manager_move_logs move)
      exact named_same_pushes named pushed rfl
  | destructor move =>
      obtain ⟨_, pushed, _⟩ := task_logs_eq (destructor_move_logs move)
      exact named_same_pushes named pushed rfl

/-! ## The task behind getTask -/

theorem loaded_constructed (cfg : Config) : Loaded (constructed cfg) := by
  have started : ∀ (id : Nat) (pc : WorkerPc),
      (constructed cfg).workers[id]? = some pc → pc = .lockQueue := by
    intro id pc found
    have inside : id < cfg.minThreads ∧ WorkerPc.lockQueue = pc := by
      simpa [constructed, List.getElem?_replicate] using found
    exact inside.2.symm
  refine ⟨?_, ?_, ?_⟩
  · intro id found
    cases started id _ found
  · intro id found
    cases started id _ found
  · intro id pc found
    rw [started id pc found]
    rfl

theorem worker_move_queue {impl : Implementation} {id : Nat} {pool poolAfter : Pool}
    {pc after : WorkerPc} (move : WorkerMove impl id pool pc poolAfter after) :
    poolAfter.taskQ = pool.taskQ ∨ workerHolds pc = true := by
  cases move with
  | takes => exact .inr rfl
  | _ => exact .inl rfl

theorem worker_move_loaded {impl : Implementation} {id : Nat} {pool poolAfter : Pool}
    {pc after : WorkerPc} (move : WorkerMove impl id pool pc poolAfter after)
    (tested : pc = .testShutdown → pool.isShutdown = false → pool.taskQ ≠ [])
    (taking : pc = .getTask → pool.taskQ ≠ []) (pointer : hasNull pc = false) :
    (after = .testShutdown → poolAfter.isShutdown = false → poolAfter.taskQ ≠ []) ∧
      (after = .getTask → poolAfter.taskQ ≠ []) ∧ hasNull after = false := by
  cases move with
  | passesWait skip =>
      refine ⟨fun _ running nothing => skip ⟨nothing, running⟩, by simp, rfl⟩
  | staysOpen running => exact ⟨by simp, fun _ => tested rfl running, rfl⟩
  | takesNull nothing => exact absurd nothing (taking rfl)
  | @unlocksTask task =>
      cases task with
      | none => cases pointer
      | some task => exact ⟨by simp, by simp, rfl⟩
  | @getsBusy task =>
      cases task with
      | none => cases pointer
      | some task => exact ⟨by simp, by simp, rfl⟩
  | _ => exact ⟨by simp, by simp, rfl⟩

theorem loaded_worker {impl : Implementation} {state : State} {id : Nat} {pc after : WorkerPc}
    {pool : Pool} (exclusion : SingleHolder state) (loaded : Loaded state)
    (at_pc : state.workers[id]? = some pc) (move : WorkerMove impl id state.pool pc pool after) :
    Loaded { state with pool := pool, workers := state.workers.set id after } := by
  obtain ⟨ownTested, ownTaking, ownPointer⟩ := worker_move_loaded move
    (fun same => loaded.tested id (same ▸ at_pc)) (fun same => loaded.taking id (same ▸ at_pc))
    (loaded.pointer id pc at_pc)
  -- another worker past the wait loop holds the mutex, so the mover did not touch the queue
  have untouched : ∀ (other : Nat) (seen : WorkerPc), other ≠ id →
      state.workers[other]? = some seen → workerHolds seen = true →
        pool.taskQ = state.pool.taskQ := by
    intro other seen different old holds
    rcases worker_move_queue move with same | own
    · exact same
    · exact absurd (holder_unique exclusion at_pc own old holds) different
  refine ⟨?_, ?_, ?_⟩
  · intro other found running
    rcases lookup_move found with ⟨_, now⟩ | ⟨different, old⟩
    · exact ownTested now.symm running
    · simp only [untouched other _ different old rfl]
      exact loaded.tested other old (worker_move_flag move ▸ running)
  · intro other found
    rcases lookup_move found with ⟨_, now⟩ | ⟨different, old⟩
    · exact ownTaking now.symm
    · simp only [untouched other _ different old rfl]
      exact loaded.taking other old
  · intro other seen found
    rcases lookup_move found with ⟨_, rfl⟩ | ⟨_, old⟩
    · exact ownPointer
    · exact loaded.pointer other seen old

theorem producer_move_queue {cfg : Config} {id : Nat} {pool poolAfter : Pool}
    {pc after : ProducerPc} (move : ProducerMove cfg id pool pc poolAfter after) :
    pool.taskQ ⊆ poolAfter.taskQ := by
  cases move with
  | pushes => exact List.subset_append_left _ _
  | _ => exact fun _ member => member

theorem loaded_move {impl : Implementation} {cfg : Config} {state after : State}
    {action : Action} (exclusion : SingleHolder state) (loaded : Loaded state)
    (moved : Move impl cfg state action after) : Loaded after := by
  have running_before := flag_down_before moved
  cases moved with
  | call null => exact ⟨loaded.tested, loaded.taking, loaded.pointer⟩
  | producer at_pc move =>
      have grows := producer_move_queue move
      refine ⟨?_, ?_, loaded.pointer⟩
      · intro id found running nothing
        rw [nothing] at grows
        exact loaded.tested id found (running_before running) (List.subset_nil.mp grows)
      · intro id found nothing
        rw [nothing] at grows
        exact loaded.taking id found (List.subset_nil.mp grows)
  | worker at_pc move => exact loaded_worker exclusion loaded at_pc move
  | manager move =>
      obtain ⟨queue, _⟩ := task_logs_eq (manager_move_logs move)
      constructor <;> simp only [queue]
      · intro id found running
        rcases lookup_spawn found with old | ⟨_, _, impossible⟩
        · exact loaded.tested id old (running_before running)
        · cases impossible
      · intro id found
        rcases lookup_spawn found with old | ⟨_, _, impossible⟩
        · exact loaded.taking id old
        · cases impossible
      · intro id pc found
        rcases lookup_spawn found with old | ⟨_, _, rfl⟩
        · exact loaded.pointer id pc old
        · rfl
  | destructor move =>
      obtain ⟨queue, _⟩ := task_logs_eq (destructor_move_logs move)
      constructor <;> simp only [queue]
      · intro id found running
        exact loaded.tested id found (running_before running)
      · exact loaded.taking
      · exact loaded.pointer

/-! ## The invariant -/

structure Owned (state : State) : Prop where
  exclusion : SingleHolder state
  ledger : Ledger state
  named : Named state
  loaded : Loaded state

theorem owned_constructed (cfg : Config) : Owned (constructed cfg) :=
  ⟨exclusion_constructed cfg, ledger_constructed cfg, named_constructed cfg,
    loaded_constructed cfg⟩

theorem owned_move {impl : Implementation} {cfg : Config} {state after : State}
    {action : Action} (owned : Owned state) (moved : Move impl cfg state action after) :
    Owned after where
  exclusion := exclusion_move owned.exclusion moved
  ledger := ledger_move owned.ledger moved
  named := named_move owned.named moved
  loaded := loaded_move owned.exclusion owned.loaded moved

theorem owned_reachable {impl : Implementation} {cfg : Config} {state : State}
    (reached : Reachable (step impl cfg) (constructed cfg) state) : Owned state :=
  reachable_invariant Owned (owned_constructed cfg)
    (fun _ _ _ owned moved => owned_move owned (move_of_step moved).2) reached

theorem started_is_held (task : Task) (pc : WorkerPc) (started : hasStarted task pc = true) :
    holdsTask task pc = true := by
  cases pc <;> first | exact started | cases started

theorem finished_is_started (task : Task) (pc : WorkerPc) (finished : hasFinished task pc = true) :
    hasStarted task pc = true := by
  cases pc <;> first | exact finished | cases finished

/-- The law of ownership. `place` counts the places of a pushed task: the queue, the
workers that hold it, and the tasks deleted after their run. -/
structure TaskOwnership (state : State) : Prop where
  fifo : state.pool.pushed = state.pool.taken ++ state.pool.taskQ
  place : ∀ task ∈ state.pool.pushed,
    state.pool.taskQ.count task + state.workers.countP (holdsTask task) +
      state.pool.deleted.count task = 1
  queuedFresh : ∀ task ∈ state.pool.taskQ, state.pool.started.count task = 0
  runOnce : ∀ task, state.pool.started.count task ≤ 1
  endsAfterStart : ∀ task, state.pool.finished.count task ≤ state.pool.started.count task
  deletedAfterEnd : ∀ task, state.pool.deleted.count task ≤ state.pool.finished.count task
  taskFound : ∀ id : Nat, state.workers[id]? = some .getTask → state.pool.taskQ ≠ []
  neverNull : ∀ id : Nat, state.workers[id]? ≠ some (.runTask none)

theorem queued_or_taken {state : State} (owned : Owned state) (task : Task) :
    state.pool.taken.count task + state.pool.taskQ.count task ≤ 1 := by
  have once := List.nodup_iff_count_le_one.mp owned.named.distinct task
  rw [owned.ledger.order, List.count_append] at once
  exact once

theorem started_le_taken {state : State} (owned : Owned state) (task : Task) :
    state.pool.started.count task ≤ state.pool.taken.count task := by
  have nested : state.workers.countP (hasStarted task) ≤ state.workers.countP (holdsTask task) :=
    List.countP_mono_left fun pc _ => started_is_held task pc
  have := owned.ledger.taken task
  have := owned.ledger.started task
  omega

theorem task_ownership_of_owned {state : State} (owned : Owned state) : TaskOwnership state where
  fifo := owned.ledger.order
  place := by
    intro task member
    have := queued_or_taken owned task
    have := owned.ledger.taken task
    have present := List.count_pos_iff.mpr member
    rw [owned.ledger.order, List.count_append] at present
    omega
  queuedFresh := by
    intro task member
    have := queued_or_taken owned task
    have := started_le_taken owned task
    have := List.count_pos_iff.mpr member
    omega
  runOnce := by
    intro task
    have := queued_or_taken owned task
    have := started_le_taken owned task
    omega
  endsAfterStart := by
    intro task
    have nested : state.workers.countP (hasFinished task) ≤
        state.workers.countP (hasStarted task) :=
      List.countP_mono_left fun pc _ => finished_is_started task pc
    have := owned.ledger.started task
    have := owned.ledger.finished task
    omega
  deletedAfterEnd := by
    intro task
    have := owned.ledger.finished task
    omega
  taskFound := owned.loaded.taking
  neverNull := by
    intro id found
    cases owned.loaded.pointer id _ found

theorem task_ownership (impl : Implementation) (cfg : Config) (state : State)
    (reached : Reachable (step impl cfg) (constructed cfg) state) : TaskOwnership state :=
  task_ownership_of_owned (owned_reachable reached)

/-- One task is running while a second one is still queued. -/
theorem task_ownership_two_tasks :
    ∃ state, exec (step .pthread ⟨1, 2, 1, 4, by decide⟩) (constructed ⟨1, 2, 1, 4, by decide⟩)
        ([.submit false, .submit false] ++ List.replicate 5 (.producer 1 0) ++
          List.replicate 5 (.producer 0 0) ++ List.replicate 7 (.worker 0 0)) = some state ∧
      state.workers = [.running 1] ∧ state.pool.taskQ = [0] ∧ TaskOwnership state := by
  obtain ⟨state, run, seen⟩ := exec_checked (step .pthread ⟨1, 2, 1, 4, by decide⟩)
    (constructed ⟨1, 2, 1, 4, by decide⟩)
    ([.submit false, .submit false] ++ List.replicate 5 (.producer 1 0) ++
      List.replicate 5 (.producer 0 0) ++ List.replicate 7 (.worker 0 0))
    (fun state => decide (state.workers = [.running 1] ∧ state.pool.taskQ = [0])) (by decide)
  obtain ⟨workers, queue⟩ := of_decide_eq_true seen
  exact ⟨state, run, workers, queue,
    task_ownership .pthread ⟨1, 2, 1, 4, by decide⟩ state (reachable_of_exec run)⟩

end BackendComponents.ThreadPool.Ownership
