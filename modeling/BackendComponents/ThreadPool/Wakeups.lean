import BackendComponents.ThreadPool.Accounting

/-!
# Queued tasks and sleeping workers

`m_empty` carries two kinds of notifications, a new task and a wish that a worker
leaves, and a worker that wakes cannot tell them apart: it first looks for an exit
credit. A credit whose own notification was lost makes it leave on the wake-up of a
task. That is the only step that can strand a queued task before a shutdown.
-/

namespace BackendComponents.ThreadPool.Wakeups

open BackendComponents.Lib.Paths
open BackendComponents.Lib.Threads
open BackendComponents.ThreadPool.Model
open BackendComponents.ThreadPool.Moves
open BackendComponents.ThreadPool.Accounting

set_option autoImplicit false

def liveWorkers (state : State) : List Nat :=
  (List.range state.workers.length).filter fun id => state.workers[id]?.any isLive

/-- Before the shutdown, while a task is queued and a worker is live, some live worker
is not blocked on `m_empty`. -/
def NoStuckTask (state : State) : Prop :=
  state.pool.isShutdown = false → state.pool.taskQ ≠ [] → liveWorkers state ≠ [] →
    ∃ id ∈ liveWorkers state, id ∉ state.pool.empty

/-- The wake-up law of the pool, for every interleaving. -/
def WakeupLaw (impl : Implementation) : Prop :=
  ∀ cfg : Config, 0 < cfg.minThreads → 1 ≤ cfg.opNum → 1 ≤ cfg.capacity →
    ∀ state, Reachable (step impl cfg) (constructed cfg) state → NoStuckTask state

def leavesByCredit (impl : Implementation) (state : State) : Action → Option Nat
  | .worker id _ =>
      match state.workers[id]? with
      | some .testExit => if impl = .stl ∧ 0 < state.pool.exitThreads then some id else none
      | some .takeExit => some id
      | _ => none
  | _ => none

/-- A worker that spends an exit credit while a task is queued is not the last one
awake among the live workers. -/
def CreditSafe (impl : Implementation) (state : State) (action : Action) : Prop :=
  ∀ id ∈ leavesByCredit impl state action,
    state.pool.isShutdown = false → state.pool.taskQ ≠ [] →
      (∃ other ∈ liveWorkers state, other ≠ id) →
        ∃ other ∈ liveWorkers state, other ≠ id ∧ other ∉ state.pool.empty

instance (impl : Implementation) (state : State) (action : Action) :
    Decidable (CreditSafe impl state action) :=
  inferInstanceAs (Decidable (∀ _ ∈ _, _))

instance (state : State) : Decidable (NoStuckTask state) :=
  inferInstanceAs (Decidable (_ → _ → _ → ∃ _ ∈ _, _))

theorem mem_live_workers {state : State} {id : Nat} :
    id ∈ liveWorkers state ↔ ∃ pc, state.workers[id]? = some pc ∧ isLive pc = true := by
  simp only [liveWorkers, List.mem_filter, List.mem_range, Option.any_eq_true]
  constructor
  · exact fun inside => inside.2
  · rintro ⟨pc, found, live⟩
    exact ⟨lookup_bound found, pc, found, live⟩

/-- `empty` lists exactly threads that stand in the wait, each once; a worker on its
way out for the shutdown has seen the flag. -/
structure Blocked (state : State) : Prop where
  waits : ∀ id ∈ state.pool.empty, state.workers[id]? = some .waiting
  distinct : state.pool.empty.Nodup
  retiring : ∀ id : Nat, state.workers[id]? = some .decLive → state.pool.isShutdown = true

theorem blocked_constructed (cfg : Config) : Blocked (constructed cfg) where
  waits := fun id member => by cases member
  distinct := List.nodup_nil
  retiring := by
    intro id found
    simp [constructed, List.getElem?_replicate] at found

theorem worker_move_blocked {impl : Implementation} {id : Nat} {pool poolAfter : Pool}
    {pc after : WorkerPc} (move : WorkerMove impl id pool pc poolAfter after) :
    ((pc = .testWait ∧ after = .waiting ∧ poolAfter.empty = pool.empty ++ [id]) ∨
        (poolAfter.empty = pool.empty ∧ (pc = .waiting → id ∉ pool.empty))) ∧
      (after = .decLive → pool.isShutdown = true) := by
  cases move with
  | blocks nothing running => exact ⟨.inl ⟨rfl, rfl, rfl⟩, by simp⟩
  | resumes awake free => exact ⟨.inr ⟨rfl, fun _ => awake⟩, by simp⟩
  | seesShutdown shut => exact ⟨.inr ⟨rfl, by simp⟩, fun _ => shut⟩
  | _ => exact ⟨.inr ⟨rfl, by simp⟩, by simp⟩

theorem blocked_worker {impl : Implementation} {state : State} {id : Nat} {pc after : WorkerPc}
    {pool : Pool} (blocked : Blocked state) (at_pc : state.workers[id]? = some pc)
    (move : WorkerMove impl id state.pool pc pool after) :
    Blocked { state with pool := pool, workers := state.workers.set id after } := by
  obtain ⟨empty, flagged⟩ := worker_move_blocked move
  have retiring : ∀ other : Nat, (state.workers.set id after)[other]? = some .decLive →
      pool.isShutdown = true := by
    intro other found
    rw [worker_move_flag move]
    rcases lookup_move found with ⟨_, now⟩ | ⟨_, old⟩
    · exact flagged now.symm
    · exact blocked.retiring other old
  rcases empty with ⟨rfl, rfl, more⟩ | ⟨same, awake⟩
  · have absent : id ∉ state.pool.empty := by
      intro member
      rw [blocked.waits id member] at at_pc
      cases at_pc
    constructor
    · rw [more]
      exact waits_join blocked.waits at_pc
    · rw [more]
      exact nodup_join blocked.distinct absent
    · exact retiring
  · constructor
    · rw [same]
      exact waits_stay blocked.waits at_pc awake
    · rw [same]
      exact blocked.distinct
    · exact retiring

theorem producer_move_empty {cfg : Config} {id : Nat} {pool poolAfter : Pool}
    {pc after : ProducerPc} (move : ProducerMove cfg id pool pc poolAfter after) :
    (poolAfter.empty = pool.empty ∧ poolAfter.taskQ = pool.taskQ) ∨
      ∃ pick, notifyOne pick pool.empty = some poolAfter.empty := by
  cases move with
  | @pushes pick empty notified => exact .inr ⟨pick, notified⟩
  | _ => exact .inl ⟨rfl, rfl⟩

theorem manager_move_empty {cfg : Config} {created spawned : Nat} {pool poolAfter : Pool}
    {pc after : ManagerPc} (move : ManagerMove cfg created pool pc poolAfter spawned after) :
    poolAfter.taskQ = pool.taskQ ∧ poolAfter.empty ⊆ pool.empty ∧
      (pool.empty.Nodup → poolAfter.empty.Nodup) := by
  cases move with
  | notifies notified =>
      exact ⟨rfl, fun _ still => notify_one_subset notified still, notify_one_nodup notified⟩
  | _ => exact ⟨rfl, fun _ member => member, fun distinct => distinct⟩

theorem destructor_move_empty {impl : Implementation} {managerPc : ManagerPc}
    {pool poolAfter : Pool} {pc after : DestructorPc}
    (move : DestructorMove impl managerPc pool pc poolAfter after) :
    poolAfter.taskQ = pool.taskQ ∧ (poolAfter.empty = pool.empty ∨ poolAfter.empty = []) := by
  cases move with
  | broadcasts => exact ⟨rfl, .inr rfl⟩
  | notifies => exact ⟨rfl, .inr rfl⟩
  | _ => exact ⟨rfl, .inl rfl⟩

theorem blocked_move {impl : Implementation} {cfg : Config} {state after : State}
    {action : Action} (blocked : Blocked state) (moved : Move impl cfg state action after) :
    Blocked after := by
  have shutdown := move_keeps_flag moved
  cases moved with
  | call null => exact ⟨blocked.waits, blocked.distinct, blocked.retiring⟩
  | producer at_pc move =>
      have retiring := fun id found => shutdown (blocked.retiring id found)
      rcases producer_move_empty move with ⟨same, _⟩ | ⟨pick, notified⟩
      · refine ⟨?_, ?_, retiring⟩ <;> simp only [same]
        · exact blocked.waits
        · exact blocked.distinct
      · refine ⟨?_, notify_one_nodup notified blocked.distinct, retiring⟩
        intro id member
        exact blocked.waits id (notify_one_subset notified member)
  | worker at_pc move => exact blocked_worker blocked at_pc move
  | manager move =>
      obtain ⟨_, fewer, distinct⟩ := manager_move_empty move
      refine ⟨?_, distinct blocked.distinct, ?_⟩
      · intro id member
        exact lookup_spawn_old _ (blocked.waits id (fewer member))
      · intro id found
        rcases lookup_spawn found with old | ⟨_, _, impossible⟩
        · exact shutdown (blocked.retiring id old)
        · cases impossible
  | destructor move =>
      have retiring := fun id found => shutdown (blocked.retiring id found)
      obtain ⟨_, same | cleared⟩ := destructor_move_empty move
      · refine ⟨?_, ?_, retiring⟩ <;> simp only [same]
        · exact blocked.waits
        · exact blocked.distinct
      · refine ⟨?_, ?_, retiring⟩ <;> simp only [cleared]
        · intro id member
          cases member
        · exact List.nodup_nil

/-! ## One step -/

theorem push_leaves_awake {state : State} {pick : Nat} {pool : Pool} (blocked : Blocked state)
    (notified : notifyOne pick state.pool.empty = some pool.empty)
    (live : liveWorkers state ≠ []) : ∃ id ∈ liveWorkers state, id ∉ pool.empty := by
  rcases notify_one_cases notified with ⟨_, nobody⟩ | ⟨member, _⟩
  · obtain ⟨id, isLiveWorker⟩ := List.exists_mem_of_ne_nil _ live
    exact ⟨id, isLiveWorker, by simp [nobody]⟩
  · refine ⟨pick, ?_, notify_one_wakes notified blocked.distinct⟩
    exact mem_live_workers.mpr ⟨_, blocked.waits pick member, rfl⟩

theorem live_workers_move {state : State} {id : Nat} {pc after : WorkerPc} {pool : Pool}
    (at_pc : state.workers[id]? = some pc) (other : Nat) :
    other ∈ liveWorkers { state with pool := pool, workers := state.workers.set id after } ↔
      (other = id ∧ isLive after = true) ∨ (other ≠ id ∧ other ∈ liveWorkers state) := by
  simp only [mem_live_workers]
  by_cases own : other = id
  · subst own
    simp [lookup_move_self at_pc]
  · simp [lookup_move_other own, own]

theorem worker_move_wakeup {impl : Implementation} {id : Nat} {pool poolAfter : Pool}
    {pc after : WorkerPc} (move : WorkerMove impl id pool pc poolAfter after) :
    (isLive after = false ∧ poolAfter.taskQ = pool.taskQ ∧ poolAfter.empty = pool.empty ∧
        ((pc = .testExit ∧ impl = .stl ∧ 0 < pool.exitThreads) ∨ pc = .takeExit)) ∨
      pc = .decLive ∨
      (isLive after = isLive pc ∧ (pc = .testExit → ¬(impl = .stl ∧ 0 < pool.exitThreads)) ∧
        pc ≠ .takeExit ∧ (poolAfter.taskQ = [] ∨
          (poolAfter.empty = pool.empty ∧ (pool.taskQ = [] → poolAfter.taskQ = [])))) := by
  cases move with
  | takesCredit version credit => exact .inl ⟨rfl, rfl, rfl, .inl ⟨rfl, version, credit⟩⟩
  | spendsCredit => exact .inl ⟨rfl, rfl, rfl, .inr rfl⟩
  | retires => exact .inr (.inl rfl)
  | blocks nothing running => exact .inr (.inr ⟨rfl, by simp, by simp, .inl nothing⟩)
  | noCredit credit =>
      exact .inr (.inr ⟨rfl, fun _ both => credit both.2, by simp,
        .inr ⟨rfl, fun nothing => nothing⟩⟩)
  | seesCredit version credit =>
      refine .inr (.inr ⟨rfl, ?_, by simp, .inr ⟨rfl, fun nothing => nothing⟩⟩)
      rintro - ⟨stl, -⟩
      rw [version] at stl
      cases stl
  | takes head notified =>
      refine .inr (.inr ⟨rfl, by simp, by simp, .inr ⟨rfl, ?_⟩⟩)
      intro nothing
      rw [nothing] at head
      cases head
  | _ => exact .inr (.inr ⟨rfl, by simp, by simp, .inr ⟨rfl, fun nothing => nothing⟩⟩)

theorem leaves_by_credit_eq {impl : Implementation} {state : State} {id pick : Nat}
    {pc : WorkerPc} (at_pc : state.workers[id]? = some pc) :
    leavesByCredit impl state (.worker id pick) =
      if (pc = .testExit ∧ impl = .stl ∧ 0 < state.pool.exitThreads) ∨ pc = .takeExit
      then some id else none := by
  simp only [leavesByCredit, at_pc]
  cases pc <;> simp

theorem stuck_iff_worker {impl : Implementation} {state : State} {id pick : Nat}
    {pc after : WorkerPc} {pool : Pool} (blocked : Blocked state) (awake : NoStuckTask state)
    (running : state.pool.isShutdown = false) (at_pc : state.workers[id]? = some pc)
    (move : WorkerMove impl id state.pool pc pool after) :
    NoStuckTask { state with pool := pool, workers := state.workers.set id after } ↔
      CreditSafe impl state (.worker id pick) := by
  have shutdown := worker_move_flag move
  have members : ∀ other,
      other ∈ liveWorkers { state with pool := pool, workers := state.workers.set id after } ↔
        (other = id ∧ isLive after = true) ∨ (other ≠ id ∧ other ∈ liveWorkers state) :=
    live_workers_move at_pc
  simp only [CreditSafe, leaves_by_credit_eq at_pc]
  rcases worker_move_wakeup move with ⟨gone, queue, empty, spends⟩ | rfl |
    ⟨kept, noCredit, notTaken, queue⟩
  · rw [if_pos spends]
    have survivors : ∀ other,
        other ∈ liveWorkers { state with pool := pool, workers := state.workers.set id after } ↔
          other ≠ id ∧ other ∈ liveWorkers state := by
      intro other
      rw [members other, gone]
      simp
    simp only [Option.mem_some_iff, forall_eq', NoStuckTask, queue, empty, shutdown]
    constructor
    · rintro law _ queued ⟨other, live, different⟩
      have someone : liveWorkers
          { state with pool := pool, workers := state.workers.set id after } ≠ [] :=
        List.ne_nil_of_mem ((survivors other).mpr ⟨different, live⟩)
      obtain ⟨saved, member, free⟩ := law running queued someone
      obtain ⟨apart, live⟩ := (survivors saved).mp member
      exact ⟨saved, live, apart, free⟩
    · intro safe _ queued someone
      obtain ⟨other, member⟩ := List.exists_mem_of_ne_nil _ someone
      obtain ⟨different, live⟩ := (survivors other).mp member
      obtain ⟨saved, live, apart, free⟩ := safe running queued ⟨other, live, different⟩
      exact ⟨saved, (survivors saved).mpr ⟨apart, live⟩, free⟩
  · -- a worker retires only after it saw the flag
    rw [blocked.retiring id at_pc] at running
    cases running
  · have stays : ¬((pc = .testExit ∧ impl = .stl ∧ 0 < state.pool.exitThreads) ∨
        pc = .takeExit) := by
      rintro (⟨same, credit⟩ | same)
      · exact noCredit same credit
      · exact notTaken same
    rw [if_neg stays]
    apply iff_of_true _ (by simp)
    intro _ queued someone
    have same : ∀ other,
        other ∈ liveWorkers { state with pool := pool, workers := state.workers.set id after } ↔
          other ∈ liveWorkers state := by
      intro other
      rw [members other, kept]
      by_cases own : other = id
      · subst own
        simp [mem_live_workers, at_pc]
      · simp [own]
    rcases queue with nothing | ⟨empty, shrinks⟩
    · exact absurd nothing queued
    · obtain ⟨other, member⟩ := List.exists_mem_of_ne_nil _ someone
      obtain ⟨saved, live, free⟩ := awake running (fun nothing => queued (shrinks nothing))
        (List.ne_nil_of_mem ((same other).mp member))
      exact ⟨saved, (same saved).mpr live, by simpa only [empty] using free⟩

theorem stuck_manager {cfg : Config} {state : State} {spawned : Nat} {pool : Pool}
    {after : ManagerPc} (blocked : Blocked state) (awake : NoStuckTask state)
    (running : state.pool.isShutdown = false)
    (move : ManagerMove cfg state.workers.length state.pool state.manager pool spawned after) :
    NoStuckTask
      { state with
        pool := pool
        workers := state.workers ++ List.replicate spawned .lockQueue
        manager := after } := by
  obtain ⟨queue, fewer, _⟩ := manager_move_empty move
  intro _ queued someone
  simp only [queue] at queued
  obtain ⟨other, member⟩ := List.exists_mem_of_ne_nil _ someone
  obtain ⟨pc, found, live⟩ := mem_live_workers.mp member
  rcases lookup_spawn found with old | ⟨lower, _, _⟩
  · obtain ⟨saved, member, free⟩ := awake running queued
      (List.ne_nil_of_mem (mem_live_workers.mpr ⟨pc, old, live⟩))
    obtain ⟨savedPc, savedAt, savedLive⟩ := mem_live_workers.mp member
    exact ⟨saved, mem_live_workers.mpr ⟨savedPc, lookup_spawn_old _ savedAt, savedLive⟩,
      fun still => free (fewer still)⟩
  · -- a worker that was just started has never waited
    refine ⟨other, member, fun still => ?_⟩
    have bound := lookup_bound (blocked.waits other (fewer still))
    omega

/-- Before the shutdown one step keeps the law exactly if the credit it spends, if
any, is safe. -/
theorem stuck_step_iff {impl : Implementation} {cfg : Config} {state after : State}
    {action : Action} (blocked : Blocked state) (awake : NoStuckTask state)
    (moved : Move impl cfg state action after) :
    NoStuckTask after ↔ CreditSafe impl state action := by
  have shutdown := move_keeps_flag moved
  by_cases running : state.pool.isShutdown = false
  · cases moved with
    | call null => exact iff_of_true awake (by simp [CreditSafe, leavesByCredit])
    | producer at_pc move =>
        apply iff_of_true _ (by simp [CreditSafe, leavesByCredit])
        rcases producer_move_empty move with ⟨same, queue⟩ | ⟨pick, notified⟩
        · intro _ queued someone
          simp only [queue] at queued
          obtain ⟨saved, member, free⟩ := awake running queued someone
          exact ⟨saved, member, by simpa only [same] using free⟩
        · intro _ _ someone
          obtain ⟨saved, member, free⟩ := push_leaves_awake blocked notified someone
          exact ⟨saved, member, free⟩
    | worker at_pc move => exact stuck_iff_worker blocked awake running at_pc move
    | manager move =>
        exact iff_of_true (stuck_manager blocked awake running move)
          (by simp [CreditSafe, leavesByCredit])
    | destructor move =>
        apply iff_of_true _ (by simp [CreditSafe, leavesByCredit])
        obtain ⟨queue, same | cleared⟩ := destructor_move_empty move
        · intro _ queued someone
          simp only [queue] at queued
          obtain ⟨saved, member, free⟩ := awake running queued someone
          exact ⟨saved, member, by simpa only [same] using free⟩
        · intro _ _ someone
          obtain ⟨saved, member⟩ := List.exists_mem_of_ne_nil _ someone
          exact ⟨saved, member, by simp [cleared]⟩
  · have shut := Bool.not_eq_false _ ▸ running
    apply iff_of_true _ fun _ _ open_pool => absurd open_pool running
    intro open_after
    rw [shutdown shut] at open_after
    cases open_after

/-- In a run no task is stuck before the shutdown exactly if every worker that spends
an exit credit while a task is queued leaves another live worker awake. -/
theorem no_stuck_task_iff (impl : Implementation) (cfg : Config)
    (trail : List (State × Action)) (last : State)
    (path : Path (step impl cfg) (constructed cfg) trail last) :
    (∀ state ∈ visited trail last, NoStuckTask state) ↔
      ∀ taken ∈ trail, CreditSafe impl taken.1 taken.2 := by
  apply path_property_iff_good Blocked NoStuckTask (CreditSafe impl) _ _ _ _ path
  · exact blocked_constructed cfg
  · intro _ queued
    exact absurd rfl queued
  · intro state action after blocked moved
    exact blocked_move blocked (move_of_step moved).2
  · intro state action after blocked awake moved
    exact stuck_step_iff blocked awake (move_of_step moved).2

/-! ## Runs -/

/-- Two queued tasks make the manager start a second worker; both tasks are then run
and both workers are about to look at the queue again. -/
def growSchedule : List Action :=
  [.submit false, .submit false] ++ List.replicate 5 (.producer 0 0) ++
    List.replicate 5 (.producer 1 0) ++ List.replicate 5 (.manager 0) ++
    List.replicate 10 (.worker 0 0) ++ List.replicate 10 (.worker 1 0)

/-- Both workers sleep before the manager hands out a credit, so the credit's
notification reaches worker 0 while nothing is queued. -/
def creditDelivered : List Action :=
  growSchedule ++ List.replicate 2 (.worker 0 0) ++ List.replicate 2 (.worker 1 0) ++
    List.replicate 7 (.manager 0) ++ List.replicate 4 (.worker 0 0)

/-- The manager hands out the credit while nobody sleeps: its notification is lost,
and worker 0 finds the credit when a third task wakes it. -/
def creditOutlives (exitMoves : Nat) : List Action :=
  growSchedule ++ List.replicate 7 (.manager 0) ++ List.replicate 2 (.worker 0 0) ++
    List.replicate 2 (.worker 1 0) ++ [.submit false] ++ List.replicate 5 (.producer 2 0) ++
    List.replicate exitMoves (.worker 0 0)

theorem no_stuck_task_delivered :
    ∃ last, exec (step .stl ⟨1, 2, 1, 4, by decide⟩) (constructed ⟨1, 2, 1, 4, by decide⟩)
        creditDelivered = some last ∧
      last.workers = [.exited, .waiting] ∧
      ∀ state ∈ visited (trailOf (step .stl ⟨1, 2, 1, 4, by decide⟩)
        (constructed ⟨1, 2, 1, 4, by decide⟩) creditDelivered) last, NoStuckTask state := by
  obtain ⟨last, run, workers⟩ := exec_checked (step .stl ⟨1, 2, 1, 4, by decide⟩)
    (constructed ⟨1, 2, 1, 4, by decide⟩) creditDelivered
    (fun state => decide (state.workers = [.exited, .waiting])) (by decide)
  refine ⟨last, run, of_decide_eq_true workers, ?_⟩
  exact (no_stuck_task_iff .stl ⟨1, 2, 1, 4, by decide⟩ _ last (path_of_exec run)).mpr (by decide)

theorem law_fails_of_stranded {impl : Implementation} (schedule : List Action)
    (stranded : (exec (step impl ⟨1, 2, 1, 4, by decide⟩) (constructed ⟨1, 2, 1, 4, by decide⟩)
      schedule).any (fun state =>
        decide (state.workers = [.exited, .waiting] ∧ ¬NoStuckTask state)) = true) :
    ¬WakeupLaw impl := by
  intro law
  obtain ⟨last, run, stuck⟩ := exec_checked _ _ _ _ stranded
  have kept := law _ (by decide) (by decide) (by decide) last (reachable_of_exec run)
  exact (of_decide_eq_true stuck).2 kept

/-- Worker 0 has left on the wake-up of the third task, which stays queued while the
only live worker sleeps. -/
theorem credit_strands_task : ¬WakeupLaw .stl ∧ ¬WakeupLaw .pthread := by
  constructor
  · exact law_fails_of_stranded (creditOutlives 4) (by decide)
  · exact law_fails_of_stranded (creditOutlives 5) (by decide)

end BackendComponents.ThreadPool.Wakeups
