import BackendComponents.ThreadPool.Bounds
import BackendComponents.ThreadPool.Progress
import BackendComponents.ThreadPool.Shutdown

/-!
# Every accepted task is run

`m_full` and `m_empty` lose no wake-up that matters: a producer that waits has a queued task
or a woken producer before it, and a queued task has a live worker that is awake unless an
exit credit took the last one. So the pool never stands still with work left, and the calls
and the tasks bound the number of steps it takes.
-/

namespace BackendComponents.ThreadPool.Draining

open BackendComponents.Lib.Paths
open BackendComponents.Lib.Threads
open BackendComponents.Lib.Progress
open BackendComponents.ThreadPool.Model
open BackendComponents.ThreadPool.Moves
open BackendComponents.ThreadPool.Exclusion
open BackendComponents.ThreadPool.Accounting
open BackendComponents.ThreadPool.Quiescence
open BackendComponents.ThreadPool.Ownership
open BackendComponents.ThreadPool.Shutdown
open BackendComponents.ThreadPool.Bounds
open BackendComponents.ThreadPool.Equivalence
open BackendComponents.ThreadPool.Submission
open BackendComponents.ThreadPool.Wakeups
open BackendComponents.ThreadPool.Progress

set_option autoImplicit false

/-- In the wait loop of `submit`, or past it and not yet through with the push. -/
def arriving : ProducerPc → Bool
  | .waiting | .testFull | .push => true
  | _ => false

theorem arriving_not_over {pc : ProducerPc} (arrives : arriving pc = true) :
    isOver pc = false := by
  cases pc <;> first | rfl | cases arrives

/-- `full` lists threads that stand in the wait, each once. While there is one, a task is
queued or a producer that will look at the queue is awake. -/
structure Served (state : State) : Prop where
  waits : ∀ id ∈ state.pool.full, state.producers[id]? = some .waiting
  distinct : state.pool.full.Nodup
  served : state.pool.full ≠ [] → state.pool.taskQ ≠ [] ∨
    ∃ (id : Nat) (pc : ProducerPc), state.producers[id]? = some pc ∧ arriving pc = true ∧
      id ∉ state.pool.full

theorem served_constructed (cfg : Config) : Served (constructed cfg) where
  waits := fun id member => by cases member
  distinct := List.nodup_nil
  served := fun some_waits => absurd rfl some_waits

theorem producer_move_full {cfg : Config} {id : Nat} {pool poolAfter : Pool}
    {pc after : ProducerPc} (move : ProducerMove cfg id pool pc poolAfter after) :
    (pc = .testFull ∧ after = .waiting ∧ poolAfter.full = pool.full ++ [id] ∧
        poolAfter.taskQ = pool.taskQ ∧ cfg.capacity ≤ pool.taskQ.length) ∨
      (poolAfter.full = pool.full ∧ (pc = .waiting → id ∉ pool.full) ∧
        (poolAfter.taskQ ≠ [] ∨
          (poolAfter.taskQ = pool.taskQ ∧ (arriving pc = true → arriving after = true)))) := by
  cases move with
  | blocks crowded => exact .inl ⟨rfl, rfl, rfl, rfl, crowded⟩
  | resumes awake => exact .inr ⟨rfl, fun _ => awake, .inr ⟨rfl, fun _ => rfl⟩⟩
  | passesFull => exact .inr ⟨rfl, by simp, .inr ⟨rfl, fun _ => rfl⟩⟩
  | locks => exact .inr ⟨rfl, by simp, .inr ⟨rfl, fun _ => rfl⟩⟩
  | pushes => exact .inr ⟨rfl, by simp, .inl (by simp)⟩
  | _ => exact .inr ⟨rfl, by simp, .inr ⟨rfl, fun impossible => nomatch impossible⟩⟩

theorem served_producer {cfg : Config} {state : State} {id : Nat} {pc after : ProducerPc}
    {pool : Pool} (capacity : 0 < cfg.capacity) (served : Served state)
    (at_pc : state.producers[id]? = some pc)
    (move : ProducerMove cfg id state.pool pc pool after) :
    Served { state with pool := pool, producers := state.producers.set id after } := by
  rcases producer_move_full move with ⟨rfl, rfl, more, queue, crowded⟩ | ⟨same, awake, goes_on⟩
  · have absent : id ∉ state.pool.full := by
      intro member
      rw [served.waits id member] at at_pc
      cases at_pc
    refine ⟨?_, ?_, fun _ => .inl ?_⟩
    · rw [more]
      exact waits_join served.waits at_pc
    · rw [more]
      exact nodup_join served.distinct absent
    · simp only [queue]
      rintro nothing
      rw [nothing] at crowded
      exact absurd capacity (Nat.not_lt.mpr crowded)
  · refine ⟨?_, by simpa only [same] using served.distinct, ?_⟩
    · rw [same]
      exact waits_stay served.waits at_pc awake
    · simp only [same]
      intro some_waits
      rcases goes_on with queued | ⟨queue, still⟩
      · exact .inl queued
      · rw [queue]
        apply (served.served some_waits).imp_right
        rintro ⟨other, seen, found, arrives, free⟩
        by_cases own : other = id
        · subst own
          rw [at_pc] at found
          obtain rfl := Option.some.inj found
          exact ⟨other, after, lookup_move_self at_pc, still arrives, free⟩
        · exact ⟨other, seen, (lookup_move_other own).trans found, arrives, free⟩

theorem worker_move_full {impl : Implementation} {id : Nat} {pool poolAfter : Pool}
    {pc after : WorkerPc} (move : WorkerMove impl id pool pc poolAfter after) :
    (poolAfter.full = pool.full ∧ poolAfter.taskQ = pool.taskQ) ∨
      ∃ pick, notifyOne pick pool.full = some poolAfter.full := by
  cases move with
  | @takes task pick rest full head notified => exact .inr ⟨pick, notified⟩
  | @takesNull pick full nothing notified => exact .inr ⟨pick, notified⟩
  | _ => exact .inl ⟨rfl, rfl⟩

theorem served_worker {impl : Implementation} {state : State} {id : Nat} {pc after : WorkerPc}
    {pool : Pool} (served : Served state) (move : WorkerMove impl id state.pool pc pool after) :
    Served { state with pool := pool, workers := state.workers.set id after } := by
  rcases worker_move_full move with ⟨same, queue⟩ | ⟨pick, notified⟩
  · refine ⟨?_, ?_, ?_⟩ <;> simp only [same, queue]
    · exact served.waits
    · exact served.distinct
    · exact served.served
  · refine ⟨?_, notify_one_nodup notified served.distinct, fun some_waits => .inr ?_⟩
    · intro other member
      exact served.waits other (notify_one_subset notified member)
    · rcases notify_one_cases notified with ⟨_, nobody⟩ | ⟨member, _⟩
      · exact absurd nobody some_waits
      · exact ⟨pick, .waiting, served.waits pick member, rfl,
          notify_one_wakes notified served.distinct⟩

theorem served_same {state after : State} (served : Served state)
    (full : after.pool.full = state.pool.full) (queue : after.pool.taskQ = state.pool.taskQ)
    (producers : after.producers = state.producers) : Served after := by
  constructor <;> simp only [full, queue, producers]
  · exact served.waits
  · exact served.distinct
  · exact served.served

theorem manager_move_full {cfg : Config} {created spawned : Nat} {pool poolAfter : Pool}
    {pc after : ManagerPc} (move : ManagerMove cfg created pool pc poolAfter spawned after) :
    poolAfter.full = pool.full := by
  cases move <;> rfl

theorem destructor_move_full {impl : Implementation} {managerPc : ManagerPc}
    {pool poolAfter : Pool} {pc after : DestructorPc}
    (move : DestructorMove impl managerPc pool pc poolAfter after) :
    poolAfter.full = pool.full := by
  cases move <;> rfl

theorem served_move {impl : Implementation} {cfg : Config} {state after : State}
    {action : Action} (capacity : 0 < cfg.capacity) (served : Served state)
    (moved : Move impl cfg state action after) : Served after := by
  cases moved with
  | call null =>
      refine ⟨?_, served.distinct, ?_⟩
      · intro id member
        exact lookup_spawn_old _ (served.waits id member)
      · intro some_waits
        apply (served.served some_waits).imp_right
        rintro ⟨id, pc, found, rest⟩
        exact ⟨id, pc, lookup_spawn_old _ found, rest⟩
  | producer at_pc move => exact served_producer capacity served at_pc move
  | worker at_pc move => exact served_worker served move
  | manager move =>
      exact served_same served (manager_move_full move) (manager_move_empty move).1 rfl
  | destructor move =>
      exact served_same served (destructor_move_full move) (destructor_move_empty move).1 rfl

/-! ## The pool at work -/

/-- The pool before its destructor runs. -/
structure Serving (state : State) : Prop where
  owned : Owned state
  holder : HolderPresent state
  blocked : Blocked state
  served : Served state
  awake : NoStuckTask state
  running : state.pool.isShutdown = false
  outside : state.destructor = .notEntered
  unrejected : ∀ id : Nat, state.producers[id]? ≠ some .rejected

/-- No worker leaves on the wake-up of a task that needs it, and nobody destroys the pool. -/
def Keeps (impl : Implementation) (state : State) (action : Action) : Prop :=
  CreditSafe impl state action ∧ action ≠ .destructor

theorem serving_constructed (cfg : Config) : Serving (constructed cfg) where
  owned := owned_constructed cfg
  holder := holder_constructed cfg
  blocked := blocked_constructed cfg
  served := served_constructed cfg
  awake := fun _ queued => absurd rfl queued
  running := rfl
  outside := rfl
  unrejected := fun _ found => nomatch found

theorem unrejected_move {impl : Implementation} {cfg : Config} {state after : State}
    {action : Action} (running : state.pool.isShutdown = false)
    (unrejected : ∀ id : Nat, state.producers[id]? ≠ some .rejected)
    (moved : Move impl cfg state action after) :
    ∀ id : Nat, after.producers[id]? ≠ some .rejected := by
  intro other found
  cases moved with
  | call null =>
      rcases lookup_append found with old | ⟨_, impossible⟩
      · exact unrejected other old
      · cases null <;> cases impossible
  | producer at_pc move =>
      rcases lookup_move found with ⟨_, now⟩ | ⟨_, old⟩
      · cases move with
        | rejects shut =>
            rw [running] at shut
            cases shut
        | _ => cases now
      · exact unrejected other old
  | _ => exact unrejected other found

theorem serving_move {impl : Implementation} {cfg : Config} {state after : State}
    {action : Action} (capacity : 0 < cfg.capacity) (serving : Serving state)
    (keeps : Keeps impl state action) (moved : Move impl cfg state action after) :
    Serving after where
  owned := owned_move serving.owned moved
  holder := holder_move serving.holder moved
  blocked := blocked_move serving.blocked moved
  served := served_move capacity serving.served moved
  awake := (stuck_step_iff serving.blocked serving.awake moved).mpr keeps.1
  running := by
    cases moved with
    | call null => exact serving.running
    | producer at_pc move => exact (producer_move_flag move).trans serving.running
    | worker at_pc move => exact (worker_move_flag move).trans serving.running
    | manager move => exact (manager_move_flag move).trans serving.running
    | destructor move => exact absurd rfl keeps.2
  outside := (move_destructor_only moved keeps.2).trans serving.outside
  unrejected := unrejected_move serving.running serving.unrejected moved

/-! ## When nobody can move -/

section Still

variable {impl : Implementation} {cfg : Config} {state : State}

/-- Neither a worker nor a call of `submit` has a step. -/
def Still (impl : Implementation) (cfg : Config) (state : State) : Prop :=
  ¬∃ action next, isWork action = true ∧ step impl cfg state action = some next

theorem serving_present (serving : Serving state) : state.destructor ≠ .returned := by
  rw [serving.outside]
  exact fun impossible => nomatch impossible

theorem mutex_free (serving : Serving state) (still : Still impl cfg state) :
    state.pool.queueMutex = none := by
  by_contra taken
  apply still
  refine holder_steps (serving_present serving) serving.holder serving.owned.loaded ?_ taken
  rw [serving.outside]
  rfl

theorem worker_still (serving : Serving state) (still : Still impl cfg state) {id : Nat}
    {pc : WorkerPc} (at_pc : state.workers[id]? = some pc) :
    pc = .exited ∨ (pc = .waiting ∧ id ∈ state.pool.empty) := by
  by_contra moving
  obtain ⟨here, awake⟩ := not_or.mp moving
  have pointer := serving.owned.loaded.pointer id pc at_pc
  obtain ⟨pool, after, move⟩ := worker_can_move impl here pointer
    (.inr (mutex_free serving still)) fun waits member => awake ⟨waits, member⟩
  exact still (worker_steps (serving_present serving) at_pc move)

theorem producer_still (serving : Serving state) (still : Still impl cfg state) {id : Nat}
    {pc : ProducerPc} (at_pc : state.producers[id]? = some pc) :
    isOver pc = true ∨ (pc = .waiting ∧ id ∈ state.pool.full) := by
  by_contra moving
  obtain ⟨here, awake⟩ := not_or.mp moving
  obtain ⟨pool, after, move⟩ := producer_can_move cfg (Bool.eq_false_iff.mpr here)
    (.inr (mutex_free serving still)) fun waits member => awake ⟨waits, member⟩
  exact still (producer_steps (serving_present serving) at_pc move)

theorem queue_empty (serving : Serving state) (still : Still impl cfg state)
    (staffed : liveWorkers state ≠ []) : state.pool.taskQ = [] := by
  by_contra queued
  obtain ⟨id, member, awake⟩ := serving.awake serving.running queued staffed
  obtain ⟨pc, found, live⟩ := mem_live_workers.mp member
  rcases worker_still serving still found with rfl | ⟨_, asleep⟩
  · cases live
  · exact awake asleep

theorem nobody_waits (serving : Serving state) (still : Still impl cfg state)
    (staffed : liveWorkers state ≠ []) : state.pool.full = [] := by
  by_contra some_waits
  rcases serving.served.served some_waits with queued | ⟨id, pc, found, arrives, awake⟩
  · exact queued (queue_empty serving still staffed)
  · rcases producer_still serving still found with ended | ⟨_, asleep⟩
    · rw [arriving_not_over arrives] at ended
      cases ended
    · exact awake asleep

theorem settled_of_still (serving : Serving state) (still : Still impl cfg state)
    (staffed : liveWorkers state ≠ []) : Settled state := by
  intro pc member
  obtain ⟨id, found⟩ := List.mem_iff_getElem?.mp member
  rcases producer_still serving still found with ended | ⟨_, asleep⟩
  · cases pc with
    | returned => exact .inl rfl
    | refused => exact .inr rfl
    | rejected => exact absurd found (serving.unrejected id)
    | _ => cases ended
  · rw [nobody_waits serving still staffed] at asleep
    cases asleep

theorem all_run_of_still (serving : Serving state) (still : Still impl cfg state)
    (staffed : liveWorkers state ≠ []) : AllRun state state := by
  have nothing := queue_empty serving still staffed
  refine ⟨?_, nothing⟩
  intro task handed
  have pushed : task ∈ state.pool.pushed := (serving.owned.named.pushed task).mpr (.inr handed)
  have law := task_ownership_of_owned serving.owned
  have place := law.place task pushed
  have held : state.workers.countP (holdsTask task) = 0 := by
    apply List.countP_eq_zero.mpr
    intro pc member
    obtain ⟨id, found⟩ := List.mem_iff_getElem?.mp member
    rcases worker_still serving still found with rfl | ⟨rfl, _⟩ <;> simp [holdsTask]
  rw [nothing, held] at place
  have deleted : state.pool.deleted.count task = 1 := by simpa using place
  have := law.deletedAfterEnd task
  have := law.endsAfterStart task
  have := law.runOnce task
  exact ⟨by omega, by omega, deleted⟩

end Still

/-! ## How long it takes -/

/-- What the threads have left, without what those that are blocked are spared. -/
def distance (state : State) : Nat := left state - resting state.pool

theorem resting_le {state : State} (serving : Serving state) :
    resting state.pool ≤ left state := by
  have workers : 7 * state.pool.empty.length ≤ (state.workers.map workerLeft).sum := by
    apply sum_ge_of_places serving.blocked.distinct
    intro id member
    exact ⟨7, by rw [List.getElem?_map, serving.blocked.waits id member]; rfl, Nat.le_refl 7⟩
  have producers : 2 * state.pool.full.length ≤ (state.producers.map producerLeft).sum := by
    apply sum_ge_of_places serving.served.distinct
    intro id member
    exact ⟨23, by rw [List.getElem?_map, serving.served.waits id member]; rfl, by omega⟩
  unfold resting left
  omega

theorem grow_loop_few (cfg : Config) (slots : List (Option Nat)) (live cnt : Int) (next : Nat) :
    (growLoop cfg slots live cnt next).2.2 ≤ next + (cfg.opNum - cnt).toNat := by
  induction slots generalizing live cnt next with
  | nil => exact Nat.le_add_right _ _
  | cons slot rest ih =>
      simp only [growLoop]
      split
      · next more =>
          cases slot with
          | none =>
              have later := ih (live + 1) (cnt + 1) (next + 1)
              dsimp only
              omega
          | some thread => exact ih live cnt next
      · exact Nat.le_add_right _ _

theorem manager_move_left {cfg : Config} {created spawned : Nat} {pool poolAfter : Pool}
    {pc after : ManagerPc} (move : ManagerMove cfg created pool pc poolAfter spawned after) :
    spawned ≤ cfg.opNum.toNat ∧ resting pool ≤ resting poolAfter + 7 ∧
      poolAfter.taskQ = pool.taskQ := by
  unfold resting
  cases move with
  | grows =>
      have few := grow_loop_few cfg pool.threadWorkGroup pool.liveThreads 0 created
      refine ⟨?_, Nat.le_add_right _ _, rfl⟩
      omega
  | notifies notified =>
      have one := notify_one_length notified
      refine ⟨Nat.zero_le _, ?_, rfl⟩
      dsimp only
      omega
  | _ => exact ⟨Nat.zero_le _, Nat.le_add_right _ _, rfl⟩

/-- A call brings its own steps, the manager the workers it starts or wakes. -/
def price (cfg : Config) (action : Action) : Nat :=
  (if isSubmit action then 24 else 0) +
    if isManager action then 6 * cfg.opNum.toNat + 7 else 0

theorem pays_move {impl : Implementation} {cfg : Config} {state after : State} {action : Action}
    (serving : Serving state) (servingAfter : Serving after)
    (moved : Move impl cfg state action after) :
    distance after + (if isWork action then 1 else 0) ≤ distance state + price cfg action := by
  have before := resting_le serving
  have later := resting_le servingAfter
  unfold distance price
  cases moved with
  | call null =>
      have new : left { state with
          producers := state.producers ++ [if null then .refused else .testShutdown] } ≤
          left state + 24 := by
        unfold left
        dsimp only
        rw [List.map_append, List.sum_append]
        have own : (([if null then .refused else .testShutdown].map producerLeft).sum) ≤ 24 := by
          cases null <;> decide
        omega
      simp only [isWork, isSubmit, isManager, Bool.false_eq_true, if_true, if_false]
      dsimp only at later ⊢
      omega
  | @producer id pick pc next pool at_pc move =>
      have own := producer_move_left move
      have table : ((state.producers.set id next).map producerLeft).sum + producerLeft pc =
          (state.producers.map producerLeft).sum + producerLeft next :=
        sum_set producerLeft at_pc
      simp only [isWork, isSubmit, isManager, Bool.false_eq_true, if_true, if_false]
      unfold left at before later ⊢
      dsimp only at later ⊢
      omega
  | @worker id pick pc next pool at_pc move =>
      have own := worker_move_left move
        fun same => serving.owned.loaded.taking id (same ▸ at_pc)
      have table : ((state.workers.set id next).map workerLeft).sum + workerLeft pc =
          (state.workers.map workerLeft).sum + workerLeft next :=
        sum_set workerLeft at_pc
      simp only [isWork, isSubmit, isManager, Bool.false_eq_true, if_true, if_false]
      unfold left at before later ⊢
      dsimp only at later ⊢
      omega
  | @manager pick spawned pool next move =>
      obtain ⟨few, woken, queue⟩ := manager_move_left move
      have table := sum_spawn workerLeft state.workers spawned .lockQueue
      rw [workerLeft] at table
      simp only [isWork, isSubmit, isManager, Bool.false_eq_true, if_true, if_false]
      unfold left at before later ⊢
      dsimp only at later ⊢
      rw [table, queue] at later ⊢
      omega
  | destructor move =>
      have entered := servingAfter.outside
      dsimp only at entered
      rw [serving.outside, entered] at move
      cases move

theorem budgeted (impl : Implementation) {cfg : Config} (capacity : 0 < cfg.capacity) :
    Budgeted (step impl cfg) (Keeps impl) Serving (fun _ action => isWork action) (price cfg)
      distance where
  keeps := fun _ _ _ serving keeps taken =>
    serving_move capacity serving keeps (move_of_step taken).2
  pays := by
    intro state action after serving keeps taken
    have moved := (move_of_step taken).2
    exact pays_move serving (serving_move capacity serving keeps moved) moved

theorem sum_price (cfg : Config) (trail : List (State × Action)) :
    (trail.map fun taken => price cfg taken.2).sum =
      24 * trail.countP (fun taken => isSubmit taken.2) +
        (6 * cfg.opNum.toNat + 7) * trail.countP (fun taken => isManager taken.2) := by
  have calls := sum_due (fun taken : State × Action => isSubmit taken.2) 24 trail
  have rounds := sum_due (fun taken : State × Action => isManager taken.2)
    (6 * cfg.opNum.toNat + 7) trail
  rw [← calls, ← rounds]
  unfold price
  induction trail with
  | nil => rfl
  | cons taken rest ih =>
      have later := ih (sum_due _ _ rest) (sum_due _ _ rest)
      simp only [List.map_cons, List.sum_cons]
      omega

theorem distance_constructed (cfg : Config) :
    distance (constructed cfg) = 6 * cfg.minThreads := by
  have table := sum_spawn workerLeft [] cfg.minThreads .lockQueue
  unfold distance left resting constructed
  rw [List.nil_append] at table
  dsimp only
  rw [table, workerLeft]
  simp [Nat.mul_comm]

theorem path_undisturbed {impl : Implementation} {cfg : Config} {trail : List (State × Action)}
    {last : State} (path : Path (step impl cfg) (constructed cfg) trail last)
    (running : last.pool.isShutdown = false) : ∀ taken ∈ trail, taken.2 ≠ .destructor := by
  induction path with
  | here => exact fun taken member => nomatch member
  | @next trail before after action path taken ih =>
      have moved := (move_of_step taken).2
      have down := flag_down_before moved running
      intro entry member
      rcases List.mem_append.mp member with earlier | now
      · exact ih down entry earlier
      · rw [List.mem_singleton.mp now]
        rintro rfl
        have outside : before.destructor = .notEntered := by
          by_contra entered
          rw [announced_reachable ⟨trail, path⟩ entered] at down
          cases down
        cases moved with
        | destructor move =>
            rw [outside] at move
            cases move with
            | enters => cases running

theorem still_of_asleep {impl : Implementation} {cfg : Config} {state : State}
    (workers : ∀ (id : Nat) (pc : WorkerPc), state.workers[id]? = some pc →
      pc = .waiting ∧ id ∈ state.pool.empty)
    (producers : ∀ pc ∈ state.producers, isOver pc = true) : Still impl cfg state := by
  rintro ⟨action, next, work, taken⟩
  have moved := (move_of_step taken).2
  cases moved with
  | worker at_pc move =>
      obtain ⟨rfl, asleep⟩ := workers _ _ at_pc
      cases move with
      | resumes awake => exact awake asleep
  | producer at_pc move =>
      have ended := producers _ (List.mem_of_getElem? at_pc)
      cases move <;> cases ended
  | _ => cases work

def bothAsleep : List Action :=
  growSchedule ++ List.replicate 2 (.worker 0 0) ++ List.replicate 2 (.worker 1 0)

end BackendComponents.ThreadPool.Draining
