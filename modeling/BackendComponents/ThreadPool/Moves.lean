import BackendComponents.ThreadPool.Model

/-!
# What one step can do

The steps of `Model` as relations with one named constructor for each branch of
the source. Every invariant of the pool is proved by cases on these, so the step
functions are unfolded here and nowhere else.
-/

namespace BackendComponents.ThreadPool.Moves

open BackendComponents.Lib.Threads
open BackendComponents.ThreadPool.Model

set_option autoImplicit false

inductive WorkerMove (impl : Implementation) (id : Nat) (pool : Pool) :
    WorkerPc → Pool → WorkerPc → Prop
  | locks (free : pool.queueMutex = none) :
      WorkerMove impl id pool .lockQueue
        { pool with queueMutex := some (.worker id) } .testWait
  | blocks (nothing : pool.taskQ = []) (running : pool.isShutdown = false) :
      WorkerMove impl id pool .testWait
        { pool with queueMutex := none, empty := pool.empty ++ [id] } .waiting
  | passesWait (skip : ¬(pool.taskQ = [] ∧ pool.isShutdown = false)) :
      WorkerMove impl id pool .testWait pool .testShutdown
  | resumes (awake : id ∉ pool.empty) (free : pool.queueMutex = none) :
      WorkerMove impl id pool .waiting
        { pool with queueMutex := some (.worker id) } .testExit
  | takesCredit (version : impl = .stl) (credit : 0 < pool.exitThreads) :
      WorkerMove impl id pool .testExit (exitCredit pool) .unlockExit
  | seesCredit (version : impl = .pthread) (credit : 0 < pool.exitThreads) :
      WorkerMove impl id pool .testExit pool .takeExit
  | noCredit (credit : ¬0 < pool.exitThreads) :
      WorkerMove impl id pool .testExit pool .testWait
  | spendsCredit : WorkerMove impl id pool .takeExit (exitCredit pool) .unlockExit
  | seesShutdown (shut : pool.isShutdown = true) :
      WorkerMove impl id pool .testShutdown pool .decLive
  | staysOpen (running : pool.isShutdown = false) :
      WorkerMove impl id pool .testShutdown pool .getTask
  | retires :
      WorkerMove impl id pool .decLive
        { pool with liveThreads := pool.liveThreads - 1 } .unlockExit
  | unlocksExit :
      WorkerMove impl id pool .unlockExit { pool with queueMutex := none } .threadExit
  | releases :
      WorkerMove impl id pool .threadExit
        { pool with threadWorkGroup := releaseSlot id pool.threadWorkGroup } .exited
  | takes {task : Task} {pick : Nat} {rest full : List Nat} (head : pool.taskQ = task :: rest)
      (notified : notifyOne pick pool.full = some full) :
      WorkerMove impl id pool .getTask
        { pool with taskQ := rest, taken := pool.taken ++ [task], full := full }
        (.unlockTask (some task))
  | takesNull {pick : Nat} {full : List Nat} (nothing : pool.taskQ = [])
      (notified : notifyOne pick pool.full = some full) :
      WorkerMove impl id pool .getTask { pool with full := full } (.unlockTask none)
  | unlocksTask {task : Option Task} :
      WorkerMove impl id pool (.unlockTask task) { pool with queueMutex := none } (.incBusy task)
  | getsBusy {task : Option Task} :
      WorkerMove impl id pool (.incBusy task)
        { pool with busyThreads := pool.busyThreads + 1 } (.runTask task)
  | starts {task : Task} :
      WorkerMove impl id pool (.runTask (some task))
        { pool with started := pool.started ++ [task] } (.running task)
  | finishes {task : Task} :
      WorkerMove impl id pool (.running task)
        { pool with finished := pool.finished ++ [task] } (.deleteTask task)
  | deletes {task : Task} :
      WorkerMove impl id pool (.deleteTask task)
        { pool with deleted := pool.deleted ++ [task] } .decBusy
  | getsIdle :
      WorkerMove impl id pool .decBusy
        { pool with busyThreads := pool.busyThreads - 1 } .lockQueue

theorem worker_move_of_work {impl : Implementation} {id pick : Nat} {pool : Pool}
    {pc : WorkerPc} {result : Pool × WorkerPc}
    (moved : work impl id pick pool pc = some result) :
    WorkerMove impl id pool pc result.1 result.2 := by
  cases pc with
  | lockQueue =>
      simp only [work, Option.ite_none_right_eq_some, Option.some.injEq] at moved
      obtain ⟨free, rfl⟩ := moved
      exact .locks free
  | testWait =>
      simp only [work] at moved
      split at moved
      · next wait => obtain rfl := Option.some.inj moved; exact .blocks wait.1 wait.2
      · next skip => obtain rfl := Option.some.inj moved; exact .passesWait skip
  | waiting =>
      simp only [work, Option.ite_none_right_eq_some, Option.some.injEq] at moved
      obtain ⟨⟨awake, free⟩, rfl⟩ := moved
      exact .resumes awake free
  | testExit =>
      simp only [work] at moved
      split at moved
      · next credit =>
          cases impl with
          | stl => obtain rfl := Option.some.inj moved; exact .takesCredit rfl credit
          | pthread => obtain rfl := Option.some.inj moved; exact .seesCredit rfl credit
      · next credit => obtain rfl := Option.some.inj moved; exact .noCredit credit
  | takeExit => obtain rfl := Option.some.inj moved; exact .spendsCredit
  | testShutdown =>
      simp only [work] at moved
      split at moved
      · next shut => obtain rfl := Option.some.inj moved; exact .seesShutdown shut
      · next running =>
          obtain rfl := Option.some.inj moved
          exact .staysOpen (Bool.eq_false_iff.mpr running)
  | decLive => obtain rfl := Option.some.inj moved; exact .retires
  | unlockExit => obtain rfl := Option.some.inj moved; exact .unlocksExit
  | threadExit => obtain rfl := Option.some.inj moved; exact .releases
  | exited => cases moved
  | getTask =>
      obtain ⟨full, notified, rfl⟩ := Option.map_eq_some_iff.mp moved
      simp only [getTask]
      split
      · next nothing => exact .takesNull nothing notified
      · next task rest head => exact .takes head notified
  | unlockTask task => obtain rfl := Option.some.inj moved; exact .unlocksTask
  | incBusy task => obtain rfl := Option.some.inj moved; exact .getsBusy
  | runTask task =>
      cases task with
      | none => cases moved
      | some task => obtain rfl := Option.some.inj moved; exact .starts
  | running task => obtain rfl := Option.some.inj moved; exact .finishes
  | deleteTask task => obtain rfl := Option.some.inj moved; exact .deletes
  | decBusy => obtain rfl := Option.some.inj moved; exact .getsIdle

inductive ProducerMove (cfg : Config) (id : Nat) (pool : Pool) :
    ProducerPc → Pool → ProducerPc → Prop
  | rejects (shut : pool.isShutdown = true) :
      ProducerMove cfg id pool .testShutdown
        { pool with rejected := pool.rejected ++ [id] } .rejected
  | accepts (running : pool.isShutdown = false) :
      ProducerMove cfg id pool .testShutdown pool .lockQueue
  | locks (free : pool.queueMutex = none) :
      ProducerMove cfg id pool .lockQueue
        { pool with queueMutex := some (.producer id) } .testFull
  | blocks (crowded : cfg.capacity ≤ pool.taskQ.length) (running : pool.isShutdown = false) :
      ProducerMove cfg id pool .testFull
        { pool with queueMutex := none, full := pool.full ++ [id] } .waiting
  | passesFull (skip : ¬(cfg.capacity ≤ pool.taskQ.length ∧ pool.isShutdown = false)) :
      ProducerMove cfg id pool .testFull pool .push
  | resumes (awake : id ∉ pool.full) (free : pool.queueMutex = none) :
      ProducerMove cfg id pool .waiting
        { pool with queueMutex := some (.producer id) } .testFull
  | pushes {pick : Nat} {empty : List Nat} (notified : notifyOne pick pool.empty = some empty) :
      ProducerMove cfg id pool .push
        { pool with taskQ := pool.taskQ ++ [id], pushed := pool.pushed ++ [id], empty := empty }
        .unlock
  | unlocks : ProducerMove cfg id pool .unlock { pool with queueMutex := none } .returned

theorem producer_move_of_submit {cfg : Config} {id pick : Nat} {pool : Pool}
    {pc : ProducerPc} {result : Pool × ProducerPc}
    (moved : submit cfg id pick pool pc = some result) :
    ProducerMove cfg id pool pc result.1 result.2 := by
  cases pc with
  | testShutdown =>
      simp only [submit] at moved
      split at moved
      · next shut => obtain rfl := Option.some.inj moved; exact .rejects shut
      · next running =>
          obtain rfl := Option.some.inj moved
          exact .accepts (Bool.eq_false_iff.mpr running)
  | lockQueue =>
      simp only [submit, Option.ite_none_right_eq_some, Option.some.injEq] at moved
      obtain ⟨free, rfl⟩ := moved
      exact .locks free
  | testFull =>
      simp only [submit] at moved
      split at moved
      · next wait => obtain rfl := Option.some.inj moved; exact .blocks wait.1 wait.2
      · next skip => obtain rfl := Option.some.inj moved; exact .passesFull skip
  | waiting =>
      simp only [submit, Option.ite_none_right_eq_some, Option.some.injEq] at moved
      obtain ⟨⟨awake, free⟩, rfl⟩ := moved
      exact .resumes awake free
  | push =>
      obtain ⟨empty, notified, rfl⟩ := Option.map_eq_some_iff.mp moved
      exact .pushes notified
  | unlock => obtain rfl := Option.some.inj moved; exact .unlocks
  | returned => cases moved
  | rejected => cases moved
  | refused => cases moved

inductive ManagerMove (cfg : Config) (created : Nat) (pool : Pool) :
    ManagerPc → Pool → Nat → ManagerPc → Prop
  | stops (shut : pool.isShutdown = true) :
      ManagerMove cfg created pool .testShutdown pool 0 .done
  | cycles (running : pool.isShutdown = false) :
      ManagerMove cfg created pool .testShutdown pool 0 .readQueue
  | readsQueue (free : pool.queueMutex = none) :
      ManagerMove cfg created pool .readQueue pool 0 (.readCounters (castInt pool.taskQ.length))
  | readsCounters {qsize : Int} :
      ManagerMove cfg created pool (.readCounters qsize) pool 0
        (.grow qsize pool.liveThreads pool.busyThreads)
  | grows {qsize liveNum busyNum : Int} (wanted : liveNum < qsize ∧ liveNum < cfg.maxThreads) :
      ManagerMove cfg created pool (.grow qsize liveNum busyNum)
        { pool with
          threadWorkGroup := (growLoop cfg pool.threadWorkGroup pool.liveThreads 0 created).1
          liveThreads := (growLoop cfg pool.threadWorkGroup pool.liveThreads 0 created).2.1 }
        ((growLoop cfg pool.threadWorkGroup pool.liveThreads 0 created).2.2 - created)
        (.shrink qsize liveNum busyNum)
  | keepsSize {qsize liveNum busyNum : Int}
      (enough : ¬(liveNum < qsize ∧ liveNum < cfg.maxThreads)) :
      ManagerMove cfg created pool (.grow qsize liveNum busyNum) pool 0
        (.shrink qsize liveNum busyNum)
  | grants {qsize liveNum busyNum : Int}
      (idle : (busyNum * 2 < liveNum ∨ (qsize = 0 ∧ busyNum = 0)) ∧ cfg.minThreads < liveNum) :
      ManagerMove cfg created pool (.shrink qsize liveNum busyNum)
        { pool with exitThreads := canExit cfg liveNum } 0 (.notify (canExit cfg liveNum).toNat)
  | grantsNothing {qsize liveNum busyNum : Int}
      (busy : ¬((busyNum * 2 < liveNum ∨ (qsize = 0 ∧ busyNum = 0)) ∧ cfg.minThreads < liveNum)) :
      ManagerMove cfg created pool (.shrink qsize liveNum busyNum) pool 0 .testShutdown
  | notifies {pick left : Nat} {empty : List Nat}
      (notified : notifyOne pick pool.empty = some empty) :
      ManagerMove cfg created pool (.notify (left + 1)) { pool with empty := empty } 0
        (.notify left)
  | notifiedAll : ManagerMove cfg created pool (.notify 0) pool 0 .testShutdown

theorem manager_move_of_manager {cfg : Config} {pick created : Nat} {pool : Pool}
    {pc : ManagerPc} {result : Pool × Nat × ManagerPc}
    (moved : manager cfg pick created pool pc = some result) :
    ManagerMove cfg created pool pc result.1 result.2.1 result.2.2 := by
  cases pc with
  | testShutdown =>
      simp only [manager] at moved
      split at moved
      · next shut => obtain rfl := Option.some.inj moved; exact .stops shut
      · next running =>
          obtain rfl := Option.some.inj moved
          exact .cycles (Bool.eq_false_iff.mpr running)
  | readQueue =>
      simp only [manager, Option.ite_none_right_eq_some, Option.some.injEq] at moved
      obtain ⟨free, rfl⟩ := moved
      exact .readsQueue free
  | readCounters qsize => obtain rfl := Option.some.inj moved; exact .readsCounters
  | grow qsize liveNum busyNum =>
      simp only [manager] at moved
      split at moved
      · next wanted => obtain rfl := Option.some.inj moved; exact .grows wanted
      · next enough => obtain rfl := Option.some.inj moved; exact .keepsSize enough
  | shrink qsize liveNum busyNum =>
      simp only [manager] at moved
      split at moved
      · next idle => obtain rfl := Option.some.inj moved; exact .grants idle
      · next busy => obtain rfl := Option.some.inj moved; exact .grantsNothing busy
  | notify left =>
      cases left with
      | zero => obtain rfl := Option.some.inj moved; exact .notifiedAll
      | succ left =>
          obtain ⟨empty, notified, rfl⟩ := Option.map_eq_some_iff.mp moved
          exact .notifies notified
  | done => cases moved

inductive DestructorMove (impl : Implementation) (managerPc : ManagerPc) (pool : Pool) :
    DestructorPc → Pool → DestructorPc → Prop
  | enters :
      DestructorMove impl managerPc pool .notEntered { pool with isShutdown := true } .lockQueue
  | locksStl (version : impl = .stl) (free : pool.queueMutex = none) :
      DestructorMove impl managerPc pool .lockQueue
        { pool with queueMutex := some .destructor } .unlockQueue
  | locksPthread (version : impl = .pthread) (free : pool.queueMutex = none) :
      DestructorMove impl managerPc pool .lockQueue
        { pool with queueMutex := some .destructor } .broadcast
  | broadcasts :
      DestructorMove impl managerPc pool .broadcast { pool with empty := [] } .unlockQueue
  | unlocksStl (version : impl = .stl) :
      DestructorMove impl managerPc pool .unlockQueue { pool with queueMutex := none } .notifyAll
  | unlocksPthread (version : impl = .pthread) :
      DestructorMove impl managerPc pool .unlockQueue { pool with queueMutex := none } .joinManager
  | notifies :
      DestructorMove impl managerPc pool .notifyAll { pool with empty := [] } .joinManager
  | joins (ended : managerPc = .done) :
      DestructorMove impl managerPc pool .joinManager pool .poll
  | leaves (quiet : pool.liveThreads = 0) :
      DestructorMove impl managerPc pool .poll pool .leftLoop
  | polls (alive : pool.liveThreads ≠ 0) : DestructorMove impl managerPc pool .poll pool .poll
  | returns (nobody : pool.empty = [] ∧ pool.full = []) :
      DestructorMove impl managerPc pool .leftLoop pool .returned

theorem destructor_move_of_destructor {impl : Implementation} {managerPc : ManagerPc}
    {pool : Pool} {pc : DestructorPc} {result : Pool × DestructorPc}
    (moved : destructor impl managerPc pool pc = some result) :
    DestructorMove impl managerPc pool pc result.1 result.2 := by
  cases pc with
  | notEntered => obtain rfl := Option.some.inj moved; exact .enters
  | lockQueue =>
      simp only [destructor, Option.ite_none_right_eq_some, Option.some.injEq] at moved
      obtain ⟨free, rfl⟩ := moved
      cases impl with
      | stl => exact .locksStl rfl free
      | pthread => exact .locksPthread rfl free
  | broadcast => obtain rfl := Option.some.inj moved; exact .broadcasts
  | unlockQueue =>
      obtain rfl := Option.some.inj moved
      cases impl with
      | stl => exact .unlocksStl rfl
      | pthread => exact .unlocksPthread rfl
  | notifyAll => obtain rfl := Option.some.inj moved; exact .notifies
  | joinManager =>
      simp only [destructor, Option.ite_none_right_eq_some, Option.some.injEq] at moved
      obtain ⟨ended, rfl⟩ := moved
      exact .joins ended
  | poll =>
      simp only [destructor] at moved
      split at moved
      · next quiet => obtain rfl := Option.some.inj moved; exact .leaves quiet
      · next alive => obtain rfl := Option.some.inj moved; exact .polls alive
  | leftLoop =>
      simp only [destructor, Option.ite_none_right_eq_some, Option.some.injEq] at moved
      obtain ⟨nobody, rfl⟩ := moved
      exact .returns nobody
  | returned => cases moved

/-- The threads of the system. A client may call `submit` at any time. -/
inductive Move (impl : Implementation) (cfg : Config) (state : State) : Action → State → Prop
  | call (null : Bool) :
      Move impl cfg state (.submit null)
        { state with producers := state.producers ++ [if null then .refused else .testShutdown] }
  | producer {id pick : Nat} {pc after : ProducerPc} {pool : Pool}
      (at_pc : state.producers[id]? = some pc)
      (move : ProducerMove cfg id state.pool pc pool after) :
      Move impl cfg state (.producer id pick)
        { state with pool := pool, producers := state.producers.set id after }
  | worker {id pick : Nat} {pc after : WorkerPc} {pool : Pool}
      (at_pc : state.workers[id]? = some pc)
      (move : WorkerMove impl id state.pool pc pool after) :
      Move impl cfg state (.worker id pick)
        { state with pool := pool, workers := state.workers.set id after }
  | manager {pick spawned : Nat} {pool : Pool} {after : ManagerPc}
      (move : ManagerMove cfg state.workers.length state.pool state.manager pool spawned after) :
      Move impl cfg state (.manager pick)
        { state with
          pool := pool
          workers := state.workers ++ List.replicate spawned .lockQueue
          manager := after }
  | destructor {pool : Pool} {after : DestructorPc}
      (move : DestructorMove impl state.manager state.pool state.destructor pool after) :
      Move impl cfg state .destructor { state with pool := pool, destructor := after }

theorem move_of_step {impl : Implementation} {cfg : Config} {state after : State}
    {action : Action} (moved : step impl cfg state action = some after) :
    state.destructor ≠ .returned ∧ Move impl cfg state action after := by
  unfold step at moved
  split at moved
  · cases moved
  · next present =>
      refine ⟨present, ?_⟩
      cases action with
      | submit null => obtain rfl := Option.some.inj moved; exact .call null
      | producer id pick =>
          obtain ⟨pc, at_pc, continued⟩ := Option.bind_eq_some_iff.mp moved
          obtain ⟨result, submitted, rfl⟩ := Option.map_eq_some_iff.mp continued
          exact .producer at_pc (producer_move_of_submit submitted)
      | worker id pick =>
          obtain ⟨pc, at_pc, continued⟩ := Option.bind_eq_some_iff.mp moved
          obtain ⟨result, worked, rfl⟩ := Option.map_eq_some_iff.mp continued
          exact .worker at_pc (worker_move_of_work worked)
      | manager pick =>
          obtain ⟨result, managed, rfl⟩ := Option.map_eq_some_iff.mp moved
          exact .manager (manager_move_of_manager managed)
      | destructor =>
          obtain ⟨result, destroyed, rfl⟩ := Option.map_eq_some_iff.mp moved
          exact .destructor (destructor_move_of_destructor destroyed)

/-! ## The shutdown flag

Only the destructor writes it, and nothing resets it. -/

theorem worker_move_flag {impl : Implementation} {id : Nat} {pool poolAfter : Pool}
    {pc after : WorkerPc} (move : WorkerMove impl id pool pc poolAfter after) :
    poolAfter.isShutdown = pool.isShutdown := by
  cases move <;> rfl

theorem producer_move_flag {cfg : Config} {id : Nat} {pool poolAfter : Pool}
    {pc after : ProducerPc} (move : ProducerMove cfg id pool pc poolAfter after) :
    poolAfter.isShutdown = pool.isShutdown := by
  cases move <;> rfl

theorem manager_move_flag {cfg : Config} {created spawned : Nat} {pool poolAfter : Pool}
    {pc after : ManagerPc} (move : ManagerMove cfg created pool pc poolAfter spawned after) :
    poolAfter.isShutdown = pool.isShutdown := by
  cases move <;> rfl

theorem destructor_move_flag {impl : Implementation} {managerPc : ManagerPc}
    {pool poolAfter : Pool} {pc after : DestructorPc}
    (move : DestructorMove impl managerPc pool pc poolAfter after)
    (shut : pool.isShutdown = true) : poolAfter.isShutdown = true := by
  cases move with
  | enters => rfl
  | _ => exact shut

theorem move_keeps_flag {impl : Implementation} {cfg : Config} {state after : State}
    {action : Action} (moved : Move impl cfg state action after)
    (shut : state.pool.isShutdown = true) : after.pool.isShutdown = true := by
  cases moved with
  | call null => exact shut
  | producer at_pc move => exact (producer_move_flag move).trans shut
  | worker at_pc move => exact (worker_move_flag move).trans shut
  | manager move => exact (manager_move_flag move).trans shut
  | destructor move => exact destructor_move_flag move shut

theorem flag_down_before {impl : Implementation} {cfg : Config} {state after : State}
    {action : Action} (moved : Move impl cfg state action after)
    (running : after.pool.isShutdown = false) : state.pool.isShutdown = false := by
  by_contra up
  rw [move_keeps_flag moved (Bool.not_eq_false _ ▸ up)] at running
  cases running

/-! ## Every branch is taken by some step

A branch determines the step except for the thread that a notification wakes. -/

theorem work_of_worker_move {impl : Implementation} {id : Nat} {pool poolAfter : Pool}
    {pc after : WorkerPc} (move : WorkerMove impl id pool pc poolAfter after) :
    ∃ pick, work impl id pick pool pc = some (poolAfter, after) := by
  cases move with
  | @takes task pick rest full head notified =>
      exact ⟨pick, by simp [work, getTask, head, notified]⟩
  | @takesNull pick full nothing notified =>
      exact ⟨pick, by simp [work, getTask, nothing, notified]⟩
  | _ => exact ⟨0, by simp [work, *]⟩

theorem submit_of_producer_move {cfg : Config} {id : Nat} {pool poolAfter : Pool}
    {pc after : ProducerPc} (move : ProducerMove cfg id pool pc poolAfter after) :
    ∃ pick, submit cfg id pick pool pc = some (poolAfter, after) := by
  cases move with
  | @pushes pick empty notified => exact ⟨pick, by simp [submit, notified]⟩
  | _ => exact ⟨0, by simp [submit, *]⟩

theorem manager_of_manager_move {cfg : Config} {created spawned : Nat} {pool poolAfter : Pool}
    {pc after : ManagerPc} (move : ManagerMove cfg created pool pc poolAfter spawned after) :
    ∃ pick, manager cfg pick created pool pc = some (poolAfter, spawned, after) := by
  cases move with
  | @notifies pick left empty notified => exact ⟨pick, by simp [manager, notified]⟩
  | _ => exact ⟨0, by simp [manager, *]⟩

theorem destructor_of_destructor_move {impl : Implementation} {managerPc : ManagerPc}
    {pool poolAfter : Pool} {pc after : DestructorPc}
    (move : DestructorMove impl managerPc pool pc poolAfter after) :
    destructor impl managerPc pool pc = some (poolAfter, after) := by
  cases move <;> simp [destructor, *]

theorem step_of_move {impl : Implementation} {cfg : Config} {state after : State}
    {action : Action} (present : state.destructor ≠ .returned)
    (move : Move impl cfg state action after) :
    ∃ taken, step impl cfg state taken = some after := by
  unfold step
  simp only [if_neg present]
  cases move with
  | call null => exact ⟨.submit null, rfl⟩
  | @producer id pick pc next pool at_pc move =>
      obtain ⟨woken, submitted⟩ := submit_of_producer_move move
      exact ⟨.producer id woken, by simp [stepProducer, at_pc, submitted]⟩
  | @worker id pick pc next pool at_pc move =>
      obtain ⟨woken, worked⟩ := work_of_worker_move move
      exact ⟨.worker id woken, by simp [stepWorker, at_pc, worked]⟩
  | manager move =>
      obtain ⟨woken, managed⟩ := manager_of_manager_move move
      exact ⟨.manager woken, by simp [stepManager, managed]⟩
  | destructor move =>
      have destroyed := destructor_of_destructor_move move
      exact ⟨.destructor, by simp [stepDestructor, destroyed]⟩

end BackendComponents.ThreadPool.Moves
