import BackendComponents.ThreadPool.Draining

/-!
# The polling loop comes to its end

Once the flag is up nobody goes to sleep on `m_empty` any more, and the destructor wakes
those who slept before it joins the manager. Each worker then leaves, the manager ends its
round, and the polling loop sees the last live worker go. A poll that finds a live worker
changes nothing; every other step brings the end closer. A producer that is blocked on
`m_full` behind the loop is not woken any more, and the destruction of `m_full` waits for it.
-/

namespace BackendComponents.ThreadPool.Closing

open BackendComponents.Lib.Paths
open BackendComponents.Lib.Threads
open BackendComponents.Lib.Progress
open BackendComponents.ThreadPool.Model
open BackendComponents.ThreadPool.Moves
open BackendComponents.ThreadPool.Exclusion
open BackendComponents.ThreadPool.Accounting
open BackendComponents.ThreadPool.Ownership
open BackendComponents.ThreadPool.Quiescence
open BackendComponents.ThreadPool.Equivalence
open BackendComponents.ThreadPool.Submission
open BackendComponents.ThreadPool.Wakeups
open BackendComponents.ThreadPool.Progress
open BackendComponents.ThreadPool.Draining

set_option autoImplicit false

/-- What the manager has left when the flag is up; a round in progress may still start
`m_op_num` workers and notify as many. -/
def managerLeft (cfg : Config) : ManagerPc → Nat
  | .done => 0
  | .testShutdown => 1
  | .notify count => count + 2
  | .shrink _ _ _ => cfg.opNum.toNat + 3
  | .grow _ _ _ => 7 * cfg.opNum.toNat + 4
  | .readCounters _ => 7 * cfg.opNum.toNat + 5
  | .readQueue => 7 * cfg.opNum.toNat + 6

def destructorLeft : DestructorPc → Nat
  | .returned => 0
  | .leftLoop => 1
  | .poll => 2
  | .joinManager => 3
  | .notifyAll => 4
  | .unlockQueue => 5
  | .broadcast => 6
  | .lockQueue => 7
  | .notEntered => 8

def stepsLeft (cfg : Config) (state : State) : Nat :=
  left state + managerLeft cfg state.manager + destructorLeft state.destructor

/-- A step of the pool that is not a poll that finds a live worker. -/
def advances (state : State) : Action → Bool
  | .submit _ => false
  | .destructor => decide (state.destructor = .poll → state.pool.liveThreads = 0)
  | _ => true

/-- The loop has been left while a producer is blocked on `m_full`. -/
def Stuck (state : State) : Prop := state.destructor = .leftLoop ∧ state.pool.full ≠ []

/-! ## One step after the flag -/

theorem worker_move_closer {impl : Implementation} {id : Nat} {pool poolAfter : Pool}
    {pc after : WorkerPc} (move : WorkerMove impl id pool pc poolAfter after)
    (shut : pool.isShutdown = true) (loaded : pc = .getTask → pool.taskQ ≠ []) :
    workerLeft after + taskLeft * poolAfter.taskQ.length + 1 ≤
      workerLeft pc + taskLeft * pool.taskQ.length := by
  unfold taskLeft
  cases move with
  | takes head notified =>
      rw [head]
      simp only [workerLeft, List.length_cons]
      omega
  | takesNull nothing => exact absurd nothing (loaded rfl)
  | blocks nothing running =>
      rw [shut] at running
      cases running
  | _ =>
      simp only [workerLeft, exitCredit]
      omega

theorem producer_move_closer {cfg : Config} {id : Nat} {pool poolAfter : Pool}
    {pc after : ProducerPc} (move : ProducerMove cfg id pool pc poolAfter after)
    (shut : pool.isShutdown = true) :
    producerLeft after + taskLeft * poolAfter.taskQ.length + 1 ≤
      producerLeft pc + taskLeft * pool.taskQ.length := by
  unfold taskLeft
  cases move with
  | pushes notified =>
      simp only [producerLeft, List.length_append, List.length_singleton]
      omega
  | blocks crowded running =>
      rw [shut] at running
      cases running
  | _ =>
      simp only [producerLeft]
      omega

theorem manager_move_closer {cfg : Config} {created spawned : Nat} {pool poolAfter : Pool}
    {pc after : ManagerPc} (move : ManagerMove cfg created pool pc poolAfter spawned after)
    (shut : pool.isShutdown = true) :
    managerLeft cfg after + 6 * spawned + 1 ≤ managerLeft cfg pc := by
  have few := (manager_move_left move).1
  cases move with
  | cycles running =>
      rw [shut] at running
      cases running
  | grants =>
      simp only [managerLeft, canExit]
      omega
  | _ =>
      simp only [managerLeft]
      omega

theorem destructor_move_closer {impl : Implementation} {managerPc : ManagerPc}
    {pool poolAfter : Pool} {pc after : DestructorPc}
    (move : DestructorMove impl managerPc pool pc poolAfter after) :
    (pc = .poll ∧ after = .poll ∧ pool.liveThreads ≠ 0) ∨
      destructorLeft after + 1 ≤ destructorLeft pc := by
  cases move with
  | polls alive => exact .inl ⟨rfl, rfl, alive⟩
  | _ => exact .inr (by simp [destructorLeft])

/-! ## The pool while it closes -/

/-- After its wake-ups the destructor finds nobody asleep. -/
def Woken (impl : Implementation) (state : State) : Prop :=
  sentWakeups impl state.destructor = true → state.pool.empty = []

structure Ending (impl : Implementation) (cfg : Config) (state : State) : Prop where
  owned : Owned state
  accounts : Accounts cfg state
  holder : HolderPresent state
  woken : Woken impl state
  joined : ManagerJoined state
  drained : Drained state
  shut : state.pool.isShutdown = true
  entered : state.destructor ≠ .notEntered

theorem worker_move_asleep {impl : Implementation} {id : Nat} {pool poolAfter : Pool}
    {pc after : WorkerPc} (move : WorkerMove impl id pool pc poolAfter after)
    (shut : pool.isShutdown = true) : poolAfter.empty = pool.empty := by
  cases move with
  | blocks nothing running =>
      rw [shut] at running
      cases running
  | _ => rfl

theorem woken_destructor {impl : Implementation} {managerPc : ManagerPc}
    {pool poolAfter : Pool} {pc after : DestructorPc}
    (woken : sentWakeups impl pc = true → pool.empty = [])
    (move : DestructorMove impl managerPc pool pc poolAfter after)
    (sent : sentWakeups impl after = true) : poolAfter.empty = [] := by
  cases move with
  | broadcasts => rfl
  | notifies => rfl
  | unlocksPthread version => exact woken (decide_eq_true version)
  | locksStl version =>
      rw [version] at sent
      cases sent
  | joins => exact woken rfl
  | leaves => exact woken rfl
  | polls => exact woken rfl
  | returns => exact woken rfl
  | _ => cases sent

theorem woken_move {impl : Implementation} {cfg : Config} {state after : State}
    {action : Action} (announced : Announced state) (woken : Woken impl state)
    (moved : Move impl cfg state action after) : Woken impl after := by
  have asleep : sentWakeups impl state.destructor = true → state.pool.isShutdown = true := by
    intro sent
    apply announced
    intro outside
    rw [outside] at sent
    cases sent
  intro sent
  cases moved with
  | call null => exact woken sent
  | producer at_pc move =>
      have nobody := woken sent
      rcases producer_move_empty move with ⟨same, _⟩ | ⟨pick, notified⟩
      · exact same.trans nobody
      · rcases notify_one_cases notified with ⟨_, none_left⟩ | ⟨member, _⟩
        · exact none_left
        · rw [nobody] at member
          cases member
  | worker at_pc move => exact (worker_move_asleep move (asleep sent)).trans (woken sent)
  | manager move =>
      have fewer := (manager_move_empty move).2.1
      rw [woken sent] at fewer
      exact List.subset_nil.mp fewer
  | destructor move => exact woken_destructor woken move sent

theorem woken_reachable {impl : Implementation} {cfg : Config} {state : State}
    (reached : Reachable (step impl cfg) (constructed cfg) state) : Woken impl state := by
  have both : Reachable (step impl cfg) (constructed cfg) state ∧ Woken impl state := by
    apply reachable_invariant (fun state =>
      Reachable (step impl cfg) (constructed cfg) state ∧ Woken impl state) _ _ reached
    · exact ⟨reachable_start _ _, fun sent => nomatch sent⟩
    · intro before action after inv taken
      exact ⟨reachable_next inv.1 taken,
        woken_move (announced_reachable inv.1) inv.2 (move_of_step taken).2⟩
  exact both.2

theorem drained_reachable {impl : Implementation} {cfg : Config} {state : State}
    (reached : Reachable (step impl cfg) (constructed cfg) state) :
    Accounts cfg state ∧ ManagerJoined state ∧ Drained state := by
  apply reachable_invariant (fun state => Accounts cfg state ∧ ManagerJoined state ∧ Drained state)
    _ _ reached
  · have joined : ManagerJoined (constructed cfg) := by
      rintro (early | early)
      · cases early
      · cases early
    have drained : Drained (constructed cfg) := by
      intro early
      cases early
    exact ⟨accounts_constructed cfg, joined, drained⟩
  · intro before action after inv taken
    have move := (move_of_step taken).2
    exact ⟨accounts_move inv.1 move, manager_joined_move inv.2.1 move,
      drained_move inv.1 inv.2.1 inv.2.2 move⟩

theorem ending_reachable {impl : Implementation} {cfg : Config} {state : State}
    (reached : Reachable (step impl cfg) (constructed cfg) state)
    (entered : state.destructor ≠ .notEntered) : Ending impl cfg state where
  owned := owned_reachable reached
  accounts := accounts_reachable reached
  holder := holder_reachable reached
  woken := woken_reachable reached
  joined := (drained_reachable reached).2.1
  drained := (drained_reachable reached).2.2
  shut := announced_reachable reached entered
  entered := entered

theorem entered_move {impl : Implementation} {cfg : Config} {state after : State}
    {action : Action} (entered : state.destructor ≠ .notEntered)
    (moved : Move impl cfg state action after) : after.destructor ≠ .notEntered := by
  cases moved with
  | destructor move =>
      generalize state.destructor = pc at move
      cases move <;> simp
  | _ => exact entered

theorem ending_move {impl : Implementation} {cfg : Config} {state after : State}
    {action : Action} (ending : Ending impl cfg state)
    (moved : Move impl cfg state action after) : Ending impl cfg after where
  owned := owned_move ending.owned moved
  accounts := accounts_move ending.accounts moved
  holder := holder_move ending.holder moved
  woken := woken_move (fun _ => ending.shut) ending.woken moved
  joined := manager_joined_move ending.joined moved
  drained := drained_move ending.accounts ending.joined ending.drained moved
  shut := move_keeps_flag moved ending.shut
  entered := entered_move ending.entered moved

theorem stays_within {impl : Implementation} {cfg : Config} {state after : State}
    {action : Action} (ending : Ending impl cfg state)
    (moved : Move impl cfg state action after) :
    stepsLeft cfg after + (if advances state action then 1 else 0) ≤
      stepsLeft cfg state + if isSubmit action then 24 else 0 := by
  have shut := ending.shut
  unfold stepsLeft left
  cases moved with
  | call null =>
      have own : (([if null then .refused else .testShutdown].map producerLeft).sum) ≤ 24 := by
        cases null <;> decide
      simp only [advances, isSubmit, List.map_append, List.sum_append, Bool.false_eq_true,
        if_true, if_false]
      omega
  | @producer id pick pc next pool at_pc move =>
      have own := producer_move_closer move shut
      have table : ((state.producers.set id next).map producerLeft).sum + producerLeft pc =
          (state.producers.map producerLeft).sum + producerLeft next :=
        sum_set producerLeft at_pc
      simp only [advances, isSubmit, Bool.false_eq_true, if_true, if_false]
      omega
  | @worker id pick pc next pool at_pc move =>
      have own := worker_move_closer move shut
        fun same => ending.owned.loaded.taking id (same ▸ at_pc)
      have table : ((state.workers.set id next).map workerLeft).sum + workerLeft pc =
          (state.workers.map workerLeft).sum + workerLeft next :=
        sum_set workerLeft at_pc
      simp only [advances, isSubmit, Bool.false_eq_true, if_true, if_false]
      omega
  | @manager pick spawned pool next move =>
      have own := manager_move_closer move shut
      have queue := (manager_move_left move).2.2
      have table := sum_spawn workerLeft state.workers spawned .lockQueue
      rw [workerLeft] at table
      simp only [advances, isSubmit, Bool.false_eq_true, if_true, if_false, table, queue]
      omega
  | @destructor pool next move =>
      have queue := (destructor_move_empty move).1
      simp only [isSubmit, Bool.false_eq_true, if_false, queue]
      rcases destructor_move_closer move with ⟨polling, still, alive⟩ | closer
      · -- the poll that finds a live worker is the step that does not count
        have idle : advances state .destructor = false :=
          decide_eq_false fun zero => alive (zero polling)
        rw [idle, still, polling, if_neg Bool.false_ne_true]
      · split <;> omega

theorem budgeted (impl : Implementation) (cfg : Config) :
    Budgeted (step impl cfg) (fun _ _ => True) (Ending impl cfg) advances
      (fun action => if isSubmit action then 24 else 0) (stepsLeft cfg) where
  keeps := fun _ _ _ ending _ taken => ending_move ending (move_of_step taken).2
  pays := fun _ _ _ ending _ taken => stays_within ending (move_of_step taken).2

/-! ## Somebody can move -/

section Moves

variable {impl : Implementation} {cfg : Config} {state : State}

/-- Some step that advances the pool can be taken. -/
def Advancing (impl : Implementation) (cfg : Config) (state : State) : Prop :=
  ∃ action next, advances state action = true ∧ isSubmit action = false ∧
    step impl cfg state action = some next

theorem advancing_of_work
    (steps : ∃ action next, isWork action = true ∧ step impl cfg state action = some next) :
    Advancing impl cfg state := by
  obtain ⟨action, next, work, taken⟩ := steps
  cases action with
  | worker id pick => exact ⟨_, next, rfl, rfl, taken⟩
  | producer id pick => exact ⟨_, next, rfl, rfl, taken⟩
  | _ => cases work

theorem destructor_advancing {pool : Pool} {after : DestructorPc}
    (present : state.destructor ≠ .returned)
    (counts : state.destructor = .poll → state.pool.liveThreads = 0)
    (move : DestructorMove impl state.manager state.pool state.destructor pool after) :
    Advancing impl cfg state := by
  have taken := destructor_of_destructor_move move
  refine ⟨.destructor, { state with pool := pool, destructor := after },
    decide_eq_true counts, rfl, ?_⟩
  unfold step
  rw [if_neg present]
  dsimp only
  unfold stepDestructor
  rw [taken]
  rfl

theorem manager_can_move (cfg : Config) (created : Nat) {pool : Pool} {pc : ManagerPc}
    (free : pool.queueMutex = none) (here : pc ≠ .done) :
    ∃ poolAfter spawned after, ManagerMove cfg created pool pc poolAfter spawned after := by
  cases pc with
  | testShutdown =>
      cases flag : pool.isShutdown with
      | true => exact ⟨_, _, _, .stops flag⟩
      | false => exact ⟨_, _, _, .cycles flag⟩
  | readQueue => exact ⟨_, _, _, .readsQueue free⟩
  | readCounters qsize => exact ⟨_, _, _, .readsCounters⟩
  | grow qsize liveNum busyNum =>
      by_cases wanted : liveNum < qsize ∧ liveNum < cfg.maxThreads
      · exact ⟨_, _, _, .grows wanted⟩
      · exact ⟨_, _, _, .keepsSize wanted⟩
  | shrink qsize liveNum busyNum =>
      by_cases idle : (busyNum * 2 < liveNum ∨ (qsize = 0 ∧ busyNum = 0)) ∧
          cfg.minThreads < liveNum
      · exact ⟨_, _, _, .grants idle⟩
      · exact ⟨_, _, _, .grantsNothing idle⟩
  | notify count =>
      cases count with
      | zero => exact ⟨_, _, _, .notifiedAll⟩
      | succ count =>
          obtain ⟨pick, empty, notified⟩ := exists_notify_one pool.empty
          exact ⟨_, _, _, .notifies notified⟩
  | done => exact absurd rfl here

theorem manager_advancing (present : state.destructor ≠ .returned)
    (free : state.pool.queueMutex = none) (here : state.manager ≠ .done) :
    Advancing impl cfg state := by
  obtain ⟨pool, spawned, after, move⟩ := manager_can_move cfg state.workers.length free here
  obtain ⟨pick, managed⟩ := manager_of_manager_move move
  refine ⟨.manager pick,
    { state with
      pool := pool
      workers := state.workers ++ List.replicate spawned .lockQueue
      manager := after }, rfl, rfl, ?_⟩
  unfold step
  rw [if_neg present]
  dsimp only
  unfold stepManager
  rw [managed]
  rfl

theorem live_worker_advancing (ending : Ending impl cfg state)
    (free : state.pool.queueMutex = none) (polling : state.destructor = .poll)
    (alive : state.pool.liveThreads ≠ 0) : Advancing impl cfg state := by
  have counted := ending.accounts.live
  have some_live : 0 < state.workers.countP isLive := by omega
  obtain ⟨id, pc, found, live⟩ := exists_lookup_of_countP some_live
  have here : pc ≠ .exited := by
    rintro rfl
    cases live
  have nobody : state.pool.empty = [] := by
    apply ending.woken
    rw [polling]
    rfl
  have awake : id ∉ state.pool.empty := by
    rw [nobody]
    exact List.not_mem_nil
  obtain ⟨pool, after, move⟩ := worker_can_move impl here
    (ending.owned.loaded.pointer id pc found) (.inr free) fun _ => awake
  apply advancing_of_work
  apply worker_steps _ found move
  rw [polling]
  exact fun impossible => nomatch impossible

theorem destructor_can_move (impl : Implementation) {managerPc : ManagerPc} {pool : Pool}
    {pc : DestructorPc} (present : pc ≠ .returned)
    (free : destructorHolds pc = true ∨ pool.queueMutex = none)
    (joins : pc = .joinManager → managerPc = .done)
    (quiet : pc = .poll → pool.liveThreads = 0)
    (nobody : pc = .leftLoop → pool.empty = [] ∧ pool.full = []) :
    ∃ poolAfter after, DestructorMove impl managerPc pool pc poolAfter after := by
  cases pc with
  | notEntered => exact ⟨_, _, .enters⟩
  | lockQueue =>
      have unlocked := free.resolve_left Bool.false_ne_true
      cases version : impl with
      | stl => exact ⟨_, _, .locksStl rfl unlocked⟩
      | pthread => exact ⟨_, _, .locksPthread rfl unlocked⟩
  | broadcast => exact ⟨_, _, .broadcasts⟩
  | unlockQueue =>
      cases version : impl with
      | stl => exact ⟨_, _, .unlocksStl rfl⟩
      | pthread => exact ⟨_, _, .unlocksPthread rfl⟩
  | notifyAll => exact ⟨_, _, .notifies⟩
  | joinManager => exact ⟨_, _, .joins (joins rfl)⟩
  | poll => exact ⟨_, _, .leaves (quiet rfl)⟩
  | leftLoop => exact ⟨_, _, .returns (nobody rfl)⟩
  | returned => exact absurd rfl present

theorem advancing_of_ending (ending : Ending impl cfg state)
    (present : state.destructor ≠ .returned) (loose : ¬Stuck state) :
    Advancing impl cfg state := by
  have nobody : state.destructor = .leftLoop → state.pool.empty = [] ∧ state.pool.full = [] := by
    intro behind
    constructor
    · apply ending.woken
      rw [behind]
      rfl
    · by_contra blocked
      exact loose ⟨behind, blocked⟩
  by_cases own : destructorHolds state.destructor = true ∨ state.pool.queueMutex = none
  · by_cases joins : state.destructor = .joinManager → state.manager = .done
    · by_cases quiet : state.destructor = .poll → state.pool.liveThreads = 0
      · obtain ⟨pool, after, move⟩ := destructor_can_move impl present own joins quiet nobody
        exact destructor_advancing present quiet move
      · obtain ⟨polling, alive⟩ := Classical.not_imp.mp quiet
        rw [polling] at own
        exact live_worker_advancing ending (own.resolve_left Bool.false_ne_true) polling alive
    · obtain ⟨joining, going⟩ := Classical.not_imp.mp joins
      rw [joining] at own
      exact manager_advancing present (own.resolve_left Bool.false_ne_true) going
  · obtain ⟨outside, taken⟩ := not_or.mp own
    exact advancing_of_work (holder_steps present ending.holder ending.owned.loaded
      (Bool.eq_false_iff.mpr outside) taken)

end Moves

/-! ## Behind the loop -/

theorem worker_move_blocked {impl : Implementation} {id : Nat} {pool poolAfter : Pool}
    {pc after : WorkerPc} (move : WorkerMove impl id pool pc poolAfter after)
    (gone : isLive pc = false) : poolAfter.full = pool.full := by
  cases move with
  | takes | takesNull => cases gone
  | _ => rfl

theorem producer_move_blocked {cfg : Config} {id : Nat} {pool poolAfter : Pool}
    {pc after : ProducerPc} (move : ProducerMove cfg id pool pc poolAfter after)
    (shut : pool.isShutdown = true) : poolAfter.full = pool.full := by
  cases move with
  | blocks crowded running =>
      rw [shut] at running
      cases running
  | _ => rfl

theorem stuck_move {impl : Implementation} {cfg : Config} {state after : State} {action : Action}
    (ending : Ending impl cfg state) (stuck : Stuck state)
    (moved : Move impl cfg state action after) : Stuck after := by
  have late : pastLoop state.destructor = true := by
    rw [stuck.1]
    rfl
  cases moved with
  | call null => exact stuck
  | producer at_pc move =>
      unfold Stuck
      rw [producer_move_blocked move ending.shut]
      exact stuck
  | @worker id pick pc next pool at_pc move =>
      have gone : isLive pc = false := by
        apply Bool.eq_false_iff.mpr
        exact List.countP_eq_zero.mp (ending.drained late) pc (List.mem_of_getElem? at_pc)
      unfold Stuck
      rw [worker_move_blocked move gone]
      exact stuck
  | manager move =>
      rw [ending.joined (.inr late)] at move
      cases move
  | destructor move =>
      have blocked := stuck.2
      rw [stuck.1] at move
      cases move with
      | returns nobody => exact absurd nobody.2 blocked

theorem stuck_path {impl : Implementation} {cfg : Config} {state last : State}
    {trail : List (State × Action)} (ending : Ending impl cfg state) (stuck : Stuck state)
    (path : Path (step impl cfg) state trail last) : Stuck last := by
  have both : Ending impl cfg last ∧ Stuck last := by
    apply reachable_invariant (fun state => Ending impl cfg state ∧ Stuck state) ⟨ending, stuck⟩ _
      (path_reachable path)
    intro before action after inv taken
    have move := (move_of_step taken).2
    exact ⟨ending_move inv.1 move, stuck_move inv.1 inv.2 move⟩
  exact both.2

/-- Once the destructor has been entered its polling loop comes to an end: in every run from
there, the steps other than polls that find a live worker are bounded by what was left, and by
what the later calls of `submit` bring; as long as the destructor has neither returned nor left
the loop with a producer blocked on `m_full`, some such step can be taken; such steps alone
bring it to one of the two; and in the second case it never returns. -/
theorem destructor_ends (impl : Implementation) (cfg : Config) {state : State}
    (reached : Reachable (step impl cfg) (constructed cfg) state)
    (entered : state.destructor ≠ .notEntered) :
    (∀ trail last, Path (step impl cfg) state trail last →
      trail.countP (fun taken => advances taken.1 taken.2) ≤
        stepsLeft cfg state + 24 * trail.countP (fun taken => isSubmit taken.2) ∧
      (last.destructor = .returned ∨ Stuck last ∨ Advancing impl cfg last)) ∧
    (∃ trail last, Path (step impl cfg) state trail last ∧
      (∀ taken ∈ trail, advances taken.1 taken.2 = true) ∧
        (last.destructor = .returned ∨ Stuck last)) ∧
    (Stuck state → ∀ trail last, Path (step impl cfg) state trail last → Stuck last) := by
  have ending := ending_reachable reached entered
  have going : ∀ before, Ending impl cfg before →
      before.destructor = .returned ∨ Stuck before ∨ Advancing impl cfg before := by
    intro before inv
    by_cases returned : before.destructor = .returned
    · exact .inl returned
    · by_cases stuck : Stuck before
      · exact .inr (.inl stuck)
      · exact .inr (.inr (advancing_of_ending inv returned stuck))
  refine ⟨?_, ?_, fun stuck trail last path => stuck_path ending stuck path⟩
  · intro trail last path
    obtain ⟨still, paid⟩ := budget_path (budgeted impl cfg) ending path fun _ _ => trivial
    rw [sum_due (fun taken : State × Action => isSubmit taken.2)] at paid
    exact ⟨by omega, going last still⟩
  · have moves : ∀ before, Ending impl cfg before →
        ¬(before.destructor = .returned ∨ Stuck before) →
        ∃ action after, True ∧ advances before action = true ∧
          (if isSubmit action then 24 else 0) = 0 ∧ step impl cfg before action = some after := by
      intro before inv open_end
      obtain ⟨action, after, counts, own, taken⟩ :=
        ((going before inv).resolve_left (mt .inl open_end)).resolve_left (mt .inr open_end)
      exact ⟨action, after, trivial, counts, by rw [own, if_neg Bool.false_ne_true], taken⟩
    obtain ⟨trail, last, path, counted, done⟩ :=
      budget_finishes (budgeted impl cfg) moves ending
    exact ⟨trail, last, path, fun taken member => (counted taken member).1, done⟩

/-- The worker has been notified of the queued task and a second call waits on `m_full` when
the destructor is entered. -/
def enteredWhileWaiting : List Action :=
  List.replicate 2 (.worker 0 0) ++ [.submit false, .submit false] ++
    List.replicate 5 (.producer 0 0) ++ List.replicate 3 (.producer 1 0) ++ [.destructor]

/-- The worker sees the flag and leaves, and the loop ends before it has emptied its slot. -/
def leftWaiting : List Action :=
  List.replicate 3 .destructor ++ [.manager 0, .destructor] ++ List.replicate 5 (.worker 0 0) ++
    [.destructor]

/-- From both states there is a run to an end; in the second one the call is left waiting, and
the destructor never returns. -/
theorem ends_with_waiting_call :
    (∃ state, exec (step .pthread ⟨1, 1, 1, 1, by decide⟩) (constructed ⟨1, 1, 1, 1, by decide⟩)
        enteredWhileWaiting = some state ∧
      ∃ trail last, Path (step .pthread ⟨1, 1, 1, 1, by decide⟩) state trail last ∧
        (∀ taken ∈ trail, advances taken.1 taken.2 = true) ∧
          (last.destructor = .returned ∨ Stuck last)) ∧
    ∃ state, exec (step .pthread ⟨1, 1, 1, 1, by decide⟩) (constructed ⟨1, 1, 1, 1, by decide⟩)
        (enteredWhileWaiting ++ leftWaiting) = some state ∧
      state.producers = [.returned, .waiting] ∧ state.pool.full = [1] ∧
      ∀ trail last, Path (step .pthread ⟨1, 1, 1, 1, by decide⟩) state trail last →
        last.destructor ≠ .returned := by
  constructor
  · obtain ⟨state, executed, checked⟩ := exec_checked (step .pthread ⟨1, 1, 1, 1, by decide⟩)
      (constructed ⟨1, 1, 1, 1, by decide⟩) enteredWhileWaiting
      (fun state => decide (state.destructor ≠ .notEntered)) (by decide)
    have ends := destructor_ends .pthread ⟨1, 1, 1, 1, by decide⟩ (reachable_of_exec executed)
      (of_decide_eq_true checked)
    exact ⟨state, executed, ends.2.1⟩
  · obtain ⟨state, executed, checked⟩ := exec_checked (step .pthread ⟨1, 1, 1, 1, by decide⟩)
      (constructed ⟨1, 1, 1, 1, by decide⟩) (enteredWhileWaiting ++ leftWaiting)
      (fun state => decide (state.producers = [.returned, .waiting] ∧ state.pool.full = [1] ∧
        state.destructor = .leftLoop)) (by decide)
    obtain ⟨producers, full, left⟩ := of_decide_eq_true checked
    have ends := destructor_ends .pthread ⟨1, 1, 1, 1, by decide⟩ (reachable_of_exec executed)
      (by rw [left]; exact DestructorPc.noConfusion)
    have stuck : Stuck state := ⟨left, by rw [full]; exact List.cons_ne_nil 1 []⟩
    refine ⟨state, executed, producers, full, ?_⟩
    intro trail last path returned
    have behind := (ends.2.2 stuck trail last path).1
    rw [returned] at behind
    cases behind

end BackendComponents.ThreadPool.Closing
