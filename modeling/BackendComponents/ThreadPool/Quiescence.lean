import BackendComponents.ThreadPool.Counters

/-!
# When the destructor stops polling

`~ThreadPool` polls `m_live_threads`, but a worker that has decremented it has
still to lock `m_pool_mutex` once more and empty its slot. A poll between those two
sections leaves the loop too early, and there is a run with such a poll for every
pool that can have a worker at all.
-/

namespace BackendComponents.ThreadPool.Quiescence

open BackendComponents.Lib.Paths
open BackendComponents.Lib.Threads
open BackendComponents.ThreadPool.Model
open BackendComponents.ThreadPool.Moves
open BackendComponents.ThreadPool.Accounting
open BackendComponents.ThreadPool.Counters

set_option autoImplicit false

def pastLoop : DestructorPc → Bool
  | .leftLoop | .returned => true
  | _ => false

/-- No worker has a step left and no slot holds a thread. -/
def Quiescent (state : State) : Prop :=
  (∀ pc ∈ state.workers, pc = .exited) ∧ ∀ slot ∈ state.pool.threadWorkGroup, slot = none

def QuietAfterLoop (state : State) : Prop := pastLoop state.destructor = true → Quiescent state

/-- The quiescence law of the destructor, for every interleaving. -/
def DestructorQuiescence (impl : Implementation) : Prop :=
  ∀ (cfg : Config) (state : State), Reachable (step impl cfg) (constructed cfg) state →
    QuietAfterLoop state

/-- The constructor starts no worker, and the manager never will. -/
def neverStaffed (cfg : Config) : Prop :=
  cfg.minThreads = 0 ∧ (cfg.maxThreads = 0 ∨ cfg.opNum ≤ 0)

/-! ## The destructor past its join -/

/-- The destructor joins the manager before it polls. -/
def ManagerJoined (state : State) : Prop :=
  (state.destructor = .poll ∨ pastLoop state.destructor = true) → state.manager = .done

theorem manager_joined_move {impl : Implementation} {cfg : Config} {state after : State}
    {action : Action} (joined : ManagerJoined state) (moved : Move impl cfg state action after) :
    ManagerJoined after := by
  cases moved with
  | call null => exact joined
  | producer at_pc move => exact joined
  | worker at_pc move => exact joined
  | manager move =>
      intro late
      have ended := joined late
      rw [ended] at move
      cases move
  | destructor move =>
      generalize destructorPc : state.destructor = pc at move
      intro late
      cases move with
      | joins ended => exact ended
      | leaves => exact joined (.inl destructorPc)
      | polls => exact joined (.inl destructorPc)
      | returns => exact joined (.inr (by rw [destructorPc]; rfl))
      | _ => rcases late with late | late <;> cases late

theorem move_destructor_only {impl : Implementation} {cfg : Config} {state after : State}
    {action : Action} (moved : Move impl cfg state action after)
    (other : action ≠ .destructor) : after.destructor = state.destructor := by
  cases moved with
  | destructor move => exact absurd rfl other
  | _ => rfl

/-- The loop is left when no worker is live any more. -/
def Drained (state : State) : Prop :=
  pastLoop state.destructor = true → state.workers.countP isLive = 0

theorem worker_move_live_down {impl : Implementation} {id : Nat} {pool poolAfter : Pool}
    {pc after : WorkerPc} (move : WorkerMove impl id pool pc poolAfter after) :
    indicator (isLive after) ≤ indicator (isLive pc) := by
  cases move <;> simp [isLive]

theorem drained_move {impl : Implementation} {cfg : Config} {state after : State}
    {action : Action} (accounts : Accounts cfg state) (joined : ManagerJoined state)
    (drained : Drained state) (moved : Move impl cfg state action after) : Drained after := by
  intro late
  cases moved with
  | call null => exact drained late
  | producer at_pc move => exact drained late
  | @worker id pick pc next pool at_pc move =>
      have live : (state.workers.set id next).countP isLive + indicator (isLive pc) =
          state.workers.countP isLive + indicator (isLive next) := countP_move isLive at_pc
      have down := worker_move_live_down move
      have before := drained late
      dsimp only
      omega
  | manager move =>
      rw [joined (.inr late)] at move
      cases move
  | destructor move =>
      generalize destructorPc : state.destructor = pc at move
      cases move with
      | leaves quiet =>
          have live := accounts.live
          dsimp only
          omega
      | returns => exact drained (by rw [destructorPc]; rfl)
      | _ => cases late

/-! ## A pool without workers -/

/-- There is no worker, and no slot is taken. -/
structure Deserted (state : State) : Prop where
  workers : state.workers = []
  slots : ∀ slot ∈ state.pool.threadWorkGroup, slot = none

theorem grow_loop_idle {cfg : Config} {slots : List (Option Nat)}
    (nothing : slots = [] ∨ cfg.opNum ≤ 0) (live : Int) (next : Nat) :
    growLoop cfg slots live 0 next = (slots, live, next) := by
  cases slots with
  | nil => rfl
  | cons slot rest =>
      have none : cfg.opNum ≤ 0 := nothing.resolve_left (List.cons_ne_nil slot rest)
      unfold growLoop
      rw [if_neg (by omega)]

theorem deserted_constructed {cfg : Config} (never : neverStaffed cfg) :
    Deserted (constructed cfg) := by
  constructor
  · simp [constructed, never.1]
  · intro slot member
    have none := (List.mem_append.mp member).resolve_left (by simp [never.1])
    exact List.eq_of_mem_replicate none

theorem deserted_move {impl : Implementation} {cfg : Config} {state after : State}
    {action : Action} (never : neverStaffed cfg) (accounts : Accounts cfg state)
    (deserted : Deserted state) (moved : Move impl cfg state action after) : Deserted after := by
  cases moved with
  | call null => exact ⟨deserted.workers, deserted.slots⟩
  | producer at_pc move =>
      obtain ⟨_, _, slots, _⟩ := producer_move_counters move
      exact ⟨deserted.workers, by simpa only [slots] using deserted.slots⟩
  | worker at_pc move =>
      rw [deserted.workers] at at_pc
      cases at_pc
  | manager move =>
      generalize state.manager = pc at move
      cases move with
      | grows wanted =>
          have nothing : state.pool.threadWorkGroup = [] ∨ cfg.opNum ≤ 0 := by
            apply never.2.imp_left
            intro none
            exact List.eq_nil_of_length_eq_zero (accounts.size.trans none)
          have idle := grow_loop_idle nothing state.pool.liveThreads state.workers.length
          rw [idle, Nat.sub_self]
          exact ⟨by simpa using deserted.workers, deserted.slots⟩
      | _ => exact ⟨by simpa using deserted.workers, deserted.slots⟩
  | destructor move =>
      obtain ⟨_, _, slots, _⟩ := destructor_move_counters move
      exact ⟨deserted.workers, by simpa only [slots] using deserted.slots⟩

theorem quiet_when_never_staffed {impl : Implementation} {cfg : Config}
    (never : neverStaffed cfg) {state : State}
    (reached : Reachable (step impl cfg) (constructed cfg) state) : QuietAfterLoop state := by
  have both : Accounts cfg state ∧ Deserted state := by
    apply reachable_invariant (fun state => Accounts cfg state ∧ Deserted state) _ _ reached
    · exact ⟨accounts_constructed cfg, deserted_constructed never⟩
    · intro before action after inv taken
      have move := (move_of_step taken).2
      exact ⟨accounts_move inv.1 move, deserted_move never inv.1 inv.2 move⟩
  intro _
  constructor
  · intro pc member
    rw [both.2.workers] at member
    cases member
  · exact both.2.slots

/-! ## A pool with a worker -/

/-- The destructor polls while the first workers have decremented `m_live_threads` and the
others are about to lock `m_queue_mutex`. -/
structure Parting (impl : Implementation) (cfg : Config) (gone left : Nat) (state : State) :
    Prop where
  reached : Reachable (step impl cfg) (constructed cfg) state
  workers : state.workers =
    List.replicate gone .threadExit ++ List.replicate left .lockQueue
  free : state.pool.queueMutex = none
  shut : state.pool.isShutdown = true
  polling : state.destructor = .poll

/-- Five steps of a worker after the flag, up to the section that empties its slot. -/
theorem worker_parts {impl : Implementation} {cfg : Config} {state : State} {id : Nat}
    (present : state.destructor ≠ .returned) (at_pc : state.workers[id]? = some .lockQueue)
    (free : state.pool.queueMutex = none) (shut : state.pool.isShutdown = true) :
    exec (step impl cfg) state (List.replicate 5 (.worker id 0)) =
      some { state with
        pool := { state.pool with
          queueMutex := none, liveThreads := state.pool.liveThreads - 1 }
        workers := state.workers.set id .threadExit } := by
  obtain ⟨within, here⟩ := List.getElem?_eq_some_iff.mp at_pc
  simp [List.replicate, exec, step, stepWorker, work, present, free, shut, within, here]

theorem parting_next {impl : Implementation} {cfg : Config} {gone left : Nat} {state : State}
    (parting : Parting impl cfg gone (left + 1) state) :
    ∃ after, Parting impl cfg (gone + 1) left after := by
  have present : state.destructor ≠ .returned := by
    rw [parting.polling]
    exact DestructorPc.noConfusion
  have at_pc : state.workers[gone]? = some .lockQueue := by
    rw [parting.workers, List.getElem?_append_right (by simp)]
    simp [List.replicate_succ]
  have executed : exec (step impl cfg) state (List.replicate 5 (.worker gone 0)) = some _ :=
    worker_parts present at_pc parting.free parting.shut
  refine ⟨_, reachable_trans parting.reached (reachable_of_exec executed), ?_, rfl,
    parting.shut, parting.polling⟩
  dsimp only
  rw [parting.workers, List.set_append_right _ _ (by simp), List.length_replicate, Nat.sub_self,
    List.replicate_succ, List.set_cons_zero, List.replicate_succ', List.append_assoc]
  rfl

theorem parting_all {impl : Implementation} {cfg : Config} {gone left : Nat} {state : State}
    (parting : Parting impl cfg gone left state) :
    ∃ after, Parting impl cfg (gone + left) 0 after := by
  induction left generalizing gone state with
  | zero => exact ⟨state, parting⟩
  | succ left ih =>
      obtain ⟨after, next⟩ := parting_next parting
      have same : gone + (left + 1) = gone + 1 + left := by omega
      rw [same]
      exact ih next

/-- When all workers have decremented `m_live_threads` and none has emptied its slot, the next
poll leaves the loop. -/
theorem leaves_parting {impl : Implementation} {cfg : Config} {gone : Nat} {state : State}
    (parting : Parting impl cfg (gone + 1) 0 state) :
    ∃ after, Reachable (step impl cfg) (constructed cfg) after ∧ ¬QuietAfterLoop after := by
  have zero : state.pool.liveThreads = 0 := by
    rw [(accounts_reachable parting.reached).live, parting.workers]
    simp [isLive]
  have taken : step impl cfg state .destructor =
      some { state with destructor := .leftLoop } := by
    simp [step, stepDestructor, destructor, parting.polling, zero]
  refine ⟨_, reachable_next parting.reached taken, ?_⟩
  intro quiet
  have exited := (quiet rfl).1 .threadExit (by simp [parting.workers])
  cases exited

theorem parting_begins {impl : Implementation} {cfg : Config} {left : Nat} {state : State}
    (reached : Reachable (step impl cfg) (constructed cfg) state)
    (flagged : state.destructor = .lockQueue) (ended : state.manager = .done)
    (free : state.pool.queueMutex = none) (shut : state.pool.isShutdown = true)
    (workers : state.workers = List.replicate left .lockQueue) :
    ∃ after, Parting impl cfg 0 left after := by
  have executed : exec (step impl cfg) state (List.replicate 4 .destructor) = some
      { state with
        pool := { state.pool with queueMutex := none, empty := [] }
        destructor := .poll } := by
    cases impl with
    | stl => simp [List.replicate, exec, step, stepDestructor, destructor, flagged, free, ended]
    | pthread => simp [List.replicate, exec, step, stepDestructor, destructor, flagged, free, ended]
  exact ⟨_, reachable_trans reached (reachable_of_exec executed), workers, rfl, shut, rfl⟩

theorem parting_constructed (impl : Implementation) (cfg : Config) :
    ∃ state, Parting impl cfg 0 cfg.minThreads state := by
  have executed : exec (step impl cfg) (constructed cfg) [.destructor, .manager 0] = some
      { constructed cfg with
        pool := { (constructed cfg).pool with isShutdown := true }
        manager := .done
        destructor := .lockQueue } := by
    simp [exec, step, stepDestructor, destructor, stepManager, manager, constructed]
  exact parting_begins (reachable_of_exec executed) rfl rfl rfl rfl rfl

/-- A task pushed after the flag, by a call that has found it down, while the manager is in a
round that it has begun before. -/
def late (cfg : Config) : State :=
  { constructed cfg with
    pool := { (constructed cfg).pool with isShutdown := true, taskQ := [0], pushed := [0] }
    producers := [.returned]
    manager := .readQueue
    destructor := .lockQueue }

theorem late_reachable (impl : Implementation) (cfg : Config) :
    Reachable (step impl cfg) (constructed cfg) (late cfg) := by
  have executed : exec (step impl cfg) (constructed cfg)
      [.submit false, .producer 0 0, .manager 0, .destructor, .producer 0 0, .producer 0 0,
        .producer 0 0, .producer 0 0] = some (late cfg) := by
    simp [exec, step, stepDestructor, destructor, stepManager, manager, stepProducer, submit,
      notifyOne, constructed, late]
  exact reachable_of_exec executed

theorem late_grows (impl : Implementation) {cfg : Config} (empty : cfg.minThreads = 0)
    (room : 0 < cfg.maxThreads) :
    exec (step impl cfg) (late cfg) (List.replicate 5 (.manager 0)) = some
      { late cfg with
        pool := { (late cfg).pool with
          threadWorkGroup := (growLoop cfg (late cfg).pool.threadWorkGroup 0 0 0).1
          liveThreads := (growLoop cfg (late cfg).pool.threadWorkGroup 0 0 0).2.1 }
        workers :=
          List.replicate (growLoop cfg (late cfg).pool.threadWorkGroup 0 0 0).2.2 .lockQueue
        manager := .done } := by
  have one : castInt 1 = 1 := by decide
  simp [List.replicate, exec, step, stepManager, manager, constructed, late, one, empty, room]

theorem grow_loop_starts {cfg : Config} {slots : List (Option Nat)} (free : none ∈ slots)
    (room : 0 < cfg.maxThreads) (op : 0 < cfg.opNum) (next : Nat) :
    next < (growLoop cfg slots 0 0 next).2.2 := by
  induction slots with
  | nil => cases free
  | cons slot rest ih =>
      unfold growLoop
      rw [if_pos ⟨op, Int.natCast_pos.mpr room⟩]
      cases slot with
      | none =>
          have later := (grow_loop_grown cfg rest (0 + 1) (0 + 1) (next + 1)).later
          dsimp only
          omega
      | some thread => exact ih (by simpa using free)

theorem parting_late (impl : Implementation) {cfg : Config} (empty : cfg.minThreads = 0)
    (room : 0 < cfg.maxThreads) (op : 0 < cfg.opNum) :
    ∃ left state, Parting impl cfg 0 (left + 1) state := by
  have reached := reachable_trans (late_reachable impl cfg)
    (reachable_of_exec (late_grows impl empty room))
  have free : none ∈ (late cfg).pool.threadWorkGroup := by
    simp [late, constructed, empty]
    omega
  have starts := grow_loop_starts free room op 0
  obtain ⟨left, same⟩ := Nat.exists_eq_add_of_lt starts
  rw [Nat.zero_add] at same
  exact ⟨left, parting_begins reached rfl rfl rfl rfl (by rw [same])⟩

/-- In every run of the pool the destructor leaves its loop with quiescent workers and empty
slots, if and only if the pool never has a worker. -/
theorem quiet_after_loop_iff (impl : Implementation) (cfg : Config) :
    (∀ state, Reachable (step impl cfg) (constructed cfg) state → QuietAfterLoop state) ↔
      neverStaffed cfg := by
  constructor
  · intro quiet
    by_contra staffed
    have begun : ∃ left state, Parting impl cfg 0 (left + 1) state := by
      cases least : cfg.minThreads with
      | zero =>
          have more : ¬(cfg.maxThreads = 0 ∨ cfg.opNum ≤ 0) := fun none => staffed ⟨least, none⟩
          exact parting_late impl least (by omega) (by omega)
      | succ left =>
          have parting := parting_constructed impl cfg
          rw [least] at parting
          exact ⟨left, parting⟩
    obtain ⟨left, state, parting⟩ := begun
    obtain ⟨last, parted⟩ := parting_all parting
    rw [Nat.zero_add] at parted
    obtain ⟨after, reached, early⟩ := leaves_parting parted
    exact early (quiet after reached)
  · exact fun never state reached => quiet_when_never_staffed never reached

/-! ## Runs -/

def shutdownSchedule : List Action :=
  List.replicate 4 .destructor ++ [.manager 0, .destructor] ++ List.replicate 4 (.worker 0 0)

theorem law_fails_of_early_end {impl : Implementation} (schedule : List Action)
    (ended : (exec (step impl ⟨1, 1, 1, 1, by decide⟩) (constructed ⟨1, 1, 1, 1, by decide⟩)
      schedule).any (fun state =>
        decide (state.destructor = .leftLoop ∧ state.workers = [.unlockExit])) = true) :
    ¬DestructorQuiescence impl := by
  intro law
  obtain ⟨last, run, early⟩ := exec_checked _ _ _ _ ended
  obtain ⟨left, workers⟩ := of_decide_eq_true early
  have quiet := law _ last (reachable_of_exec run) (by rw [left]; rfl)
  have exited := quiet.1 .unlockExit (by simp [workers])
  cases exited

/-- The poll right after the worker's decrement ends the loop while the worker
still holds its slot and has `thread_exit_` before it. -/
theorem destructor_leaves_running_worker :
    ¬DestructorQuiescence .stl ∧ ¬DestructorQuiescence .pthread := by
  constructor
  · exact law_fails_of_early_end (shutdownSchedule ++ [.destructor]) (by decide)
  · exact law_fails_of_early_end (shutdownSchedule ++ [.destructor]) (by decide)

end BackendComponents.ThreadPool.Quiescence
