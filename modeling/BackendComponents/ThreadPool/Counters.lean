import BackendComponents.ThreadPool.Accounting

/-!
# The counters in every reachable state

The exit credits stay non-negative in both versions. In the pthread version this
needs the mutex of the queue: between the unlocked test of `m_exit_threads` and
the later decrement no other worker can spend a credit, and the manager only
overwrites the counter with a positive number.
-/

namespace BackendComponents.ThreadPool.Counters

open BackendComponents.Lib.Paths
open BackendComponents.Lib.Threads
open BackendComponents.ThreadPool.Model
open BackendComponents.ThreadPool.Moves
open BackendComponents.ThreadPool.Exclusion
open BackendComponents.ThreadPool.Accounting

set_option autoImplicit false

structure Credits (cfg : Config) (state : State) : Prop where
  nonneg : 0 ≤ cfg.opNum → 0 ≤ state.pool.exitThreads
  frozen : cfg.opNum ≤ 0 → state.pool.exitThreads ≤ 0
  tested : ∀ id : Nat, state.workers[id]? = some .takeExit → 0 < state.pool.exitThreads

theorem credits_constructed (cfg : Config) : Credits cfg (constructed cfg) where
  nonneg := fun _ => Int.le_refl 0
  frozen := fun _ => Int.le_refl 0
  tested := by
    intro id found
    simp [constructed, List.getElem?_replicate] at found

theorem credits_same {cfg : Config} {state after : State} (credits : Credits cfg state)
    (exit : after.pool.exitThreads = state.pool.exitThreads)
    (workers : after.workers = state.workers) : Credits cfg after := by
  constructor <;> simp only [exit, workers]
  · exact credits.nonneg
  · exact credits.frozen
  · exact credits.tested

theorem worker_move_credits {impl : Implementation} {id : Nat} {pool poolAfter : Pool}
    {pc after : WorkerPc} (move : WorkerMove impl id pool pc poolAfter after)
    (tested : pc = .takeExit → 0 < pool.exitThreads) :
    (poolAfter.exitThreads = pool.exitThreads ∧ (after = .takeExit → 0 < pool.exitThreads)) ∨
      (poolAfter.exitThreads = pool.exitThreads - 1 ∧ 0 < pool.exitThreads ∧
        workerHolds pc = true ∧ after ≠ .takeExit) := by
  cases move with
  | takesCredit version credit => exact .inr ⟨rfl, credit, rfl, by simp⟩
  | spendsCredit => exact .inr ⟨rfl, tested rfl, rfl, by simp⟩
  | seesCredit version credit => exact .inl ⟨rfl, fun _ => credit⟩
  | _ => exact .inl ⟨rfl, fun impossible => by cases impossible⟩

theorem credits_worker {impl : Implementation} {cfg : Config} {state : State}
    {id : Nat} {pc after : WorkerPc} {pool : Pool} (exclusion : SingleHolder state)
    (credits : Credits cfg state) (at_pc : state.workers[id]? = some pc)
    (move : WorkerMove impl id state.pool pc pool after) :
    Credits cfg { state with pool := pool, workers := state.workers.set id after } := by
  have own : pc = .takeExit → 0 < state.pool.exitThreads := by
    intro same
    exact credits.tested id (same ▸ at_pc)
  rcases worker_move_credits move own with ⟨same, claim⟩ | ⟨less, positive, holds, other_pc⟩
  · refine ⟨?_, ?_, ?_⟩
    · simpa only [same] using credits.nonneg
    · simpa only [same] using credits.frozen
    · intro other found
      simp only [same]
      rcases lookup_move found with ⟨_, now⟩ | ⟨_, old⟩
      · exact claim now.symm
      · exact credits.tested other old
  · refine ⟨?_, ?_, ?_⟩
    · intro _
      simp only [less]
      omega
    · intro frozen
      have := credits.frozen frozen
      omega
    · intro other found
      -- a second worker past its test would hold the queue mutex as well
      rcases lookup_move found with ⟨_, now⟩ | ⟨different, old⟩
      · exact absurd now.symm other_pc
      · exact absurd (holder_unique exclusion at_pc holds old rfl) different

theorem can_exit_positive {cfg : Config} {liveNum : Int} (op : 1 ≤ cfg.opNum)
    (above : cfg.minThreads < liveNum) : 0 < canExit cfg liveNum := by
  unfold canExit
  omega

theorem credits_manager {cfg : Config} {state : State} {spawned : Nat} {pool : Pool}
    {after : ManagerPc} (credits : Credits cfg state)
    (move : ManagerMove cfg state.workers.length state.pool state.manager pool spawned after) :
    Credits cfg
      { state with
        pool := pool
        workers := state.workers ++ List.replicate spawned .lockQueue
        manager := after } := by
  have old : ∀ id : Nat,
      (state.workers ++ List.replicate spawned WorkerPc.lockQueue)[id]? = some .takeExit →
        0 < state.pool.exitThreads := by
    intro id found
    rcases lookup_spawn found with old | ⟨_, _, impossible⟩
    · exact credits.tested id old
    · cases impossible
  generalize managerPc : state.manager = pc at move
  cases move with
  | grants idle =>
      have above := idle.2
      refine ⟨?_, ?_, ?_⟩
      · intro op
        simp only [canExit]
        omega
      · intro frozen
        simp only [canExit]
        omega
      · intro id found
        -- a credit has been seen, so credits are being handed out at all
        have seen := old id found
        have handed : ¬cfg.opNum ≤ 0 := by
          intro frozen
          have := credits.frozen frozen
          omega
        exact can_exit_positive (by omega) above
  | _ => exact ⟨credits.nonneg, credits.frozen, old⟩

theorem credits_move {impl : Implementation} {cfg : Config} {state after : State}
    {action : Action} (exclusion : SingleHolder state)
    (credits : Credits cfg state) (moved : Move impl cfg state action after) :
    Credits cfg after := by
  cases moved with
  | call null => exact credits_same credits rfl rfl
  | producer at_pc move =>
      obtain ⟨_, _, _, exit⟩ := producer_move_counters move
      exact credits_same credits exit rfl
  | worker at_pc move => exact credits_worker exclusion credits at_pc move
  | manager move => exact credits_manager credits move
  | destructor move =>
      obtain ⟨_, _, _, exit⟩ := destructor_move_counters move
      exact credits_same credits exit rfl

theorem credits_reachable {impl : Implementation} {cfg : Config} {state : State}
    (reached : Reachable (step impl cfg) (constructed cfg) state) :
    Credits cfg state := by
  have both := reachable_invariant (fun state => SingleHolder state ∧ Credits cfg state)
    ⟨exclusion_constructed cfg, credits_constructed cfg⟩
    (fun _ _ _ inv moved =>
      have move := (move_of_step moved).2
      ⟨exclusion_move inv.1 move, credits_move inv.1 inv.2 move⟩) reached
  exact both.2

/-- The counters say exactly which workers are where, and the manager never puts
a worker into an occupied slot. `m_pool_mutex` is free in every state of the model. -/
structure CountersExact (impl : Implementation) (cfg : Config) (state : State) : Prop where
  busy : state.pool.busyThreads = state.workers.countP isBusy
  live : state.pool.liveThreads = state.workers.countP isLive
  busyNonneg : 0 ≤ state.pool.busyThreads
  busyLeLive : state.pool.busyThreads ≤ state.pool.liveThreads
  liveLeMax : state.pool.liveThreads ≤ cfg.maxThreads
  exitNonneg : 0 ≤ state.pool.exitThreads
  occupied : (occupiedSlots state.pool : Int) =
    state.pool.liveThreads + state.workers.countP isLeaving
  slotsKept : ∀ (pick : Nat) (after : State), step impl cfg state (.manager pick) = some after →
    ∀ (index id : Nat), state.pool.threadWorkGroup[index]? = some (some id) →
      after.pool.threadWorkGroup[index]? = some (some id)

theorem occupied_of_accounts {cfg : Config} {state : State} (accounts : Accounts cfg state) :
    (occupiedSlots state.pool : Int) =
      state.pool.liveThreads + state.workers.countP isLeaving := by
  have := countP_split occupiesSlot isLive isLeaving state.workers occupies_split
  have := accounts.slots
  have := accounts.live
  omega

theorem live_le_max_of_accounts {cfg : Config} {state : State} (accounts : Accounts cfg state) :
    state.pool.liveThreads ≤ cfg.maxThreads := by
  have := occupied_of_accounts accounts
  have inside : occupiedSlots state.pool ≤ state.pool.threadWorkGroup.length :=
    List.countP_le_length
  have := accounts.size
  omega

theorem manager_keeps_slots {impl : Implementation} {cfg : Config} {state after : State}
    {pick : Nat} (moved : step impl cfg state (.manager pick) = some after) (index id : Nat)
    (found : state.pool.threadWorkGroup[index]? = some (some id)) :
    after.pool.threadWorkGroup[index]? = some (some id) := by
  cases (move_of_step moved).2 with
  | manager move => exact (manager_move_counters move).2.kept index id found

theorem counters_exact (impl : Implementation) (cfg : Config) (op : 0 ≤ cfg.opNum)
    (state : State) (reached : Reachable (step impl cfg) (constructed cfg) state) :
    CountersExact impl cfg state := by
  have accounts := accounts_reachable reached
  have nested : state.workers.countP isBusy ≤ state.workers.countP isLive :=
    List.countP_mono_left fun pc _ => busy_is_live pc
  have busy := accounts.busy
  have live := accounts.live
  exact
    { busy := busy
      live := live
      busyNonneg := by omega
      busyLeLive := by omega
      liveLeMax := live_le_max_of_accounts accounts
      exitNonneg := (credits_reachable reached).nonneg op
      occupied := occupied_of_accounts accounts
      slotsKept := fun _ _ moved => manager_keeps_slots moved }

/-- A pool whose only worker is running the only task. -/
theorem counters_exact_running :
    ∃ state, exec (step .stl ⟨1, 2, 1, 4, by decide⟩) (constructed ⟨1, 2, 1, 4, by decide⟩)
        ([.submit false] ++ List.replicate 5 (.producer 0 0) ++ List.replicate 7 (.worker 0 0)) =
          some state ∧
      state.workers = [.running 0] ∧ CountersExact .stl ⟨1, 2, 1, 4, by decide⟩ state := by
  obtain ⟨state, run, running⟩ := exec_checked (step .stl ⟨1, 2, 1, 4, by decide⟩)
    (constructed ⟨1, 2, 1, 4, by decide⟩)
    ([.submit false] ++ List.replicate 5 (.producer 0 0) ++ List.replicate 7 (.worker 0 0))
    (fun state => decide (state.workers = [.running 0])) (by decide)
  exact ⟨state, run, of_decide_eq_true running,
    counters_exact .stl ⟨1, 2, 1, 4, by decide⟩ (by decide) state (reachable_of_exec run)⟩

end BackendComponents.ThreadPool.Counters
