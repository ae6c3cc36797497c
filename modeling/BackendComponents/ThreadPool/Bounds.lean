import BackendComponents.ThreadPool.Counters
import BackendComponents.ThreadPool.Wakeups

/-!
# The size of the pool

The upper bound is tested where threads are added, under the mutex. The lower bound
rests on the exit credits: `m_live_threads` stays above the minimum as long as it
does so after all credits are spent. The manager writes the credits from a value of
`m_live_threads` it read two sections earlier; when workers have left in between, the
new credits can exceed what the pool can spare.
-/

namespace BackendComponents.ThreadPool.Bounds

open BackendComponents.Lib.Paths
open BackendComponents.Lib.Threads
open BackendComponents.ThreadPool.Model
open BackendComponents.ThreadPool.Moves
open BackendComponents.ThreadPool.Exclusion
open BackendComponents.ThreadPool.Accounting
open BackendComponents.ThreadPool.Counters
open BackendComponents.ThreadPool.Wakeups

set_option autoImplicit false

def SizeBounds (cfg : Config) (state : State) : Prop :=
  state.pool.isShutdown = false →
    cfg.minThreads ≤ state.pool.liveThreads ∧ state.pool.liveThreads ≤ cfg.maxThreads

/-- The size law of the pool, for every interleaving. -/
def SizeLaw (impl : Implementation) : Prop :=
  ∀ cfg : Config, 1 ≤ cfg.opNum →
    ∀ state, Reachable (step impl cfg) (constructed cfg) state → SizeBounds cfg state

/-- When the manager writes `m_exit_threads` before the shutdown, no worker has left
since it read `m_live_threads`, or at least `m_op_num` workers above the minimum are
still there. -/
def FitsAt (cfg : Config) (pool : Pool) : ManagerPc → Prop
  | .shrink qsize liveNum busyNum =>
      pool.isShutdown = false →
        (busyNum * 2 < liveNum ∨ (qsize = 0 ∧ busyNum = 0)) ∧ cfg.minThreads < liveNum →
          liveNum ≤ pool.liveThreads ∨ cfg.opNum ≤ pool.liveThreads - cfg.minThreads
  | .testShutdown | .readQueue | .readCounters _ | .grow _ _ _ | .notify _ | .done => True

instance (cfg : Config) (pool : Pool) : (pc : ManagerPc) → Decidable (FitsAt cfg pool pc)
  | .shrink _ _ _ => inferInstanceAs (Decidable (_ → _ → _ ∨ _))
  | .testShutdown | .readQueue | .readCounters _ | .grow _ _ _ | .notify _ | .done =>
      inferInstanceAs (Decidable True)

def isManager : Action → Bool
  | .manager _ => true
  | _ => false

def GrantFits (cfg : Config) (state : State) (action : Action) : Prop :=
  isManager action = true → FitsAt cfg state.pool state.manager

instance (cfg : Config) (state : State) (action : Action) :
    Decidable (GrantFits cfg state action) :=
  inferInstanceAs (Decidable (_ → _))

/-- The pool stays above its minimum even after all credits are spent. -/
def Reserve (cfg : Config) (state : State) : Prop :=
  state.pool.isShutdown = false →
    cfg.minThreads + state.pool.exitThreads ≤ state.pool.liveThreads

theorem worker_move_reserve {impl : Implementation} {id : Nat} {pool poolAfter : Pool}
    {pc after : WorkerPc} (move : WorkerMove impl id pool pc poolAfter after) :
    poolAfter.liveThreads - poolAfter.exitThreads = pool.liveThreads - pool.exitThreads ∨
      pc = .decLive := by
  cases move with
  | retires => exact .inr rfl
  | takesCredit =>
      left
      simp only [exitCredit]
      omega
  | spendsCredit =>
      left
      simp only [exitCredit]
      omega
  | _ => exact .inl rfl

theorem reserve_manager {cfg : Config} {state : State} {pick spawned : Nat} {pool : Pool}
    {after : ManagerPc} (reserve : Reserve cfg state)
    (fits : GrantFits cfg state (.manager pick))
    (move : ManagerMove cfg state.workers.length state.pool state.manager pool spawned after) :
    Reserve cfg
      { state with
        pool := pool
        workers := state.workers ++ List.replicate spawned .lockQueue
        manager := after } := by
  have grown := (manager_move_counters move).2.live
  intro running
  simp only [manager_move_flag move] at running
  have before := reserve running
  have fits := fits rfl
  generalize managerPc : state.manager = pc at move fits
  cases move with
  | grants idle =>
      have room := fits running idle
      simp only [canExit]
      omega
  | grows =>
      dsimp only at grown ⊢
      omega
  | _ => exact before

theorem reserve_move {impl : Implementation} {cfg : Config} {state after : State}
    {action : Action} (blocked : Blocked state) (reserve : Reserve cfg state)
    (fits : GrantFits cfg state action) (moved : Move impl cfg state action after) :
    Reserve cfg after := by
  have running_before := flag_down_before moved
  cases moved with
  | call null => exact reserve
  | producer at_pc move =>
      obtain ⟨_, live, _, exit⟩ := producer_move_counters move
      intro running
      simp only [live, exit]
      exact reserve (running_before running)
  | @worker id pick pc next pool at_pc move =>
      intro running
      rcases worker_move_reserve move with same | rfl
      · have before := reserve (running_before running)
        dsimp only
        omega
      · have shut := blocked.retiring id at_pc
        rw [running_before running] at shut
        cases shut
  | manager move => exact reserve_manager reserve fits move
  | destructor move =>
      obtain ⟨_, live, _, exit⟩ := destructor_move_counters move
      intro running
      simp only [live, exit]
      exact reserve (running_before running)

/-- What holds of every run, whatever the manager writes. -/
structure SizeInv (cfg : Config) (state : State) : Prop where
  exclusion : SingleHolder state
  accounts : Accounts cfg state
  credits : Credits cfg state
  blocked : Blocked state

theorem size_inv_constructed (cfg : Config) : SizeInv cfg (constructed cfg) :=
  ⟨exclusion_constructed cfg, accounts_constructed cfg, credits_constructed cfg,
    blocked_constructed cfg⟩

theorem size_inv_move {impl : Implementation} {cfg : Config} {state after : State}
    {action : Action} (inv : SizeInv cfg state)
    (moved : Move impl cfg state action after) : SizeInv cfg after where
  exclusion := exclusion_move inv.exclusion moved
  accounts := accounts_move inv.accounts moved
  credits := credits_move inv.exclusion inv.credits moved
  blocked := blocked_move inv.blocked moved

/-- In every run whose grants fit, the size of the pool keeps to its bounds. -/
theorem size_bounds_of_grants_fit (impl : Implementation) (cfg : Config) (op : 1 ≤ cfg.opNum)
    (trail : List (State × Action)) (last : State)
    (path : Path (step impl cfg) (constructed cfg) trail last)
    (fits : ∀ taken ∈ trail, GrantFits cfg taken.1 taken.2) :
    ∀ state ∈ visited trail last, SizeBounds cfg state := by
  intro state member
  have reserve := path_property_of_good (SizeInv cfg) (Reserve cfg) (GrantFits cfg)
    (size_inv_constructed cfg) (fun _ => by simp [constructed])
    (fun _ _ _ inv moved => size_inv_move inv (move_of_step moved).2)
    (fun _ _ _ inv reserve fits moved =>
      reserve_move inv.blocked reserve fits (move_of_step moved).2)
    path fits state member
  have reached := visited_reachable path member
  have nonneg := (credits_reachable reached).nonneg (by omega)
  have upper := live_le_max_of_accounts (accounts_reachable reached)
  intro running
  have spare := reserve running
  exact ⟨by omega, upper⟩

/-! ## Runs -/

theorem size_bounds_delivered :
    ∃ last, exec (step .stl ⟨1, 2, 1, 4, by decide⟩) (constructed ⟨1, 2, 1, 4, by decide⟩)
        creditDelivered = some last ∧
      last.pool.liveThreads = 1 ∧
      ∀ state ∈ visited (trailOf (step .stl ⟨1, 2, 1, 4, by decide⟩)
        (constructed ⟨1, 2, 1, 4, by decide⟩) creditDelivered) last,
        SizeBounds ⟨1, 2, 1, 4, by decide⟩ state := by
  obtain ⟨last, run, live⟩ := exec_checked (step .stl ⟨1, 2, 1, 4, by decide⟩)
    (constructed ⟨1, 2, 1, 4, by decide⟩) creditDelivered
    (fun state => decide (state.pool.liveThreads = 1)) (by decide)
  refine ⟨last, run, of_decide_eq_true live, ?_⟩
  exact size_bounds_of_grants_fit .stl ⟨1, 2, 1, 4, by decide⟩ (by decide) _ last
    (path_of_exec run) (by decide)

/-- Both workers sleep when the manager hands out a credit and reads the counters
again; worker 0 leaves before the manager writes the next credit, which worker 1
spends. -/
def staleGrant (exitMoves : Nat) : List Action :=
  growSchedule ++ List.replicate 2 (.worker 0 0) ++ List.replicate 2 (.worker 1 0) ++
    List.replicate 11 (.manager 0) ++ List.replicate (exitMoves + 1) (.worker 0 0) ++
    List.replicate 2 (.manager 1) ++ List.replicate exitMoves (.worker 1 0)

theorem law_fails_of_undershoot {impl : Implementation} (schedule : List Action)
    (undershot : (exec (step impl ⟨1, 2, 1, 4, by decide⟩)
      (constructed ⟨1, 2, 1, 4, by decide⟩) schedule).any (fun state =>
        decide (state.pool.liveThreads = 0 ∧ state.pool.isShutdown = false)) = true) :
    ¬SizeLaw impl := by
  intro law
  obtain ⟨last, run, empty⟩ := exec_checked _ _ _ _ undershot
  obtain ⟨none_live, running⟩ := of_decide_eq_true empty
  have bounds := (law _ (by decide) last (reachable_of_exec run) running).1
  rw [none_live] at bounds
  exact absurd bounds (by decide)

theorem stale_grant_undershoots : ¬SizeLaw .stl ∧ ¬SizeLaw .pthread := by
  constructor
  · exact law_fails_of_undershoot (staleGrant 2) (by decide)
  · exact law_fails_of_undershoot (staleGrant 3) (by decide)

end BackendComponents.ThreadPool.Bounds
