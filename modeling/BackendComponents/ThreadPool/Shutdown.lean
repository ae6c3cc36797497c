import BackendComponents.ThreadPool.Ownership
import BackendComponents.ThreadPool.Quiescence

/-!
# What a shutdown leaves behind

A worker that sees `m_is_shutdown` leaves without looking at the queue, so after
the flag is set only workers already past that test still dequeue. The number of
queued tasks minus the number of such workers is therefore constant from then on,
and it is what remains in `m_taskQ` when the destructor returns.
-/

namespace BackendComponents.ThreadPool.Shutdown

open BackendComponents.Lib.Paths
open BackendComponents.Lib.Threads
open BackendComponents.ThreadPool.Model
open BackendComponents.ThreadPool.Moves
open BackendComponents.ThreadPool.Accounting
open BackendComponents.ThreadPool.Quiescence
open BackendComponents.ThreadPool.Ownership

set_option autoImplicit false

/-- Past the shutdown test, about to call `getTask`. -/
def atGetTask : WorkerPc → Bool
  | .getTask => true
  | _ => false

/-- Every call of `submit` has returned, or refused its null task. -/
def Settled (state : State) : Prop :=
  ∀ pc ∈ state.producers, pc = .returned ∨ pc = .refused

/-- Every task handed over before the destructor was entered has been run once and
deleted once, and nothing is queued. -/
def AllRun (entered last : State) : Prop :=
  (∀ task, entered.producers[task]? = some .returned →
    last.pool.started.count task = 1 ∧ last.pool.finished.count task = 1 ∧
      last.pool.deleted.count task = 1) ∧
    last.pool.taskQ = []

/-- A run of the destructor to its end: it begins when all calls of `submit` have
returned, and none is made later. -/
structure ShutdownRun (impl : Implementation) (cfg : Config) (entered last : State) : Prop where
  reached : Reachable (step impl cfg) (constructed cfg) entered
  settled : Settled entered
  entering : entered.destructor = .notEntered
  rest : ∃ flagged trail, step impl cfg entered .destructor = some flagged ∧
    Path (step impl cfg) flagged trail last ∧
      ∀ taken ∈ trail, ∀ null, taken.2 ≠ .submit null
  returned : last.destructor = .returned

def GracefulShutdown (impl : Implementation) : Prop :=
  ∀ (cfg : Config) (entered last : State), ShutdownRun impl cfg entered last →
    AllRun entered last

/-! ## The flag is up -/

/-- `surplus` is the number of queued tasks that no worker past its test will take. -/
structure Flagged (cfg : Config) (entered : State) (surplus : Int) (state : State) : Prop where
  owned : Owned state
  accounts : Accounts cfg state
  joined : ManagerJoined state
  shutdown : state.pool.isShutdown = true
  producers : state.producers = entered.producers
  balance : (state.pool.taskQ.length : Int) = state.workers.countP atGetTask + surplus
  drained : Drained state

theorem worker_move_balance {impl : Implementation} {id : Nat} {pool poolAfter : Pool}
    {pc after : WorkerPc} (move : WorkerMove impl id pool pc poolAfter after)
    (shutdown : pool.isShutdown = true) (loaded : pc = .getTask → pool.taskQ ≠ []) :
    poolAfter.taskQ.length + indicator (atGetTask pc) =
      pool.taskQ.length + indicator (atGetTask after) := by
  cases move with
  | takes head notified =>
      rw [head]
      rfl
  | takesNull nothing => exact absurd nothing (loaded rfl)
  | staysOpen running =>
      rw [shutdown] at running
      cases running
  | _ => rfl

theorem flagged_worker {impl : Implementation} {cfg : Config} {entered state : State}
    {surplus : Int} {id : Nat} {pc after : WorkerPc} {pool : Pool} (pick : Nat)
    (flagged : Flagged cfg entered surplus state) (at_pc : state.workers[id]? = some pc)
    (move : WorkerMove impl id state.pool pc pool after) :
    Flagged cfg entered surplus
      { state with pool := pool, workers := state.workers.set id after } := by
  have whole : Move impl cfg state (.worker id pick) _ := .worker at_pc move
  have balance := worker_move_balance move flagged.shutdown
    fun same => flagged.owned.loaded.taking id (same ▸ at_pc)
  have taking : (state.workers.set id after).countP atGetTask + indicator (atGetTask pc) =
      state.workers.countP atGetTask + indicator (atGetTask after) := countP_move atGetTask at_pc
  exact
    { owned := owned_move flagged.owned whole
      accounts := accounts_move flagged.accounts whole
      joined := manager_joined_move flagged.joined whole
      shutdown := move_keeps_flag whole flagged.shutdown
      producers := flagged.producers
      balance := by
        have := flagged.balance
        dsimp only
        omega
      drained := drained_move flagged.accounts flagged.joined flagged.drained whole }

theorem flagged_manager (impl : Implementation) {cfg : Config} {entered state : State}
    {surplus : Int} {spawned : Nat} {pool : Pool} {after : ManagerPc} (pick : Nat)
    (flagged : Flagged cfg entered surplus state)
    (move : ManagerMove cfg state.workers.length state.pool state.manager pool spawned after) :
    Flagged cfg entered surplus
      { state with
        pool := pool
        workers := state.workers ++ List.replicate spawned .lockQueue
        manager := after } := by
  have whole : Move impl cfg state (.manager pick) _ := .manager move
  obtain ⟨queue, _⟩ := task_logs_eq (manager_move_logs move)
  have taking := countP_spawn atGetTask state.workers spawned .lockQueue
  simp only [atGetTask, indicator_false, Nat.mul_zero, Nat.add_zero] at taking
  exact
    { owned := owned_move flagged.owned whole
      accounts := accounts_move flagged.accounts whole
      joined := manager_joined_move flagged.joined whole
      shutdown := move_keeps_flag whole flagged.shutdown
      producers := flagged.producers
      balance := by
        have := flagged.balance
        simp only [queue, taking]
        exact this
      drained := drained_move flagged.accounts flagged.joined flagged.drained whole }

theorem flagged_destructor {impl : Implementation} {cfg : Config} {entered state : State}
    {surplus : Int} {pool : Pool} {after : DestructorPc}
    (flagged : Flagged cfg entered surplus state)
    (move : DestructorMove impl state.manager state.pool state.destructor pool after) :
    Flagged cfg entered surplus { state with pool := pool, destructor := after } := by
  have whole : Move impl cfg state .destructor _ := .destructor move
  obtain ⟨queue, _⟩ := task_logs_eq (destructor_move_logs move)
  exact
    { owned := owned_move flagged.owned whole
      accounts := accounts_move flagged.accounts whole
      joined := manager_joined_move flagged.joined whole
      shutdown := move_keeps_flag whole flagged.shutdown
      producers := flagged.producers
      balance := by
        have := flagged.balance
        simp only [queue]
        exact this
      drained := drained_move flagged.accounts flagged.joined flagged.drained whole }

theorem flagged_move {impl : Implementation} {cfg : Config} {entered state after : State}
    {surplus : Int} {action : Action} (settled : Settled entered)
    (flagged : Flagged cfg entered surplus state) (noCall : ∀ null, action ≠ .submit null)
    (moved : Move impl cfg state action after) : Flagged cfg entered surplus after := by
  cases moved with
  | call null => exact absurd rfl (noCall null)
  | @producer id pick pc next pool at_pc move =>
      have still : pc = .returned ∨ pc = .refused := by
        rw [flagged.producers] at at_pc
        exact settled pc (List.mem_of_getElem? at_pc)
      rcases still with rfl | rfl <;> cases move
  | @worker id pick pc next pool at_pc move => exact flagged_worker pick flagged at_pc move
  | @manager pick spawned pool next move => exact flagged_manager impl pick flagged move
  | destructor move => exact flagged_destructor flagged move

theorem flagged_of_entering {impl : Implementation} {cfg : Config} {entered flagged : State}
    (reached : Reachable (step impl cfg) (constructed cfg) entered)
    (entering : entered.destructor = .notEntered)
    (flag : step impl cfg entered .destructor = some flagged) :
    Flagged cfg entered
      ((entered.pool.taskQ.length : Int) - entered.workers.countP atGetTask) flagged := by
  have move := (move_of_step flag).2
  have owned := owned_move (owned_reachable reached) move
  have accounts := accounts_move (accounts_reachable reached) move
  generalize destructorPc : entered.destructor = pc at entering
  subst entering
  cases move with
  | destructor move =>
      rw [destructorPc] at move
      cases move with
      | enters =>
          exact
            { owned := owned
              accounts := accounts
              joined := fun early => by rcases early with early | early <;> cases early
              shutdown := rfl
              producers := rfl
              balance := by
                dsimp only
                omega
              drained := fun early => by cases early }

theorem flagged_path {impl : Implementation} {cfg : Config} {entered flagged last : State}
    {surplus : Int} {trail : List (State × Action)} (settled : Settled entered)
    (begin_flagged : Flagged cfg entered surplus flagged)
    (path : Path (step impl cfg) flagged trail last)
    (noCall : ∀ taken ∈ trail, ∀ null, taken.2 ≠ .submit null) :
    Flagged cfg entered surplus last := by
  induction path with
  | here => exact begin_flagged
  | @next trail before after action path taken ih =>
      have earlier := ih fun entry member => noCall entry (List.mem_append_left _ member)
      exact flagged_move settled earlier (noCall (before, action) (by simp)) (move_of_step taken).2

theorem all_run_iff_no_surplus {cfg : Config} {entered last : State} {surplus : Int}
    (flagged : Flagged cfg entered surplus last) (returned : last.destructor = .returned) :
    AllRun entered last ↔ surplus = 0 := by
  have drained := flagged.drained (by rw [returned]; rfl)
  have none_past : ∀ past : WorkerPc → Bool, (∀ pc, past pc = true → isLive pc = true) →
      last.workers.countP past = 0 := by
    intro past live
    have nested : last.workers.countP past ≤ last.workers.countP isLive :=
      List.countP_mono_left fun pc _ => live pc
    omega
  have balance := flagged.balance
  have idle := none_past atGetTask fun pc at_point => by cases pc <;> first | rfl | cases at_point
  constructor
  · intro all
    rw [all.2, idle] at balance
    simpa using balance.symm
  · intro zero
    have nothing : last.pool.taskQ = [] := by
      apply List.length_eq_zero_iff.mp
      omega
    refine ⟨?_, nothing⟩
    intro task handed
    have pushed : task ∈ last.pool.pushed := by
      rw [flagged.owned.named.pushed task, flagged.producers]
      exact .inr handed
    have law := task_ownership_of_owned flagged.owned
    have place := law.place task pushed
    have held := none_past (holdsTask task) fun pc at_point => by
      cases pc <;> first | rfl | cases at_point
    rw [nothing, held] at place
    have deleted : last.pool.deleted.count task = 1 := by simpa using place
    have := law.deletedAfterEnd task
    have := law.endsAfterStart task
    have := law.runOnce task
    exact ⟨by omega, by omega, deleted⟩

/-- A shutdown runs every task exactly if, when the flag is set, each queued task
has a worker past its shutdown test about to dequeue it. -/
theorem all_run_iff_taken (impl : Implementation) (cfg : Config) (entered last : State)
    (run : ShutdownRun impl cfg entered last) :
    AllRun entered last ↔
      entered.pool.taskQ.length = entered.workers.countP atGetTask := by
  obtain ⟨flagged, trail, flag, path, noCall⟩ := run.rest
  have start := flagged_of_entering run.reached run.entering flag
  have final := flagged_path run.settled start path noCall
  rw [all_run_iff_no_surplus final run.returned]
  omega

/-! ## Runs -/

instance (state : State) : Decidable (Settled state) := inferInstanceAs (Decidable (∀ _ ∈ _, _))

/-- Evaluates a run from the state the destructor is entered in to its end. -/
def shutdownCheck (impl : Implementation) (cfg : Config) (rest : List Action)
    (final : State → Bool) (entered : State) : Bool :=
  decide (Settled entered ∧ entered.destructor = .notEntered) &&
    (exec (step impl cfg) entered (.destructor :: rest)).any fun last =>
      decide (last.destructor = .returned) && final last

theorem shutdown_run_of_check {impl : Implementation} {cfg : Config} {front rest : List Action}
    {final : State → Bool} {entered : State}
    (before : exec (step impl cfg) (constructed cfg) front = some entered)
    (check : shutdownCheck impl cfg rest final entered = true)
    (noCall : ∀ action ∈ rest, ∀ null, action ≠ .submit null) :
    ∃ last, ShutdownRun impl cfg entered last ∧ final last = true := by
  obtain ⟨ready, passed⟩ := Bool.and_eq_true_iff.mp check
  obtain ⟨settled, entering⟩ := of_decide_eq_true ready
  obtain ⟨last, continued, ended⟩ := exec_checked _ _ _ _ passed
  obtain ⟨returned, seen⟩ := Bool.and_eq_true_iff.mp ended
  obtain ⟨flagged, flag, executed⟩ := Option.bind_eq_some_iff.mp continued
  exact ⟨last,
    { reached := reachable_of_exec before
      settled := settled
      entering := entering
      rest := ⟨flagged, _, flag, path_of_exec executed,
        fun taken member => noCall taken.2 (trail_action_mem member)⟩
      returned := of_decide_eq_true returned }, seen⟩

/-- The destructor and the manager run to the polling loop, the worker leaves, the
destructor returns. -/
def shutdownEnding (workerMoves : Nat) : List Action :=
  List.replicate 3 .destructor ++ [.manager 0, .destructor] ++
    List.replicate workerMoves (.worker 0 0) ++ List.replicate 2 .destructor

/-- The only worker has passed its shutdown test when the flag is set: it still takes
the task. -/
theorem all_run_past_test :
    ∃ entered last, ShutdownRun .stl ⟨1, 1, 1, 4, by decide⟩ entered last ∧
      entered.pool.taskQ = [0] ∧ AllRun entered last := by
  obtain ⟨entered, before, seen⟩ := exec_checked (step .stl ⟨1, 1, 1, 4, by decide⟩)
    (constructed ⟨1, 1, 1, 4, by decide⟩)
    ([.submit false] ++ List.replicate 5 (.producer 0 0) ++ List.replicate 3 (.worker 0 0))
    (fun state => shutdownCheck .stl ⟨1, 1, 1, 4, by decide⟩
        (List.replicate 2 (.worker 0 0) ++ shutdownEnding 11)
        (fun last => decide (last.pool.deleted = [0])) state &&
      decide (state.pool.taskQ = [0] ∧
        state.pool.taskQ.length = state.workers.countP atGetTask)) (by decide)
  obtain ⟨check, facts⟩ := Bool.and_eq_true_iff.mp seen
  obtain ⟨queue, agrees⟩ := of_decide_eq_true facts
  obtain ⟨last, run, _⟩ := shutdown_run_of_check before check (by decide)
  exact ⟨entered, last, run, queue,
    (all_run_iff_taken .stl ⟨1, 1, 1, 4, by decide⟩ entered last run).mpr agrees⟩

theorem law_fails_of_dropped {impl : Implementation} (front rest : List Action)
    (dropped : (exec (step impl ⟨1, 1, 1, 4, by decide⟩) (constructed ⟨1, 1, 1, 4, by decide⟩)
      front).any (shutdownCheck impl ⟨1, 1, 1, 4, by decide⟩ rest
        (fun last => decide (last.pool.taskQ = [0] ∧ last.pool.started = []))) = true)
    (noCall : ∀ action ∈ rest, ∀ null, action ≠ .submit null) : ¬GracefulShutdown impl := by
  intro law
  obtain ⟨entered, before, check⟩ := exec_checked _ _ _ _ dropped
  obtain ⟨last, run, seen⟩ := shutdown_run_of_check before check noCall
  have queued := (of_decide_eq_true seen).1
  rw [(law _ entered last run).2] at queued
  cases queued

/-- A task that is still queued when the flag is set, with the only worker before its
shutdown test, is never run. -/
theorem shutdown_drops_task : ¬GracefulShutdown .stl ∧ ¬GracefulShutdown .pthread := by
  constructor
  · exact law_fails_of_dropped ([.submit false] ++ List.replicate 5 (.producer 0 0))
      (shutdownEnding 6) (by decide) (by decide)
  · exact law_fails_of_dropped ([.submit false] ++ List.replicate 5 (.producer 0 0))
      (shutdownEnding 6) (by decide) (by decide)

end BackendComponents.ThreadPool.Shutdown
