import BackendComponents.ThreadPool.Exclusion

/-!
# What the counters count

`m_busy_threads`, `m_live_threads` and the occupied slots are numbers of workers
at certain program points, whoever moves. A worker leaves in two sections of
`m_pool_mutex`: first it decrements `m_live_threads`, later `thread_exit_` empties
its slot; between the two it still occupies a slot but is no longer counted live.
-/

namespace BackendComponents.ThreadPool.Accounting

open BackendComponents.Lib.Paths
open BackendComponents.Lib.Threads
open BackendComponents.ThreadPool.Model
open BackendComponents.ThreadPool.Moves
open BackendComponents.ThreadPool.Exclusion

set_option autoImplicit false

/-- Between the increment and the decrement of `m_busy_threads`. -/
def isBusy : WorkerPc → Bool
  | .runTask _ | .running _ | .deleteTask _ | .decBusy => true
  | _ => false

/-- Between its own decrement of `m_live_threads` and the end of `thread_exit_`. -/
def isLeaving : WorkerPc → Bool
  | .unlockExit | .threadExit => true
  | _ => false

def isLive : WorkerPc → Bool
  | .unlockExit | .threadExit | .exited => false
  | _ => true

def occupiesSlot : WorkerPc → Bool
  | .exited => false
  | _ => true

def occupiedSlots (pool : Pool) : Nat := pool.threadWorkGroup.countP Option.isSome

theorem occupies_split (pc : WorkerPc) :
    indicator (occupiesSlot pc) = indicator (isLive pc) + indicator (isLeaving pc) := by
  cases pc <;> rfl

theorem busy_is_live (pc : WorkerPc) (busy : isBusy pc = true) : isLive pc = true := by
  cases pc <;> first | rfl | cases busy

structure Accounts (cfg : Config) (state : State) : Prop where
  busy : state.pool.busyThreads = state.workers.countP isBusy
  live : state.pool.liveThreads = state.workers.countP isLive
  slots : occupiedSlots state.pool = state.workers.countP occupiesSlot
  size : state.pool.threadWorkGroup.length = cfg.maxThreads
  owns : ∀ (id : Nat) (pc : WorkerPc), state.workers[id]? = some pc →
    occupiesSlot pc = true → some id ∈ state.pool.threadWorkGroup

/-! ## The slots -/

theorem release_slot_length (id : Nat) (slots : List (Option Nat)) :
    (releaseSlot id slots).length = slots.length := by
  induction slots with
  | nil => rfl
  | cons slot rest ih =>
      simp only [releaseSlot]
      split
      · rfl
      · simp only [List.length_cons, ih]

theorem release_slot_count (id : Nat) (slots : List (Option Nat)) (member : some id ∈ slots) :
    (releaseSlot id slots).countP Option.isSome + 1 = slots.countP Option.isSome := by
  induction slots with
  | nil => cases member
  | cons slot rest ih =>
      simp only [releaseSlot]
      by_cases own : slot = some id
      · rw [if_pos own, own]
        simp
      · rw [if_neg own]
        have later := ih ((List.mem_cons.mp member).resolve_left fun same => own same.symm)
        simp only [List.countP_cons]
        omega

theorem release_slot_keeps (id other : Nat) (slots : List (Option Nat)) (different : other ≠ id)
    (member : some other ∈ slots) : some other ∈ releaseSlot id slots := by
  induction slots with
  | nil => cases member
  | cons slot rest ih =>
      simp only [releaseSlot]
      rcases List.mem_cons.mp member with rfl | later
      · rw [if_neg (by simpa using different)]
        exact List.mem_cons_self
      · split
        · exact List.mem_cons_of_mem _ later
        · exact List.mem_cons_of_mem _ (ih later)

/-- The loop that adds threads fills free slots only, one for each new worker,
and counts each of them live. -/
structure Grown (slots : List (Option Nat)) (live : Int) (next : Nat)
    (result : List (Option Nat) × Int × Nat) : Prop where
  later : next ≤ result.2.2
  live : result.2.1 = live + (result.2.2 - next : Nat)
  length : result.1.length = slots.length
  count : result.1.countP Option.isSome = slots.countP Option.isSome + (result.2.2 - next)
  kept : ∀ (index id : Nat), slots[index]? = some (some id) → result.1[index]? = some (some id)
  fresh : ∀ id, next ≤ id → id < result.2.2 → some id ∈ result.1

theorem grown_unchanged (slots : List (Option Nat)) (live : Int) (next : Nat) :
    Grown slots live next (slots, live, next) where
  later := Nat.le_refl _
  live := by simp
  length := rfl
  count := by simp
  kept := fun _ _ found => found
  fresh := fun _ lower upper => absurd upper (Nat.not_lt.mpr lower)

theorem grown_cons_taken {rest : List (Option Nat)} {live : Int} {next thread : Nat}
    {result : List (Option Nat) × Int × Nat} (grown : Grown rest live next result) :
    Grown (some thread :: rest) live next (some thread :: result.1, result.2) where
  later := grown.later
  live := grown.live
  length := by simp only [List.length_cons, grown.length]
  count := by
    have := grown.count
    simp only [List.countP_cons_of_pos, Option.isSome_some]
    omega
  kept := by
    intro index id found
    cases index with
    | zero => exact found
    | succ index => exact grown.kept index id found
  fresh := fun id lower upper => List.mem_cons_of_mem _ (grown.fresh id lower upper)

theorem grown_cons_free {rest : List (Option Nat)} {live : Int} {next : Nat}
    {result : List (Option Nat) × Int × Nat} (grown : Grown rest (live + 1) (next + 1) result) :
    Grown (none :: rest) live next (some next :: result.1, result.2) where
  later := Nat.le_of_succ_le grown.later
  live := by
    have := grown.later
    have := grown.live
    dsimp only
    omega
  length := by simp only [List.length_cons, grown.length]
  count := by
    have := grown.later
    have := grown.count
    simp only [List.countP_cons, Option.isSome_some, Option.isSome_none, if_true,
      Bool.false_eq_true, if_false]
    omega
  kept := by
    intro index id found
    cases index with
    | zero => cases found
    | succ index => exact grown.kept index id found
  fresh := by
    intro id lower upper
    by_cases first : id = next
    · rw [first]
      exact List.mem_cons_self
    · exact List.mem_cons_of_mem _ (grown.fresh id (by omega) upper)

theorem grow_loop_grown (cfg : Config) (slots : List (Option Nat)) (live cnt : Int) (next : Nat) :
    Grown slots live next (growLoop cfg slots live cnt next) := by
  induction slots generalizing live cnt next with
  | nil => exact grown_unchanged [] live next
  | cons slot rest ih =>
      simp only [growLoop]
      split
      · cases slot with
        | none => exact grown_cons_free (ih (live + 1) (cnt + 1) (next + 1))
        | some thread => exact grown_cons_taken (ih live cnt next)
      · exact grown_unchanged (slot :: rest) live next

/-! ## One move of a worker -/

theorem worker_move_busy {impl : Implementation} {id : Nat} {pool poolAfter : Pool}
    {pc after : WorkerPc} (move : WorkerMove impl id pool pc poolAfter after) :
    poolAfter.busyThreads + indicator (isBusy pc) =
      pool.busyThreads + indicator (isBusy after) := by
  cases move <;> simp [isBusy, exitCredit]

theorem worker_move_live {impl : Implementation} {id : Nat} {pool poolAfter : Pool}
    {pc after : WorkerPc} (move : WorkerMove impl id pool pc poolAfter after) :
    poolAfter.liveThreads + indicator (isLive pc) =
      pool.liveThreads + indicator (isLive after) := by
  cases move <;> simp [isLive, exitCredit]

theorem worker_move_slots {impl : Implementation} {id : Nat} {pool poolAfter : Pool}
    {pc after : WorkerPc} (move : WorkerMove impl id pool pc poolAfter after) :
    (poolAfter.threadWorkGroup = pool.threadWorkGroup ∧
        occupiesSlot pc = true ∧ occupiesSlot after = true) ∨
      (poolAfter.threadWorkGroup = releaseSlot id pool.threadWorkGroup ∧
        occupiesSlot pc = true ∧ occupiesSlot after = false) := by
  cases move with
  | releases => exact .inr ⟨rfl, rfl, rfl⟩
  | _ => exact .inl ⟨rfl, rfl, rfl⟩

theorem producer_move_counters {cfg : Config} {id : Nat} {pool poolAfter : Pool}
    {pc after : ProducerPc} (move : ProducerMove cfg id pool pc poolAfter after) :
    poolAfter.busyThreads = pool.busyThreads ∧ poolAfter.liveThreads = pool.liveThreads ∧
      poolAfter.threadWorkGroup = pool.threadWorkGroup ∧
      poolAfter.exitThreads = pool.exitThreads := by
  cases move <;> exact ⟨rfl, rfl, rfl, rfl⟩

theorem destructor_move_counters {impl : Implementation} {managerPc : ManagerPc}
    {pool poolAfter : Pool} {pc after : DestructorPc}
    (move : DestructorMove impl managerPc pool pc poolAfter after) :
    poolAfter.busyThreads = pool.busyThreads ∧ poolAfter.liveThreads = pool.liveThreads ∧
      poolAfter.threadWorkGroup = pool.threadWorkGroup ∧
      poolAfter.exitThreads = pool.exitThreads := by
  cases move <;> exact ⟨rfl, rfl, rfl, rfl⟩

theorem manager_move_counters {cfg : Config} {created spawned : Nat} {pool poolAfter : Pool}
    {pc after : ManagerPc} (move : ManagerMove cfg created pool pc poolAfter spawned after) :
    poolAfter.busyThreads = pool.busyThreads ∧
      Grown pool.threadWorkGroup pool.liveThreads created
        (poolAfter.threadWorkGroup, poolAfter.liveThreads, created + spawned) := by
  cases move with
  | grows wanted =>
      have grown := grow_loop_grown cfg pool.threadWorkGroup pool.liveThreads 0 created
      refine ⟨rfl, ?_⟩
      rw [Nat.add_sub_cancel' grown.later]
      exact grown
  | _ => exact ⟨rfl, grown_unchanged _ _ _⟩

/-! ## The invariant -/

theorem accounts_constructed (cfg : Config) : Accounts cfg (constructed cfg) where
  busy := by simp [constructed, List.countP_replicate, isBusy]
  live := by simp [constructed, List.countP_replicate, isLive]
  slots := by
    have started : ((List.range cfg.minThreads).map some).countP Option.isSome =
        cfg.minThreads := by
      rw [List.countP_map]
      simp [Function.comp_def]
    simp [constructed, occupiedSlots, List.countP_append, List.countP_replicate, occupiesSlot,
      started]
  size := by
    have := cfg.ordered
    simp only [constructed, List.length_append, List.length_map, List.length_range,
      List.length_replicate]
    omega
  owns := by
    intro id pc found _
    have bound := lookup_bound found
    simp only [constructed, List.length_replicate] at bound
    simp [constructed, bound]

theorem accounts_same {cfg : Config} {state after : State} (accounts : Accounts cfg state)
    (busy : after.pool.busyThreads = state.pool.busyThreads)
    (live : after.pool.liveThreads = state.pool.liveThreads)
    (slots : after.pool.threadWorkGroup = state.pool.threadWorkGroup)
    (workers : after.workers = state.workers) : Accounts cfg after := by
  constructor <;> simp only [occupiedSlots, busy, live, slots, workers]
  · exact accounts.busy
  · exact accounts.live
  · exact accounts.slots
  · exact accounts.size
  · exact accounts.owns

theorem accounts_worker {impl : Implementation} {cfg : Config} {state : State}
    {id : Nat} {pc after : WorkerPc} {pool : Pool} (accounts : Accounts cfg state)
    (at_pc : state.workers[id]? = some pc) (move : WorkerMove impl id state.pool pc pool after) :
    Accounts cfg { state with pool := pool, workers := state.workers.set id after } := by
  have moved : ∀ p : WorkerPc → Bool, (state.workers.set id after).countP p + indicator (p pc) =
      state.workers.countP p + indicator (p after) := fun p => countP_move p at_pc
  constructor
  · have := worker_move_busy move
    have := moved isBusy
    have := accounts.busy
    dsimp only
    omega
  · have := worker_move_live move
    have := moved isLive
    have := accounts.live
    dsimp only
    omega
  · have count := moved occupiesSlot
    have slots := accounts.slots
    rcases worker_move_slots move with ⟨same, before, later⟩ | ⟨released, before, later⟩
    · simp only [before, later, indicator_true] at count
      simp only [occupiedSlots, same] at slots ⊢
      omega
    · have one := release_slot_count id _ (accounts.owns id pc at_pc before)
      simp only [before, later, indicator_true, indicator_false] at count
      simp only [occupiedSlots, released] at slots ⊢
      omega
  · rcases worker_move_slots move with ⟨same, _, _⟩ | ⟨released, _, _⟩
    · simp only [same, accounts.size]
    · simp only [released, release_slot_length, accounts.size]
  · intro other seen found occupies
    rcases worker_move_slots move with ⟨same, before, _⟩ | ⟨released, before, later⟩
    · simp only [same]
      rcases lookup_move found with ⟨rfl, rfl⟩ | ⟨_, old⟩
      · exact accounts.owns other pc at_pc before
      · exact accounts.owns other seen old occupies
    · simp only [released]
      rcases lookup_move found with ⟨rfl, rfl⟩ | ⟨different, old⟩
      · rw [later] at occupies
        cases occupies
      · exact release_slot_keeps id other _ different (accounts.owns other seen old occupies)

theorem accounts_manager {cfg : Config} {state : State} {spawned : Nat} {pool : Pool}
    {after : ManagerPc} (accounts : Accounts cfg state)
    (move : ManagerMove cfg state.workers.length state.pool state.manager pool spawned after) :
    Accounts cfg
      { state with
        pool := pool
        workers := state.workers ++ List.replicate spawned .lockQueue
        manager := after } := by
  obtain ⟨busy, grown⟩ := manager_move_counters move
  have moved := fun p => countP_spawn p state.workers spawned WorkerPc.lockQueue
  constructor
  · have := moved isBusy
    have := accounts.busy
    simp only [isBusy, indicator_false] at *
    omega
  · have := moved isLive
    have := accounts.live
    have := grown.live
    simp only [isLive, indicator_true] at *
    omega
  · have := moved occupiesSlot
    have := accounts.slots
    have := grown.count
    simp only [occupiesSlot, occupiedSlots, indicator_true] at *
    omega
  · exact grown.length.trans accounts.size
  · intro other seen found occupies
    rcases lookup_spawn found with old | ⟨lower, upper, rfl⟩
    · obtain ⟨index, value⟩ :=
        List.mem_iff_getElem?.mp (accounts.owns other seen old occupies)
      exact List.mem_of_getElem? (grown.kept index other value)
    · exact grown.fresh other lower upper

theorem accounts_move {impl : Implementation} {cfg : Config} {state after : State}
    {action : Action} (accounts : Accounts cfg state) (moved : Move impl cfg state action after) :
    Accounts cfg after := by
  cases moved with
  | call null => exact accounts_same accounts rfl rfl rfl rfl
  | producer at_pc move =>
      obtain ⟨busy, live, slots, _⟩ := producer_move_counters move
      exact accounts_same accounts busy live slots rfl
  | worker at_pc move => exact accounts_worker accounts at_pc move
  | manager move => exact accounts_manager accounts move
  | destructor move =>
      obtain ⟨busy, live, slots, _⟩ := destructor_move_counters move
      exact accounts_same accounts busy live slots rfl

theorem accounts_reachable {impl : Implementation} {cfg : Config} {state : State}
    (reached : Reachable (step impl cfg) (constructed cfg) state) : Accounts cfg state :=
  reachable_invariant (Accounts cfg) (accounts_constructed cfg)
    (fun _ _ _ accounts moved => accounts_move accounts (move_of_step moved).2) reached

end BackendComponents.ThreadPool.Accounting
