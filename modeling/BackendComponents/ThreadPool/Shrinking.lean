import BackendComponents.ThreadPool.Bounds
import BackendComponents.ThreadPool.Wakeups

/-!
# An idle pool returns to its minimum

The manager gives out exit credits and notifies as many workers, and goes on without waiting
for them. When no task is queued and each round begins only after the workers of the last one
have left, the credits, the notifications and the woken workers match one for one, so every
round removes `m_op_num` workers or what is above the minimum.
-/

namespace BackendComponents.ThreadPool.Shrinking

open BackendComponents.Lib.Paths
open BackendComponents.Lib.Threads
open BackendComponents.ThreadPool.Model
open BackendComponents.ThreadPool.Moves
open BackendComponents.ThreadPool.Accounting
open BackendComponents.ThreadPool.Wakeups
open BackendComponents.ThreadPool.Bounds

set_option autoImplicit false

def AllAsleep (state : State) : Prop := ∀ id ∈ liveWorkers state, id ∈ state.pool.empty

instance (state : State) : Decidable (AllAsleep state) :=
  inferInstanceAs (Decidable (∀ _ ∈ _, _))

def beginsRound (state : State) (action : Action) : Bool :=
  isManager action && decide (state.manager = .testShutdown)

/-- A step of a worker or of the manager, who begins a round only when all live workers
sleep. -/
def Unhurried (state : State) : Action → Prop
  | .worker _ _ => True
  | .manager _ => state.manager = .testShutdown → AllAsleep state
  | _ => False

instance (state : State) : (action : Action) → Decidable (Unhurried state action)
  | .worker _ _ => inferInstanceAs (Decidable True)
  | .manager _ => inferInstanceAs (Decidable (_ → _))
  | .submit _ | .producer _ _ | .destructor => inferInstanceAs (Decidable False)

/-- The workers left of `live` after so many rounds. -/
def remaining (cfg : Config) (live : Int) (rounds : Nat) : Int :=
  max (min live cfg.minThreads) (live - rounds * cfg.opNum)

theorem remaining_zero (cfg : Config) (live : Int) : remaining cfg live 0 = live := by
  unfold remaining
  rw [Int.natCast_zero, Int.zero_mul, Int.sub_zero]
  omega

theorem remaining_grants {cfg : Config} (positive : 1 ≤ cfg.opNum) {live : Int} {rounds : Nat}
    (room : cfg.minThreads < remaining cfg live rounds) :
    remaining cfg live (rounds + 1) =
      remaining cfg live rounds - canExit cfg (remaining cfg live rounds) := by
  have more : ((rounds + 1 : Nat) : Int) * cfg.opNum = rounds * cfg.opNum + cfg.opNum := by
    rw [Int.natCast_succ, Int.add_mul, Int.one_mul]
  have spent : 0 ≤ (rounds : Int) * cfg.opNum :=
    Int.mul_nonneg (Int.natCast_nonneg rounds) (by omega)
  unfold canExit
  unfold remaining at room ⊢
  rw [more]
  omega

theorem remaining_stays {cfg : Config} (positive : 1 ≤ cfg.opNum) {live : Int} {rounds : Nat}
    (least : ¬(cfg.minThreads : Int) < remaining cfg live rounds) :
    remaining cfg live (rounds + 1) = remaining cfg live rounds := by
  have more : ((rounds + 1 : Nat) : Int) * cfg.opNum = rounds * cfg.opNum + cfg.opNum := by
    rw [Int.natCast_succ, Int.add_mul, Int.one_mul]
  have spent : 0 ≤ (rounds : Int) * cfg.opNum :=
    Int.mul_nonneg (Int.natCast_nonneg rounds) (by omega)
  unfold remaining at least ⊢
  rw [more]
  omega

/-! ## Workers without work -/

/-- Blocked, or on the way out. -/
def workless : WorkerPc → Bool
  | .waiting | .testExit | .takeExit | .unlockExit | .threadExit | .exited => true
  | _ => false

def isWaiting : WorkerPc → Bool
  | .waiting => true
  | _ => false

/-- The live workers that were woken and have not taken a credit yet. -/
def awake (pool : Pool) : Int := pool.liveThreads - pool.empty.length

theorem worker_move_workless {impl : Implementation} {id : Nat} {pool poolAfter : Pool}
    {pc after : WorkerPc} (move : WorkerMove impl id pool pc poolAfter after)
    (idle : workless pc = true) (credit : pc = .testExit → 0 < pool.exitThreads) :
    workless after = true ∧ poolAfter.empty = pool.empty ∧ poolAfter.taskQ = pool.taskQ ∧
      ((poolAfter.liveThreads = pool.liveThreads ∧ poolAfter.exitThreads = pool.exitThreads) ∨
        (poolAfter.liveThreads = pool.liveThreads - 1 ∧
          poolAfter.exitThreads = pool.exitThreads - 1 ∧ isLive pc = true ∧
            isWaiting pc = false)) := by
  cases move with
  | takesCredit => exact ⟨rfl, rfl, rfl, .inr ⟨rfl, rfl, rfl, rfl⟩⟩
  | spendsCredit => exact ⟨rfl, rfl, rfl, .inr ⟨rfl, rfl, rfl, rfl⟩⟩
  | resumes => exact ⟨rfl, rfl, rfl, .inl ⟨rfl, rfl⟩⟩
  | seesCredit => exact ⟨rfl, rfl, rfl, .inl ⟨rfl, rfl⟩⟩
  | noCredit none_left => exact absurd (credit rfl) none_left
  | unlocksExit => exact ⟨rfl, rfl, rfl, .inl ⟨rfl, rfl⟩⟩
  | releases => exact ⟨rfl, rfl, rfl, .inl ⟨rfl, rfl⟩⟩
  | _ => cases idle

theorem asleep_le_waiting {state : State} (blocked : Blocked state) :
    state.pool.empty.length ≤ state.workers.countP isWaiting :=
  places_le_countP blocked.distinct fun id member => ⟨.waiting, blocked.waits id member, rfl⟩

theorem awake_of_outside {cfg : Config} {state : State} (accounts : Accounts cfg state)
    (blocked : Blocked state) {id : Nat} {pc : WorkerPc} (at_pc : state.workers[id]? = some pc)
    (live : isLive pc = true) (outside : isWaiting pc = false) : 0 < awake state.pool := by
  have split := countP_split isLive isWaiting (fun seen => isLive seen && !isWaiting seen)
    state.workers fun seen => by cases seen <;> rfl
  have counted : 0 < state.workers.countP fun seen => isLive seen && !isWaiting seen :=
    List.countP_pos_iff.mpr ⟨pc, List.mem_of_getElem? at_pc, by rw [live, outside]; rfl⟩
  have asleep := asleep_le_waiting blocked
  have all := accounts.live
  unfold awake
  omega

theorem awake_nonneg {cfg : Config} {state : State} (accounts : Accounts cfg state)
    (blocked : Blocked state) : 0 ≤ awake state.pool := by
  have waiting : state.workers.countP isWaiting ≤ state.workers.countP isLive :=
    List.countP_mono_left fun pc _ waits => by cases pc <;> first | rfl | cases waits
  have asleep := asleep_le_waiting blocked
  have all := accounts.live
  unfold awake
  omega

theorem awake_none {cfg : Config} {state : State} (accounts : Accounts cfg state)
    (blocked : Blocked state) (asleep : AllAsleep state) : awake state.pool = 0 := by
  have all : state.workers.countP isLive ≤ state.pool.empty.length :=
    countP_le_places fun id pc found live => asleep id (mem_live_workers.mpr ⟨pc, found, live⟩)
  have least := awake_nonneg accounts blocked
  have counted := accounts.live
  unfold awake at least ⊢
  omega

theorem busy_has_work {pc : WorkerPc} (busy : isBusy pc = true) : workless pc = false := by
  cases pc <;> first | rfl | cases busy

theorem nobody_busy {cfg : Config} {state : State} (accounts : Accounts cfg state)
    (workless_all : ∀ pc ∈ state.workers, workless pc = true) : state.pool.busyThreads = 0 := by
  have none_busy : state.workers.countP isBusy = 0 := by
    apply List.countP_eq_zero.mpr
    intro pc member busy
    have idle := workless_all pc member
    rw [busy_has_work busy] at idle
    cases idle
  rw [accounts.busy, none_busy]
  rfl

/-! ## Rounds -/

/-- Where the manager stands after the beginning of so many rounds. -/
def InRound (cfg : Config) (live : Int) (rounds : Nat) (pool : Pool) : ManagerPc → Prop
  | .testShutdown =>
      pool.liveThreads = remaining cfg live rounds + awake pool ∧
        (0 < awake pool → awake pool ≤ pool.exitThreads)
  | .notify count =>
      pool.liveThreads = remaining cfg live rounds + awake pool + count ∧
        awake pool + count ≤ pool.exitThreads ∧ count ≤ pool.empty.length
  | .readQueue => awake pool = 0 ∧ 0 < rounds ∧ pool.liveThreads = remaining cfg live (rounds - 1)
  | .readCounters qsize =>
      awake pool = 0 ∧ 0 < rounds ∧ pool.liveThreads = remaining cfg live (rounds - 1) ∧ qsize = 0
  | .grow qsize liveNum busyNum | .shrink qsize liveNum busyNum =>
      awake pool = 0 ∧ 0 < rounds ∧ pool.liveThreads = remaining cfg live (rounds - 1) ∧
        qsize = 0 ∧ liveNum = pool.liveThreads ∧ busyNum = 0
  | .done => False

/-- The pool without work, in the course of its rounds. -/
structure Idle (cfg : Config) (live : Int) (rounds : Nat) (state : State) : Prop where
  accounts : Accounts cfg state
  blocked : Blocked state
  running : state.pool.isShutdown = false
  nothing : state.pool.taskQ = []
  workers : ∀ pc ∈ state.workers, workless pc = true
  round : InRound cfg live rounds state.pool state.manager

theorem credit_of_awake {cfg : Config} {live : Int} {rounds : Nat} {state : State}
    (idle : Idle cfg live rounds state) (up : 0 < awake state.pool) :
    awake state.pool ≤ state.pool.exitThreads := by
  have round := idle.round
  cases at_pc : state.manager with
  | testShutdown =>
      rw [at_pc] at round
      exact round.2 up
  | notify count =>
      rw [at_pc] at round
      have enough := round.2.1
      omega
  | done =>
      rw [at_pc] at round
      exact round.elim
  | _ =>
      rw [at_pc] at round
      have none_awake := round.1
      omega

theorem in_round_same {cfg : Config} {live : Int} {rounds : Nat} {pool poolAfter : Pool}
    {pc : ManagerPc} (round : InRound cfg live rounds pool pc)
    (alive : poolAfter.liveThreads = pool.liveThreads)
    (credits : poolAfter.exitThreads = pool.exitThreads)
    (asleep : poolAfter.empty = pool.empty) : InRound cfg live rounds poolAfter pc := by
  cases pc with
  | done => exact round.elim
  | _ => simpa only [InRound, awake, alive, credits, asleep] using round

theorem in_round_leaves {cfg : Config} {live : Int} {rounds : Nat} {pool poolAfter : Pool}
    {pc : ManagerPc} (round : InRound cfg live rounds pool pc) (up : 0 < awake pool)
    (alive : poolAfter.liveThreads = pool.liveThreads - 1)
    (credits : poolAfter.exitThreads = pool.exitThreads - 1)
    (asleep : poolAfter.empty = pool.empty) : InRound cfg live rounds poolAfter pc := by
  have fewer : awake poolAfter = awake pool - 1 := by
    unfold awake
    rw [alive, asleep]
    omega
  cases pc with
  | testShutdown =>
      obtain ⟨counted, matched⟩ := round
      have enough := matched up
      simp only [InRound, fewer, alive, credits]
      omega
  | notify count =>
      obtain ⟨counted, enough, left⟩ := round
      simp only [InRound, fewer, alive, credits, asleep]
      omega
  | done => exact round.elim
  | _ => exact absurd round.1 (by omega)

theorem idle_worker {impl : Implementation} {cfg : Config} {live : Int} {rounds : Nat}
    {state : State} {id : Nat} (pick : Nat) {pc after : WorkerPc} {pool : Pool}
    (idle : Idle cfg live rounds state) (at_pc : state.workers[id]? = some pc)
    (move : WorkerMove impl id state.pool pc pool after) :
    Idle cfg live rounds { state with pool := pool, workers := state.workers.set id after } := by
  have whole : Move impl cfg state (.worker id pick) _ := .worker at_pc move
  have up : isLive pc = true → isWaiting pc = false → 0 < awake state.pool :=
    awake_of_outside idle.accounts idle.blocked at_pc
  have credit : pc = .testExit → 0 < state.pool.exitThreads := by
    rintro rfl
    have someone := up rfl rfl
    have enough := credit_of_awake idle someone
    omega
  obtain ⟨still, asleep, queue, counters⟩ :=
    worker_move_workless move (idle.workers pc (List.mem_of_getElem? at_pc)) credit
  exact
    { accounts := accounts_move idle.accounts whole
      blocked := blocked_move idle.blocked whole
      running := (worker_move_flag move).trans idle.running
      nothing := queue.trans idle.nothing
      workers := by
        intro seen member
        rcases List.mem_or_eq_of_mem_set member with old | rfl
        · exact idle.workers seen old
        · exact still
      round := by
        rcases counters with ⟨alive, credits⟩ | ⟨alive, credits, lives, outside⟩
        · exact in_round_same idle.round alive credits asleep
        · exact in_round_leaves idle.round (up lives outside) alive credits asleep }

/-- What a manager's step does in an idle pool; it begins a round when all live workers
sleep. -/
theorem in_round_manager {cfg : Config} (positive : 1 ≤ cfg.opNum) {live : Int}
    {rounds created spawned : Nat} {pool poolAfter : Pool} {pc after : ManagerPc}
    (round : InRound cfg live rounds pool pc) (running : pool.isShutdown = false)
    (nothing : pool.taskQ = []) (quiet : pool.busyThreads = 0)
    (asleep : pc = .testShutdown → awake pool = 0)
    (move : ManagerMove cfg created pool pc poolAfter spawned after) :
    spawned = 0 ∧
      InRound cfg live (rounds + if pc = .testShutdown then 1 else 0) poolAfter after := by
  cases move with
  | stops shut =>
      rw [running] at shut
      cases shut
  | cycles =>
      have none_awake := asleep rfl
      refine ⟨rfl, none_awake, Nat.succ_pos rounds, ?_⟩
      have counted := round.1
      rw [if_pos rfl, Nat.add_sub_cancel]
      omega
  | readsQueue =>
      refine ⟨rfl, round.1, round.2.1, round.2.2, ?_⟩
      rw [nothing]
      rfl
  | readsCounters =>
      obtain ⟨none_awake, begun, counted, empty⟩ := round
      exact ⟨rfl, none_awake, begun, counted, empty, rfl, quiet⟩
  | grows wanted =>
      -- the manager has read an empty queue
      obtain ⟨none_awake, _, _, empty, lives, _⟩ := round
      unfold awake at none_awake
      omega
  | keepsSize => exact ⟨rfl, round⟩
  | grants idle =>
      obtain ⟨none_awake, begun, counted, _, lives, _⟩ := round
      obtain ⟨earlier, rfl⟩ : ∃ earlier, rounds = earlier + 1 := ⟨rounds - 1, by omega⟩
      rw [Nat.add_sub_cancel] at counted
      have room : cfg.minThreads < remaining cfg live earlier := by omega
      have taken := remaining_grants positive room
      rw [lives, counted]
      have some_go : 0 < canExit cfg (remaining cfg live earlier) := by
        unfold canExit
        omega
      have few : canExit cfg (remaining cfg live earlier) ≤ remaining cfg live earlier := by
        unfold canExit
        omega
      unfold awake at none_awake
      refine ⟨rfl, ?_⟩
      simp only [InRound, awake, reduceCtorEq, if_false, Nat.add_zero]
      omega
  | grantsNothing busy =>
      obtain ⟨none_awake, begun, counted, empty, lives, idle⟩ := round
      obtain ⟨earlier, rfl⟩ : ∃ earlier, rounds = earlier + 1 := ⟨rounds - 1, by omega⟩
      rw [Nat.add_sub_cancel] at counted
      have enough : ¬(cfg.minThreads : Int) < remaining cfg live earlier := by
        rw [← counted, ← lives]
        exact fun room => busy ⟨.inr ⟨empty, idle⟩, room⟩
      have kept := remaining_stays positive enough
      refine ⟨rfl, ?_⟩
      simp only [InRound, reduceCtorEq, if_false, Nat.add_zero]
      omega
  | notifies notified =>
      obtain ⟨counted, enough, left⟩ := round
      rcases notify_one_cases notified with ⟨nobody, _⟩ | ⟨member, rfl⟩
      · rw [nobody] at left
        cases left
      · have fewer := List.length_erase_of_mem member
        have present := List.length_pos_of_mem member
        unfold awake at counted enough
        refine ⟨rfl, ?_⟩
        simp only [InRound, awake, fewer, reduceCtorEq, if_false, Nat.add_zero]
        omega
  | notifiedAll =>
      obtain ⟨counted, enough, _⟩ := round
      refine ⟨rfl, ?_⟩
      simp only [InRound, reduceCtorEq, if_false, Nat.add_zero]
      omega

theorem idle_manager (impl : Implementation) {cfg : Config} (positive : 1 ≤ cfg.opNum)
    {live : Int} {rounds : Nat} {state : State} {pick spawned : Nat} {pool : Pool}
    {after : ManagerPc} (idle : Idle cfg live rounds state)
    (unhurried : Unhurried state (.manager pick))
    (move : ManagerMove cfg state.workers.length state.pool state.manager pool spawned after) :
    Idle cfg live (rounds + if beginsRound state (.manager pick) then 1 else 0)
      { state with
        pool := pool
        workers := state.workers ++ List.replicate spawned .lockQueue
        manager := after } := by
  have whole : Move impl cfg state (.manager pick) _ := .manager move
  have round := in_round_manager positive idle.round idle.running idle.nothing
    (nobody_busy idle.accounts idle.workers)
    (fun begins => awake_none idle.accounts idle.blocked (unhurried begins)) move
  have counted : (if beginsRound state (.manager pick) then 1 else 0) =
      if state.manager = .testShutdown then 1 else 0 := by
    simp [beginsRound, isManager]
  rw [counted]
  exact
    { accounts := accounts_move idle.accounts whole
      blocked := blocked_move idle.blocked whole
      running := (manager_move_flag move).trans idle.running
      nothing := (manager_move_empty move).1.trans idle.nothing
      workers := by
        rw [round.1, List.replicate_zero, List.append_nil]
        exact idle.workers
      round := round.2 }

theorem idle_step {impl : Implementation} {cfg : Config} (positive : 1 ≤ cfg.opNum) {live : Int}
    {rounds : Nat} {state after : State} {action : Action} (idle : Idle cfg live rounds state)
    (unhurried : Unhurried state action) (moved : Move impl cfg state action after) :
    Idle cfg live (rounds + if beginsRound state action then 1 else 0) after := by
  cases moved with
  | worker at_pc move => exact idle_worker 0 idle at_pc move
  | manager move => exact idle_manager impl positive idle unhurried move
  | _ => exact unhurried.elim

theorem blocked_reachable {impl : Implementation} {cfg : Config} {state : State}
    (reached : Reachable (step impl cfg) (constructed cfg) state) : Blocked state :=
  reachable_invariant Blocked (blocked_constructed cfg)
    (fun _ _ _ blocked taken => blocked_move blocked (move_of_step taken).2) reached

/-- Nothing is queued and every live worker sleeps, between two rounds of the manager. -/
structure AtRest (state : State) : Prop where
  running : state.pool.isShutdown = false
  nothing : state.pool.taskQ = []
  asleep : AllAsleep state
  between : state.manager = .testShutdown

theorem idle_at_rest {impl : Implementation} {cfg : Config} {state : State}
    (reached : Reachable (step impl cfg) (constructed cfg) state) (rest : AtRest state) :
    Idle cfg state.pool.liveThreads 0 state := by
  have accounts := accounts_reachable reached
  have blocked := blocked_reachable reached
  have none_awake := awake_none accounts blocked rest.asleep
  refine ⟨accounts, blocked, rest.running, rest.nothing, ?_, ?_⟩
  · intro pc member
    obtain ⟨id, found⟩ := List.mem_iff_getElem?.mp member
    cases live : isLive pc with
    | true =>
        have waits := blocked.waits id (rest.asleep id (mem_live_workers.mpr ⟨pc, found, live⟩))
        rw [found] at waits
        rw [Option.some.inj waits]
        rfl
    | false => cases pc <;> first | rfl | cases live
  · rw [rest.between]
    refine ⟨?_, fun up => absurd up (by omega)⟩
    rw [remaining_zero]
    omega

def rounds (trail : List (State × Action)) : Nat :=
  trail.countP fun taken => beginsRound taken.1 taken.2

instance (state : State) : Decidable (AtRest state) :=
  decidable_of_iff (state.pool.isShutdown = false ∧ state.pool.taskQ = [] ∧ AllAsleep state ∧
      state.manager = .testShutdown)
    ⟨fun all => ⟨all.1, all.2.1, all.2.2.1, all.2.2.2⟩,
      fun rest => ⟨rest.running, rest.nothing, rest.asleep, rest.between⟩⟩

/-- Both workers have run a task and sleep; the manager has ended its round before. -/
def workDone : List Action :=
  growSchedule ++ List.replicate 2 (.worker 0 0) ++ List.replicate 2 (.worker 1 0)

/-- One round; worker 0 starts on its way out before the manager is through. -/
def oneRound : List Action :=
  List.replicate 6 (.manager 0) ++ [.worker 0 0, .worker 0 0, .manager 0] ++
    List.replicate 3 (.worker 0 0)

end BackendComponents.ThreadPool.Shrinking
