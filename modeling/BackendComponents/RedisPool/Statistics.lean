import BackendComponents.Lib.Histories
import BackendComponents.RedisPool.Exhaustion
import BackendComponents.RedisPool.Recycling

/-!
# What the statistics of the Redis pool say

`total_connections` is written where connections are made in bulk or recycled and not
where a single one is given up or replaced, and `total_created` counts the attempts. The
other figures are right whenever no operation is in progress.
-/

namespace BackendComponents.RedisPool.Statistics

open BackendComponents.Lib.Paths
open BackendComponents.Lib.Threads
open BackendComponents.Lib.Histories
open BackendComponents.Lib.Sweeping
open BackendComponents.RedisPool.Model
open BackendComponents.RedisPool.Moves
open BackendComponents.RedisPool.Sweeping
open BackendComponents.RedisPool.Accounting
open BackendComponents.RedisPool.Exhaustion
open BackendComponents.RedisPool.Recycling

set_option autoImplicit false

/-- The figures of a state in which no operation is in progress. -/
structure Truthful (state : State) : Prop where
  active : state.pool.stats.activeConnections = borrowed state
  idle : state.pool.stats.idleConnections = state.pool.connQueue.length
  total : state.pool.stats.totalConnections =
    state.pool.stats.activeConnections + state.pool.stats.idleConnections
  moved : state.pool.stats.totalBorrowed - state.pool.stats.totalReleased =
    state.pool.stats.activeConnections
  made : state.pool.stats.totalCreated - state.pool.stats.totalDestroyed = existing state

def StatisticsLaw : Prop :=
  ∀ (cfg : Config) (clock : Int) (answers : List Bool) (threads : Nat) (state : State),
    (answers.length : Int) = cfg.minSize →
      Reachable (step cfg) (launched clock answers threads) state → quiet state = true →
        Truthful state

/-- How many more connections have been made than deleted since `total_connections` was
last written, which an expansion does at its end, and the recycler if it deletes any. -/
def sinceTotals (cfg : Config) (since : Int) (state : State) : Action → Int
  | .caller id _ => match state.callers[id]? with
      | some (.getting (.expanding 0)) => 0
      | some (.getting (.expanding _)) | some (.returning .replenish) => since + 1
      | some (.returning (.store _)) => since - 1
      | _ => since
  | .recycle _ => if excessIn cfg.minSize cfg.maxIdleTime state.pool = 0 then since else 0
  | .call _ | .release _ | .wait _ => since

/-- What has been made and deleted since `total_connections` was last written. -/
def unrecorded (cfg : Config) (trail : List (State × Action)) : Int :=
  recollect (sinceTotals cfg) 0 trail

/-! ## The steps of a caller -/

/-- Counted in `active_connections`; the connections of the last two are deleted already. -/
def counted : Caller → Bool
  | .holding _ => true
  | .returning (.check _) | .returning (.push _) | .returning (.destroy _) => true
  | .returning (.store _) | .returning .lock => true
  | _ => false

/-- The queue has changed, and `idle_connections` is written later. -/
def stale : Caller → Bool
  | .getting (.expanding _) | .returning .finish => true
  | _ => false

/-- What a step of a caller does to the figures. -/
structure Entered (pool : Pool) (caller : Caller) (after : Pool) (moved : Caller) : Prop where
  active : after.stats.activeConnections + indicator (counted caller) =
    pool.stats.activeConnections + indicator (counted moved)
  lent : after.stats.totalBorrowed - after.stats.totalReleased - after.stats.activeConnections =
    pool.stats.totalBorrowed - pool.stats.totalReleased - pool.stats.activeConnections
  made : after.stats.totalCreated - after.stats.totalDestroyed - after.currentSize =
    pool.stats.totalCreated - pool.stats.totalDestroyed - pool.currentSize
  idle : (stale caller = false → pool.stats.idleConnections = pool.connQueue.length) →
    stale moved = false → after.stats.idleConnections = after.connQueue.length

section Same

variable {pool after : Pool} {caller moved : Caller}
  (active : after.stats.activeConnections = pool.stats.activeConnections)
  (given : after.stats.totalBorrowed = pool.stats.totalBorrowed)
  (taken : after.stats.totalReleased = pool.stats.totalReleased)
  (made : after.stats.totalCreated - after.stats.totalDestroyed - after.currentSize =
    pool.stats.totalCreated - pool.stats.totalDestroyed - pool.currentSize)

include active given taken made

theorem entered_inside (same : counted moved = counted caller)
    (idle : (stale caller = false → pool.stats.idleConnections = pool.connQueue.length) →
      stale moved = false → after.stats.idleConnections = after.connQueue.length) :
    Entered pool caller after moved := by
  constructor
  · rw [active, same]
  · rw [active, given, taken]
  · exact made
  · exact idle

theorem entered_later (same : counted moved = counted caller) (later : stale moved = true) :
    Entered pool caller after moved := by
  apply entered_inside active given taken made same
  intro _ fresh
  rw [later] at fresh
  cases fresh

end Same

theorem entered_plain {pool after : Pool} {caller moved : Caller}
    (stats : { after.stats with
      totalTimeoutErrors := 0, pendingWaiters := 0, avgWaitTimeMs := 0, maxWaitTimeMs := 0 } =
        { pool.stats with
          totalTimeoutErrors := 0, pendingWaiters := 0, avgWaitTimeMs := 0, maxWaitTimeMs := 0 })
    (queue : after.connQueue = pool.connQueue) (size : after.currentSize = pool.currentSize)
    (same : counted moved = counted caller) (fresh : stale caller = false) :
    Entered pool caller after moved := by
  injection stats with active idle _ given taken created destroyed
  apply entered_inside active given taken _ same
  · intro before _
    rw [idle, queue]
    exact before fresh
  · rw [created, destroyed, size]

theorem create_stats (succeeds : Bool) (pool : Pool) :
    (createConnection succeeds pool).stats =
      { pool.stats with totalCreated := pool.stats.totalCreated + 1 } := by
  cases succeeds <;> rfl

theorem create_made (succeeds : Bool) (pool : Pool) :
    (createConnection succeeds pool).stats.totalCreated -
        (createConnection succeeds pool).stats.totalDestroyed -
          (createConnection succeeds pool).currentSize =
      pool.stats.totalCreated - pool.stats.totalDestroyed - pool.currentSize := by
  rw [create_stats, create_size]
  dsimp only
  omega

theorem entered_create {succeeds : Bool} {pool : Pool} {caller moved : Caller}
    (same : counted moved = counted caller) (later : stale moved = true) :
    Entered pool caller (createConnection succeeds pool) moved := by
  apply entered_later _ _ _ (create_made succeeds pool) same later
  · rw [create_stats]
  · rw [create_stats]
  · rw [create_stats]

theorem get_entered {cfg : Config} {id : Nat} {pool after : Pool} {pc moved : GetPc}
    {answer : Answer} (move : GetMove cfg id pool pc answer after moved) :
    Entered pool (.getting pc) after (afterGet moved) := by
  cases move with
  | expand empty below creates => exact entered_later rfl rfl rfl rfl rfl rfl
  | create succeeds waiter left => exact entered_create rfl rfl
  | expanded => exact entered_inside rfl rfl rfl rfl rfl fun _ _ => rfl
  | take entry rest queue =>
      constructor
      · dsimp only [afterGet, counted]
        rw [indicator_true, indicator_false]
        omega
      · dsimp only
        omega
      · rfl
      · exact fun _ _ => rfl
  | _ => exact entered_plain rfl rfl rfl rfl rfl

theorem return_entered {cfg : Config} {id : Nat} {pool after : Pool} {pc moved : ReturnPc}
    {answer : Answer} (fits : ∀ read, pc = .store read → answer = .go ∧ read = pool.currentSize)
    (move : ReturnMove cfg id pool pc answer after moved) :
    Entered pool (.returning pc) after (afterReturn moved) := by
  cases move with
  | push conn waiter waiting free notified =>
      constructor
      · dsimp only [recordIdle, afterReturn, counted]
        rw [indicator_true, indicator_false]
        omega
      · dsimp only [recordIdle]
        omega
      · rfl
      · exact fun _ _ => rfl
  | store read =>
      obtain ⟨_, rfl⟩ := fits read rfl
      have made : (storeSize pool.currentSize pool).stats.totalCreated -
          (storeSize pool.currentSize pool).stats.totalDestroyed -
            (storeSize pool.currentSize pool).currentSize =
          pool.stats.totalCreated - pool.stats.totalDestroyed - pool.currentSize := by
        dsimp only [storeSize, recordDestroyed]
        omega
      exact entered_inside rfl rfl rfl made rfl fun before _ => before rfl
  | overwritten read => cases (fits read rfl).1
  | lock free =>
      constructor
      · dsimp only [afterReturn, counted]
        rw [indicator_true, indicator_false]
        omega
      · dsimp only
        omega
      · rfl
      · exact fun before _ => before rfl
  | enough full => exact entered_later rfl rfl rfl rfl rfl rfl
  | replenishNull waiter => exact entered_create rfl rfl
  | replenish waiter waiting notified =>
      have made : Entered pool (.returning .replenish) (createConnection true pool)
        (.returning .finish) := entered_create rfl rfl
      exact ⟨made.active, made.lent, made.made, made.idle⟩
  | finish => exact entered_inside rfl rfl rfl rfl rfl fun _ _ => rfl
  | healthy | unhealthy | destroy | below => exact entered_plain rfl rfl rfl rfl rfl

theorem caller_entered {cfg : Config} {id : Nat} {pool after : Pool} {caller moved : Caller}
    {answer : Answer}
    (fits : ∀ read, caller = .returning (.store read) → answer = .go ∧ read = pool.currentSize)
    (move : CallerMove cfg id pool answer caller after moved) :
    Entered pool caller after moved := by
  cases move with
  | get move => exact get_entered move
  | giveBack move => exact return_entered (fun read same => fits read (congrArg _ same)) move

/-! ## Every state -/

/-- The figures against the callers, in every run without a lost write. -/
structure Booked (state : State) : Prop where
  active : state.pool.stats.activeConnections = state.callers.countP counted
  lent : state.pool.stats.totalBorrowed - state.pool.stats.totalReleased =
    state.pool.stats.activeConnections
  made : state.pool.stats.totalCreated - state.pool.stats.totalDestroyed = state.pool.currentSize
  idle : (∀ (id : Nat) (caller : Caller), state.callers[id]? = some caller →
    stale caller = false) → state.pool.stats.idleConnections = state.pool.connQueue.length

theorem booked_caller {state : State} (booked : Booked state) {id : Nat} {caller : Caller}
    (found : state.callers[id]? = some caller) {moved : Pool × Caller}
    (entered : Entered state.pool caller moved.1 moved.2) :
    Booked (moveCaller state id moved) := by
  have counts : (state.callers.set id moved.2).countP counted + indicator (counted caller) =
      state.callers.countP counted + indicator (counted moved.2) := countP_move counted found
  have active := booked.active
  have lent := booked.lent
  have made := booked.made
  have activeAfter := entered.active
  have lentAfter := entered.lent
  have madeAfter := entered.made
  constructor
  · dsimp only [moveCaller]
    omega
  · dsimp only [moveCaller]
    omega
  · dsimp only [moveCaller]
    omega
  · intro fresh
    apply entered.idle
    · intro freshCaller
      apply booked.idle
      intro other seen present
      by_cases same : other = id
      · rw [same, found] at present
        rw [← Option.some.inj present]
        exact freshCaller
      · exact fresh other seen ((lookup_move_other same).trans present)
    · exact fresh id moved.2 (lookup_move_self found)

theorem booked_recycle {cfg : Config} {state : State} (reads : List Entry)
    (booked : Booked state) :
    Booked { state with
      pool := recycleIdleConnections cfg.minSize cfg.maxIdleTime reads state.pool } := by
  have made := booked.made
  have gone := removed_length (idleTooLong cfg.maxIdleTime state.pool.clock) cfg.minSize
    state.pool.connQueue reads
  have left := sweep_length (idleTooLong cfg.maxIdleTime state.pool.clock) reads
    state.pool.connQueue.length ((state.pool.connQueue.length : Int) - cfg.minSize).toNat
      state.pool.connQueue
  rw [recycle_eq]
  dsimp only
  split
  · next none =>
      unfold excessIn at none
      constructor
      · exact booked.active
      · exact booked.lent
      · dsimp only [deleted]
        omega
      · intro fresh
        have idle := booked.idle fresh
        dsimp only [deleted]
        omega
  · constructor
    · exact booked.active
    · exact booked.lent
    · dsimp only [recordSizes, deleted]
      omega
    · exact fun _ => rfl

theorem booked_move {cfg : Config} {state after : State} {action : Action} (booked : Booked state)
    (fits : storesFit state action = true) (move : Move cfg state action after) :
    Booked after := by
  cases move with
  | call id found => exact booked_caller booked found (entered_plain rfl rfl rfl rfl rfl)
  | release id conn found => exact booked_caller booked found (entered_plain rfl rfl rfl rfl rfl)
  | caller id answer caller moved found stepped =>
      exact booked_caller booked found
        (caller_entered (store_fits fits found) (caller_move_of_step stepped))
  | recycle reads _ => exact booked_recycle reads booked
  | wait ticks => exact ⟨booked.active, booked.lent, booked.made, booked.idle⟩

theorem source_stats (answers : List Bool) (pool : Pool) :
    (answers.foldl (fun made succeeds => createConnection succeeds made) pool).stats =
      { pool.stats with totalCreated := pool.stats.totalCreated + answers.length } := by
  induction answers generalizing pool with
  | nil =>
      rw [List.length_nil, Int.natCast_zero, Int.add_zero]
      rfl
  | cons succeeds rest ih =>
      rw [List.foldl_cons, ih, create_stats, List.length_cons]
      dsimp only
      congr 1
      push_cast
      omega

theorem booked_launched (clock : Int) (answers : List Bool) (threads : Nat) :
    Booked (launched clock answers threads) := by
  have idlers : (List.replicate threads Caller.idle).countP counted = 0 := by
    apply List.countP_eq_zero.mpr
    intro caller member
    rw [List.eq_of_mem_replicate member]
    exact Bool.false_ne_true
  have size : (launched clock answers threads).pool.currentSize = 0 + answers.length :=
    (source_sizes answers _).2.1
  constructor
  · dsimp only [launched, initialised, sourceConnections, recordSizes]
    rw [source_stats, idlers]
    rfl
  · dsimp only [launched, initialised, sourceConnections, recordSizes]
    rw [source_stats]
    rfl
  · rw [size]
    dsimp only [launched, initialised, sourceConnections, recordSizes]
    rw [source_stats]
    dsimp only
    omega
  · exact fun _ => rfl

theorem booked_path {cfg : Config} {clock : Int} {answers : List Bool} {threads : Nat}
    {trail : List (State × Action)} {last : State}
    (path : Path (step cfg) (launched clock answers threads) trail last)
    (fits : ∀ taken ∈ trail, storesFit taken.1 taken.2 = true) : Booked last :=
  path_invariant_of_good Booked (fun state action => storesFit state action = true)
    (booked_launched clock answers threads)
    (fun _ _ _ booked fits taken => booked_move booked fits (move_of_step taken)) path fits
    last (by simp [visited])

/-! ## `total_connections` -/

/-- How far `total_connections` is behind. -/
def lag (pool : Pool) : Int := pool.currentSize - pool.stats.totalConnections

theorem create_lag (succeeds : Bool) (pool : Pool) :
    lag (createConnection succeeds pool) = lag pool + 1 := by
  unfold lag
  rw [create_stats, create_size]
  dsimp only
  omega

theorem get_lag {cfg : Config} {id : Nat} {state : State} {pool after : Pool} {pc moved : GetPc}
    {answer : Answer} (found : state.callers[id]? = some (.getting pc))
    (move : GetMove cfg id pool pc answer after moved) :
    lag after = sinceTotals cfg (lag pool) state (.caller id answer) := by
  unfold sinceTotals
  dsimp only
  rw [found]
  cases move with
  | create succeeds waiter left => exact create_lag succeeds pool
  | expanded => exact Int.sub_self pool.currentSize
  | _ => rfl

theorem return_lag {cfg : Config} {id : Nat} {state : State} {pool after : Pool}
    {pc moved : ReturnPc} {answer : Answer} (found : state.callers[id]? = some (.returning pc))
    (fits : ∀ read, pc = .store read → answer = .go ∧ read = pool.currentSize)
    (move : ReturnMove cfg id pool pc answer after moved) :
    lag after = sinceTotals cfg (lag pool) state (.caller id answer) := by
  unfold sinceTotals
  dsimp only
  rw [found]
  cases move with
  | store read =>
      obtain ⟨_, rfl⟩ := fits read rfl
      dsimp only [lag, storeSize, recordDestroyed]
      omega
  | overwritten read => cases (fits read rfl).1
  | replenishNull waiter => exact create_lag false pool
  | replenish waiter waiting notified => exact create_lag true pool
  | _ => rfl

theorem caller_lag {cfg : Config} {id : Nat} {state : State} {pool after : Pool}
    {caller moved : Caller} {answer : Answer} (found : state.callers[id]? = some caller)
    (fits : ∀ read, caller = .returning (.store read) → answer = .go ∧ read = pool.currentSize)
    (move : CallerMove cfg id pool answer caller after moved) :
    lag after = sinceTotals cfg (lag pool) state (.caller id answer) := by
  cases move with
  | get move => exact get_lag found move
  | giveBack move => exact return_lag found (fun read same => fits read (congrArg _ same)) move

theorem move_lag {cfg : Config} {state after : State} {action : Action}
    (fits : storesFit state action = true) (move : Move cfg state action after) :
    lag after.pool = sinceTotals cfg (lag state.pool) state action := by
  cases move with
  | call id found => rfl
  | release id conn found => rfl
  | caller id answer caller moved found stepped =>
      exact caller_lag found (store_fits fits found) (caller_move_of_step stepped)
  | recycle reads _ =>
      have gone := removed_length (idleTooLong cfg.maxIdleTime state.pool.clock) cfg.minSize
        state.pool.connQueue reads
      dsimp only [sinceTotals]
      rw [recycle_eq]
      dsimp only
      split
      · next none =>
          unfold excessIn at none
          dsimp only [lag, deleted]
          omega
      · dsimp only [lag, recordSizes]
        omega
  | wait ticks => rfl

theorem lag_unrecorded {cfg : Config} {clock : Int} {answers : List Bool} {threads : Nat}
    {trail : List (State × Action)} {last : State}
    (path : Path (step cfg) (launched clock answers threads) trail last)
    (fits : ∀ taken ∈ trail, storesFit taken.1 taken.2 = true) :
    lag last.pool = unrecorded cfg trail := by
  apply recollect_invariant (fun state since => lag state.pool = since) _ _
    (path_restrict path fits)
  · dsimp only [lag, launched, initialised, sourceConnections, recordSizes]
    omega
  · intro state since action after _ behind taken
    obtain ⟨fits, moved⟩ := restrict_cases taken
    rw [← behind]
    exact move_lag fits (move_of_step moved)

/-! ## Between operations -/

theorem fresh_quiet {state : State} (still : quiet state = true) (id : Nat) (caller : Caller)
    (found : state.callers[id]? = some caller) : stale caller = false := by
  rcases outside_functions still (List.mem_of_getElem? found) with rfl | ⟨conn, rfl⟩
  · rfl
  · rfl

theorem truthful_iff {cfg : Config} {state : State} (accounts : Accounts cfg state)
    (booked : Booked state) (still : quiet state = true) :
    Truthful state ↔ state.pool.failures = 0 ∧ lag state.pool = 0 := by
  have active := booked.active
  have made := booked.made
  have idle := booked.idle (fresh_quiet still)
  have balance := accounts.balance
  have owners : state.callers.countP owns = borrowed state :=
    count_quiet still rfl fun _ => rfl
  rw [count_quiet still rfl fun _ => rfl] at active balance
  unfold outside at balance
  unfold lag
  constructor
  · intro truthful
    have total := truthful.total
    have existence := truthful.made
    unfold existing at existence
    omega
  · rintro ⟨none, recorded⟩
    constructor
    · exact active
    · exact idle
    · omega
    · exact booked.lent
    · unfold existing
      omega

/-- After `init`, in every run in which no write of the size gets lost and whenever no
operation is in progress: the statistics are truthful if and only if no call of the factory
has returned null, and as many connections have been made as deleted since
`total_connections` was last written. -/
theorem truthful_iff_recorded (cfg : Config) (clock : Int) (answers : List Bool) (threads : Nat)
    (count : (answers.length : Int) = cfg.minSize) {trail : List (State × Action)} {last : State}
    (path : Path (step cfg) (launched clock answers threads) trail last)
    (fits : ∀ taken ∈ trail, storesFit taken.1 taken.2 = true) (still : quiet last = true) :
    Truthful last ↔ (∀ succeeds ∈ answers, succeeds = true) ∧
      (∀ taken ∈ trail, fails taken.2 = false) ∧ unrecorded cfg trail = 0 := by
  have accounts := accounts_path count path fits
  have booked := booked_path path fits
  rw [truthful_iff accounts booked still, lag_unrecorded path fits, no_failures_iff path]
  exact and_assoc

/-! ## Runs -/

theorem one_to_one : (0 : Int) ≤ 1 ∧ (1 : Int) ≤ 1 := by decide

def singlePool : Config where
  minSize := 1
  maxSize := 1
  maxIdleTime := 180
  opNum := 1
  ordered := one_to_one

/-- The only connection is borrowed, comes back sick and is replaced. -/
def replacedReturn : List Action :=
  [.call 0, .caller 0 .go, .caller 0 .go, .caller 0 .go, .caller 0 .go, .release 0,
    .caller 0 (.health .unhealthy), .caller 0 .go, .caller 0 .go, .caller 0 .go, .caller 0 .go,
    .caller 0 (.created true 0), .caller 0 .go]

theorem truthful_replaced_return :
    ∃ last, exec (step singlePool) (launched 0 [true] 1) replacedReturn = some last ∧
      Truthful last ∧ last.pool.stats.totalCreated = 2 := by
  obtain ⟨last, executed, checked⟩ := exec_checked (step singlePool) (launched 0 [true] 1)
    replacedReturn (fun last => decide (quiet last = true ∧ last.pool.stats.totalCreated = 2))
    (by decide)
  obtain ⟨still, created⟩ := of_decide_eq_true checked
  refine ⟨last, executed, ?_, created⟩
  exact (truthful_iff_recorded singlePool 0 [true] 1 rfl (path_of_exec executed) (by decide)
    still).mpr (by decide)

/-- A connection comes back sick to a pool without a minimum, and the total stays one. -/
theorem sick_return_leaves_total : ¬StatisticsLaw := by
  intro law
  obtain ⟨last, executed, checked⟩ := exec_checked (step smallPool) (launched 0 [] 1) sickReturn
    (fun last => decide (quiet last = true ∧ last.pool.stats.totalConnections = 1 ∧
      last.pool.stats.activeConnections + last.pool.stats.idleConnections = 0)) (by decide)
  obtain ⟨still, one, none⟩ := of_decide_eq_true checked
  have total := (law smallPool 0 [] 1 last rfl (reachable_of_exec executed) still).total
  rw [one, none] at total
  cases total

end BackendComponents.RedisPool.Statistics
