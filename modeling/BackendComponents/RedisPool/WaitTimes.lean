import BackendComponents.Lib.Histories
import BackendComponents.RedisPool.Statistics

/-!
# The average wait of the Redis pool

The update takes the old average to be over `total_borrowed` borrows, most of which have not
waited. So the field stays the mean of the recorded waits where the two numbers are equal, or
a wait is nearer to the mean than either of them.
-/

namespace BackendComponents.RedisPool.WaitTimes

open BackendComponents.Lib.Paths
open BackendComponents.Lib.Histories
open BackendComponents.Lib.Sweeping
open BackendComponents.RedisPool.Model
open BackendComponents.RedisPool.Moves
open BackendComponents.RedisPool.Sweeping
open BackendComponents.RedisPool.Recycling
open BackendComponents.RedisPool.Statistics

set_option autoImplicit false

/-- The integer running mean of the waits, the latest of which comes first. -/
def runningMean : List Nat → Int
  | [] => 0
  | wait :: earlier =>
      (runningMean earlier * earlier.length + wait) / ((earlier.length : Int) + 1)

def longest : List Nat → Nat
  | [] => 0
  | wait :: earlier => max wait (longest earlier)

def records (state : State) : Action → Option Nat
  | .caller id (.waited ms) => match state.callers[id]? with
      | some (.getting (.awake timedOut)) =>
          if timedOut = true ∧ state.pool.connQueue = [] then none else some ms
      | _ => none
  | _ => none

def recorded (waits : List Nat) (state : State) (action : Action) : List Nat :=
  (records state action).elim waits fun ms => ms :: waits

/-- The two fields are what the waits recorded so far make of them. -/
structure Averaged (state : State) (waits : List Nat) : Prop where
  average : state.pool.stats.avgWaitTimeMs = runningMean waits
  longest : state.pool.stats.maxWaitTimeMs = longest waits

def WaitLaw : Prop :=
  ∀ (cfg : Config) (clock : Int) (answers : List Bool) (threads : Nat)
    (trail : List (State × Action)) (last : State), (answers.length : Int) = cfg.minSize →
      Path (step cfg) (launched clock answers threads) trail last →
        Averaged last (recollect recorded [] trail)

/-- A wait is recorded over as many borrows as there are waits, or it is so near to the mean
that no division sees the distance. -/
def matched (state : State) (waits : List Nat) (action : Action) : Prop :=
  ∀ ms, records state action = some ms →
    let borrows := max 1 state.pool.stats.totalBorrowed
    let count := (waits.length : Int) + 1
    borrows = count ∨
      -min borrows count ≤ (ms : Int) - runningMean waits ∧
        (ms : Int) - runningMean waits < min borrows count

instance (state : State) (waits : List Nat) (action : Action) :
    Decidable (matched state waits action) :=
  inferInstanceAs (Decidable (∀ ms ∈ records state action, _ ∨ _ ∧ _))

/-! ## One mean -/

theorem mean_eq (mean wait : Int) {count : Int} (positive : 0 < count) :
    (mean * (count - 1) + wait) / count = mean + (wait - mean) / count := by
  have sum : mean * (count - 1) + wait = (wait - mean) + mean * count := by
    rw [Int.mul_sub, Int.mul_one]
    omega
  rw [sum, Int.add_mul_ediv_right _ _ (Int.ne_of_gt positive)]
  exact Int.add_comm _ _

theorem record_average (ms : Nat) (stats : PoolStatistics) :
    (recordWait ms stats).avgWaitTimeMs =
      stats.avgWaitTimeMs + ((ms : Int) - stats.avgWaitTimeMs) / max 1 stats.totalBorrowed := by
  dsimp only [recordWait]
  split
  · next borrowed =>
      rw [Int.max_eq_right (by omega)]
      exact mean_eq _ _ borrowed
  · next none =>
      rw [Int.max_eq_left (by omega), Int.ediv_one]
      omega

theorem running_mean_eq (wait : Nat) (earlier : List Nat) :
    runningMean (wait :: earlier) = runningMean earlier +
      ((wait : Int) - runningMean earlier) / ((earlier.length : Int) + 1) := by
  have positive : 0 < (earlier.length : Int) + 1 := by omega
  have updated := mean_eq (runningMean earlier) wait positive
  rw [Int.add_sub_cancel] at updated
  exact updated

theorem share_near {distance count : Int} (small : -count ≤ distance ∧ distance < count) :
    distance / count = if distance < 0 then -1 else 0 := by
  split
  · next below => exact Int.ediv_eq_neg_one_of_neg_of_le below (by omega)
  · next above => exact Int.ediv_eq_zero_of_lt (Int.not_lt.mp above) small.2

theorem share_matched {distance borrows count : Int}
    (near : borrows = count ∨
      -min borrows count ≤ distance ∧ distance < min borrows count) :
    distance / borrows = distance / count := by
  rcases near with rfl | ⟨least, most⟩
  · rfl
  · have few : -borrows ≤ distance ∧ distance < borrows := by omega
    have small : -count ≤ distance ∧ distance < count := by omega
    rw [share_near few, share_near small]

theorem share_far {distance fewer more : Int} (positive : 0 < fewer) (less : fewer < more)
    (far : fewer * more ≤ distance ∨ distance ≤ -(fewer * more)) :
    distance / fewer ≠ distance / more := by
  intro same
  have more_positive : 0 < more := Int.lt_trans positive less
  obtain ⟨fewer_least, fewer_most⟩ := (Int.ediv_eq_iff_of_pos positive).mp same
  obtain ⟨least, most⟩ := (Int.ediv_eq_iff_of_pos more_positive).mp rfl
  generalize distance / more = share at *
  rcases far with above | below
  · have large : fewer ≤ share := by
      by_contra small
      have step : (share + 1) * more ≤ fewer * more :=
        Int.mul_le_mul_of_nonneg_right (by omega) (Int.le_of_lt more_positive)
      rw [Int.add_mul, Int.one_mul] at step
      omega
    have gap : share * (fewer + 1) ≤ share * more :=
      Int.mul_le_mul_of_nonneg_left (by omega) (by omega)
    rw [Int.mul_add, Int.mul_one] at gap
    omega
  · have small : share ≤ -more := by
      by_contra large
      have step : -more * fewer < share * fewer :=
        Int.mul_lt_mul_of_pos_right (by omega) positive
      rw [Int.neg_mul, Int.mul_comm more fewer] at step
      omega
    have gap : share * more ≤ share * (fewer + 1) :=
      Int.mul_le_mul_of_nonpos_left (by omega) (by omega)
    rw [Int.mul_add, Int.mul_one] at gap
    omega

theorem record_longest (ms : Nat) {stats : PoolStatistics} {waits : List Nat}
    (before : stats.maxWaitTimeMs = longest waits) :
    (recordWait ms stats).maxWaitTimeMs = longest (ms :: waits) := by
  dsimp only [recordWait, longest]
  rw [before]
  split <;> omega

/-! ## The steps -/

/-- What a step does to the two fields. -/
def Times (pool after : Pool) : Option Nat → Prop
  | some ms => after.stats.avgWaitTimeMs = (recordWait ms pool.stats).avgWaitTimeMs ∧
      after.stats.maxWaitTimeMs = (recordWait ms pool.stats).maxWaitTimeMs
  | none => after.stats.avgWaitTimeMs = pool.stats.avgWaitTimeMs ∧
      after.stats.maxWaitTimeMs = pool.stats.maxWaitTimeMs

theorem times_create (succeeds : Bool) (pool : Pool) :
    Times pool (createConnection succeeds pool) none := by
  unfold Times
  rw [create_stats]
  exact ⟨rfl, rfl⟩

theorem times_recycle (minSize maxIdleTime : Int) (reads : List Entry) (pool : Pool) :
    Times pool (recycleIdleConnections minSize maxIdleTime reads pool) none := by
  rw [recycle_eq]
  dsimp only
  split
  · exact ⟨rfl, rfl⟩
  · exact ⟨rfl, rfl⟩

theorem get_times {cfg : Config} {id : Nat} {state : State} {after : Pool} {pc moved : GetPc}
    {answer : Answer} (found : state.callers[id]? = some (.getting pc))
    (move : GetMove cfg id state.pool pc answer after moved) :
    Times state.pool after (records state (.caller id answer)) := by
  unfold records
  cases move with
  | create succeeds waiter left => exact times_create succeeds state.pool
  | timeout ms empty =>
      dsimp only
      rw [found]
      dsimp only
      rw [if_pos ⟨rfl, empty⟩]
      exact ⟨rfl, rfl⟩
  | waited timedOut ms served =>
      dsimp only
      rw [found]
      dsimp only
      rw [if_neg served]
      exact ⟨rfl, rfl⟩
  | _ => exact ⟨rfl, rfl⟩

theorem return_times {cfg : Config} {id : Nat} {state : State} {after : Pool}
    {pc moved : ReturnPc} {answer : Answer}
    (move : ReturnMove cfg id state.pool pc answer after moved) :
    Times state.pool after (records state (.caller id answer)) := by
  unfold records
  cases move with
  | replenishNull waiter => exact times_create false state.pool
  | replenish waiter waiting notified => exact times_create true state.pool
  | _ => exact ⟨rfl, rfl⟩

theorem caller_times {cfg : Config} {id : Nat} {state : State} {after : Pool}
    {caller moved : Caller} {answer : Answer} (found : state.callers[id]? = some caller)
    (move : CallerMove cfg id state.pool answer caller after moved) :
    Times state.pool after (records state (.caller id answer)) := by
  cases move with
  | get move => exact get_times found move
  | giveBack move => exact return_times move

theorem move_times {cfg : Config} {state after : State} {action : Action}
    (move : Move cfg state action after) :
    Times state.pool after.pool (records state action) := by
  cases move with
  | caller id answer caller moved found stepped =>
      exact caller_times found (caller_move_of_step stepped)
  | recycle reads _ => exact times_recycle cfg.minSize cfg.maxIdleTime reads state.pool
  | call | release | wait => exact ⟨rfl, rfl⟩

theorem averaged_other {cfg : Config} {state after : State} {action : Action} {waits : List Nat}
    (averaged : Averaged state waits) (move : Move cfg state action after)
    (nothing : records state action = none) : Averaged after waits := by
  have times := move_times move
  rw [nothing] at times
  exact ⟨times.1.trans averaged.average, times.2.trans averaged.longest⟩

/-- A recorded wait keeps the fields right exactly if its share is the same over both. -/
theorem averaged_wait_iff {cfg : Config} {state after : State} {action : Action}
    {waits : List Nat} {ms : Nat} (averaged : Averaged state waits)
    (move : Move cfg state action after) (wait : records state action = some ms) :
    Averaged after (ms :: waits) ↔
      ((ms : Int) - runningMean waits) / max 1 state.pool.stats.totalBorrowed =
        ((ms : Int) - runningMean waits) / ((waits.length : Int) + 1) := by
  have times := move_times move
  rw [wait] at times
  have average := times.1
  rw [record_average, averaged.average] at average
  constructor
  · intro right
    have mean := average.symm.trans right.average
    exact Int.add_left_cancel (mean.trans (running_mean_eq ms waits))
  · intro same
    constructor
    · rw [average, same]
      exact (running_mean_eq ms waits).symm
    · exact times.2.trans (record_longest ms averaged.longest)

theorem averaged_step {cfg : Config} {state after : State} {action : Action} {waits : List Nat}
    (averaged : Averaged state waits) (near : matched state waits action)
    (move : Move cfg state action after) : Averaged after (recorded waits state action) := by
  unfold recorded
  cases wait : records state action with
  | none => exact averaged_other averaged move wait
  | some ms => exact (averaged_wait_iff averaged move wait).mpr (share_matched (near ms wait))

/-- A wait that is far from the mean, over another number of borrows than of waits, makes the
average wrong. -/
theorem far_wait_not_averaged {cfg : Config} {state after : State} {action : Action}
    {waits : List Nat} {ms : Nat} (averaged : Averaged state waits)
    (move : Move cfg state action after) (wait : records state action = some ms)
    (other : max 1 state.pool.stats.totalBorrowed ≠ (waits.length : Int) + 1)
    (far : max 1 state.pool.stats.totalBorrowed * ((waits.length : Int) + 1) ≤
        (ms : Int) - runningMean waits ∨
      (ms : Int) - runningMean waits ≤
        -(max 1 state.pool.stats.totalBorrowed * ((waits.length : Int) + 1))) :
    ¬Averaged after (recorded waits state action) := by
  unfold recorded
  rw [wait]
  intro right
  have same := (averaged_wait_iff averaged move wait).mp right
  rcases Int.lt_or_gt_of_ne other with less | more
  · exact share_far (by omega) less far same
  · rw [Int.mul_comm] at far
    exact share_far (by omega) more far same.symm

theorem averaged_launched (clock : Int) (answers : List Bool) (threads : Nat) :
    Averaged (launched clock answers threads) [] := by
  constructor
  · dsimp only [launched, initialised, sourceConnections, recordSizes]
    rw [source_stats]
    rfl
  · dsimp only [launched, initialised, sourceConnections, recordSizes]
    rw [source_stats]
    rfl

/-- In every run whose recorded waits are all matched, the two fields are right in every
state. -/
theorem averaged_when_matched (cfg : Config) (clock : Int) (answers : List Bool)
    (threads : Nat) {trail : List (State × Action)} {last : State}
    (path : Path (step cfg) (launched clock answers threads) trail last)
    (near : ∀ taken ∈ chronicle recorded [] trail, matched taken.1.1 taken.1.2 taken.2) :
    ∀ here ∈ visited (chronicle recorded [] trail) (last, recollect recorded [] trail),
      Averaged here.1 here.2 := by
  apply path_invariant_of_good (fun here : State × List Nat => Averaged here.1 here.2)
    (fun here action => matched here.1 here.2 action)
    (averaged_launched clock answers threads) _ (path_chronicle recorded [] path) near
  intro here action after averaged near taken
  obtain ⟨moved, note⟩ := watched_cases taken
  rw [note]
  exact averaged_step averaged near (move_of_step moved)

/-! ## Runs -/

def borrow (id : Nat) : List Action := .call id :: List.replicate 4 (.caller id .go)

def giveBack (id waiter : Nat) : List Action :=
  [.release id, .caller id (.health .healthy), .caller id (.notified waiter)]

/-- Thread 1 waits ten milliseconds for the connection of thread 0 and gets it. -/
def waitForConnection : List Action :=
  .call 1 :: List.replicate 3 (.caller 1 .go) ++ .wait 10000000 :: giveBack 0 1 ++
    [.caller 1 .go, .caller 1 .go, .caller 1 (.waited 10), .caller 1 .go]

theorem averaged_first_wait :
    ∃ last, exec (step singlePool) (launched 0 [true] 2) (borrow 0 ++ waitForConnection) =
        some last ∧
      Averaged last (recollect recorded []
        (trailOf (step singlePool) (launched 0 [true] 2) (borrow 0 ++ waitForConnection))) ∧
      last.pool.stats.avgWaitTimeMs = 10 := by
  obtain ⟨last, executed, checked⟩ := exec_checked (step singlePool) (launched 0 [true] 2)
    (borrow 0 ++ waitForConnection) (fun last => decide (last.pool.stats.avgWaitTimeMs = 10))
    (by decide)
  have right := averaged_when_matched singlePool 0 [true] 2 (path_of_exec executed) (by decide)
  exact ⟨last, executed, right _ (List.mem_append_right _ List.mem_cons_self),
    of_decide_eq_true checked⟩

/-- Two borrows have not waited when the first one does: ten milliseconds count as five. -/
theorem mean_over_borrows : ¬WaitLaw := by
  intro law
  obtain ⟨last, executed, checked⟩ := exec_checked (step singlePool) (launched 0 [true] 2)
    (borrow 0 ++ giveBack 0 0 ++ borrow 0 ++ waitForConnection)
    (fun last => decide (last.pool.stats.avgWaitTimeMs = 5)) (by decide)
  have waits : recollect recorded [] (trailOf (step singlePool) (launched 0 [true] 2)
      (borrow 0 ++ giveBack 0 0 ++ borrow 0 ++ waitForConnection)) = [10] := by decide
  have average := (law singlePool 0 [true] 2 _ last rfl (path_of_exec executed)).average
  rw [of_decide_eq_true checked, waits] at average
  cases average

end BackendComponents.RedisPool.WaitTimes
