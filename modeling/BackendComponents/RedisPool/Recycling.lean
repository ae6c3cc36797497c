import BackendComponents.RedisPool.Lifecycle

/-!
# What the recycler of the Redis pool removes

The queue is in the order of the last uses. The test of `recycled` behind the loop is about
the statistics only.
-/

namespace BackendComponents.RedisPool.Recycling

open BackendComponents.Lib.Paths
open BackendComponents.Lib.Sweeping
open BackendComponents.RedisPool.Model
open BackendComponents.RedisPool.Moves
open BackendComponents.RedisPool.Sweeping
open BackendComponents.RedisPool.Accounting (readsLive)

set_option autoImplicit false

def InOrder (queue : List Entry) : Prop := Sorted Entry.lastUse queue

/-- The recycler has removed the entries it should from the front, deleted them once each and
left the others alone. -/
structure RecyclesExactly (minSize maxIdleTime : Int) (pool after : Pool) : Prop where
  queue : after.connQueue = pool.connQueue.drop (excessIn minSize maxIdleTime pool)
  destroyed : after.destroyed =
    pool.destroyed ++ (pool.connQueue.take (excessIn minSize maxIdleTime pool)).map Entry.conn
  size : after.currentSize = pool.currentSize - excessIn minSize maxIdleTime pool

/-! ## One run -/

section Exactly

variable (minSize maxIdleTime : Int)

theorem exact_of_sweep {pool : Pool} {reads : List Entry}
    (swept : sweep (idleTooLong maxIdleTime pool.clock) reads pool.connQueue.length
      ((pool.connQueue.length : Int) - minSize).toNat pool.connQueue =
        (pool.connQueue.take (excessIn minSize maxIdleTime pool),
          pool.connQueue.drop (excessIn minSize maxIdleTime pool))) :
    RecyclesExactly minSize maxIdleTime pool
      (recycleIdleConnections minSize maxIdleTime reads pool) := by
  have size := (recycled minSize maxIdleTime reads pool).size
  rw [recycle_eq, swept] at size ⊢
  dsimp only at size ⊢
  split
  · next none =>
      rw [if_pos none] at size
      exact ⟨rfl, rfl, size⟩
  · next some =>
      rw [if_neg some] at size
      exact ⟨rfl, rfl, size⟩

theorem recycles_intact {pool : Pool} (ordered : InOrder pool.connQueue) :
    RecyclesExactly minSize maxIdleTime pool
      (recycleIdleConnections minSize maxIdleTime [] pool) := by
  have oldFirst : OldFirst (idleTooLong maxIdleTime pool.clock) pool.connQueue :=
    idle_first (by decide) ordered
  exact exact_of_sweep minSize maxIdleTime (sweep_intact oldFirst)

theorem recycles_kept {pool : Pool} (reads : List Entry)
    (kept : pushesBack minSize maxIdleTime pool = false) :
    RecyclesExactly minSize maxIdleTime pool
      (recycleIdleConnections minSize maxIdleTime reads pool) :=
  exact_of_sweep minSize maxIdleTime (sweep_kept reads kept)

/-- Whatever a popped entry reads as, the recycler is exact if and only if it reads none. -/
theorem recycles_exactly_iff (pool : Pool) :
    (∀ reads, RecyclesExactly minSize maxIdleTime pool
        (recycleIdleConnections minSize maxIdleTime reads pool)) ↔
      pushesBack minSize maxIdleTime pool = false := by
  constructor
  · intro exactly
    apply kept_of_sweep
    intro reads
    have left := (exactly reads).queue
    rw [recycle_eq] at left
    dsimp only at left
    split at left
    · exact left
    · exact left
  · exact fun kept reads => recycles_kept minSize maxIdleTime reads kept

end Exactly

/-! ## The order of the queue -/

/-- The queue is in order, and no connection has been used after the present. -/
def Ordered (pool : Pool) : Prop := Timely Entry.lastUse pool.clock pool.connQueue

theorem ordered_create (succeeds : Bool) {pool : Pool} (ordered : Ordered pool) :
    Ordered (createConnection succeeds pool) := by
  cases succeeds with
  | true => exact timely_enqueue ordered rfl
  | false => exact ordered

theorem ordered_recycle {minSize maxIdleTime : Int} {pool : Pool} (reads : List Entry)
    (kept : pushesBack minSize maxIdleTime pool = false) (ordered : Ordered pool) :
    Ordered (recycleIdleConnections minSize maxIdleTime reads pool) := by
  have left := recycles_kept minSize maxIdleTime reads kept
  unfold Ordered
  rw [(recycled minSize maxIdleTime reads pool).clock, left.queue]
  exact timely_sublist ordered (List.drop_sublist _ _)

theorem ordered_get {cfg : Config} {id : Nat} {pool after : Pool} {pc pcAfter : GetPc}
    {answer : Answer} (move : GetMove cfg id pool pc answer after pcAfter)
    (ordered : Ordered pool) : Ordered after := by
  cases move with
  | create succeeds waiter left => exact ordered_create succeeds ordered
  | take entry rest queue =>
      apply timely_sublist ordered
      rw [queue]
      exact List.sublist_cons_self entry rest
  | _ => exact ordered

theorem ordered_return {cfg : Config} {id : Nat} {pool after : Pool} {pc pcAfter : ReturnPc}
    {answer : Answer} (move : ReturnMove cfg id pool pc answer after pcAfter)
    (ordered : Ordered pool) : Ordered after := by
  cases move with
  | push => exact timely_enqueue ordered rfl
  | replenishNull => exact ordered_create false ordered
  | replenish => exact ordered_create true ordered
  | _ => exact ordered

theorem ordered_caller {cfg : Config} {id : Nat} {pool after : Pool} {answer : Answer}
    {caller callerAfter : Caller} (move : CallerMove cfg id pool answer caller after callerAfter)
    (ordered : Ordered pool) : Ordered after := by
  cases move with
  | get move => exact ordered_get move ordered
  | giveBack move => exact ordered_return move ordered

theorem ordered_step {cfg : Config} {state after : State} {action : Action}
    (taken : step cfg state action = some after) (live : readsLive cfg state action = true)
    (ordered : Ordered state.pool) : Ordered after.pool := by
  cases move_of_step taken with
  | call | release => exact ordered
  | caller id answer caller moved found stepped =>
      exact ordered_caller (caller_move_of_step stepped) ordered
  | recycle reads =>
      have kept : pushesBack cfg.minSize cfg.maxIdleTime state.pool = false := by
        simpa [readsLive] using live
      exact ordered_recycle reads kept ordered
  | wait ticks => exact timely_later ordered ticks

theorem ordered_source (answers : List Bool) {pool : Pool} (ordered : Ordered pool) :
    Ordered (answers.foldl (fun made succeeds => createConnection succeeds made) pool) := by
  induction answers generalizing pool with
  | nil => exact ordered
  | cons answer rest ih => exact ih (ordered_create answer ordered)

theorem ordered_visited (cfg : Config) (clock : Int) (answers : List Bool) (threads : Nat)
    {trail : List (State × Action)} {last : State}
    (path : Path (step cfg) (launched clock answers threads) trail last)
    (live : ∀ taken ∈ trail, readsLive cfg taken.1 taken.2 = true) :
    ∀ state ∈ visited trail last, Ordered state.pool := by
  apply path_invariant_of_good (fun state => Ordered state.pool)
    (fun state action => readsLive cfg state action = true) _ _ path live
  · exact ordered_source answers (timely_nil _ _)
  · intro state action after ordered alive taken
    exact ordered_step taken alive ordered

theorem ordered_creations (factory : Lifecycle.Factory) (count : Nat) {pool : Pool}
    (ordered : Ordered pool) : Ordered (Lifecycle.createConnections factory count pool) := by
  induction count generalizing pool with
  | zero => exact ordered
  | succ count ih => exact ih (ordered_create _ ordered)

theorem ordered_expand (settings : Lifecycle.Settings) (factory : Lifecycle.Factory) {pool : Pool}
    (ordered : Ordered pool) : Ordered (Lifecycle.expandWhenEmpty settings factory pool) := by
  unfold Lifecycle.expandWhenEmpty
  split
  · unfold Lifecycle.expandConnections
    dsimp only
    split
    · exact ordered
    · exact ordered_creations factory _ ordered
  · exact ordered

theorem ordered_borrow (settings : Lifecycle.Settings) (factory : Lifecycle.Factory)
    (timedOut : Bool) (ms : Nat) {pool : Pool} (ordered : Ordered pool) :
    Ordered (Lifecycle.getConnection settings factory timedOut ms pool).1 := by
  have expanded := ordered_expand settings factory ordered
  unfold Lifecycle.getConnection
  split
  · exact ordered
  · dsimp only
    split
    · cases timedOut <;> exact expanded
    · next entry rest queue =>
        apply timely_sublist expanded
        rw [queue]
        exact List.sublist_cons_self entry rest

theorem ordered_give_back (settings : Lifecycle.Settings) (factory : Lifecycle.Factory)
    (conn : Conn) (status : HealthStatus) {pool : Pool} (ordered : Ordered pool) :
    Ordered (Lifecycle.returnConnection settings factory conn status pool) := by
  unfold Lifecycle.returnConnection
  split
  · exact timely_enqueue ordered rfl
  · have given : Ordered (Lifecycle.giveUp conn pool) := ordered
    show Ordered (Lifecycle.replenish settings factory (Lifecycle.giveUp conn pool))
    unfold Lifecycle.replenish
    split
    · exact ordered_create _ given
    · exact given

theorem ordered_call {factory : Lifecycle.Factory} {service after : Lifecycle.Service}
    {call : Lifecycle.Call} (taken : Lifecycle.step factory service call = some after)
    (live : Lifecycle.readsLive service call = true) (ordered : Ordered service.pool) :
    Ordered after.pool := by
  cases call with
  | init sizes =>
      obtain rfl := Option.some.inj taken
      exact ordered_creations factory _ ordered
  | getConnection timedOut ms =>
      obtain rfl := Option.some.inj taken
      exact ordered_borrow service.settings factory timedOut ms ordered
  | release guard status =>
      dsimp only [Lifecycle.step] at taken
      split at taken
      · next conn found =>
          obtain rfl := Option.some.inj taken
          exact ordered_give_back service.settings factory conn status ordered
      · obtain rfl := Option.some.inj taken
        exact ordered
      · cases taken
  | recycle reads =>
      obtain rfl := Option.some.inj taken
      have kept : pushesBack service.settings.minSize service.settings.maxIdleTime service.pool =
          false := by simpa [Lifecycle.readsLive] using live
      exact ordered_recycle reads kept ordered
  | wait ticks =>
      obtain rfl := Option.some.inj taken
      exact timely_later ordered ticks
  | shutdown =>
      obtain rfl := Option.some.inj taken
      exact timely_nil _ _

theorem ordered_service (factory : Lifecycle.Factory) (hardware : Nat) (clock : Int)
    {trail : List (Lifecycle.Service × Lifecycle.Call)} {last : Lifecycle.Service}
    (path : Path (Lifecycle.step factory) (Lifecycle.constructed hardware clock) trail last)
    (live : ∀ taken ∈ trail, Lifecycle.readsLive taken.1 taken.2 = true) :
    ∀ service ∈ visited trail last, Ordered service.pool := by
  apply path_invariant_of_good (fun service => Ordered service.pool)
    (fun service call => Lifecycle.readsLive service call = true) _ _ path live
  · exact timely_nil _ _
  · intro service call after ordered alive taken
    exact ordered_call taken alive ordered

end BackendComponents.RedisPool.Recycling
