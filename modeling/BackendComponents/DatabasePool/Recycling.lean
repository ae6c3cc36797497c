import BackendComponents.DatabasePool.Lifecycle

/-!
# What the recycler removes

Connections are queued with the time of their return, so the queue is in the order of these
times, and the loop of the recycler is a sweep over a queue with its oldest entries in
front. That is so until the recycler reads an entry that it has popped.
-/

namespace BackendComponents.DatabasePool.Recycling

open BackendComponents.Lib.Paths
open BackendComponents.Lib.Sweeping
open BackendComponents.DatabasePool.Model
open BackendComponents.DatabasePool.Moves
open BackendComponents.DatabasePool.Sweeping

set_option autoImplicit false

def InOrder (queue : List Entry) : Prop := Sorted Entry.lastUse queue

/-- The recycler has removed the entries it should from the front, deleted them once each and
left the others alone. -/
structure RecyclesExactly (cfg : Config) (pool after : Pool) : Prop where
  queue : after.connQueue = pool.connQueue.drop (excessIn cfg pool)
  destroyed : after.destroyed =
    pool.destroyed ++ (pool.connQueue.take (excessIn cfg pool)).map Entry.conn
  size : after.currentSize = pool.currentSize - excessIn cfg pool

/-! ## One run -/

theorem exact_deleted (cfg : Config) (pool : Pool) :
    RecyclesExactly cfg pool (deleted (pool.connQueue.take (excessIn cfg pool),
      pool.connQueue.drop (excessIn cfg pool)) pool) := by
  constructor
  · rfl
  · rfl
  · have few : excessIn cfg pool ≤ pool.connQueue.length := excess_le
    unfold deleted
    dsimp only
    rw [List.length_take, Nat.min_eq_left few]

theorem recycles_intact (cfg : Config) {pool : Pool} (ordered : InOrder pool.connQueue) :
    RecyclesExactly cfg pool (recycleIdleConnections cfg [] pool) := by
  have oldFirst : OldFirst (idleTooLong cfg pool.clock) pool.connQueue :=
    idle_first (by decide) ordered
  rw [recycle_eq, sweep_intact oldFirst]
  exact exact_deleted cfg pool

/-- Whatever a popped entry reads as, the recycler is exact if and only if it reads none. -/
theorem recycles_exactly_iff (cfg : Config) (pool : Pool) :
    (∀ reads, RecyclesExactly cfg pool (recycleIdleConnections cfg reads pool)) ↔
      pushesBack cfg pool = false := by
  constructor
  · intro exactly
    apply kept_of_sweep
    intro reads
    have left := (exactly reads).queue
    rw [recycle_eq] at left
    exact left
  · intro kept reads
    rw [recycle_kept reads kept]
    exact exact_deleted cfg pool

/-! ## The order of the queue -/

/-- The queue is in order, and no connection has been used after the present. -/
def Ordered (pool : Pool) : Prop := Timely Entry.lastUse pool.clock pool.connQueue

theorem ordered_create (factory : Factory) (count : Nat) {pool : Pool} (ordered : Ordered pool) :
    Ordered (createConnections factory count pool).1 := by
  induction count generalizing pool with
  | zero => exact ordered
  | succ count ih =>
      unfold createConnections
      split
      · exact ih (timely_enqueue ordered rfl)
      · exact ordered

theorem ordered_expand (cfg : Config) (factory : Factory) {pool : Pool} (ordered : Ordered pool) :
    Ordered (expandWhenEmpty cfg factory pool).1 := by
  unfold expandWhenEmpty
  split
  · unfold expandConnections
    dsimp only
    split
    · exact ordered
    · exact ordered_create factory _ ordered
  · exact ordered

theorem ordered_take {pool : Pool} {otherwise : Pool × Caller} (ordered : Ordered pool)
    (other : Ordered otherwise.1) : Ordered (takeFront pool otherwise).1 := by
  unfold takeFront
  split
  · exact other
  · next entry rest queue =>
      apply timely_sublist ordered
      rw [queue]
      exact List.sublist_cons_self entry rest

theorem ordered_get (cfg : Config) (factory : Factory) (id : Nat) {pool : Pool}
    (ordered : Ordered pool) : Ordered (getConnection cfg factory id pool).1 := by
  have expanded := ordered_expand cfg factory ordered
  unfold getConnection
  split
  · exact ordered
  · dsimp only
    split
    · exact ordered_take expanded expanded
    · exact expanded

theorem ordered_wait (timedOut : Bool) {pool : Pool} (ordered : Ordered pool) :
    Ordered (afterWait timedOut pool).1 := by
  unfold afterWait
  split
  · exact ordered
  · exact ordered_take ordered ordered

theorem ordered_return {conn : Conn} {waiter : Nat} {valid : Bool} {pool after : Pool}
    (given : returnConnection conn waiter valid pool = some after) (ordered : Ordered pool) :
    Ordered after := by
  cases valid with
  | true =>
      obtain ⟨waiting, _, rfl⟩ := Option.map_eq_some_iff.mp given
      exact timely_enqueue ordered rfl
  | false =>
      obtain rfl := Option.some.inj given
      exact ordered

theorem ordered_recycle {cfg : Config} {pool : Pool} (reads : List Entry)
    (kept : pushesBack cfg pool = false) (ordered : Ordered pool) :
    Ordered (recycleIdleConnections cfg reads pool) := by
  rw [recycle_kept reads kept]
  exact timely_sublist ordered (List.drop_sublist _ _)

theorem ordered_caller {cfg : Config} {factory : Factory} {pool after : Pool} {action : Action}
    {caller callerAfter : Caller}
    (move : CallerMove cfg factory pool action caller after callerAfter)
    (ordered : Ordered pool) : Ordered after := by
  cases move with
  | call id => exact ordered_get cfg factory id ordered
  | resume id timedOut => exact ordered_wait timedOut ordered
  | push => exact timely_enqueue ordered rfl
  | wake | drop | release | discard => exact ordered

theorem ordered_step {cfg : Config} {factory : Factory} {state after : State} {action : Action}
    (taken : step cfg factory state action = some after)
    (live : readsLive cfg state action = true) (ordered : Ordered state.pool) :
    Ordered after.pool := by
  cases move_of_step taken with
  | arrive => exact ordered
  | recycle reads =>
      have kept : pushesBack cfg state.pool = false := by simpa [readsLive] using live
      exact ordered_recycle reads kept ordered
  | wait ticks => exact timely_later ordered ticks
  | caller action id caller moved acts found stepped =>
      exact ordered_caller (caller_move_of_step stepped) ordered

theorem ordered_visited (cfg : Config) (factory : Factory) (clock : Int)
    {trail : List (State × Action)} {last : State}
    (path : Path (step cfg factory) (initialised cfg factory clock) trail last)
    (live : ∀ taken ∈ trail, readsLive cfg taken.1 taken.2 = true) :
    ∀ state ∈ visited trail last, Ordered state.pool := by
  apply path_invariant_of_good (fun state => Ordered state.pool)
    (fun state action => readsLive cfg state action = true) _ _ path live
  · exact ordered_create factory _ (timely_nil _ _)
  · intro state action after ordered alive taken
    exact ordered_step taken alive ordered

theorem ordered_borrow (cfg : Config) (factory : Factory) {pool : Pool} (ordered : Ordered pool) :
    Ordered (Lifecycle.borrow cfg factory pool).1 := by
  have got := ordered_get cfg factory 0 ordered
  unfold Lifecycle.borrow
  split
  · next blocked waits =>
      rw [waits] at got
      exact ordered_wait true got
  · exact got

theorem ordered_call {factory : Factory} {service after : Lifecycle.Service}
    {call : Lifecycle.Call} (taken : Lifecycle.step factory service call = some after)
    (live : Lifecycle.readsLive service call = true) (ordered : Ordered service.pool) :
    Ordered after.pool := by
  cases call with
  | init sizes =>
      obtain rfl := Option.some.inj taken
      exact ordered_create factory _ ordered
  | getConnection =>
      obtain rfl := Option.some.inj taken
      exact ordered_borrow service.cfg factory ordered
  | release guard valid =>
      dsimp only [Lifecycle.step] at taken
      split at taken
      · obtain ⟨pool, given, rfl⟩ := Option.map_eq_some_iff.mp taken
        exact ordered_return given ordered
      · obtain rfl := Option.some.inj taken
        exact ordered
      · cases taken
  | recycle reads =>
      obtain rfl := Option.some.inj taken
      have kept : pushesBack service.cfg service.pool = false := by
        simpa [Lifecycle.readsLive] using live
      exact ordered_recycle reads kept ordered
  | wait ticks =>
      obtain rfl := Option.some.inj taken
      exact timely_later ordered ticks
  | shutdown =>
      obtain rfl := Option.some.inj taken
      exact timely_nil _ _

theorem ordered_service (factory : Factory) (hardware : Nat) (clock : Int)
    {trail : List (Lifecycle.Service × Lifecycle.Call)} {last : Lifecycle.Service}
    (path : Path (Lifecycle.step factory) (Lifecycle.constructed hardware clock) trail last)
    (live : ∀ taken ∈ trail, Lifecycle.readsLive taken.1 taken.2 = true) :
    ∀ service ∈ visited trail last, Ordered service.pool := by
  apply path_invariant_of_good (fun service => Ordered service.pool)
    (fun service call => Lifecycle.readsLive service call = true) _ _ path live
  · exact timely_nil _ _
  · intro service call after ordered alive taken
    exact ordered_call taken alive ordered

end BackendComponents.DatabasePool.Recycling
