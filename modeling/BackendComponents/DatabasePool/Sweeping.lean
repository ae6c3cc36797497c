import BackendComponents.DatabasePool.Moves
import BackendComponents.Lib.Sweeping

/-!
# The loop of the recycler

It is a sweep over the queue, and deletes what the sweep removes.
-/

namespace BackendComponents.DatabasePool.Sweeping

open BackendComponents.Lib.Sweeping
open BackendComponents.DatabasePool.Model

set_option autoImplicit false

instance : Infinite Entry :=
  Infinite.of_injective (fun conn => (⟨conn, 0⟩ : Entry)) fun _ _ same => congrArg Entry.conn same

def idleTooLong (cfg : Config) (now : Int) : Entry → Bool :=
  idleFor Entry.lastUse ticksPerSecond cfg.maxIdleTime now

/-- The recycler pushes an entry through the reference that has become invalid. -/
def pushesBack (cfg : Config) (pool : Pool) : Bool :=
  putsBack (idleTooLong cfg pool.clock) cfg.minSize pool.connQueue

/-- No entry that has been popped is read. -/
def readsLive (cfg : Config) (state : State) : Action → Bool
  | .recycle _ => !pushesBack cfg state.pool
  | _ => true

def excessIn (cfg : Config) (pool : Pool) : Nat :=
  excess (idleTooLong cfg pool.clock) cfg.minSize pool.connQueue

/-- The pool when what a sweep removes has been deleted and what it leaves is queued. -/
def deleted (swept : List Entry × List Entry) (pool : Pool) : Pool :=
  { pool with
    connQueue := swept.2
    destroyed := pool.destroyed ++ swept.1.map Entry.conn
    currentSize := pool.currentSize - swept.1.length }

theorem deleted_none (queue : List Entry) (pool : Pool) :
    deleted ([], queue) pool = { pool with connQueue := queue } := by
  unfold deleted
  rw [List.map_nil, List.append_nil, List.length_nil, Int.natCast_zero, Int.sub_zero]

theorem recycle_loop_eq (cfg : Config) (reads : List Entry) (count can : Nat) (pool : Pool) :
    recycleLoop cfg reads count can pool =
      deleted (sweep (idleTooLong cfg pool.clock) reads count can pool.connQueue) pool := by
  induction count generalizing reads can pool with
  | zero => exact (deleted_none pool.connQueue pool).symm
  | succ count ih =>
      cases can with
      | zero => exact (deleted_none pool.connQueue pool).symm
      | succ can =>
          unfold recycleLoop
          cases queue : pool.connQueue with
          | nil =>
              unfold sweep
              rw [deleted_none]
              dsimp only
              rw [← queue]
          | cons entry rest =>
              unfold sweep
              dsimp only
              by_cases old : cfg.maxIdleTime ≤ idleDuration pool.clock entry.lastUse
              · have aged : idleTooLong cfg pool.clock entry = true := decide_eq_true old
                rw [if_pos old, if_pos aged, ih]
                unfold deleted destroyConnection
                dsimp only
                rw [List.map_cons, List.length_cons, List.append_assoc, List.singleton_append]
                congr 1
                push_cast
                omega
              · have young : ¬idleTooLong cfg pool.clock entry = true :=
                  fun aged => old (of_decide_eq_true aged)
                rw [if_neg old, if_neg young, ih]
                rfl

/-- The whole recycler; with too few in the queue the sweep removes nothing either. -/
theorem recycle_eq (cfg : Config) (reads : List Entry) (pool : Pool) :
    recycleIdleConnections cfg reads pool =
      deleted (sweep (idleTooLong cfg pool.clock) reads pool.connQueue.length
        ((pool.connQueue.length : Int) - cfg.minSize).toNat pool.connQueue) pool := by
  unfold recycleIdleConnections
  dsimp only
  split
  · next nothing =>
      rw [Int.toNat_of_nonpos nothing, sweep_none]
      exact (deleted_none pool.connQueue pool).symm
  · exact recycle_loop_eq cfg reads _ _ pool

theorem recycle_kept {cfg : Config} {pool : Pool} (reads : List Entry)
    (kept : pushesBack cfg pool = false) :
    recycleIdleConnections cfg reads pool =
      deleted (pool.connQueue.take (excessIn cfg pool), pool.connQueue.drop (excessIn cfg pool))
        pool := by
  rw [recycle_eq, sweep_kept reads kept]
  rfl

theorem recycle_initialized (cfg : Config) (reads : List Entry) (pool : Pool) :
    (recycleIdleConnections cfg reads pool).initialized = pool.initialized := by
  rw [recycle_eq]
  rfl

theorem recycle_size (cfg : Config) (reads : List Entry) (pool : Pool) :
    (recycleIdleConnections cfg reads pool).currentSize =
      pool.currentSize - excessIn cfg pool := by
  rw [recycle_eq]
  unfold deleted
  rw [removed_length]
  rfl

end BackendComponents.DatabasePool.Sweeping
