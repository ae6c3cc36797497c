import BackendComponents.RedisPool.Moves
import BackendComponents.Lib.Sweeping

/-!
# The loop of the recycler

It is a sweep over the queue, and deletes what the sweep removes.
-/

namespace BackendComponents.RedisPool.Sweeping

open BackendComponents.Lib.Sweeping
open BackendComponents.RedisPool.Model

set_option autoImplicit false

instance : Infinite Entry :=
  Infinite.of_injective (fun conn => (⟨conn, 0⟩ : Entry)) fun _ _ same => congrArg Entry.conn same

def idleTooLong (maxIdleTime now : Int) : Entry → Bool :=
  idleFor Entry.lastUse ticksPerSecond maxIdleTime now

section Settings

variable (minSize maxIdleTime : Int)

/-- The recycler pushes an entry through the reference that has become invalid. -/
def pushesBack (pool : Pool) : Bool :=
  putsBack (idleTooLong maxIdleTime pool.clock) minSize pool.connQueue

def excessIn (pool : Pool) : Nat :=
  excess (idleTooLong maxIdleTime pool.clock) minSize pool.connQueue

end Settings

/-- The pool when what a sweep removes has been deleted and what it leaves is queued. -/
def deleted (swept : List Entry × List Entry) (pool : Pool) : Pool :=
  { pool with
    connQueue := swept.2
    destroyed := pool.destroyed ++ swept.1.map Entry.conn
    currentSize := pool.currentSize - swept.1.length
    stats := { pool.stats with
      totalDestroyed := pool.stats.totalDestroyed + swept.1.length } }

theorem deleted_none (queue : List Entry) (pool : Pool) :
    deleted ([], queue) pool = { pool with connQueue := queue } := by
  unfold deleted
  rw [List.map_nil, List.append_nil, List.length_nil, Int.natCast_zero, Int.sub_zero, Int.add_zero]

theorem recycle_loop_eq (maxIdleTime : Int) (reads : List Entry) (count can : Nat) (pool : Pool) :
    recycleLoop maxIdleTime reads count can pool =
      deleted (sweep (idleTooLong maxIdleTime pool.clock) reads count can pool.connQueue) pool := by
  induction count generalizing reads can pool with
  | zero => exact (deleted_none pool.connQueue pool).symm
  | succ count ih =>
      cases can with
      | zero => exact (deleted_none pool.connQueue pool).symm
      | succ can =>
          unfold recycleLoop
          cases queue : pool.connQueue with
          | nil =>
              unfold sweep
              rw [deleted_none]
              dsimp only
              rw [← queue]
          | cons entry rest =>
              unfold sweep
              dsimp only
              by_cases old : maxIdleTime ≤ idleDuration pool.clock entry.lastUse
              · have aged : idleTooLong maxIdleTime pool.clock entry = true :=
                  decide_eq_true old
                rw [if_pos old, if_pos aged, ih]
                unfold deleted destroyConnection storeSize recordDestroyed deleteConnection
                dsimp only
                rw [List.map_cons, List.length_cons, List.append_assoc, List.singleton_append]
                congr 1
                · push_cast
                  omega
                · congr 1
                  push_cast
                  omega
              · have young : ¬idleTooLong maxIdleTime pool.clock entry = true :=
                  fun aged => old (of_decide_eq_true aged)
                rw [if_neg old, if_neg young, ih]
                rfl

variable (minSize maxIdleTime : Int)

theorem recycle_eq (reads : List Entry) (pool : Pool) :
    recycleIdleConnections minSize maxIdleTime reads pool =
      let swept := deleted (sweep (idleTooLong maxIdleTime pool.clock) reads pool.connQueue.length
        ((pool.connQueue.length : Int) - minSize).toNat pool.connQueue) pool
      if excessIn minSize maxIdleTime pool = 0 then swept else recordSizes swept := by
  have lengths := sweep_length (idleTooLong maxIdleTime pool.clock) reads pool.connQueue.length
    ((pool.connQueue.length : Int) - minSize).toNat pool.connQueue
  have removed : (sweep (idleTooLong maxIdleTime pool.clock) reads pool.connQueue.length
      ((pool.connQueue.length : Int) - minSize).toNat pool.connQueue).1.length =
        excessIn minSize maxIdleTime pool := removed_length _ _ _ reads
  unfold recycleIdleConnections
  dsimp only
  split
  · next nothing =>
      have none : excessIn minSize maxIdleTime pool = 0 := by
        unfold excessIn excess
        omega
      rw [if_pos none, Int.toNat_of_nonpos nothing, sweep_none]
      exact (deleted_none pool.connQueue pool).symm
  · rw [recycle_loop_eq]
    have left : (deleted (sweep (idleTooLong maxIdleTime pool.clock) reads pool.connQueue.length
        ((pool.connQueue.length : Int) - minSize).toNat pool.connQueue) pool).connQueue.length =
          pool.connQueue.length - excessIn minSize maxIdleTime pool := by
      unfold deleted
      dsimp only
      omega
    rw [left]
    by_cases none : excessIn minSize maxIdleTime pool = 0
    · rw [if_pos none, if_neg (by omega)]
    · have some : excessIn minSize maxIdleTime pool ≤ pool.connQueue.length := excess_le
      rw [if_neg none, if_pos (by omega)]

/-- What the recycler leaves alone, whatever it reads. -/
structure Recycled (pool after : Pool) (gone : Nat) : Prop where
  size : after.currentSize = pool.currentSize - gone
  queue : after.connQueue.length + gone = pool.connQueue.length
  mutex : after.mutex = pool.mutex
  failures : after.failures = pool.failures
  initialized : after.initialized = pool.initialized
  clock : after.clock = pool.clock

theorem recycled (reads : List Entry) (pool : Pool) :
    Recycled pool (recycleIdleConnections minSize maxIdleTime reads pool)
      (excessIn minSize maxIdleTime pool) := by
  have lengths := sweep_length (idleTooLong maxIdleTime pool.clock) reads pool.connQueue.length
    ((pool.connQueue.length : Int) - minSize).toNat pool.connQueue
  have removed : (sweep (idleTooLong maxIdleTime pool.clock) reads pool.connQueue.length
      ((pool.connQueue.length : Int) - minSize).toNat pool.connQueue).1.length =
        excessIn minSize maxIdleTime pool := removed_length _ _ _ reads
  have swept : Recycled pool (deleted (sweep (idleTooLong maxIdleTime pool.clock) reads
      pool.connQueue.length ((pool.connQueue.length : Int) - minSize).toNat pool.connQueue) pool)
        (excessIn minSize maxIdleTime pool) := by
    rw [← removed]
    refine ⟨rfl, ?_, rfl, rfl, rfl, rfl⟩
    unfold deleted
    dsimp only
    omega
  rw [recycle_eq]
  dsimp only
  split
  · exact swept
  · exact ⟨swept.size, swept.queue, swept.mutex, swept.failures, swept.initialized, swept.clock⟩

end BackendComponents.RedisPool.Sweeping
