import BackendComponents.DatabasePool.Recycling
import BackendComponents.RedisPool.Recycling

/-!
# Idle recycling in both connection pools

The queue is in order, and the recycler removes what it should, until it comes to an entry
that may stay: it pops the entry and pushes it back through a reference to what it has
popped, and what it reads there can be anything.
-/

namespace BackendComponents.Pools.Recycling

open BackendComponents.Lib.Paths

set_option autoImplicit false

/-- Every queue of the database pool is in order, and the recycler is exact on it. -/
def DatabaseLaw : Prop :=
  ∀ (cfg : DatabasePool.Model.Config) (factory : Nat → Bool) (clock : Int)
    (state : DatabasePool.Model.State) (reads : List DatabasePool.Model.Entry),
    Reachable (DatabasePool.Model.step cfg factory)
        (DatabasePool.Model.initialised cfg factory clock) state →
      DatabasePool.Recycling.InOrder state.pool.connQueue ∧
        DatabasePool.Recycling.RecyclesExactly cfg state.pool
          (DatabasePool.Model.recycleIdleConnections cfg reads state.pool)

/-- The same of the Redis pool. -/
def RedisLaw : Prop :=
  ∀ (cfg : RedisPool.Model.Config) (clock : Int) (answers : List Bool) (threads : Nat)
    (state : RedisPool.Model.State) (reads : List RedisPool.Model.Entry),
    Reachable (RedisPool.Model.step cfg) (RedisPool.Model.launched clock answers threads) state →
      RedisPool.Recycling.InOrder state.pool.connQueue ∧
        RedisPool.Recycling.RecyclesExactly cfg.minSize cfg.maxIdleTime state.pool
          (RedisPool.Model.recycleIdleConnections cfg.minSize cfg.maxIdleTime reads state.pool)

/-- In the database pool: the order of the queue in every history without a read of a popped
entry, and when the recycler is exact, whatever it reads. -/
structure DatabaseRecycling (factory : Nat → Bool) (hardware : Nat) (clock : Int) : Prop where
  calls : ∀ trail last, Path (DatabasePool.Lifecycle.step factory)
      (DatabasePool.Lifecycle.constructed hardware clock) trail last →
    (∀ taken ∈ trail, DatabasePool.Lifecycle.readsLive taken.1 taken.2 = true) →
      ∀ service ∈ visited trail last, DatabasePool.Recycling.InOrder service.pool.connQueue
  threads : ∀ cfg trail last, Path (DatabasePool.Model.step cfg factory)
      (DatabasePool.Model.initialised cfg factory clock) trail last →
    (∀ taken ∈ trail, DatabasePool.Sweeping.readsLive cfg taken.1 taken.2 = true) →
      ∀ state ∈ visited trail last, DatabasePool.Recycling.InOrder state.pool.connQueue
  exactly : ∀ cfg pool,
    (∀ reads, DatabasePool.Recycling.RecyclesExactly cfg pool
        (DatabasePool.Model.recycleIdleConnections cfg reads pool)) ↔
      DatabasePool.Sweeping.pushesBack cfg pool = false
  intact : ∀ cfg pool, DatabasePool.Recycling.InOrder pool.connQueue →
    DatabasePool.Recycling.RecyclesExactly cfg pool
      (DatabasePool.Model.recycleIdleConnections cfg [] pool)

/-- The same in the Redis pool. -/
structure RedisRecycling (factory : Nat → Bool) (hardware : Nat) (clock : Int) : Prop where
  calls : ∀ trail last, Path (RedisPool.Lifecycle.step factory)
      (RedisPool.Lifecycle.constructed hardware clock) trail last →
    (∀ taken ∈ trail, RedisPool.Lifecycle.readsLive taken.1 taken.2 = true) →
      ∀ service ∈ visited trail last, RedisPool.Recycling.InOrder service.pool.connQueue
  threads : ∀ cfg answers count trail last, Path (RedisPool.Model.step cfg)
      (RedisPool.Model.launched clock answers count) trail last →
    (∀ taken ∈ trail, RedisPool.Accounting.readsLive cfg taken.1 taken.2 = true) →
      ∀ state ∈ visited trail last, RedisPool.Recycling.InOrder state.pool.connQueue
  exactly : ∀ minSize maxIdleTime pool,
    (∀ reads, RedisPool.Recycling.RecyclesExactly minSize maxIdleTime pool
        (RedisPool.Model.recycleIdleConnections minSize maxIdleTime reads pool)) ↔
      RedisPool.Sweeping.pushesBack minSize maxIdleTime pool = false
  intact : ∀ minSize maxIdleTime pool, RedisPool.Recycling.InOrder pool.connQueue →
    RedisPool.Recycling.RecyclesExactly minSize maxIdleTime pool
      (RedisPool.Model.recycleIdleConnections minSize maxIdleTime [] pool)

/-- The queue stays in order as long as no popped entry is read, and the recycler is exact
if and only if it reads none. -/
theorem idle_recycling_exact (factory : Nat → Bool) (hardware : Nat) (clock : Int) :
    DatabaseRecycling factory hardware clock ∧ RedisRecycling factory hardware clock := by
  constructor
  · constructor
    · intro trail last path live service member
      exact (DatabasePool.Recycling.ordered_service factory hardware clock path live service
        member).sorted
    · intro cfg trail last path live state member
      exact (DatabasePool.Recycling.ordered_visited cfg factory clock path live state
        member).sorted
    · intro cfg pool
      exact DatabasePool.Recycling.recycles_exactly_iff cfg pool
    · intro cfg pool ordered
      exact DatabasePool.Recycling.recycles_intact cfg ordered
  · constructor
    · intro trail last path live service member
      exact (RedisPool.Recycling.ordered_service factory hardware clock path live service
        member).sorted
    · intro cfg answers count trail last path live state member
      exact (RedisPool.Recycling.ordered_visited cfg clock answers count path live state
        member).sorted
    · intro minSize maxIdleTime pool
      exact RedisPool.Recycling.recycles_exactly_iff minSize maxIdleTime pool
    · intro minSize maxIdleTime pool ordered
      exact RedisPool.Recycling.recycles_intact minSize maxIdleTime ordered

/-! ## Runs -/

def database : DatabasePool.Model.Config where
  minSize := 0
  maxSize := 1
  maxIdleTime := 60
  opNum := 1

theorem none_or_one : (0 : Int) ≤ 0 ∧ (0 : Int) ≤ 1 := by decide

def redis : RedisPool.Model.Config where
  minSize := 0
  maxSize := 1
  maxIdleTime := 60
  opNum := 1
  ordered := none_or_one

def databaseReturn : List DatabasePool.Model.Action :=
  [.arrive, .call 0, .release 0 true, .giveBack 0 0]

def redisReturn : List RedisPool.Model.Action :=
  [.call 0, .caller 0 .go, .caller 0 .go, .caller 0 (.created true 0), .caller 0 .go,
    .caller 0 .go, .caller 0 .go, .release 0, .caller 0 (.health .healthy),
    .caller 0 (.notified 0)]

/-- A minute later it is recycled. -/
theorem idle_recycling_minute :
    (∃ last, exec (DatabasePool.Model.step database fun _ => true)
        (DatabasePool.Model.initialised database (fun _ => true) 0)
        (databaseReturn ++ [.wait 60000000000, .recycle []]) = some last ∧
      DatabasePool.Recycling.InOrder last.pool.connQueue ∧ last.pool.destroyed = [0]) ∧
    ∃ last, exec (RedisPool.Model.step redis) (RedisPool.Model.launched 0 [] 1)
        (redisReturn ++ [.wait 60000000000, .recycle []]) = some last ∧
      RedisPool.Recycling.InOrder last.pool.connQueue ∧ last.pool.destroyed = [0] := by
  have pools := idle_recycling_exact (fun _ => true) 4 0
  constructor
  · obtain ⟨last, executed, checked⟩ := exec_checked
      (DatabasePool.Model.step database fun _ => true)
      (DatabasePool.Model.initialised database (fun _ => true) 0)
      (databaseReturn ++ [.wait 60000000000, .recycle []])
      (fun last => decide (last.pool.destroyed = [0])) (by decide)
    refine ⟨last, executed, ?_, of_decide_eq_true checked⟩
    exact pools.1.threads database _ last (path_of_exec executed) (by decide) last
      (by simp [visited])
  · obtain ⟨last, executed, checked⟩ := exec_checked (RedisPool.Model.step redis)
      (RedisPool.Model.launched 0 [] 1) (redisReturn ++ [.wait 60000000000, .recycle []])
      (fun last => decide (last.pool.destroyed = [0])) (by decide)
    refine ⟨last, executed, ?_, of_decide_eq_true checked⟩
    exact pools.2.threads redis [] 1 _ last (path_of_exec executed) (by decide) last
      (by simp [visited])

/-- The recycler runs at once: the connection may stay, and what is queued instead of it is
what happens to be read. -/
theorem popped_entry_changes_queue : ¬DatabaseLaw ∧ ¬RedisLaw := by
  constructor
  · intro law
    obtain ⟨last, executed, checked⟩ := exec_checked
      (DatabasePool.Model.step database fun _ => true)
      (DatabasePool.Model.initialised database (fun _ => true) 0) databaseReturn
      (fun last => decide (last.pool.connQueue = [⟨0, 0⟩] ∧
        DatabasePool.Sweeping.excessIn database last.pool = 0 ∧
        (DatabasePool.Model.recycleIdleConnections database [⟨7, 0⟩] last.pool).connQueue =
          [⟨7, 0⟩])) (by decide)
    obtain ⟨queue, nothing, after⟩ := of_decide_eq_true checked
    have left := (law database (fun _ => true) 0 last [⟨7, 0⟩]
      (reachable_of_exec executed)).2.queue
    rw [after, nothing, queue] at left
    cases left
  · intro law
    obtain ⟨last, executed, checked⟩ := exec_checked (RedisPool.Model.step redis)
      (RedisPool.Model.launched 0 [] 1) redisReturn
      (fun last => decide (last.pool.connQueue = [⟨0, 0⟩] ∧
        RedisPool.Sweeping.excessIn redis.minSize redis.maxIdleTime last.pool = 0 ∧
        (RedisPool.Model.recycleIdleConnections redis.minSize redis.maxIdleTime [⟨7, 0⟩]
          last.pool).connQueue = [⟨7, 0⟩])) (by decide)
    obtain ⟨queue, nothing, after⟩ := of_decide_eq_true checked
    have left := (law redis 0 [] 1 last [⟨7, 0⟩] (reachable_of_exec executed)).2.queue
    rw [after, nothing, queue] at left
    cases left

end BackendComponents.Pools.Recycling
