import BackendComponents.DatabasePool.Lifecycle
import BackendComponents.RedisPool.Lifecycle

/-!
# Both connection pools over their lifecycles

In every history of calls the books of the two pools can be wrong for four reasons only: a
recycler that reads an entry it has popped, a shutdown while a guard still has a connection,
an `init` without room for what it makes, and in the Redis pool a factory that returns null.
-/

namespace BackendComponents.Pools.Lifecycles

open BackendComponents.Lib.Books
open BackendComponents.Lib.Paths

set_option autoImplicit false

/-- The books of the database pool are right in every history. -/
def DatabaseBooks : Prop :=
  ∀ (factory : Maker) (hardware : Nat) (clock : Int)
    (trail : List (DatabasePool.Lifecycle.Service × DatabasePool.Lifecycle.Call))
    (last : DatabasePool.Lifecycle.Service),
    Path (DatabasePool.Lifecycle.step factory)
        (DatabasePool.Lifecycle.constructed hardware clock) trail last →
      ∀ service ∈ visited trail last, Lawful factory (DatabasePool.Lifecycle.depot service)

/-- Those of the Redis pool are. -/
def RedisBooks : Prop :=
  ∀ (factory : Maker) (hardware : Nat) (clock : Int)
    (trail : List (RedisPool.Lifecycle.Service × RedisPool.Lifecycle.Call))
    (last : RedisPool.Lifecycle.Service),
    Path (RedisPool.Lifecycle.step factory)
        (RedisPool.Lifecycle.constructed hardware clock) trail last →
      ∀ service ∈ visited trail last, Lawful factory (RedisPool.Lifecycle.depot service)

/-- In every history of either pool in which no popped entry is read: the books are right
throughout if and only if every call keeps them. -/
theorem pool_books_iff (factory : Maker) (hardware : Nat) (clock : Int) :
    (∀ (trail : List (DatabasePool.Lifecycle.Service × DatabasePool.Lifecycle.Call))
      (last : DatabasePool.Lifecycle.Service),
      Path (DatabasePool.Lifecycle.step factory)
          (DatabasePool.Lifecycle.constructed hardware clock) trail last →
        (∀ taken ∈ trail, DatabasePool.Lifecycle.readsLive taken.1 taken.2 = true) →
        ((∀ service ∈ visited trail last,
            Lawful factory (DatabasePool.Lifecycle.depot service)) ↔
          ∀ taken ∈ trail, DatabasePool.Lifecycle.keepsBooks factory taken.1 taken.2)) ∧
    ∀ (trail : List (RedisPool.Lifecycle.Service × RedisPool.Lifecycle.Call))
      (last : RedisPool.Lifecycle.Service),
      Path (RedisPool.Lifecycle.step factory)
          (RedisPool.Lifecycle.constructed hardware clock) trail last →
        (∀ taken ∈ trail, RedisPool.Lifecycle.readsLive taken.1 taken.2 = true) →
        ((∀ service ∈ visited trail last,
            Lawful factory (RedisPool.Lifecycle.depot service)) ↔
          ∀ taken ∈ trail, RedisPool.Lifecycle.keepsBooks factory taken.1 taken.2) := by
  constructor
  · intro trail last path live
    exact DatabasePool.Lifecycle.lawful_iff_keeps_books factory hardware clock path live
  · intro trail last path live
    exact RedisPool.Lifecycle.lawful_iff_keeps_books factory hardware clock path live

/-! ## Runs -/

def one : DatabasePool.Model.Config :=
  { minSize := 1, maxSize := 1, maxIdleTime := 180, opNum := 1 }

def oneRedis : RedisPool.Lifecycle.Settings :=
  { minSize := 1, maxSize := 1, maxIdleTime := 180, opNum := 1 }

/-- Borrowing, a refusal, an invalid return and two shutdowns with nothing out. -/
def databaseTidy : List DatabasePool.Lifecycle.Call :=
  [.init (some one), .getConnection, .getConnection, .release 0 false, .getConnection,
    .release 2 true, .recycle [], .shutdown, .init none, .shutdown]

def redisTidy : List RedisPool.Lifecycle.Call :=
  [.init (some oneRedis), .getConnection true 0, .getConnection false 5, .release 0 .unknown,
    .getConnection true 0, .release 2 .healthy, .recycle [], .shutdown, .init none, .shutdown]

theorem pool_books_tidy :
    (∃ last, exec (DatabasePool.Lifecycle.step fun _ => true)
        (DatabasePool.Lifecycle.constructed 4 0) databaseTidy = some last ∧
      Lawful (fun _ => true) (DatabasePool.Lifecycle.depot last) ∧
      last.pool.destroyed = [0, 1, 2]) ∧
    (∃ last, exec (RedisPool.Lifecycle.step fun _ => true)
        (RedisPool.Lifecycle.constructed 4 0) redisTidy = some last ∧
      Lawful (fun _ => true) (RedisPool.Lifecycle.depot last) ∧
      last.pool.destroyed = [0, 1, 2]) := by
  constructor
  · obtain ⟨last, executed, destroyed⟩ := exec_checked
      (DatabasePool.Lifecycle.step fun _ => true) (DatabasePool.Lifecycle.constructed 4 0)
      databaseTidy (fun last => last.pool.destroyed == [0, 1, 2]) (by decide)
    have books := ((pool_books_iff (fun _ => true) 4 0).1 _ last (path_of_exec executed)
      (by decide)).mpr (by decide)
    exact ⟨last, executed, books last (by simp [visited]), eq_of_beq destroyed⟩
  · obtain ⟨last, executed, destroyed⟩ := exec_checked
      (RedisPool.Lifecycle.step fun _ => true) (RedisPool.Lifecycle.constructed 4 0)
      redisTidy (fun last => last.pool.destroyed == [0, 1, 2]) (by decide)
    have books := ((pool_books_iff (fun _ => true) 4 0).2 _ last (path_of_exec executed)
      (by decide)).mpr (by decide)
    exact ⟨last, executed, books last (by simp [visited]), eq_of_beq destroyed⟩

/-- A connection is out when the database pool is shut down: the next `init` makes another
one, so that two exist where one may, and the count says one. -/
theorem outstanding_guard_breaks_books : ¬(DatabaseBooks ∧ RedisBooks) := by
  rintro ⟨books, _⟩
  obtain ⟨last, executed, checked⟩ := exec_checked (DatabasePool.Lifecycle.step fun _ => true)
    (DatabasePool.Lifecycle.constructed 4 0)
    [.init (some one), .getConnection, .shutdown, .init none]
    (fun last => decide (last.pool.currentSize = 1 ∧
      (DatabasePool.Lifecycle.depot last).existing = 2)) (by decide)
  obtain ⟨size, two⟩ := of_decide_eq_true checked
  have lawful := books (fun _ => true) 4 0 _ last (path_of_exec executed) last (by simp [visited])
  have counted : last.pool.currentSize = (DatabasePool.Lifecycle.depot last).existing :=
    lawful.counted
  rw [size, two] at counted
  cases counted

end BackendComponents.Pools.Lifecycles
