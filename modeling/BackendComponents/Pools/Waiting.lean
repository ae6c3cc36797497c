import BackendComponents.Amqp.Waiting
import BackendComponents.DatabasePool.Waiting
import BackendComponents.RedisPool.Waiting

/-!
# Timed waits in the three pools

All three pools wait once, so a borrower can come back with nothing before its time is up.
-/

namespace BackendComponents.Pools.Waiting

open BackendComponents.Lib.Paths
open BackendComponents.Amqp.Waiting
open BackendComponents.DatabasePool.Waiting
open BackendComponents.RedisPool.Waiting

set_option autoImplicit false

def DatabaseLaw : Prop :=
  ∀ (cfg : DatabasePool.Model.Config) (factory : DatabasePool.Model.Factory) (clock : Int)
    (trail : List (DatabasePool.Model.State × DatabasePool.Model.Action))
    (last : DatabasePool.Model.State),
    Path (DatabasePool.Model.step cfg factory) (DatabasePool.Model.initialised cfg factory clock)
      trail last →
        Obeyed (DatabasePool.Model.step cfg factory) DatabasePool.Waiting.NeverEarly trail

def RedisLaw : Prop :=
  ∀ (cfg : RedisPool.Model.Config) (clock : Int) (answers : List Bool) (threads : Nat),
    (answers.length : Int) = cfg.minSize →
      ∀ (trail : List (RedisPool.Model.State × RedisPool.Model.Action))
        (last : RedisPool.Model.State),
        Path (RedisPool.Model.step cfg) (RedisPool.Model.launched clock answers threads) trail
          last → Obeyed (RedisPool.Model.step cfg) RedisPool.Waiting.NeverEarly trail

def ChannelLaw : Prop :=
  ∀ (replies : List Amqp.Channels.Reply)
    (trail : List (Amqp.ChannelPool.State × Amqp.ChannelPool.Action))
    (last : Amqp.ChannelPool.State),
    Path Amqp.ChannelPool.step (Amqp.ChannelPool.constructed replies) trail last →
      Obeyed Amqp.ChannelPool.step Amqp.Waiting.NeverEarly trail

/-- In every run of each pool: no call fails early if and only if every borrower that is
woken before its time finds something in the queue when it has the mutex back. -/
theorem timed_borrow_iff_finds_one (cfg : DatabasePool.Model.Config)
    (factory : DatabasePool.Model.Factory) (redisCfg : RedisPool.Model.Config) (clock : Int)
    (answers : List Bool) (threads : Nat) (replies : List Amqp.Channels.Reply) :
    (∀ (trail : List (DatabasePool.Model.State × DatabasePool.Model.Action))
      (last : DatabasePool.Model.State),
      Path (DatabasePool.Model.step cfg factory)
        (DatabasePool.Model.initialised cfg factory clock) trail last →
          (Obeyed (DatabasePool.Model.step cfg factory) DatabasePool.Waiting.NeverEarly trail ↔
            ∀ taken ∈ trail, DatabasePool.Waiting.FindsOne taken.1 taken.2)) ∧
    (∀ (trail : List (RedisPool.Model.State × RedisPool.Model.Action))
      (last : RedisPool.Model.State),
      Path (RedisPool.Model.step redisCfg) (RedisPool.Model.launched clock answers threads) trail
        last →
          (Obeyed (RedisPool.Model.step redisCfg) RedisPool.Waiting.NeverEarly trail ↔
            ∀ taken ∈ trail, RedisPool.Waiting.FindsOne taken.1 taken.2)) ∧
    ∀ (trail : List (Amqp.ChannelPool.State × Amqp.ChannelPool.Action))
      (last : Amqp.ChannelPool.State),
      Path Amqp.ChannelPool.step (Amqp.ChannelPool.constructed replies) trail last →
        (Obeyed Amqp.ChannelPool.step Amqp.Waiting.NeverEarly trail ↔
          ∀ taken ∈ trail, Amqp.Waiting.FindsOne taken.1 taken.2) := by
  refine ⟨?_, ?_, ?_⟩
  · exact database_never_early_iff cfg factory clock
  · exact redis_never_early_iff redisCfg clock answers threads
  · exact channel_never_early_iff replies

/-! ## Runs -/

def oneDatabaseConn : DatabasePool.Model.Config where
  minSize := 1
  maxSize := 1
  maxIdleTime := 60
  opNum := 1

def oneRedisConn : RedisPool.Model.Config where
  minSize := 1
  maxSize := 1
  maxIdleTime := 60
  opNum := 1
  ordered := by decide

/-- Call 1 waits for the only connection; call 0 gives it back and wakes call 1. -/
def databaseHandover : List DatabasePool.Model.Action :=
  [.arrive, .arrive, .arrive, .call 0, .call 1, .release 0 true, .giveBack 0 1, .wake 1 false]

def redisHandover : List RedisPool.Model.Action :=
  .call 0 :: List.replicate 4 (.caller 0 .go) ++ .call 1 :: List.replicate 3 (.caller 1 .go) ++
    [.release 0, .caller 0 (.health .healthy), .caller 0 (.notified 1), .caller 1 .go]

/-- From the return of the mutex to the end of `get_connection`. -/
def redisServed : List RedisPool.Model.Action :=
  [.caller 1 .go, .caller 1 (.waited 5), .caller 1 .go]

def channelHandover : List Amqp.ChannelPool.Action :=
  [.arrive, .arrive, .arrive, .call 0 .tryAcquire, .call 1 .tryAcquire, .call 0 (.release 1)]

/-- The caller that is woken gets the connection. -/
theorem timed_borrow_served :
    (∃ last, exec (DatabasePool.Model.step oneDatabaseConn fun _ => true)
        (DatabasePool.Model.initialised oneDatabaseConn (fun _ => true) 0)
        (databaseHandover ++ [.resume 1]) = some last ∧
      last.callers = [.idle, .holding (some 0), .idle] ∧
      Obeyed (DatabasePool.Model.step oneDatabaseConn fun _ => true)
        DatabasePool.Waiting.NeverEarly (trailOf (DatabasePool.Model.step oneDatabaseConn fun _ => true)
          (DatabasePool.Model.initialised oneDatabaseConn (fun _ => true) 0)
          (databaseHandover ++ [.resume 1]))) ∧
    (∃ last, exec (RedisPool.Model.step oneRedisConn) (RedisPool.Model.launched 0 [true] 3)
        (redisHandover ++ redisServed) = some last ∧
      last.callers = [.idle, .holding 0, .idle] ∧
      Obeyed (RedisPool.Model.step oneRedisConn) RedisPool.Waiting.NeverEarly
        (trailOf (RedisPool.Model.step oneRedisConn) (RedisPool.Model.launched 0 [true] 3)
          (redisHandover ++ redisServed))) ∧
    ∃ last, exec Amqp.ChannelPool.step (Amqp.ChannelPool.constructed [.normal])
        (channelHandover ++ [.call 1 .wake]) = some last ∧
      last.pool.channels = [] ∧ last.borrowers.length = 3 ∧
      Obeyed Amqp.ChannelPool.step Amqp.Waiting.NeverEarly
        (trailOf Amqp.ChannelPool.step (Amqp.ChannelPool.constructed [.normal])
          (channelHandover ++ [.call 1 .wake])) := by
  have pools := timed_borrow_iff_finds_one oneDatabaseConn (fun _ => true) oneRedisConn 0 [true] 3
    [.normal]
  refine ⟨?_, ?_, ?_⟩
  · obtain ⟨last, executed, checked⟩ := exec_checked
      (DatabasePool.Model.step oneDatabaseConn fun _ => true)
      (DatabasePool.Model.initialised oneDatabaseConn (fun _ => true) 0)
      (databaseHandover ++ [.resume 1])
      (fun last => decide (last.callers = [.idle, .holding (some 0), .idle])) (by decide)
    refine ⟨last, executed, of_decide_eq_true checked, ?_⟩
    exact (pools.1 _ last (path_of_exec executed)).mpr (by decide)
  · obtain ⟨last, executed, checked⟩ := exec_checked (RedisPool.Model.step oneRedisConn)
      (RedisPool.Model.launched 0 [true] 3) (redisHandover ++ redisServed)
      (fun last => decide (last.callers = [.idle, .holding 0, .idle])) (by decide)
    refine ⟨last, executed, of_decide_eq_true checked, ?_⟩
    exact (pools.2.1 _ last (path_of_exec executed)).mpr (by decide)
  · obtain ⟨last, executed, checked⟩ := exec_checked Amqp.ChannelPool.step
      (Amqp.ChannelPool.constructed [.normal]) (channelHandover ++ [.call 1 .wake])
      (fun last => decide (last.pool.channels = [] ∧ last.borrowers.length = 3)) (by decide)
    obtain ⟨empty, three⟩ := of_decide_eq_true checked
    refine ⟨last, executed, empty, three, ?_⟩
    exact (pools.2.2 _ last (path_of_exec executed)).mpr (by decide)

/-- A third borrower takes what the second one has been woken for. -/
theorem stolen_wakeup_fails_early : ¬DatabaseLaw ∧ ¬RedisLaw ∧ ¬ChannelLaw := by
  refine ⟨?_, ?_, ?_⟩
  · intro law
    obtain ⟨last, executed, _⟩ := exec_checked
      (DatabasePool.Model.step oneDatabaseConn fun _ => true)
      (DatabasePool.Model.initialised oneDatabaseConn (fun _ => true) 0)
      (databaseHandover ++ [.call 2, .resume 1])
      (fun last => decide (last.callers = [.idle, .holding none, .holding (some 0)])) (by decide)
    have path := path_of_exec executed
    have finds := (database_never_early_iff oneDatabaseConn (fun _ => true) 0 _ last path).mp
      (law oneDatabaseConn (fun _ => true) 0 _ last path)
    exact absurd finds (by decide)
  · intro law
    obtain ⟨last, executed, _⟩ := exec_checked (RedisPool.Model.step oneRedisConn)
      (RedisPool.Model.launched 0 [true] 3)
      (redisHandover ++ .call 2 :: List.replicate 4 (.caller 2 .go) ++ redisServed)
      (fun last => decide (last.callers = [.idle, .idle, .holding 0])) (by decide)
    have path := path_of_exec executed
    have finds := (redis_never_early_iff oneRedisConn 0 [true] 3 _ last path).mp
      (law oneRedisConn 0 [true] 3 (by decide) _ last path)
    exact absurd finds (by decide)
  · intro law
    obtain ⟨last, executed, _⟩ := exec_checked Amqp.ChannelPool.step
      (Amqp.ChannelPool.constructed [.normal])
      (channelHandover ++ [.call 2 .tryAcquire, .call 1 .wake])
      (fun last => decide (last.borrowers.map (· == .idle) = [true, true, false])) (by decide)
    have path := path_of_exec executed
    have finds := (channel_never_early_iff [.normal] _ last path).mp (law [.normal] _ last path)
    exact absurd finds (by decide)

end BackendComponents.Pools.Waiting
