import BackendComponents.DatabasePool.Exhaustion
import BackendComponents.RedisPool.Exhaustion

/-!
# Timeouts of the two connection pools

Both pools look at their limit before a call waits and not again after it.
-/

namespace BackendComponents.Pools.Exhaustion

open BackendComponents.Lib.Paths
open BackendComponents.DatabasePool.Exhaustion
open BackendComponents.RedisPool.Exhaustion

set_option autoImplicit false

def DatabaseLaw : Prop :=
  ∀ (cfg : DatabasePool.Model.Config) (clock : Int), 1 ≤ cfg.opNum →
    0 ≤ cfg.minSize ∧ cfg.minSize ≤ cfg.maxSize → 1 ≤ cfg.maxSize →
      ∀ (trail : List (DatabasePool.Model.State × DatabasePool.Model.Action))
        (last : DatabasePool.Model.State),
        Path (DatabasePool.Model.step cfg fun _ => true)
          (DatabasePool.Model.initialised cfg (fun _ => true) clock) trail last →
            Obeyed (DatabasePool.Model.step cfg fun _ => true)
              (DatabasePool.Exhaustion.TimesOutFull cfg) trail

def RedisLaw : Prop :=
  ∀ (cfg : RedisPool.Model.Config) (clock : Int) (answers : List Bool) (threads : Nat),
    1 ≤ cfg.opNum → 1 ≤ cfg.maxSize → (answers.length : Int) = cfg.minSize →
      (∀ answer ∈ answers, answer = true) →
        ∀ (trail : List (RedisPool.Model.State × RedisPool.Model.Action))
          (last : RedisPool.Model.State),
          Path (RedisPool.Model.step cfg) (RedisPool.Model.launched clock answers threads) trail
            last → (∀ taken ∈ trail, RedisPool.Accounting.fails taken.2 = false) →
              Obeyed (RedisPool.Model.step cfg) (RedisPool.Exhaustion.TimesOutFull cfg) trail

/-- In every run of either pool with a factory that always succeeds and undisturbed steps, a
call that times out leaves nothing idle and no room. -/
theorem timeouts_full_when_undisturbed (cfg : DatabasePool.Model.Config)
    (redisCfg : RedisPool.Model.Config) (clock : Int) (answers : List Bool) (threads : Nat) :
    (1 ≤ cfg.opNum → 0 ≤ cfg.minSize ∧ cfg.minSize ≤ cfg.maxSize →
      ∀ (trail : List (DatabasePool.Model.State × DatabasePool.Model.Action))
        (last : DatabasePool.Model.State),
        Path (DatabasePool.Model.step cfg fun _ => true)
          (DatabasePool.Model.initialised cfg (fun _ => true) clock) trail last →
            (∀ taken ∈ trail, DatabasePool.Exhaustion.Undisturbed cfg taken.1 taken.2) →
              Obeyed (DatabasePool.Model.step cfg fun _ => true)
                (DatabasePool.Exhaustion.TimesOutFull cfg) trail) ∧
    (1 ≤ redisCfg.opNum → (answers.length : Int) = redisCfg.minSize →
      (∀ answer ∈ answers, answer = true) →
        ∀ (trail : List (RedisPool.Model.State × RedisPool.Model.Action))
          (last : RedisPool.Model.State),
          Path (RedisPool.Model.step redisCfg) (RedisPool.Model.launched clock answers threads)
            trail last → (∀ taken ∈ trail, RedisPool.Accounting.fails taken.2 = false) →
              (∀ taken ∈ trail, RedisPool.Exhaustion.Undisturbed redisCfg taken.1 taken.2) →
                Obeyed (RedisPool.Model.step redisCfg)
                  (RedisPool.Exhaustion.TimesOutFull redisCfg) trail) := by
  constructor
  · exact database_times_out_full cfg clock
  · exact redis_times_out_full redisCfg clock answers threads

/-! ## Runs -/

def oneDatabaseConn : DatabasePool.Model.Config where
  minSize := 0
  maxSize := 1
  maxIdleTime := 60
  opNum := 1

theorem none_to_one : (0 : Int) ≤ 0 ∧ (0 : Int) ≤ 1 := by decide

def oneRedisConn : RedisPool.Model.Config where
  minSize := 0
  maxSize := 1
  maxIdleTime := 60
  opNum := 1
  ordered := none_to_one

def databaseCrowd : List DatabasePool.Model.Action := [.arrive, .arrive, .call 0, .call 1]

def redisCrowd : List RedisPool.Model.Action :=
  [.call 0, .caller 0 .go, .caller 0 .go, .caller 0 (.created true 0)] ++
    List.replicate 3 (.caller 0 .go) ++ .call 1 :: List.replicate 3 (.caller 1 .go)

def redisExpired : List RedisPool.Model.Action := [.caller 1 (.woken true), .caller 1 .go]

def databaseSick : List DatabasePool.Model.Action := [.release 0 false, .giveBack 0 0]

def redisSick : List RedisPool.Model.Action :=
  [.release 0, .caller 0 (.health .unhealthy), .caller 0 .go, .caller 0 .go]

/-- The connection is deleted after the call has timed out. -/
theorem timeouts_full_sick_return :
    (∃ last, exec (DatabasePool.Model.step oneDatabaseConn fun _ => true)
        (DatabasePool.Model.initialised oneDatabaseConn (fun _ => true) 0)
        (databaseCrowd ++ [.wake 1 true, .resume 1] ++ databaseSick) = some last ∧
      last.callers = [.idle, .holding none] ∧
      Obeyed (DatabasePool.Model.step oneDatabaseConn fun _ => true)
        (DatabasePool.Exhaustion.TimesOutFull oneDatabaseConn)
        (trailOf (DatabasePool.Model.step oneDatabaseConn fun _ => true)
          (DatabasePool.Model.initialised oneDatabaseConn (fun _ => true) 0)
          (databaseCrowd ++ [.wake 1 true, .resume 1] ++ databaseSick))) ∧
    ∃ last, exec (RedisPool.Model.step oneRedisConn) (RedisPool.Model.launched 0 [] 2)
        (redisCrowd ++ redisExpired ++ .caller 1 (.waited 5) :: redisSick) = some last ∧
      last.callers = [.returning .lock, .idle] ∧
      Obeyed (RedisPool.Model.step oneRedisConn) (RedisPool.Exhaustion.TimesOutFull oneRedisConn)
        (trailOf (RedisPool.Model.step oneRedisConn) (RedisPool.Model.launched 0 [] 2)
          (redisCrowd ++ redisExpired ++ .caller 1 (.waited 5) :: redisSick)) := by
  have pools := timeouts_full_when_undisturbed oneDatabaseConn oneRedisConn 0 [] 2
  constructor
  · obtain ⟨last, executed, checked⟩ := exec_checked
      (DatabasePool.Model.step oneDatabaseConn fun _ => true)
      (DatabasePool.Model.initialised oneDatabaseConn (fun _ => true) 0)
      (databaseCrowd ++ [.wake 1 true, .resume 1] ++ databaseSick)
      (fun last => decide (last.callers = [.idle, .holding none])) (by decide)
    refine ⟨last, executed, of_decide_eq_true checked, ?_⟩
    exact pools.1 (by decide) (by decide) _ last (path_of_exec executed) (by decide)
  · obtain ⟨last, executed, checked⟩ := exec_checked (RedisPool.Model.step oneRedisConn)
      (RedisPool.Model.launched 0 [] 2)
      (redisCrowd ++ redisExpired ++ .caller 1 (.waited 5) :: redisSick)
      (fun last => decide (last.callers = [.returning .lock, .idle])) (by decide)
    refine ⟨last, executed, of_decide_eq_true checked, ?_⟩
    exact pools.2 (by decide) (by decide) (by simp) _ last (path_of_exec executed) (by decide)
      (by decide)

/-- The next step of call 1 ends it by a timeout, with no connection in existence. -/
def databaseRoom (before : DatabasePool.Model.State) : Bool :=
  (DatabasePool.Model.step oneDatabaseConn (fun _ => true) before (.resume 1)).any fun after =>
    decide (before.callers[1]? = some (.relock true) ∧ after.callers[1]? = some (.holding none) ∧
      DatabasePool.Exhaustion.existing after = 0)

def redisRoom (before : RedisPool.Model.State) : Bool :=
  (RedisPool.Model.step oneRedisConn before (.caller 1 (.waited 5))).any fun after =>
    decide (before.callers[1]? = some (.getting (.awake true)) ∧ after.callers[1]? = some .idle ∧
      RedisPool.Exhaustion.existing after = 0)

/-- The connection is deleted while the other call waits: it times out with none existing
where one may. -/
theorem deletion_times_out_with_room : ¬DatabaseLaw ∧ ¬RedisLaw := by
  constructor
  · intro law
    obtain ⟨before, executed, checked⟩ := exec_checked
      (DatabasePool.Model.step oneDatabaseConn fun _ => true)
      (DatabasePool.Model.initialised oneDatabaseConn (fun _ => true) 0)
      (databaseCrowd ++ databaseSick ++ [.wake 1 true]) databaseRoom (by decide)
    obtain ⟨after, stepped, seen⟩ := (Option.any_eq_true ..).mp checked
    obtain ⟨expired, empty, none⟩ := of_decide_eq_true seen
    have obeyed := law oneDatabaseConn 0 (by decide) (by decide) (by decide) _ after
      (.next (path_of_exec executed) stepped) (before, .resume 1) (by simp) after stepped
    have full := (obeyed 1 rfl expired empty).2
    rw [none] at full
    cases full
  · intro law
    obtain ⟨before, executed, checked⟩ := exec_checked (RedisPool.Model.step oneRedisConn)
      (RedisPool.Model.launched 0 [] 2) (redisCrowd ++ redisSick ++ redisExpired) redisRoom
      (by decide)
    obtain ⟨after, stepped, seen⟩ := (Option.any_eq_true ..).mp checked
    obtain ⟨expired, empty, none⟩ := of_decide_eq_true seen
    have succeeds : ∀ taken ∈ trailOf (RedisPool.Model.step oneRedisConn)
        (RedisPool.Model.launched 0 [] 2) (redisCrowd ++ redisSick ++ redisExpired),
        RedisPool.Accounting.fails taken.2 = false := by decide
    have all : ∀ taken ∈ trailOf (RedisPool.Model.step oneRedisConn)
        (RedisPool.Model.launched 0 [] 2) (redisCrowd ++ redisSick ++ redisExpired) ++
          [(before, .caller 1 (.waited 5))], RedisPool.Accounting.fails taken.2 = false := by
      intro taken member
      rcases List.mem_append.mp member with old | new
      · exact succeeds taken old
      · rw [List.mem_singleton.mp new]
        rfl
    have obeyed := law oneRedisConn 0 [] 2 (by decide) (by decide) (by decide) (by simp) _ after
      (.next (path_of_exec executed) stepped) all (before, .caller 1 (.waited 5)) (by simp) after
      stepped
    have full := (obeyed 1 _ rfl expired empty).2
    rw [none] at full
    cases full

end BackendComponents.Pools.Exhaustion
