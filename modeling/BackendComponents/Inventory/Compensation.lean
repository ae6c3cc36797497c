import BackendComponents.Inventory.Borrowing

/-!
# Compensation and the pool it borrows from

The guard of `deduct` is alive while `rollback_redis` asks for a second connection. If at
least as many requests as the pool has connections fail in MySQL at the same time, each of
them holds one connection and waits for another one. Fewer requests cannot do that, and
nobody waits in `rollback_redis` if it makes no attempt.
-/

namespace BackendComponents.Inventory.Compensation

open BackendComponents.Lib.Paths
open BackendComponents.Lib.Threads
open BackendComponents.RedisPool.Model (Config Conn Pool GetPc ReturnPc Entry getStep returnStep
  createConnection recordSizes toCreate recycleIdleConnections initialised)
open BackendComponents.Inventory.Borrowing

set_option autoImplicit false

/-! ## Borrowing alone -/

def getRun (cfg : Config) (id : Nat) (place : Pool × GetPc) (answer : RedisPool.Model.Answer) :
    Option (Pool × GetPc) :=
  getStep cfg id place.1 place.2 answer

/-- Nobody is in the pool's functions, and the connections that exist are lent or queued. -/
structure Ready (cfg : Config) (pool : Pool) (lent : Nat) : Prop where
  mutex : pool.mutex = none
  initialized : pool.initialized = true
  size : pool.currentSize = pool.connQueue.length + lent
  bounded : pool.currentSize ≤ cfg.maxSize

def filled : Nat → Pool → Pool
  | 0, pool => pool
  | left + 1, pool => filled left (createConnection true pool)

theorem filled_sizes (left : Nat) (pool : Pool) :
    (filled left pool).currentSize = pool.currentSize + left ∧
      (filled left pool).connQueue.length = pool.connQueue.length + left ∧
        (filled left pool).mutex = pool.mutex ∧
          (filled left pool).initialized = pool.initialized := by
  induction left generalizing pool with
  | zero => exact ⟨(Int.add_zero _).symm, rfl, rfl, rfl⟩
  | succ left ih =>
      obtain ⟨size, queue, mutex, initialized⟩ := ih (createConnection true pool)
      have made : (createConnection true pool).currentSize = pool.currentSize + 1 := rfl
      have pushed : (createConnection true pool).connQueue.length = pool.connQueue.length + 1 :=
        List.length_append
      unfold filled
      refine ⟨?_, ?_, mutex, initialized⟩
      · rw [size, made]
        push_cast
        omega
      · rw [queue, pushed]
        omega

theorem run_filled (cfg : Config) (id left : Nat) (pool : Pool) :
    Reachable (getRun cfg id) (pool, .expanding left) (filled left pool, .expanding 0) := by
  induction left generalizing pool with
  | zero => exact reachable_start _ _
  | succ left ih =>
      have created : getRun cfg id (pool, .expanding (left + 1)) (.created true 0) =
          some (createConnection true pool, .expanding left) := rfl
      exact reachable_trans (reachable_next (reachable_start _ _) created)
        (ih (createConnection true pool))

theorem run_take {cfg : Config} {id lent : Nat} {pool : Pool} (queued : pool.connQueue ≠ [])
    (initialized : pool.initialized = true)
    (size : pool.currentSize = pool.connQueue.length + lent)
    (bounded : pool.currentSize ≤ cfg.maxSize) :
    ∃ after conn, Reachable (getRun cfg id) (pool, .testEmpty) (after, .returned (some conn)) ∧
      Ready cfg after (lent + 1) := by
  cases queue : pool.connQueue with
  | nil => exact absurd queue queued
  | cons entry rest =>
      have tested : getRun cfg id (pool, .testEmpty) .go = some (pool, .take) := by
        simp only [getRun, getStep, queue]
        rfl
      have taken : getRun cfg id (pool, .take) .go = some ({ pool with
          connQueue := rest
          mutex := none
          stats := { pool.stats with
            totalBorrowed := pool.stats.totalBorrowed + 1
            activeConnections := pool.stats.activeConnections + 1
            idleConnections := rest.length } }, .returned (some entry.conn)) := by
        simp only [getRun, getStep, queue]
      refine ⟨_, _, reachable_next (reachable_next (reachable_start _ _) tested) taken, rfl,
        initialized, ?_, bounded⟩
      dsimp only
      rw [size, queue, List.length_cons]
      push_cast
      omega

theorem exists_to_create {cfg : Config} {pool : Pool} (creates : 1 ≤ cfg.opNum)
    (room : pool.currentSize < cfg.maxSize) :
    ∃ count : Nat, toCreate cfg pool = count ∧ 0 < count ∧
      pool.currentSize + count ≤ cfg.maxSize := by
  have positive : 0 < toCreate cfg pool := by
    unfold toCreate
    omega
  have least : toCreate cfg pool ≤ cfg.maxSize - pool.currentSize := Int.min_le_left _ _
  obtain ⟨count, equal⟩ := Int.eq_ofNat_of_zero_le (Int.le_of_lt positive)
  refine ⟨count, equal, ?_, ?_⟩
  · omega
  · omega

theorem run_expanded {cfg : Config} {id lent : Nat} {pool : Pool} (creates : 1 ≤ cfg.opNum)
    (initialized : pool.initialized = true) (empty : pool.connQueue = [])
    (size : pool.currentSize = lent) (room : (lent : Int) < cfg.maxSize) :
    ∃ after conn, Reachable (getRun cfg id) (pool, .testExpand) (after, .returned (some conn)) ∧
      Ready cfg after (lent + 1) := by
  obtain ⟨count, equal, positive, fits⟩ := exists_to_create creates (size ▸ room)
  have expands : getRun cfg id (pool, .testExpand) .go = some (pool, .expanding count) := by
    have tested : pool.connQueue = [] ∧ pool.currentSize < cfg.maxSize ∧ 0 < toCreate cfg pool := by
      refine ⟨empty, ?_, ?_⟩
      · omega
      · omega
    simp only [getRun, getStep]
    rw [if_pos tested, equal]
    rfl
  obtain ⟨made, pushed, _, still⟩ := filled_sizes count pool
  rw [empty, List.length_nil, Nat.zero_add] at pushed
  have recorded : getRun cfg id (filled count pool, .expanding 0) .go =
      some (recordSizes (filled count pool), .testEmpty) := rfl
  have queued : (recordSizes (filled count pool)).connQueue ≠ [] := by
    intro none
    have zero : (filled count pool).connQueue.length = 0 := congrArg List.length none
    omega
  have counted : (recordSizes (filled count pool)).currentSize =
      (recordSizes (filled count pool)).connQueue.length + lent := by
    change (filled count pool).currentSize = (filled count pool).connQueue.length + lent
    omega
  have bounded : (recordSizes (filled count pool)).currentSize ≤ cfg.maxSize := by
    change (filled count pool).currentSize ≤ cfg.maxSize
    omega
  obtain ⟨after, conn, taken, done⟩ := run_take queued (still.trans initialized) counted bounded
  have started := reachable_next (reachable_start (getRun cfg id) (pool, .testExpand)) expands
  have looped := reachable_trans started (run_filled cfg id count pool)
  exact ⟨after, conn, reachable_trans (reachable_next looped recorded) taken, done⟩

theorem run_served {cfg : Config} {id lent : Nat} {pool : Pool} (creates : 1 ≤ cfg.opNum)
    (ready : Ready cfg pool lent) (room : (lent : Int) < cfg.maxSize) :
    ∃ after conn, Reachable (getRun cfg id) (pool, .enter) (after, .returned (some conn)) ∧
      Ready cfg after (lent + 1) := by
  have entered : getRun cfg id (pool, .enter) .go =
      some ({ pool with mutex := some id }, .testExpand) := by
    simp [getRun, getStep, ready.initialized, ready.mutex]
  have locked := reachable_next (reachable_start (getRun cfg id) (pool, .enter)) entered
  have continued : ∃ after conn, Reachable (getRun cfg id)
      ({ pool with mutex := some id }, .testExpand) (after, .returned (some conn)) ∧
        Ready cfg after (lent + 1) := by
    by_cases empty : pool.connQueue = []
    · have size : pool.currentSize = lent := by
        have counted := ready.size
        rw [empty, List.length_nil] at counted
        omega
      apply run_expanded creates _ _ _ room
      · exact ready.initialized
      · exact empty
      · exact size
    · have tested : getRun cfg id ({ pool with mutex := some id }, .testExpand) .go =
          some ({ pool with mutex := some id }, .testEmpty) := by
        simp only [getRun, getStep]
        apply if_neg
        exact fun expands => empty expands.1
      have queued : ({ pool with mutex := some id } : Pool).connQueue ≠ [] := empty
      obtain ⟨after, conn, taken, done⟩ := run_take queued ready.initialized ready.size
        ready.bounded
      exact ⟨after, conn, reachable_trans (reachable_next (reachable_start _ _) tested) taken, done⟩
  obtain ⟨after, conn, taken, done⟩ := continued
  exact ⟨after, conn, reachable_trans locked taken, done⟩

theorem run_blocked {cfg : Config} {id : Nat} {pool : Pool} (free : pool.mutex = none)
    (initialized : pool.initialized = true) (empty : pool.connQueue = [])
    (full : ¬pool.currentSize < cfg.maxSize) :
    Reachable (getRun cfg id) (pool, .enter) ({ pool with
      waiting := pool.waiting ++ [id]
      stats := { pool.stats with pendingWaiters := pool.stats.pendingWaiters + 1 } }, .waiting) := by
  have entered : getRun cfg id (pool, .enter) .go =
      some ({ pool with mutex := some id }, .testExpand) := by
    simp [getRun, getStep, initialized, free]
  have tested : getRun cfg id ({ pool with mutex := some id }, .testExpand) .go =
      some ({ pool with mutex := some id }, .testEmpty) := by
    simp only [getRun, getStep]
    apply if_neg
    exact fun expands => full expands.2.1
  have blocks : getRun cfg id ({ pool with mutex := some id }, .testEmpty) .go = some ({ pool with
      waiting := pool.waiting ++ [id]
      stats := { pool.stats with pendingWaiters := pool.stats.pendingWaiters + 1 } },
        .waiting) := by
    simp only [getRun, getStep, empty, if_true, free]
  exact reachable_next (reachable_next (reachable_next (reachable_start _ _) entered) tested) blocks

/-! ## Borrowing inside `deduct` -/

/-- A call inside a `get_connection`, by what surrounds it. -/
def Wraps (cfg : Config) (retryTimes : Int) (wrap : GetPc → Deduct) : Prop :=
  ∀ (id : Nat) (pool : Pool) (pc : GetPc) (answer : RedisPool.Model.Answer) (moved : Pool × GetPc),
    getStep cfg id pool pc answer = some moved →
      deductStep cfg retryTimes id pool (wrap pc) (.pool answer) = some (moved.1, wrap moved.2) ∧
        detaches (wrap pc) (.pool answer) = []

theorem wraps_connecting (cfg : Config) (retryTimes : Int) :
    Wraps cfg retryTimes connecting := by
  intro id pool pc answer moved taken
  cases pc with
  | returned result => cases taken
  | _ => exact ⟨congrArg (Option.map _) taken, rfl⟩

theorem wraps_reconnecting (cfg : Config) (retryTimes : Int) (conn : Conn) (attempt : Nat) :
    Wraps cfg retryTimes (reconnecting conn attempt) := by
  intro id pool pc answer moved taken
  cases pc with
  | returned result => cases taken
  | _ => exact ⟨congrArg (Option.map _) taken, rfl⟩

theorem move_call_twice (state : State) (id : Nat) (first second : Pool × Deduct) :
    moveCall (moveCall state id first []) id second [] = moveCall state id second [] := by
  simp [moveCall]

theorem call_at {state : State} {id : Nat} {call : Deduct} (found : state.calls[id]? = some call)
    (moved : Pool × Deduct) : (moveCall state id moved []).calls[id]? = some moved.2 :=
  lookup_move_self found

theorem reachable_wrapped {cfg : Config} {retryTimes : Int} {wrap : GetPc → Deduct}
    (wraps : Wraps cfg retryTimes wrap) (state : State) {id : Nat} {pc last : GetPc} {after : Pool}
    (found : state.calls[id]? = some (wrap pc))
    (run : Reachable (getRun cfg id) (state.pool, pc) (after, last)) :
    Reachable (step cfg retryTimes) state (moveCall state id (after, wrap last) []) := by
  have carried : ∀ {start place : Pool × GetPc}, Reachable (getRun cfg id) start place →
      start = (state.pool, pc) →
        Reachable (step cfg retryTimes) state (moveCall state id (place.1, wrap place.2) []) := by
    rintro start place ⟨trail, path⟩ rfl
    induction path with
    | here =>
        have same : moveCall state id (state.pool, wrap pc) [] = state := by
          simp [moveCall, set_lookup found]
        rw [same]
        exact reachable_start _ _
    | @next trail middle place answer _ taken ih =>
        obtain ⟨stepped, none⟩ := wraps id middle.1 middle.2 answer place taken
        have there := call_at found (middle.1, wrap middle.2)
        have moved : step cfg retryTimes (moveCall state id (middle.1, wrap middle.2) [])
            (.call id (.pool answer)) = some (moveCall state id (place.1, wrap place.2) []) := by
          have pool : (moveCall state id (middle.1, wrap middle.2) []).pool = middle.1 := rfl
          simp only [step, there, Option.bind_some, pool, stepped, Option.map_some, none]
          rw [move_call_twice]
        exact reachable_next ih moved
  exact carried run rfl

theorem reachable_call {cfg : Config} {retryTimes : Int} {state : State} {id : Nat} {call : Deduct}
    {answer : Answer} {moved : Pool × Deduct} (found : state.calls[id]? = some call)
    (stepped : deductStep cfg retryTimes id state.pool call answer = some moved)
    (none : detaches call answer = []) :
    step cfg retryTimes state (.call id answer) = some (moveCall state id moved []) := by
  simp only [step, found, Option.bind_some, stepped, Option.map_some, none]

/-! ## Every connection held by a call that has failed in MySQL -/

/-- The first `charged` calls have a connection and are in `rollback_redis`. -/
structure Charged (cfg : Config) (concurrent charged : Nat) (state : State) : Prop where
  ready : Ready cfg state.pool charged
  inside : ∀ id, id < charged → ∃ conn, state.calls[id]? = some (.retry conn 0)
  outside : ∀ id, charged ≤ id → id < concurrent → state.calls[id]? = some .idle

theorem charge {cfg : Config} {retryTimes : Int} {concurrent charged : Nat} {state : State}
    (creates : 1 ≤ cfg.opNum) (before : Charged cfg concurrent charged state)
    (room : (charged : Int) < cfg.maxSize) (more : charged < concurrent) :
    ∃ after, Reachable (step cfg retryTimes) state after ∧
      Charged cfg concurrent (charged + 1) after := by
  have idle := before.outside charged (Nat.le_refl charged) more
  obtain ⟨pool, conn, run, ready⟩ := @run_served cfg charged _ _ creates before.ready room
  -- the request, its connection, the script and the failure in MySQL
  have asked : step cfg retryTimes state (.request charged) =
      some (moveCall state charged (state.pool, connecting .enter) []) := by
    simp only [step, idle]
    rfl
  have served : Reachable (step cfg retryTimes)
      (moveCall state charged (state.pool, connecting .enter) [])
      (moveCall (moveCall state charged (state.pool, connecting .enter) []) charged
        (pool, connecting (.returned (some conn))) []) :=
    reachable_wrapped (wraps_connecting cfg retryTimes) (moveCall state charged _ [])
      (call_at idle _) run
  have scripted : step cfg retryTimes (moveCall state charged (pool, .script conn) [])
      (.call charged (.script .deductSuccess)) =
        some (moveCall (moveCall state charged (pool, .script conn) []) charged
          (pool, .update conn) []) := reachable_call (call_at idle _) rfl rfl
  have failed : step cfg retryTimes (moveCall state charged (pool, .update conn) [])
      (.call charged (.mysql .failed)) =
        some (moveCall (moveCall state charged (pool, .update conn) []) charged
          (pool, .retry conn 0) []) := reachable_call (call_at idle _) rfl rfl
  rw [move_call_twice] at served scripted failed
  refine ⟨moveCall state charged (pool, .retry conn 0) [], ?_, ?_⟩
  · have started := reachable_next (reachable_start (step cfg retryTimes) state) asked
    exact reachable_next (reachable_next (reachable_trans started served) scripted) failed
  · refine ⟨ready, ?_, ?_⟩
    · intro id bound
      by_cases same : id = charged
      · subst same
        exact ⟨conn, call_at idle _⟩
      · obtain ⟨own, held⟩ := before.inside id (by omega)
        exact ⟨own, (lookup_move_other same).trans held⟩
    · intro id lower upper
      have other : id ≠ charged := by omega
      exact (lookup_move_other other).trans (before.outside id (by omega) upper)

/-- The first `stalled` of the calls that have all the connections wait for another one. -/
structure Stalled (cfg : Config) (stalled : Nat) (state : State) : Prop where
  mutex : state.pool.mutex = none
  initialized : state.pool.initialized = true
  empty : state.pool.connQueue = []
  full : ¬state.pool.currentSize < cfg.maxSize
  blocked : ∀ id, id < stalled → ∃ call, state.calls[id]? = some call ∧ waits call = true
  inside : ∀ id : Nat, stalled ≤ id → (id : Int) < cfg.maxSize →
    ∃ conn, state.calls[id]? = some (.retry conn 0)

theorem stall {cfg : Config} {retryTimes : Int} {stalled : Nat} {state : State}
    (retries : 0 < retryTimes) (before : Stalled cfg stalled state)
    (more : (stalled : Int) < cfg.maxSize) :
    ∃ after, Reachable (step cfg retryTimes) state after ∧ Stalled cfg (stalled + 1) after := by
  obtain ⟨conn, found⟩ := before.inside stalled (Nat.le_refl stalled) more
  have run := @run_blocked cfg stalled _ before.mutex before.initialized before.empty before.full
  have attempted : step cfg retryTimes state (.call stalled .go) =
      some (moveCall state stalled (state.pool, reconnecting conn 0 .enter) []) := by
    apply reachable_call found _ rfl
    simp only [deductStep]
    rw [if_pos (by exact_mod_cast retries)]
    rfl
  have blocked := reachable_wrapped (wraps_reconnecting cfg retryTimes conn 0)
    (moveCall state stalled (state.pool, reconnecting conn 0 .enter) []) (call_at found _) run
  rw [move_call_twice] at blocked
  refine ⟨_, reachable_trans (reachable_next (reachable_start _ _) attempted) blocked, ?_⟩
  refine ⟨before.mutex, before.initialized, before.empty, before.full, ?_, ?_⟩
  · intro id bound
    by_cases same : id = stalled
    · subst same
      exact ⟨_, call_at found _, rfl⟩
    · obtain ⟨call, held, waiting⟩ := before.blocked id (by omega)
      exact ⟨call, (lookup_move_other same).trans held, waiting⟩
  · intro id lower upper
    have other : id ≠ stalled := by omega
    obtain ⟨own, held⟩ := before.inside id (by omega) upper
    exact ⟨own, (lookup_move_other other).trans held⟩

/-! ## When everybody can wait -/

theorem filled_foldl (count : Nat) (pool : Pool) :
    (List.replicate count true).foldl
      (fun made succeeds => createConnection succeeds made) pool = filled count pool := by
  induction count generalizing pool with
  | zero => rfl
  | succ count ih => exact ih (createConnection true pool)

theorem charged_launched (cfg : Config) (clock : Int) (concurrent : Nat) :
    Charged cfg concurrent 0 (launched cfg clock concurrent) := by
  have ordered := cfg.ordered
  have natural := Int.toNat_of_nonneg ordered.1
  refine ⟨?_, ?_, ?_⟩
  · have started : (launched cfg clock concurrent).pool = recordSizes (filled cfg.minSize.toNat {
        connQueue := [], mutex := none, waiting := [], currentSize := 0, initialized := true,
        stats := {}, clock := clock, attempts := 0, failures := 0, destroyed := [] }) :=
      congrArg recordSizes (filled_foldl _ _)
    rw [started]
    obtain ⟨size, queue, mutex, initialized⟩ := filled_sizes cfg.minSize.toNat {
      connQueue := [], mutex := none, waiting := [], currentSize := 0, initialized := true,
      stats := {}, clock := clock, attempts := 0, failures := 0, destroyed := [] }
    refine ⟨mutex, initialized, ?_, ?_⟩
    · simp only [recordSizes, size, queue, List.length_nil]
      omega
    · simp only [recordSizes, size]
      omega
  · intro id impossible
    exact absurd impossible (Nat.not_lt_zero id)
  · intro id _ bound
    exact List.getElem?_replicate_of_lt bound

theorem exists_charged {cfg : Config} (retryTimes clock : Int) {concurrent : Nat}
    (creates : 1 ≤ cfg.opNum) (charged : Nat) (room : (charged : Int) ≤ cfg.maxSize)
    (enough : charged ≤ concurrent) :
    ∃ state, Reachable (step cfg retryTimes) (launched cfg clock concurrent) state ∧
      Charged cfg concurrent charged state := by
  induction charged with
  | zero => exact ⟨_, reachable_start _ _, charged_launched cfg clock concurrent⟩
  | succ charged ih =>
      obtain ⟨state, reached, before⟩ := ih (by omega) (by omega)
      obtain ⟨after, continued, more⟩ := charge creates before (by omega) (by omega)
      exact ⟨after, reachable_trans reached continued, more⟩

theorem exists_stalled {cfg : Config} {retryTimes : Int} {state : State} (retries : 0 < retryTimes)
    (before : Stalled cfg 0 state) (stalled : Nat) (bound : (stalled : Int) ≤ cfg.maxSize) :
    ∃ after, Reachable (step cfg retryTimes) state after ∧ Stalled cfg stalled after := by
  induction stalled with
  | zero => exact ⟨state, reachable_start _ _, before⟩
  | succ stalled ih =>
      obtain ⟨middle, reached, there⟩ := ih (by omega)
      obtain ⟨after, continued, more⟩ := stall retries there (by omega)
      exact ⟨after, reachable_trans reached continued, more⟩

theorem exists_all_waiting {cfg : Config} {retryTimes : Int} (clock : Int) {concurrent : Nat}
    (positive : 1 ≤ cfg.maxSize) (creates : 1 ≤ cfg.opNum) (retries : 0 < retryTimes)
    (enough : cfg.maxSize ≤ concurrent) :
    ∃ state, Reachable (step cfg retryTimes) (launched cfg clock concurrent) state ∧
      AllWaiting cfg state := by
  obtain ⟨limit, natural⟩ := Int.eq_ofNat_of_zero_le (show 0 ≤ cfg.maxSize by omega)
  obtain ⟨middle, reached, charged⟩ := @exists_charged cfg retryTimes clock concurrent creates limit
    (by omega) (by omega)
  have sizes := charged.ready.size
  have bounded := charged.ready.bounded
  have empty : middle.pool.connQueue = [] := List.eq_nil_of_length_eq_zero (by omega)
  have waiting : Stalled cfg 0 middle := by
    refine ⟨charged.ready.mutex, charged.ready.initialized, empty, ?_, ?_, ?_⟩
    · rw [empty, List.length_nil] at sizes
      omega
    · intro id impossible
      exact absurd impossible (Nat.not_lt_zero id)
    · intro id _ upper
      exact charged.inside id (by omega)
  obtain ⟨last, continued, stalled⟩ := exists_stalled retries waiting limit (by omega)
  refine ⟨last, reachable_trans reached continued, ?_⟩
  have counted := le_countP_of_prefix stalled.blocked
  unfold AllWaiting
  omega

/-! ## When not everybody can -/

def inAgain : Deduct → Bool
  | .again _ _ _ => true
  | _ => false

theorem length_step {cfg : Config} {retryTimes : Int} {state after : State} {action : Action}
    (taken : step cfg retryTimes state action = some after) :
    after.calls.length = state.calls.length := by
  cases action with
  | request id =>
      dsimp only [step] at taken
      split at taken
      · obtain rfl := Option.some.inj taken
        exact List.length_set
      · cases taken
  | call id answer =>
      obtain ⟨call, _, rest⟩ := Option.bind_eq_some_iff.mp taken
      obtain ⟨moved, _, rfl⟩ := Option.map_eq_some_iff.mp rest
      exact List.length_set
  | rebuild id answer =>
      obtain ⟨rebuild, _, rest⟩ := Option.bind_eq_some_iff.mp taken
      obtain ⟨moved, _, rfl⟩ := Option.map_eq_some_iff.mp rest
      rfl
  | recycle reads =>
      dsimp only [step] at taken
      split at taken
      · obtain rfl := Option.some.inj taken
        rfl
      · cases taken
  | wait ticks =>
      obtain rfl := Option.some.inj taken
      rfl

theorem deduct_step_again {cfg : Config} {retryTimes : Int} {id : Nat} {pool : Pool}
    {call : Deduct} {answer : Answer} {moved : Pool × Deduct} (none : retryTimes ≤ 0)
    (before : inAgain call = false)
    (taken : deductStep cfg retryTimes id pool call answer = some moved) :
    inAgain moved.2 = false := by
  unfold deductStep at taken
  split at taken
  · obtain ⟨⟨_, pc⟩, _, rfl⟩ := Option.map_eq_some_iff.mp taken
    cases pc with
    | returned result => cases result <;> rfl
    | _ => rfl
  · next conn result =>
      obtain rfl := Option.some.inj taken
      cases result <;> rfl
  · next conn result =>
      obtain rfl := Option.some.inj taken
      cases conn <;> rfl
  · next conn result =>
      obtain rfl := Option.some.inj taken
      cases result <;> rfl
  · obtain rfl := Option.some.inj taken
    dsimp only
    rw [if_neg (by omega)]
    rfl
  · cases before
  · obtain rfl := Option.some.inj taken
    rfl
  · next conn attempt added pc answer =>
      obtain ⟨⟨_, pc⟩, _, rfl⟩ := Option.map_eq_some_iff.mp taken
      cases pc <;> cases added <;> rfl
  · obtain ⟨⟨_, pc⟩, _, rfl⟩ := Option.map_eq_some_iff.mp taken
    cases pc <;> rfl
  · cases taken

theorem step_again {cfg : Config} {retryTimes : Int} {state after : State} {action : Action}
    (none : retryTimes ≤ 0) (before : ∀ call ∈ state.calls, inAgain call = false)
    (taken : step cfg retryTimes state action = some after) :
    ∀ call ∈ after.calls, inAgain call = false := by
  have replaced : ∀ (id : Nat) (next : Deduct), inAgain next = false →
      ∀ call ∈ state.calls.set id next, inAgain call = false := by
    intro id next quiet call member
    rcases List.mem_or_eq_of_mem_set member with old | rfl
    · exact before call old
    · exact quiet
  cases action with
  | request id =>
      dsimp only [step] at taken
      split at taken
      · obtain rfl := Option.some.inj taken
        exact replaced id _ rfl
      · cases taken
  | call id answer =>
      obtain ⟨call, found, rest⟩ := Option.bind_eq_some_iff.mp taken
      obtain ⟨moved, stepped, rfl⟩ := Option.map_eq_some_iff.mp rest
      have outside := before call (List.mem_of_getElem? found)
      exact replaced id moved.2 (deduct_step_again none outside stepped)
  | rebuild id answer =>
      obtain ⟨rebuild, _, rest⟩ := Option.bind_eq_some_iff.mp taken
      obtain ⟨moved, _, rfl⟩ := Option.map_eq_some_iff.mp rest
      exact before
  | recycle reads =>
      dsimp only [step] at taken
      split at taken
      · obtain rfl := Option.some.inj taken
        exact before
      · cases taken
  | wait ticks =>
      obtain rfl := Option.some.inj taken
      exact before

theorem not_all_waiting_of_few {cfg : Config} {retryTimes clock : Int} {concurrent : Nat}
    (few : (concurrent : Int) < cfg.maxSize) {state : State}
    (reached : Reachable (step cfg retryTimes) (launched cfg clock concurrent) state) :
    ¬AllWaiting cfg state := by
  have length : state.calls.length = concurrent := by
    apply reachable_invariant (fun state => state.calls.length = concurrent) _ _ reached
    · exact List.length_replicate
    · intro before action after same taken
      rw [length_step taken]
      exact same
  intro waiting
  have most : state.calls.countP waits ≤ state.calls.length := List.countP_le_length
  unfold AllWaiting at waiting
  omega

theorem not_all_waiting_of_none {cfg : Config} {retryTimes clock : Int} {concurrent : Nat}
    (positive : 1 ≤ cfg.maxSize) (none : retryTimes ≤ 0) {state : State}
    (reached : Reachable (step cfg retryTimes) (launched cfg clock concurrent) state) :
    ¬AllWaiting cfg state := by
  have outside : ∀ call ∈ state.calls, inAgain call = false := by
    apply reachable_invariant (fun state => ∀ call ∈ state.calls, inAgain call = false) _ _ reached
    · intro call member
      rw [List.eq_of_mem_replicate member]
      rfl
    · intro before action after quiet taken
      exact step_again none quiet taken
  have zero : state.calls.countP waits = 0 := by
    apply List.countP_eq_zero.mpr
    intro call member waiting
    have quiet := outside call member
    cases call with
    | again conn attempt pc => cases quiet
    | _ => cases waiting
  unfold AllWaiting
  omega

/-- All connections of the pool can be held by calls that wait for another one if and only
if there are at least as many calls as connections and `rollback_redis` makes an attempt.
`creates` is for the runs that get there: without it the pool does not grow. -/
theorem never_all_waiting_iff (cfg : Config) (retryTimes clock : Int) (concurrent : Nat)
    (positive : 1 ≤ cfg.maxSize) (creates : 1 ≤ cfg.opNum) :
    (∀ state, Reachable (step cfg retryTimes) (launched cfg clock concurrent) state →
      ¬AllWaiting cfg state) ↔ (concurrent : Int) < cfg.maxSize ∨ retryTimes ≤ 0 := by
  constructor
  · intro never
    by_contra enough
    obtain ⟨many, retries⟩ := not_or.mp enough
    obtain ⟨state, reached, waiting⟩ := exists_all_waiting clock positive creates
      (Int.not_le.mp retries) (Int.not_lt.mp many)
    exact never state reached waiting
  · rintro (few | none)
    · exact fun _ reached => not_all_waiting_of_few few reached
    · exact fun _ reached => not_all_waiting_of_none positive none reached

def poolOf (limit : Nat) : Config where
  minSize := 0
  maxSize := limit
  maxIdleTime := 180
  opNum := 4
  ordered := ⟨Int.le_refl 0, Int.natCast_nonneg limit⟩

/-- One call of a pool of two never waits with all connections. -/
theorem never_all_waiting_single :
    1 ≤ (poolOf 2).maxSize ∧ 1 ≤ (poolOf 2).opNum ∧
      ∀ state, Reachable (step (poolOf 2) 3) (launched (poolOf 2) 0 1) state →
        ¬AllWaiting (poolOf 2) state := by
  have positive : 1 ≤ (poolOf 2).maxSize := by decide
  have creates : 1 ≤ (poolOf 2).opNum := by decide
  exact ⟨positive, creates,
    (never_all_waiting_iff (poolOf 2) 3 0 1 positive creates).mpr (.inl (by decide))⟩

/-- One call borrows the only connection, deducts in Redis, fails in MySQL and asks for a
connection to take the deduction back. -/
def lonelyCompensation : List Action :=
  [.request 0, .call 0 (.pool .go), .call 0 (.pool .go), .call 0 (.pool (.created true 0)),
    .call 0 (.pool .go), .call 0 (.pool .go), .call 0 (.pool .go),
    .call 0 (.script .deductSuccess), .call 0 (.mysql .failed), .call 0 .go,
    .call 0 (.pool .go), .call 0 (.pool .go), .call 0 (.pool .go)]

theorem lonely_compensation_waits :
    ∃ last, exec (step (poolOf 1) 3) (launched (poolOf 1) 0 1) lonelyCompensation = some last ∧
      last.calls = [.again 0 0 .waiting] ∧ last.pool.connQueue = [] ∧
        last.pool.currentSize = (poolOf 1).maxSize ∧ AllWaiting (poolOf 1) last := by
  obtain ⟨last, executed, checked⟩ := exec_checked (step (poolOf 1) 3) (launched (poolOf 1) 0 1)
    lonelyCompensation
    (fun last => decide (last.calls = [.again 0 0 .waiting] ∧ last.pool.connQueue = [] ∧
      last.pool.currentSize = 1)) (by decide)
  obtain ⟨calls, queue, size⟩ := of_decide_eq_true checked
  refine ⟨last, executed, calls, queue, size, ?_⟩
  unfold AllWaiting
  rw [calls]
  decide

end BackendComponents.Inventory.Compensation
