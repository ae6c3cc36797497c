import BackendComponents.DatabasePool.Accounting

/-!
# The database pool from `init` to `shutdown` and back

Sequences of whole calls. `shutdown` deletes what is idle and sets `m_current_size` to
zero; the guards that are out keep their connections and give them back later, into
whatever the pool is then.
-/

namespace BackendComponents.DatabasePool.Lifecycle

open BackendComponents.Lib.Books
open BackendComponents.Lib.Paths
open BackendComponents.DatabasePool.Model hiding State Action step
open BackendComponents.DatabasePool.Sweeping (pushesBack recycle_initialized)
open BackendComponents.DatabasePool.Accounting

set_option autoImplicit false

/-- The pool with its settings, and the guards by what they give back when they end. -/
structure Service where
  cfg : Config
  pool : Pool
  guards : List (Option Conn)
  deriving DecidableEq, Repr

/-- The first form of `init` leaves the sizes as they are. -/
inductive Call
  | init (sizes : Option Config)
  | getConnection
  | release (guard : Nat) (valid : Bool)
  | recycle (reads : List Entry)
  | wait (ticks : Nat)
  | shutdown
  deriving DecidableEq, Repr

def init (factory : Factory) (sizes : Option Config) (service : Service) : Service :=
  let cfg := sizes.getD service.cfg
  { service with
    cfg := cfg
    pool := (sourceConnections cfg factory { service.pool with initialized := true }).1 }

/-- A call of `get_connection` with no other one going on, so that its wait finds nothing. -/
def borrow (cfg : Config) (factory : Factory) (pool : Pool) : Pool × Caller :=
  match getConnection cfg factory 0 pool with
  | (blocked, .waiting) => afterWait true { blocked with waiting := blocked.waiting.erase 0 }
  | result => result

/-- `get_connection` returns a guard unless the factory throws. -/
def newGuard : Caller → List (Option Conn)
  | .idle => []
  | caller => [held caller]

def shutdown (pool : Pool) : Pool :=
  { pool with
    connQueue := []
    destroyed := pool.destroyed ++ pool.connQueue.map Entry.conn
    currentSize := 0
    initialized := false }

def step (factory : Factory) (service : Service) : Call → Option Service
  | .init sizes => some (init factory sizes service)
  | .getConnection =>
      let borrowed := borrow service.cfg factory service.pool
      some { service with
        pool := borrowed.1, guards := service.guards ++ newGuard borrowed.2 }
  | .release guard valid =>
      match service.guards[guard]? with
      | some (some conn) =>
          (returnConnection conn 0 valid service.pool).map fun pool =>
            { service with pool := pool, guards := service.guards.set guard none }
      | some none => some service
      | none => none
  | .recycle reads =>
      some { service with pool := recycleIdleConnections service.cfg reads service.pool }
  | .wait ticks =>
      some { service with pool := { service.pool with clock := service.pool.clock + ticks } }
  | .shutdown => some { service with pool := shutdown service.pool }

/-- The constructor; `hardware` is the number of processors. -/
def constructed (hardware : Nat) (clock : Int) : Service where
  cfg := { minSize := hardware, maxSize := hardware * 2, maxIdleTime := 60 * 3, opNum := 4 }
  pool := { emptyPool clock with initialized := false }
  guards := []

def depot (service : Service) : Depot where
  stock := stock service.pool
  limit := service.cfg.maxSize
  running := service.pool.initialized
  holders := service.guards

/-- How many of `count` calls of the factory return before one throws. -/
def createdBeforeThrow (factory : Factory) : Nat → Nat → Nat
  | _, 0 => 0
  | attempt, count + 1 =>
      if factory attempt then createdBeforeThrow factory (attempt + 1) count + 1 else 0

/-- Nobody has a connection when the pool is shut down, and an `init` makes no more than
there is room for. -/
def keepsBooks (factory : Factory) (service : Service) : Call → Prop
  | .init sizes =>
      let cfg := sizes.getD service.cfg
      ((depot service).existing : Int) +
        createdBeforeThrow factory service.pool.attempts cfg.minSize.toNat ≤ cfg.maxSize
  | .shutdown => lent id service.guards = 0
  | _ => True

instance (factory : Factory) (service : Service) :
    (call : Call) → Decidable (keepsBooks factory service call)
  | .init _ => Int.decLe _ _
  | .shutdown => Nat.decEq _ _
  | .getConnection | .release _ _ | .recycle _ | .wait _ => isTrue True.intro

/-- No entry that has been popped is read. -/
def readsLive (service : Service) : Call → Bool
  | .recycle _ => !pushesBack service.cfg service.pool
  | _ => true

theorem created_size (factory : Factory) (count : Nat) (pool : Pool) :
    (createConnections factory count pool).1.currentSize =
      pool.currentSize + createdBeforeThrow factory pool.attempts count := by
  induction count generalizing pool with
  | zero => exact (Int.add_zero _).symm
  | succ count ih =>
      unfold createConnections createdBeforeThrow
      split
      · rw [ih]
        dsimp only [pushConnection]
        push_cast
        omega
      · exact (Int.add_zero _).symm

theorem balance_borrow (cfg : Config) (factory : Factory) (pool : Pool) :
    Balance factory pool none (borrow cfg factory pool).1 (held (borrow cfg factory pool).2) := by
  have got := balance_get cfg factory 0 pool
  unfold borrow
  split
  · next blocked waits =>
      rw [waits] at got
      apply balance_trans got
      exact balance_wait factory true { blocked with waiting := blocked.waiting.erase 0 }
  · exact got

theorem wait_size (timedOut : Bool) (pool : Pool) :
    (afterWait timedOut pool).1.currentSize = pool.currentSize := by
  unfold afterWait
  split
  · rfl
  · rw [take_size]
    rfl

theorem borrow_bounded {cfg : Config} (factory : Factory) {pool : Pool}
    (bounded : pool.currentSize ≤ cfg.maxSize) :
    (borrow cfg factory pool).1.currentSize ≤ cfg.maxSize := by
  have got := get_bounded factory 0 bounded
  unfold borrow
  split
  · next blocked waits =>
      rw [waits] at got
      rw [wait_size]
      exact got
  · exact got

theorem take_initialized (pool : Pool) {otherwise : Pool × Caller}
    (same : otherwise.1.initialized = pool.initialized) :
    (takeFront pool otherwise).1.initialized = pool.initialized := by
  unfold takeFront
  split
  · exact same
  · rfl

theorem borrow_initialized (cfg : Config) (factory : Factory) (pool : Pool) :
    (borrow cfg factory pool).1.initialized = pool.initialized := by
  have got : (getConnection cfg factory 0 pool).1.initialized = pool.initialized := by
    unfold getConnection
    split
    · rfl
    · have grown := (growth_get cfg factory pool).initialized
      dsimp only
      split
      · rw [take_initialized]
        · exact grown
        · rfl
      · exact grown
  unfold borrow
  split
  · next blocked waits =>
      rw [waits] at got
      unfold afterWait
      split
      · exact got
      · rw [take_initialized]
        · exact got
        · rfl
  · exact got

theorem borrow_refused {cfg : Config} {factory : Factory} {pool : Pool}
    (off : pool.initialized = false) : (borrow cfg factory pool).1 = pool := by
  have refused : getConnection cfg factory 0 pool = (pool, .holding none) := by
    unfold getConnection
    rw [if_pos off]
  unfold borrow
  rw [refused]

theorem trade_borrow (factory : Factory) (service : Service) :
    Trade factory (depot service)
      (depot { service with
        pool := (borrow service.cfg factory service.pool).1
        guards := service.guards ++ newGuard (borrow service.cfg factory service.pool).2 }) 0 := by
  have balance := balance_borrow service.cfg factory service.pool
  have stopped : (borrow service.cfg factory service.pool).1.initialized = false →
      service.pool.initialized = false ∧
        (borrow service.cfg factory service.pool).1.currentSize ≤ service.pool.currentSize := by
    rw [borrow_initialized]
    intro off
    rw [borrow_refused off]
    exact ⟨off, Int.le_refl _⟩
  cases result : (borrow service.cfg factory service.pool).2 with
  | idle =>
      rw [result] at balance
      unfold newGuard
      rw [List.append_nil]
      exact trade_inside balance stopped
  | _ =>
      rw [result] at balance
      exact trade_new balance stopped

theorem trade_release {factory : Factory} {service : Service} {guard : Nat} {conn : Conn}
    {valid : Bool} {pool : Pool} (found : service.guards[guard]? = some (some conn))
    (given : returnConnection conn 0 valid service.pool = some pool) :
    Trade factory (depot service)
      (depot { service with pool := pool, guards := service.guards.set guard none }) 0 := by
  cases valid with
  | true =>
      obtain ⟨waiting, _, rfl⟩ := Option.map_eq_some_iff.mp given
      exact trade_back found (balance_enqueue factory service.pool ⟨conn, service.pool.clock⟩)
        fun off => ⟨off, Int.le_refl _⟩
  | false =>
      obtain rfl := Option.some.inj given
      have less : service.pool.currentSize - 1 ≤ service.pool.currentSize := by omega
      exact trade_back found (balance_discard factory service.pool conn) fun off => ⟨off, less⟩

theorem trade_init (factory : Factory) (sizes : Option Config) (service : Service) :
    Trade factory (depot service) (depot (init factory sizes service)) 0 := by
  have growth := growth_create factory (sizes.getD service.cfg).minSize.toNat
    { service.pool with initialized := true }
  have stopped : (init factory sizes service).pool.initialized = false →
      service.pool.initialized = false ∧
        (init factory sizes service).pool.currentSize ≤ service.pool.currentSize := by
    have on : (init factory sizes service).pool.initialized = true := growth.initialized
    rw [on]
    intro impossible
    cases impossible
  exact trade_inside growth.balance stopped

theorem trade_recycle (factory : Factory) {service : Service} (reads : List Entry)
    (kept : pushesBack service.cfg service.pool = false) :
    Trade factory (depot service)
      (depot { service with pool := recycleIdleConnections service.cfg reads service.pool }) 0 := by
  have stopped : (recycleIdleConnections service.cfg reads service.pool).initialized = false →
      service.pool.initialized = false ∧
        (recycleIdleConnections service.cfg reads service.pool).currentSize ≤
          service.pool.currentSize := by
    rw [recycle_initialized]
    intro off
    exact ⟨off, recycle_less service.cfg reads service.pool⟩
  exact trade_inside (balance_recycle factory reads kept) stopped

/-- What a call other than `shutdown` does to the books. -/
theorem trade_step {factory : Factory} {service after : Service} {call : Call}
    (taken : step factory service call = some after) (live : readsLive service call = true)
    (running : call ≠ .shutdown) : Trade factory (depot service) (depot after) 0 := by
  cases call with
  | init sizes =>
      obtain rfl := Option.some.inj taken
      exact trade_init factory sizes service
  | getConnection =>
      obtain rfl := Option.some.inj taken
      exact trade_borrow factory service
  | release guard valid =>
      dsimp only [step] at taken
      split at taken
      · next conn found =>
          obtain ⟨pool, given, rfl⟩ := Option.map_eq_some_iff.mp taken
          exact trade_release found given
      · obtain rfl := Option.some.inj taken
        exact trade_refl factory (depot service)
      · cases taken
  | recycle reads =>
      obtain rfl := Option.some.inj taken
      have kept : pushesBack service.cfg service.pool = false := by simpa [readsLive] using live
      exact trade_recycle factory reads kept
  | wait ticks =>
      obtain rfl := Option.some.inj taken
      exact trade_refl factory (depot service)
  | shutdown => exact absurd rfl running

theorem shutdown_closes {factory : Factory} {service after : Service}
    (taken : step factory service .shutdown = some after) :
    depot after = (depot service).close := by
  obtain rfl := Option.some.inj taken
  rfl

theorem kept_step {factory : Factory} {service after : Service} {call : Call}
    (kept : Kept factory (depot service)) (live : readsLive service call = true)
    (taken : step factory service call = some after) : Kept factory (depot after) := by
  by_cases stops : call = .shutdown
  · subst stops
    rw [shutdown_closes taken]
    exact kept_close kept
  · exact kept_trade kept (trade_step taken live stops)

theorem bounded_step_iff {factory : Factory} {service after : Service} {call : Call}
    (lawful : Lawful factory (depot service)) (taken : step factory service call = some after)
    (running : call ≠ .shutdown) :
    after.pool.currentSize ≤ after.cfg.maxSize ↔ keepsBooks factory service call := by
  have counted : service.pool.currentSize = (depot service).existing := lawful.counted
  have bounded : service.pool.currentSize ≤ service.cfg.maxSize := by
    rw [counted]
    exact lawful.bounded
  cases call with
  | init sizes =>
      obtain rfl := Option.some.inj taken
      dsimp only [init, sourceConnections, keepsBooks]
      rw [created_size, counted]
  | getConnection =>
      obtain rfl := Option.some.inj taken
      exact iff_of_true (borrow_bounded factory bounded) True.intro
  | release guard valid =>
      dsimp only [step] at taken
      split at taken
      · obtain ⟨pool, given, rfl⟩ := Option.map_eq_some_iff.mp taken
        apply iff_of_true _ True.intro
        cases valid with
        | true =>
            obtain ⟨waiting, _, rfl⟩ := Option.map_eq_some_iff.mp given
            exact bounded
        | false =>
            obtain rfl := Option.some.inj given
            dsimp only
            omega
      · obtain rfl := Option.some.inj taken
        exact iff_of_true bounded True.intro
      · cases taken
  | recycle reads =>
      obtain rfl := Option.some.inj taken
      have less := recycle_less service.cfg reads service.pool
      exact iff_of_true (Int.le_trans less bounded) True.intro
  | wait ticks =>
      obtain rfl := Option.some.inj taken
      exact iff_of_true bounded True.intro
  | shutdown => exact absurd rfl running

theorem lawful_step_iff {factory : Factory} {service after : Service} {call : Call}
    (kept : Kept factory (depot service)) (lawful : Lawful factory (depot service))
    (live : readsLive service call = true) (taken : step factory service call = some after) :
    Lawful factory (depot after) ↔ keepsBooks factory service call := by
  by_cases stops : call = .shutdown
  · subst stops
    rw [shutdown_closes taken]
    exact lawful_close_iff kept lawful
  · rw [lawful_trade_iff kept lawful (trade_step taken live stops),
      ← bounded_step_iff lawful taken stops]
    exact and_iff_right rfl

theorem kept_constructed (factory : Factory) (hardware : Nat) (clock : Int) :
    Kept factory (depot (constructed hardware clock)) := by
  constructor
  · intro conn
    simp [stored, made, lentTo, stock, emptyPool, depot, constructed]
  · intro _
    exact Int.le_refl 0

theorem lawful_constructed (factory : Factory) (hardware : Nat) (clock : Int) :
    Lawful factory (depot (constructed hardware clock)) := by
  apply (lawful_iff (kept_constructed factory hardware clock)).mpr
  constructor
  · rfl
  · dsimp only [depot, constructed, stock, emptyPool]
    omega

/-- In every history of calls in which no popped entry is read: the books are right
throughout if and only if each shutdown finds no connection with a guard and each `init`
makes no more than there is room for. -/
theorem lawful_iff_keeps_books (factory : Factory) (hardware : Nat) (clock : Int)
    {trail : List (Service × Call)} {last : Service}
    (path : Path (step factory) (constructed hardware clock) trail last)
    (live : ∀ taken ∈ trail, readsLive taken.1 taken.2 = true) :
    (∀ service ∈ visited trail last, Lawful factory (depot service)) ↔
      ∀ taken ∈ trail, keepsBooks factory taken.1 taken.2 := by
  apply path_property_iff_good (fun service => Kept factory (depot service))
    (fun service => Lawful factory (depot service)) (keepsBooks factory)
    (kept_constructed factory hardware clock) (lawful_constructed factory hardware clock) _ _
    (path_restrict path live)
  · intro service call after kept taken
    obtain ⟨alive, stepped⟩ := restrict_cases taken
    exact kept_step kept alive stepped
  · intro service call after kept lawful taken
    obtain ⟨alive, stepped⟩ := restrict_cases taken
    exact lawful_step_iff kept lawful alive stepped

end BackendComponents.DatabasePool.Lifecycle
