import BackendComponents.Lib.Books
import BackendComponents.DatabasePool.Sweeping

/-!
# What the database pool counts

`m_current_size` is raised with each connection pushed and lowered with each one deleted,
so it is the number of connections idle or borrowed, also when the factory throws in the
middle of a batch. Every connection made is in one place: in the queue, with one borrower,
or deleted.
-/

namespace BackendComponents.DatabasePool.Accounting

open BackendComponents.Lib.Books
open BackendComponents.Lib.Paths
open BackendComponents.Lib.Sweeping
open BackendComponents.Lib.Threads
open BackendComponents.DatabasePool.Model
open BackendComponents.DatabasePool.Moves
open BackendComponents.DatabasePool.Sweeping

set_option autoImplicit false

def held : Caller → Option Conn
  | .holding conn => conn
  | .returning conn _ => some conn
  | .idle | .waiting | .relock _ => none

def borrowed (state : State) : Nat := lent held state.callers

/-- What `m_current_size` says in a state; the mutex is free in all of them. -/
structure SizeExact (cfg : Config) (state : State) : Prop where
  counted : state.pool.currentSize = state.pool.connQueue.length + borrowed state
  nonneg : 0 ≤ state.pool.currentSize
  bounded : state.pool.currentSize ≤ cfg.maxSize
  distinct : (state.pool.connQueue.map Entry.conn).Nodup
  alive : ∀ entry ∈ state.pool.connQueue, entry.conn ∉ state.pool.destroyed

def SizeLaw : Prop :=
  ∀ (cfg : Config), 0 ≤ cfg.minSize ∧ cfg.minSize ≤ cfg.maxSize →
    ∀ (factory : Factory) (clock : Int) (state : State),
      Reachable (step cfg factory) (initialised cfg factory clock) state → SizeExact cfg state

/-! ## One section of the mutex -/

/-- The pool as a stock of connections. -/
def stock (pool : Pool) : Stock where
  size := pool.currentSize
  idle := pool.connQueue.map Entry.conn
  gone := pool.destroyed
  attempts := pool.attempts

/-- A section that gets the connection `given` from a caller and hands out `taken`. -/
def Balance (factory : Factory) (pool : Pool) (given : Option Conn) (after : Pool)
    (taken : Option Conn) : Prop :=
  Exchange factory (stock pool) given (stock after) taken 0

theorem balance_refl (factory : Factory) (pool : Pool) (conn : Option Conn) :
    Balance factory pool conn pool conn :=
  exchange_refl factory (stock pool) conn

theorem balance_trans {factory : Factory} {pool middle after : Pool}
    {given between taken : Option Conn} (first : Balance factory pool given middle between)
    (second : Balance factory middle between after taken) :
    Balance factory pool given after taken :=
  exchange_trans first second

theorem stock_enqueue (pool : Pool) (entry : Entry) :
    stock { pool with connQueue := pool.connQueue ++ [entry] } = (stock pool).put entry.conn := by
  unfold stock Stock.put
  rw [List.map_append, List.map_singleton]

theorem stock_push (pool : Pool) :
    stock (pushConnection pool) = (stock pool).attempt true 1 := by
  unfold stock Stock.attempt pushConnection
  rw [List.map_append, List.map_singleton, if_pos rfl]

theorem balance_push {factory : Factory} {pool : Pool} (returns : factory pool.attempts = true) :
    Balance factory pool none (pushConnection pool) none := by
  unfold Balance
  rw [stock_push]
  exact exchange_attempt returns rfl

theorem balance_throw {factory : Factory} {pool : Pool} (throws : factory pool.attempts = false) :
    Balance factory pool none { pool with attempts := pool.attempts + 1 } none := by
  have same : stock { pool with attempts := pool.attempts + 1 } =
      (stock pool).attempt false 0 := by
    unfold stock Stock.attempt
    rw [Int.add_zero, if_neg Bool.false_ne_true]
  unfold Balance
  rw [same]
  exact exchange_attempt throws rfl

/-- What the loop over the factory keeps. -/
structure Growth (factory : Factory) (pool : Pool) (count : Nat) (after : Pool) : Prop where
  balance : Balance factory pool none after none
  upper : after.currentSize ≤ pool.currentSize + count
  initialized : after.initialized = pool.initialized

theorem growth_refl (factory : Factory) (pool : Pool) (count : Nat) :
    Growth factory pool count pool := by
  constructor
  · exact balance_refl _ _ _
  · omega
  · rfl

theorem growth_create (factory : Factory) (count : Nat) (pool : Pool) :
    Growth factory pool count (createConnections factory count pool).1 := by
  induction count generalizing pool with
  | zero => exact growth_refl factory pool 0
  | succ count ih =>
      unfold createConnections
      split
      · next returns =>
          have later := ih (pushConnection pool)
          have pushed : (pushConnection pool).currentSize = pool.currentSize + 1 := rfl
          have upper := later.upper
          constructor
          · exact balance_trans (balance_push returns) later.balance
          · push_cast
            omega
          · exact later.initialized
      · next throws =>
          constructor
          · exact balance_throw (Bool.eq_false_iff.mpr throws)
          · dsimp only
            omega
          · rfl

theorem growth_expand (cfg : Config) (factory : Factory) (pool : Pool) :
    Growth factory pool (cfg.maxSize - pool.currentSize).toNat
      (expandConnections cfg factory pool).1 := by
  unfold expandConnections
  dsimp only
  split
  · exact growth_refl factory pool _
  · have grown := growth_create factory (min (cfg.maxSize - pool.currentSize) cfg.opNum).toNat pool
    have upper := grown.upper
    exact ⟨grown.balance, by omega, grown.initialized⟩

theorem growth_get (cfg : Config) (factory : Factory) (pool : Pool) :
    Growth factory pool (cfg.maxSize - pool.currentSize).toNat
      (expandWhenEmpty cfg factory pool).1 := by
  unfold expandWhenEmpty
  split
  · exact growth_expand cfg factory pool
  · exact growth_refl factory pool _

theorem balance_take (factory : Factory) (pool : Pool) {otherwise : Pool × Caller}
    (empty : Balance factory pool none otherwise.1 (held otherwise.2)) :
    Balance factory pool none (takeFront pool otherwise).1
      (held (takeFront pool otherwise).2) := by
  unfold takeFront
  split
  · exact empty
  · next entry rest front =>
      have first : (stock pool).idle = entry.conn :: rest.map Entry.conn := by
        unfold stock
        rw [front, List.map_cons]
      exact exchange_take factory first

theorem balance_get (cfg : Config) (factory : Factory) (id : Nat) (pool : Pool) :
    Balance factory pool none (getConnection cfg factory id pool).1
      (held (getConnection cfg factory id pool).2) := by
  unfold getConnection
  split
  · exact balance_refl _ _ _
  · have grown := (growth_get cfg factory pool).balance
    dsimp only
    split
    · apply balance_trans grown
      apply balance_take
      exact balance_refl _ _ _
    · exact grown

theorem balance_wait (factory : Factory) (timedOut : Bool) (pool : Pool) :
    Balance factory pool none (afterWait timedOut pool).1 (held (afterWait timedOut pool).2) := by
  unfold afterWait
  split
  · exact balance_refl _ _ _
  · apply balance_take
    exact balance_refl _ _ _

theorem balance_enqueue (factory : Factory) (pool : Pool) (entry : Entry) :
    Balance factory pool (some entry.conn)
      { pool with connQueue := pool.connQueue ++ [entry] } none := by
  unfold Balance
  rw [stock_enqueue]
  exact exchange_put factory (stock pool) entry.conn

theorem balance_discard (factory : Factory) (pool : Pool) (conn : Conn) :
    Balance factory pool (some conn) (destroyConnection conn pool) none :=
  exchange_discard factory (stock pool) conn

theorem balance_recycle {cfg : Config} (factory : Factory) {pool : Pool} (reads : List Entry)
    (kept : pushesBack cfg pool = false) :
    Balance factory pool none (recycleIdleConnections cfg reads pool) none := by
  have moved : ((pool.connQueue.take (excessIn cfg pool)).map Entry.conn ++
      (pool.connQueue.drop (excessIn cfg pool)).map Entry.conn).Perm (stock pool).idle := by
    rw [← List.map_append, List.take_append_drop]
    rfl
  have retired := exchange_retire_all factory (stock pool) moved
  rw [List.length_map] at retired
  rw [recycle_kept reads kept]
  exact retired

theorem recycle_less (cfg : Config) (reads : List Entry) (pool : Pool) :
    (recycleIdleConnections cfg reads pool).currentSize ≤ pool.currentSize := by
  rw [recycle_size]
  omega

/-! ## The invariant -/

structure Accounts (cfg : Config) (factory : Factory) (state : State) : Prop where
  size : state.pool.currentSize = state.pool.connQueue.length + borrowed state
  placed : Placed held factory (stock state.pool) state.callers
  bounded : state.pool.currentSize ≤ cfg.maxSize

theorem move_balance {cfg : Config} {factory : Factory} {pool after : Pool} {action : Action}
    {caller moved : Caller} (move : CallerMove cfg factory pool action caller after moved) :
    Balance factory pool (held caller) after (held moved) := by
  cases move with
  | call id => exact balance_get cfg factory id pool
  | wake id timedOut => exact balance_refl _ _ _
  | resume id timedOut => exact balance_wait factory timedOut pool
  | drop id valid => exact balance_refl _ _ _
  | release id conn valid => exact balance_refl _ _ _
  | push id waiter conn waiting _ => exact balance_enqueue factory pool ⟨conn, pool.clock⟩
  | discard id waiter conn => exact balance_discard factory pool conn

theorem take_size (pool : Pool) {otherwise : Pool × Caller}
    (same : otherwise.1.currentSize = pool.currentSize) :
    (takeFront pool otherwise).1.currentSize = pool.currentSize := by
  unfold takeFront
  split
  · exact same
  · rfl

theorem get_bounded {cfg : Config} (factory : Factory) (id : Nat) {pool : Pool}
    (bounded : pool.currentSize ≤ cfg.maxSize) :
    (getConnection cfg factory id pool).1.currentSize ≤ cfg.maxSize := by
  unfold getConnection
  split
  · exact bounded
  · have upper := (growth_get cfg factory pool).upper
    have within : (expandWhenEmpty cfg factory pool).1.currentSize ≤ cfg.maxSize := by omega
    dsimp only
    split
    · rw [take_size]
      · exact within
      · rfl
    · exact within

theorem move_bounded {cfg : Config} {factory : Factory} {pool after : Pool} {action : Action}
    {caller moved : Caller} (move : CallerMove cfg factory pool action caller after moved)
    (bounded : pool.currentSize ≤ cfg.maxSize) : after.currentSize ≤ cfg.maxSize := by
  cases move with
  | call id => exact get_bounded factory id bounded
  | wake id timedOut => exact bounded
  | resume id timedOut =>
      unfold afterWait
      split
      · exact bounded
      · rw [take_size]
        · exact bounded
        · rfl
  | drop id valid => exact bounded
  | release id conn valid => exact bounded
  | push id waiter conn waiting _ => exact bounded
  | discard id waiter conn =>
      dsimp only
      omega

theorem balance_size {factory : Factory} {pool after : Pool} {given taken : Option Conn}
    (balance : Balance factory pool given after taken) :
    after.currentSize - after.connQueue.length + indicator given.isSome =
      pool.currentSize - pool.connQueue.length + indicator taken.isSome := by
  have shift := balance.size
  unfold stock at shift
  simp only [List.length_map] at shift
  omega

theorem accounts_pool {cfg : Config} {factory : Factory} {state : State} {pool : Pool}
    (accounts : Accounts cfg factory state) (balance : Balance factory state.pool none pool none)
    (bounded : pool.currentSize ≤ cfg.maxSize) :
    Accounts cfg factory { state with pool := pool } := by
  constructor
  · have counted := accounts.size
    have shift := balance_size balance
    unfold borrowed at *
    dsimp only
    omega
  · exact placed_inside accounts.placed balance
  · exact bounded

theorem accounts_move {cfg : Config} {factory : Factory} {state after : State} {action : Action}
    (accounts : Accounts cfg factory state) (live : readsLive cfg state action = true)
    (move : Move cfg factory state action after) : Accounts cfg factory after := by
  cases move with
  | arrive =>
      constructor
      · dsimp only [borrowed]
        rw [lent_snoc]
        exact accounts.size
      · exact placed_new accounts.placed (exchange_refl _ _ _)
      · exact accounts.bounded
  | recycle reads =>
      have kept : pushesBack cfg state.pool = false := by simpa [readsLive] using live
      apply accounts_pool accounts (balance_recycle factory reads kept)
      exact Int.le_trans (recycle_less cfg reads state.pool) accounts.bounded
  | wait ticks => exact accounts_pool accounts (balance_refl _ _ _) accounts.bounded
  | caller action id caller moved _ found stepped =>
      have move := caller_move_of_step stepped
      have balance := move_balance move
      constructor
      · have counts := lent_set held found moved.2
        have counted := accounts.size
        have shift := balance_size balance
        dsimp only [borrowed, moveCaller] at *
        omega
      · exact placed_exchange accounts.placed found balance
      · exact move_bounded move accounts.bounded

theorem accounts_initialised {cfg : Config} (factory : Factory) (clock : Int)
    (ordered : 0 ≤ cfg.minSize ∧ cfg.minSize ≤ cfg.maxSize) :
    Accounts cfg factory (initialised cfg factory clock) := by
  have growth := growth_create factory cfg.minSize.toNat (emptyPool clock)
  have start : Accounts cfg factory { pool := emptyPool clock, callers := [] } := by
    constructor
    · rfl
    · intro conn
      simp [stored, made, lentTo, stock, emptyPool]
    · dsimp only [emptyPool]
      omega
  apply accounts_pool start growth.balance
  have upper := growth.upper
  have zero : (emptyPool clock).currentSize = 0 := rfl
  omega

theorem accounts_visited {cfg : Config} {factory : Factory} {clock : Int}
    (ordered : 0 ≤ cfg.minSize ∧ cfg.minSize ≤ cfg.maxSize) {trail : List (State × Action)}
    {last : State} (path : Path (step cfg factory) (initialised cfg factory clock) trail last)
    (live : ∀ taken ∈ trail, readsLive cfg taken.1 taken.2 = true) :
    ∀ state ∈ visited trail last, Accounts cfg factory state :=
  path_invariant_of_good (Accounts cfg factory)
    (fun state action => readsLive cfg state action = true)
    (accounts_initialised factory clock ordered)
    (fun _ _ _ accounts live taken => accounts_move accounts live (move_of_step taken)) path live

theorem size_exact_of_accounts {cfg : Config} {factory : Factory} {state : State}
    (accounts : Accounts cfg factory state) : SizeExact cfg state := by
  constructor
  · exact accounts.size
  · have counted := accounts.size
    omega
  · exact accounts.bounded
  · exact idle_nodup accounts.placed
  · intro entry member
    exact idle_not_gone accounts.placed (List.mem_map_of_mem member)

/-- After `init`, in every state of every run in which no popped entry is read, and for every
choice of the calls of the factory that throw. -/
theorem database_size_exact (cfg : Config) (ordered : 0 ≤ cfg.minSize ∧ cfg.minSize ≤ cfg.maxSize)
    (factory : Factory) (clock : Int) {trail : List (State × Action)} {last : State}
    (path : Path (step cfg factory) (initialised cfg factory clock) trail last)
    (live : ∀ taken ∈ trail, readsLive cfg taken.1 taken.2 = true) :
    ∀ state ∈ visited trail last, SizeExact cfg state :=
  fun state member => size_exact_of_accounts (accounts_visited ordered path live state member)

def fourAtATime : Config where
  minSize := 1
  maxSize := 4
  maxIdleTime := 60
  opNum := 4

/-- The factory throws in the middle of a batch; of two borrowed connections one comes back
invalid, and the recycler takes two. -/
theorem database_size_exact_throwing :
    ∃ last, exec (step fourAtATime fun attempt => attempt != 2)
        (initialised fourAtATime (fun attempt => attempt != 2) 0)
        [.arrive, .arrive, .call 0, .call 1, .call 1, .release 0 false, .giveBack 0 0, .call 0,
          .release 0 true, .release 1 true, .giveBack 1 0, .giveBack 0 0, .wait 60000000000,
          .recycle []] = some last ∧
      SizeExact fourAtATime last ∧ last.pool.currentSize = 1 := by
  obtain ⟨last, executed, checked⟩ := exec_checked (step fourAtATime fun attempt => attempt != 2)
    (initialised fourAtATime (fun attempt => attempt != 2) 0)
    [.arrive, .arrive, .call 0, .call 1, .call 1, .release 0 false, .giveBack 0 0, .call 0,
      .release 0 true, .release 1 true, .giveBack 1 0, .giveBack 0 0, .wait 60000000000,
      .recycle []]
    (fun last => decide (last.pool.currentSize = 1)) (by decide)
  refine ⟨last, executed, ?_, of_decide_eq_true checked⟩
  exact database_size_exact fourAtATime (by decide) _ 0 (path_of_exec executed) (by decide) last
    (by simp [visited])

/-- Two young connections are idle when the recycler runs, and the first read through the
reference to what it has popped yields the other one. -/
def readAnother : List Action :=
  [.arrive, .call 0, .release 0 true, .giveBack 0 0, .recycle [⟨0, 0⟩]]

def upToTwo : Config where
  minSize := 0
  maxSize := 2
  maxIdleTime := 60
  opNum := 2

/-- One connection is then in the queue twice, and the other one is lost. -/
theorem popped_entry_read : ¬SizeLaw := by
  intro law
  obtain ⟨last, executed, checked⟩ := exec_checked (step upToTwo fun _ => true)
    (initialised upToTwo (fun _ => true) 0) readAnother
    (fun last => decide (last.pool.connQueue.map Entry.conn = [0, 0])) (by decide)
  have distinct := (law upToTwo (by decide) (fun _ => true) 0 last
    (reachable_of_exec executed)).distinct
  rw [of_decide_eq_true checked] at distinct
  cases distinct with
  | cons apart _ => exact apart 0 List.mem_cons_self rfl

end BackendComponents.DatabasePool.Accounting
