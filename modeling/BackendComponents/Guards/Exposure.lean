import BackendComponents.DatabasePool.Accounting
import BackendComponents.Guards.Classes

/-!
# Who can reach a database connection

The database pool together with the guards it hands out. `release` gives the connection
back and keeps the pointer, and `get` looks at neither `m_released` nor the pool. So a
guard that has been released still reaches its connection, which the pool hands to somebody
else or deletes.
-/

namespace BackendComponents.Guards.Exposure

open BackendComponents.Lib.Books
open BackendComponents.Lib.Guards (AtGuard at_guard_iff Call)
open BackendComponents.Lib.Paths
open BackendComponents.Lib.Threads
open BackendComponents.DatabasePool.Model hiding State Action step
open BackendComponents.DatabasePool.Sweeping (pushesBack)
open BackendComponents.DatabasePool.Accounting
open BackendComponents.DatabasePool.Moves (CallerMove caller_move_of_step)
open BackendComponents.Guards.Classes

set_option autoImplicit false

abbrev Guard := ConnGuard Unit

/-- `calls` are the threads in `get_connection`; a guard that it returns goes to `guards`. -/
structure State where
  pool : Pool
  calls : List Caller
  guards : List (Option Guard)
  deriving DecidableEq, Repr

/-- `valid` is the answer of `is_valid`, `waiter` the call that a notification reaches. -/
inductive Action
  | arrive
  | borrow (id : Nat) (action : DatabasePool.Model.Action)
  | recycle (reads : List Entry)
  | wait (ticks : Nat)
  | moveConstruct (source : Nat)
  | moveAssign (target source : Nat)
  | release (id : Nat) (valid : Bool) (waiter : Nat)
  | destroy (id : Nat) (valid : Bool) (waiter : Nat)
  deriving DecidableEq, Repr

def asks : DatabasePool.Model.Action → Bool
  | .call _ | .wake _ _ | .resume _ => true
  | _ => false

/-- A guard returned by `get_connection` is a new object. -/
def deliver (state : State) (id : Nat) : Pool × Caller → State
  | (pool, .holding conn) =>
      { pool := pool
        calls := state.calls.set id .idle
        guards := state.guards ++ [some (ConnGuard.construct (some ()) conn)] }
  | (pool, caller) => { state with pool := pool, calls := state.calls.set id caller }

/-- The calls of `release` on the pool; `return_connection` of a null connection does
nothing. -/
def giveBack (valid : Bool) (waiter : Nat) (pool : Pool) : List (Call Unit) → Option Pool
  | [⟨some _, some conn⟩] => returnConnection conn waiter valid pool
  | _ => some pool

def step (cfg : Config) (factory : Factory) (state : State) : Action → Option State
  | .arrive => some { state with calls := state.calls ++ [.idle] }
  | .borrow id action =>
      if asks action = true ∧ actor action = some id then
        (state.calls[id]?).bind fun caller =>
          (callerStep cfg factory state.pool action caller).map (deliver state id)
      else none
  | .recycle reads =>
      some { state with pool := recycleIdleConnections cfg reads state.pool }
  | .wait ticks =>
      some { state with pool := { state.pool with clock := state.pool.clock + ticks } }
  | .moveConstruct source =>
      match state.guards[source]? with
      | some (some guard) => some { state with
          guards := state.guards.set source (some (ConnGuard.moveConstruct guard).2) ++
            [some (ConnGuard.moveConstruct guard).1] }
      | _ => none
  | .moveAssign target source =>
      match state.guards[target]?, state.guards[source]? with
      | some (some this), some (some other) =>
          if target = source then some state
          else some { state with
            guards := (state.guards.set target
              (some (PooledConnGuard.moveAssign this other).2.1)).set source
                (some (PooledConnGuard.moveAssign this other).2.2) }
      | _, _ => none
  | .release id valid waiter =>
      match state.guards[id]? with
      | some (some guard) =>
          (giveBack valid waiter state.pool (PooledConnGuard.release guard).1).map fun pool =>
            { state with
              pool := pool
              guards := state.guards.set id (some (PooledConnGuard.release guard).2) }
      | _ => none
  | .destroy id valid waiter =>
      match state.guards[id]? with
      | some (some guard) =>
          (giveBack valid waiter state.pool (PooledConnGuard.destroy guard)).map fun pool =>
            { state with pool := pool, guards := state.guards.set id none }
      | _ => none

def opened (cfg : Config) (factory : Factory) (clock : Int) : State where
  pool := (initialised cfg factory clock).pool
  calls := []
  guards := []

/-- What a guard reaches is not idle, not destroyed, and not held by another guard. -/
def Exclusive (state : State) : Prop :=
  ∀ (id : Nat) (guard : Guard) (conn : Conn),
    state.guards[id]? = some (some guard) → guard.conn = some conn →
      conn ∉ state.pool.connQueue.map Entry.conn ∧ conn ∉ state.pool.destroyed ∧
        ∀ (other : Nat) (another : Guard), other ≠ id →
          state.guards[other]? = some (some another) → another.owned ≠ some conn

def ExclusiveLaw : Prop :=
  ∀ (cfg : Config) (factory : Factory) (clock : Int) (trail : List (State × Action))
    (last : State), Path (step cfg factory) (opened cfg factory clock) trail last →
      ∀ state ∈ visited trail last, Exclusive state

/-- `release` is called on no guard that still has its connection. -/
def leavesToDestructor (state : State) : Action → Prop
  | .release id _ _ =>
      AtGuard state.guards id fun guard => guard.released = true ∨ guard.conn = none
  | _ => True

instance (state : State) : (action : Action) → Decidable (leavesToDestructor state action)
  | .release id _ _ => inferInstanceAs (Decidable
      (AtGuard state.guards id fun guard => guard.released = true ∨ guard.conn = none))
  | .arrive | .borrow _ _ | .recycle _ | .wait _ | .moveConstruct _ | .moveAssign _ _
  | .destroy _ _ _ => isTrue True.intro

/-- No entry that the recycler has popped is read. -/
def readsLive (cfg : Config) (state : State) : Action → Bool
  | .recycle _ => !pushesBack cfg state.pool
  | _ => true

/-! ## What holds after every run -/

def slotOwned (slot : Option Guard) : Option Conn := slot.bind ConnGuard.owned

/-- The places where a connection is, a guard that has been released not counted. -/
def total (state : State) (conn : Conn) : Nat :=
  stored (stock state.pool) conn + lentTo slotOwned state.guards conn

structure Kept (factory : Factory) (state : State) : Prop where
  placed : ∀ conn, total state conn ≤ made factory (stock state.pool) conn
  known : ∀ (id : Nat) (guard : Guard) (conn : Conn), state.guards[id]? = some (some guard) →
    guard.conn = some conn → conn < state.pool.attempts
  backed : ∀ (id : Nat) (guard : Guard) (conn : Conn), state.guards[id]? = some (some guard) →
    guard.conn = some conn → guard.pool = some ()
  asking : ∀ (id : Nat) (caller : Caller), state.calls[id]? = some caller → held caller = none

/-- A guard that has been released still reaches the connection. -/
def Stale (state : State) (conn : Conn) : Prop :=
  ∃ (id : Nat) (guard : Guard), state.guards[id]? = some (some guard) ∧
    guard.released = true ∧ guard.conn = some conn

theorem slot_owned_conn {guard : Guard} {conn : Conn} (owned : guard.owned = some conn) :
    guard.released = false ∧ guard.conn = some conn := by
  unfold ConnGuard.owned at owned
  split at owned
  · cases owned
  · next unreleased => exact ⟨Bool.eq_false_iff.mpr unreleased, owned⟩

theorem lent_to_pos {guards : List (Option Guard)} {id : Nat} {guard : Guard} {conn : Conn}
    (found : guards[id]? = some (some guard)) (owned : guard.owned = some conn) :
    0 < lentTo slotOwned guards conn := by
  apply List.countP_pos_iff.mpr
  exact ⟨some guard, List.mem_of_getElem? found, decide_eq_true owned⟩

theorem stored_eq_zero_iff (pool : Pool) (conn : Conn) :
    stored (stock pool) conn = 0 ↔
      conn ∉ pool.connQueue.map Entry.conn ∧ conn ∉ pool.destroyed := by
  unfold stored
  rw [Nat.add_eq_zero_iff, List.count_eq_zero, List.count_eq_zero]
  exact Iff.rfl

/-- Under the invariant only the guards that have been released can do harm, and they do
unless their connection is nowhere any more. -/
theorem exclusive_iff {factory : Factory} {state : State} (kept : Kept factory state) :
    Exclusive state ↔ ∀ conn, Stale state conn → total state conn = 0 := by
  constructor
  · rintro exclusive conn ⟨id, guard, found, released, exposed⟩
    obtain ⟨idle, gone, others⟩ := exclusive id guard conn found exposed
    have nowhere := (stored_eq_zero_iff state.pool conn).mpr ⟨idle, gone⟩
    have nobody : lentTo slotOwned state.guards conn = 0 := by
      apply List.countP_eq_zero.mpr
      intro slot member holds
      obtain ⟨other, present⟩ := List.mem_iff_getElem?.mp member
      obtain ⟨another, rfl, owned⟩ := Option.bind_eq_some_iff.mp (of_decide_eq_true holds)
      by_cases same : other = id
      · rw [same, found] at present
        obtain rfl := Option.some.inj (Option.some.inj present)
        rw [(slot_owned_conn owned).1] at released
        cases released
      · exact others other another same present owned
    unfold total
    omega
  · intro harmless id guard conn found exposed
    have few := made_le factory (stock state.pool) conn
    have placed := kept.placed conn
    cases released : guard.released with
    | true =>
        have nowhere := harmless conn ⟨id, guard, found, released, exposed⟩
        unfold total at nowhere
        obtain ⟨idle, gone⟩ := (stored_eq_zero_iff state.pool conn).mp (by omega)
        refine ⟨idle, gone, ?_⟩
        intro other another _ present owned
        have positive := lent_to_pos present owned
        omega
    | false =>
        have owned : guard.owned = some conn := by
          rw [ConnGuard.owned_unreleased released]
          exact exposed
        have positive := lent_to_pos found owned
        unfold total at placed
        obtain ⟨idle, gone⟩ := (stored_eq_zero_iff state.pool conn).mp (by omega)
        refine ⟨idle, gone, ?_⟩
        intro other another different present also
        have here : decide (slotOwned (some guard) = some conn) = true := decide_eq_true owned
        have there : decide (slotOwned (some another) = some conn) = true := decide_eq_true also
        have one : lentTo slotOwned state.guards conn ≤ 1 := by omega
        exact different (lookup_unique one found here present there)

/-- What a step does to the places; a connection may get lost. -/
structure Effect (factory : Factory) (state after : State) : Prop where
  places : ∀ conn, total after conn + made factory (stock state.pool) conn ≤
    total state conn + made factory (stock after.pool) conn
  attempts : state.pool.attempts ≤ after.pool.attempts

theorem effect_total {factory : Factory} {state after : State}
    (effect : Effect factory state after) {conn : Conn} (old : conn < state.pool.attempts) :
    total after conn ≤ total state conn := by
  have shift := effect.places conn
  have same : made factory (stock after.pool) conn = made factory (stock state.pool) conn :=
    made_known factory old effect.attempts
  omega

theorem placed_effect {factory : Factory} {state after : State}
    (effect : Effect factory state after)
    (placed : ∀ conn, total state conn ≤ made factory (stock state.pool) conn) (conn : Conn) :
    total after conn ≤ made factory (stock after.pool) conn := by
  have shift := effect.places conn
  have before := placed conn
  omega

section Effects

variable {factory : Factory} {state : State} {pool : Pool} {calls : List Caller}

theorem effect_inside (balance : Balance factory state.pool none pool none) :
    Effect factory state { state with pool := pool, calls := calls } := by
  constructor
  · intro conn
    have shift := balance.places conn
    rw [is_item_none] at shift
    unfold total
    dsimp only
    omega
  · exact balance.attempts

theorem effect_new {guard : Guard} {taken : Option Conn} (owned : guard.owned = taken)
    (balance : Balance factory state.pool none pool taken) :
    Effect factory state ⟨pool, calls, state.guards ++ [some guard]⟩ := by
  constructor
  · intro conn
    have shift := balance.places conn
    have counts := lent_to_snoc slotOwned state.guards (some guard) conn
    have same : slotOwned (some guard) = taken := owned
    rw [same] at counts
    rw [is_item_none] at shift
    unfold total
    dsimp only
    omega
  · exact balance.attempts

theorem effect_back {id : Nat} {guard : Guard} {slot : Option Guard}
    (found : state.guards[id]? = some (some guard)) (empty : slotOwned slot = none)
    (balance : Balance factory state.pool guard.owned pool none) :
    Effect factory state { state with pool := pool, guards := state.guards.set id slot } := by
  constructor
  · intro conn
    have shift := balance.places conn
    have counts := lent_to_set slotOwned found slot conn
    have same : slotOwned (some guard) = guard.owned := rfl
    rw [same, empty] at counts
    rw [is_item_none] at shift counts
    unfold total
    dsimp only
    omega
  · exact balance.attempts

theorem effect_move_construct {source : Nat} {guard : Guard}
    (found : state.guards[source]? = some (some guard)) :
    Effect factory state { state with
      guards := state.guards.set source (some (ConnGuard.moveConstruct guard).2) ++
        [some (ConnGuard.moveConstruct guard).1] } := by
  constructor
  · intro conn
    have placed := lent_to_set slotOwned found (some (ConnGuard.moveConstruct guard).2) conn
    have added := lent_to_snoc slotOwned
      (state.guards.set source (some (ConnGuard.moveConstruct guard).2))
      (some (ConnGuard.moveConstruct guard).1) conn
    have empty : isItem conn (slotOwned (some (ConnGuard.moveConstruct guard).2)) = 0 := rfl
    have same : isItem conn (slotOwned (some (ConnGuard.moveConstruct guard).1)) =
        isItem conn (slotOwned (some guard)) := rfl
    unfold total
    dsimp only
    omega
  · exact Nat.le_refl _

theorem effect_move_assign {target source : Nat} {this other : Guard}
    (found : state.guards[target]? = some (some this))
    (present : state.guards[source]? = some (some other)) (different : target ≠ source) :
    Effect factory state { state with
      guards := (state.guards.set target (some (PooledConnGuard.moveAssign this other).2.1)).set
        source (some (PooledConnGuard.moveAssign this other).2.2) } := by
  constructor
  · intro conn
    have first := lent_to_set slotOwned found
      (some (PooledConnGuard.moveAssign this other).2.1) conn
    have still : (state.guards.set target
        (some (PooledConnGuard.moveAssign this other).2.1))[source]? = some (some other) := by
      rw [lookup_move_other fun same => different same.symm]
      exact present
    have second := lent_to_set slotOwned still
      (some (PooledConnGuard.moveAssign this other).2.2) conn
    have same : isItem conn (slotOwned (some (PooledConnGuard.moveAssign this other).2.1)) =
        isItem conn (slotOwned (some other)) := rfl
    have empty : isItem conn (slotOwned (some (PooledConnGuard.moveAssign this other).2.2)) = 0 :=
      rfl
    unfold total
    dsimp only
    omega
  · exact Nat.le_refl _

end Effects

/-! ## The steps -/

/-- The steps by what they do to the guards; `inside` covers everything that happens in the
pool without a guard. -/
inductive Move (cfg : Config) (factory : Factory) (state : State) : Action → State → Prop
  | inside (action : Action) (pool : Pool) (calls : List Caller)
      (balance : Balance factory state.pool none pool none)
      (asking : ∀ (id : Nat) (caller : Caller), calls[id]? = some caller → held caller = none)
      (leaves : leavesToDestructor state action) :
      Move cfg factory state action { state with pool := pool, calls := calls }
  | deliver (id : Nat) (action : DatabasePool.Model.Action) (pool : Pool) (conn : Option Conn)
      (balance : Balance factory state.pool none pool conn) :
      Move cfg factory state (.borrow id action)
        { pool := pool
          calls := state.calls.set id .idle
          guards := state.guards ++ [some (ConnGuard.construct (some ()) conn)] }
  | moveConstruct (source : Nat) (guard : Guard)
      (found : state.guards[source]? = some (some guard)) :
      Move cfg factory state (.moveConstruct source) { state with
        guards := state.guards.set source (some (ConnGuard.moveConstruct guard).2) ++
          [some (ConnGuard.moveConstruct guard).1] }
  | moveAssign (target source : Nat) (this other : Guard)
      (found : state.guards[target]? = some (some this))
      (present : state.guards[source]? = some (some other)) (different : target ≠ source) :
      Move cfg factory state (.moveAssign target source) { state with
        guards := (state.guards.set target
          (some (PooledConnGuard.moveAssign this other).2.1)).set source
            (some (PooledConnGuard.moveAssign this other).2.2) }
  | release (id : Nat) (valid : Bool) (waiter : Nat) (guard : Guard) (pool : Pool)
      (found : state.guards[id]? = some (some guard))
      (given : giveBack valid waiter state.pool (PooledConnGuard.release guard).1 = some pool) :
      Move cfg factory state (.release id valid waiter) { state with
        pool := pool
        guards := state.guards.set id (some (PooledConnGuard.release guard).2) }
  | destroy (id : Nat) (valid : Bool) (waiter : Nat) (guard : Guard) (pool : Pool)
      (found : state.guards[id]? = some (some guard))
      (given : giveBack valid waiter state.pool (PooledConnGuard.release guard).1 = some pool) :
      Move cfg factory state (.destroy id valid waiter)
        { state with pool := pool, guards := state.guards.set id none }

theorem asking_set {factory : Factory} {state : State} (kept : Kept factory state) {id : Nat}
    {caller : Caller} (asks : held caller = none) :
    ∀ (other : Nat) (seen : Caller), (state.calls.set id caller)[other]? = some seen →
      held seen = none := by
  intro other seen present
  rcases lookup_move present with ⟨_, rfl⟩ | ⟨_, old⟩
  · exact asks
  · exact kept.asking other seen old

def givingBack : Caller → Bool
  | .returning _ _ => true
  | _ => false

theorem take_not_giving (pool : Pool) {otherwise : Pool × Caller}
    (waits : givingBack otherwise.2 = false) : givingBack (takeFront pool otherwise).2 = false := by
  unfold takeFront
  split
  · exact waits
  · rfl

theorem asked_not_giving {cfg : Config} {factory : Factory} {pool after : Pool}
    {action : DatabasePool.Model.Action} {caller moved : Caller} (asked : asks action = true)
    (move : CallerMove cfg factory pool action caller after moved) : givingBack moved = false := by
  cases move with
  | call id =>
      unfold getConnection
      split
      · rfl
      · dsimp only
        split
        · exact take_not_giving _ rfl
        · rfl
  | wake id timedOut => rfl
  | resume id timedOut =>
      unfold afterWait
      split
      · rfl
      · exact take_not_giving _ rfl
  | _ => cases asked

theorem move_of_borrow {cfg : Config} {factory : Factory} {state after : State} {id : Nat}
    {action : DatabasePool.Model.Action} (kept : Kept factory state)
    (taken : step cfg factory state (.borrow id action) = some after) :
    Move cfg factory state (.borrow id action) after := by
  dsimp only [step] at taken
  split at taken
  · next asked =>
      obtain ⟨caller, found, continued⟩ := Option.bind_eq_some_iff.mp taken
      obtain ⟨⟨pool, moved⟩, stepped, rfl⟩ := Option.map_eq_some_iff.mp continued
      have move := caller_move_of_step stepped
      have balance := move_balance move
      rw [kept.asking id caller found] at balance
      cases moved with
      | holding conn => exact .deliver id action pool conn balance
      | returning conn valid =>
          have impossible := asked_not_giving asked.1 move
          cases impossible
      | idle => exact .inside _ pool _ balance (asking_set kept rfl) True.intro
      | waiting => exact .inside _ pool _ balance (asking_set kept rfl) True.intro
      | relock timedOut => exact .inside _ pool _ balance (asking_set kept rfl) True.intro
  · cases taken

theorem move_of_step {cfg : Config} {factory : Factory} {state after : State} {action : Action}
    (kept : Kept factory state) (live : readsLive cfg state action = true)
    (taken : step cfg factory state action = some after) : Move cfg factory state action after := by
  cases action with
  | arrive =>
      obtain rfl := Option.some.inj taken
      have asking : ∀ (id : Nat) (caller : Caller),
          (state.calls ++ [Caller.idle])[id]? = some caller → held caller = none := by
        intro id caller present
        rcases lookup_append present with old | ⟨_, rfl⟩
        · exact kept.asking id caller old
        · rfl
      exact .inside .arrive state.pool _ (balance_refl _ _ _) asking True.intro
  | borrow id action => exact move_of_borrow kept taken
  | recycle reads =>
      obtain rfl := Option.some.inj taken
      have nothing : pushesBack cfg state.pool = false := by simpa [readsLive] using live
      exact .inside (.recycle reads) _ state.calls (balance_recycle factory reads nothing)
        kept.asking True.intro
  | wait ticks =>
      obtain rfl := Option.some.inj taken
      exact .inside (.wait ticks) { state.pool with clock := state.pool.clock + ticks }
        state.calls (balance_refl _ _ _) kept.asking True.intro
  | moveConstruct source =>
      dsimp only [step] at taken
      split at taken
      · next guard found =>
          obtain rfl := Option.some.inj taken
          exact .moveConstruct source guard found
      · cases taken
  | moveAssign target source =>
      dsimp only [step] at taken
      split at taken
      · next this other found present =>
          split at taken
          · next same =>
              obtain rfl := Option.some.inj taken
              exact .inside _ state.pool state.calls (balance_refl _ _ _) kept.asking True.intro
          · next different =>
              obtain rfl := Option.some.inj taken
              exact .moveAssign target source this other found present different
      · cases taken
  | release id valid waiter =>
      dsimp only [step] at taken
      split at taken
      · next guard found =>
          obtain ⟨pool, given, rfl⟩ := Option.map_eq_some_iff.mp taken
          exact .release id valid waiter guard pool found given
      · cases taken
  | destroy id valid waiter =>
      dsimp only [step] at taken
      split at taken
      · next guard found =>
          obtain ⟨pool, given, rfl⟩ := Option.map_eq_some_iff.mp taken
          exact .destroy id valid waiter guard pool found given
      · cases taken

theorem balance_given {factory : Factory} {guard : Guard} {valid : Bool} {waiter : Nat}
    {pool after : Pool} (backed : ∀ conn, guard.conn = some conn → guard.pool = some ())
    (given : giveBack valid waiter pool (PooledConnGuard.release guard).1 = some after) :
    Balance factory pool guard.owned after none := by
  unfold PooledConnGuard.release at given
  split at given
  · next unreleased =>
      rw [ConnGuard.owned_unreleased unreleased]
      cases exposed : guard.conn with
      | none =>
          rw [exposed] at given
          have same : some pool = some after := by
            rw [← given]
            unfold giveBack
            cases guard.pool <;> rfl
          obtain rfl := Option.some.inj same
          exact balance_refl _ _ _
      | some conn =>
          rw [exposed, backed conn exposed] at given
          have returned : returnConnection conn waiter valid pool = some after := given
          cases valid with
          | true =>
              obtain ⟨waiting, _, rfl⟩ := Option.map_eq_some_iff.mp returned
              exact balance_enqueue factory pool ⟨conn, pool.clock⟩
          | false =>
              obtain rfl := Option.some.inj returned
              exact balance_discard factory pool conn
  · next released =>
      obtain rfl := Option.some.inj given
      rw [ConnGuard.owned_released (Bool.not_eq_false _ ▸ released)]
      exact balance_refl _ _ _

theorem effect_move {cfg : Config} {factory : Factory} {state after : State} {action : Action}
    (kept : Kept factory state) (move : Move cfg factory state action after) :
    Effect factory state after := by
  cases move with
  | inside _ pool calls balance _ _ => exact effect_inside balance
  | deliver id action pool conn balance => exact effect_new rfl balance
  | moveConstruct source guard found => exact effect_move_construct found
  | moveAssign target source this other found present different =>
      exact effect_move_assign found present different
  | release id valid waiter guard pool found given =>
      have backed := kept.backed id guard
      exact effect_back found (PooledConnGuard.release_owned guard)
        (balance_given (backed · found) given)
  | destroy id valid waiter guard pool found given =>
      have backed := kept.backed id guard
      exact effect_back found rfl (balance_given (backed · found) given)

def releases : Action → Nat → Bool
  | .release id _ _, place => decide (id = place)
  | _, _ => false

theorem exposed_before {cfg : Config} {factory : Factory} {state after : State} {action : Action}
    (move : Move cfg factory state action after) {id : Nat} {guard : Guard} {conn : Conn}
    (present : after.guards[id]? = some (some guard)) (exposed : guard.conn = some conn) :
    (∃ (place : Nat) (seen : Guard), state.guards[place]? = some (some seen) ∧
        seen.conn = some conn ∧ guard.pool = seen.pool ∧
          (guard.released = seen.released ∨ releases action place = true)) ∨
      (guard.released = false ∧ guard.pool = some ()) := by
  have stays : state.guards[id]? = some (some guard) →
      ∃ (place : Nat) (seen : Guard), state.guards[place]? = some (some seen) ∧
        seen.conn = some conn ∧ guard.pool = seen.pool ∧
          (guard.released = seen.released ∨ releases action place = true) :=
    fun old => ⟨id, guard, old, exposed, rfl, .inl rfl⟩
  cases move with
  | inside _ pool calls balance _ _ => exact .inl (stays present)
  | deliver place action pool taken balance =>
      rcases lookup_append present with old | ⟨_, same⟩
      · exact .inl (stays old)
      · obtain rfl := Option.some.inj same
        exact .inr ⟨rfl, rfl⟩
  | moveConstruct source other found =>
      rcases lookup_append present with old | ⟨_, same⟩
      · rcases lookup_move old with ⟨_, same⟩ | ⟨_, old⟩
        · obtain rfl := Option.some.inj same
          cases exposed
        · exact .inl (stays old)
      · obtain rfl := Option.some.inj same
        exact .inl ⟨source, other, found, exposed, rfl, .inl rfl⟩
  | moveAssign target source this other found there different =>
      rcases lookup_move present with ⟨_, same⟩ | ⟨_, old⟩
      · obtain rfl := Option.some.inj same
        cases exposed
      · rcases lookup_move old with ⟨_, same⟩ | ⟨_, old⟩
        · obtain rfl := Option.some.inj same
          exact .inl ⟨source, other, there, exposed, rfl, .inl rfl⟩
        · exact .inl (stays old)
  | release place valid waiter other pool found given =>
      rcases lookup_move present with ⟨_, same⟩ | ⟨_, old⟩
      · obtain rfl := Option.some.inj same
        have kept : (PooledConnGuard.release other).2.conn = other.conn ∧
            (PooledConnGuard.release other).2.pool = other.pool := by
          unfold PooledConnGuard.release
          split <;> exact ⟨rfl, rfl⟩
        rw [kept.1] at exposed
        exact .inl ⟨place, other, found, exposed, kept.2, .inr (decide_eq_true rfl)⟩
      · exact .inl (stays old)
  | destroy place valid waiter other pool found given =>
      rcases lookup_move present with ⟨_, same⟩ | ⟨_, old⟩
      · cases same
      · exact .inl (stays old)

theorem asking_move {cfg : Config} {factory : Factory} {state after : State} {action : Action}
    (kept : Kept factory state) (move : Move cfg factory state action after) :
    ∀ (id : Nat) (caller : Caller), after.calls[id]? = some caller → held caller = none := by
  cases move with
  | inside _ pool calls _ asking _ => exact asking
  | deliver id action pool conn _ => exact asking_set kept rfl
  | _ => exact kept.asking

theorem kept_move {cfg : Config} {factory : Factory} {state after : State} {action : Action}
    (kept : Kept factory state) (move : Move cfg factory state action after) :
    Kept factory after := by
  have effect := effect_move kept move
  have placed := placed_effect effect kept.placed
  constructor
  · exact placed
  · intro id guard conn present exposed
    rcases exposed_before move present exposed with ⟨place, seen, found, shown, _, _⟩ | ⟨fresh, _⟩
    · exact Nat.lt_of_lt_of_le (kept.known place seen conn found shown) effect.attempts
    · -- a new guard owns its connection, which the factory has therefore made
      have owned : guard.owned = some conn := by
        rw [ConnGuard.owned_unreleased fresh]
        exact exposed
      have positive := lent_to_pos present owned
      have few := placed conn
      by_contra late
      have unmade : made factory (stock after.pool) conn = 0 := by
        have late : ¬conn < (stock after.pool).attempts := late
        unfold made
        rw [decide_eq_false late, Bool.false_and]
        rfl
      unfold total at few
      omega
  · intro id guard conn present exposed
    rcases exposed_before move present exposed with ⟨place, seen, found, shown, same, _⟩ | ⟨_, pool⟩
    · rw [same]
      exact kept.backed place seen conn found shown
    · exact pool
  · exact asking_move kept move

theorem kept_opened (cfg : Config) (factory : Factory) (clock : Int) :
    Kept factory (opened cfg factory clock) := by
  have growth := growth_create factory cfg.minSize.toNat (emptyPool clock)
  constructor
  · intro conn
    have shift := growth.balance.places conn
    have start : stored (stock (emptyPool clock)) conn = 0 := rfl
    have nobody : lentTo slotOwned (opened cfg factory clock).guards conn = 0 := rfl
    rw [is_item_none, start] at shift
    have zero : total (opened cfg factory clock) conn =
        stored (stock (createConnections factory cfg.minSize.toNat (emptyPool clock)).1) conn :=
      rfl
    have same : made factory (stock (opened cfg factory clock).pool) conn =
        made factory (stock (createConnections factory cfg.minSize.toNat (emptyPool clock)).1)
          conn := rfl
    omega
  · intro id guard conn impossible
    cases impossible
  · intro id guard conn impossible
    cases impossible
  · intro id caller impossible
    cases impossible

theorem exclusive_opened (cfg : Config) (factory : Factory) (clock : Int) :
    Exclusive (opened cfg factory clock) := by
  intro id guard conn impossible
  cases impossible

theorem given_somewhere {guard : Guard} {conn : Conn} {valid : Bool} {waiter : Nat}
    {pool after : Pool} (unreleased : guard.released = false) (exposed : guard.conn = some conn)
    (backed : guard.pool = some ())
    (given : giveBack valid waiter pool (PooledConnGuard.release guard).1 = some after) :
    conn ∈ after.connQueue.map Entry.conn ∨ conn ∈ after.destroyed := by
  unfold PooledConnGuard.release at given
  rw [if_pos unreleased, exposed, backed] at given
  have returned : returnConnection conn waiter valid pool = some after := given
  cases valid with
  | true =>
      obtain ⟨waiting, _, rfl⟩ := Option.map_eq_some_iff.mp returned
      left
      rw [List.map_append]
      exact List.mem_append_right _ List.mem_cons_self
  | false =>
      obtain rfl := Option.some.inj returned
      right
      exact List.mem_append_right _ List.mem_cons_self

theorem release_conn (guard : Guard) : (PooledConnGuard.release guard).2.conn = guard.conn := by
  unfold PooledConnGuard.release
  split <;> rfl

theorem leaves_of_exclusive {cfg : Config} {factory : Factory} {state after : State}
    {action : Action} (kept : Kept factory state) (still : Exclusive after)
    (move : Move cfg factory state action after) : leavesToDestructor state action := by
  cases move with
  | inside _ _ _ _ _ leaves => exact leaves
  | release id valid waiter guard pool found given =>
      have either : guard.released = true ∨ guard.conn = none := by
        cases released : guard.released with
        | true => exact .inl rfl
        | false =>
            right
            cases exposed : guard.conn with
            | none => rfl
            | some conn =>
                have shown : (PooledConnGuard.release guard).2.conn = some conn := by
                  rw [release_conn]
                  exact exposed
                obtain ⟨notIdle, notGone, _⟩ := still id _ conn (lookup_move_self found) shown
                rcases given_somewhere released exposed (kept.backed id guard conn found exposed)
                  given with idle | gone
                · exact absurd idle notIdle
                · exact absurd gone notGone
      intro seen present
      rw [found] at present
      obtain rfl := Option.some.inj (Option.some.inj present)
      exact either
  | _ => exact True.intro

theorem left_of_releases {state : State} {action : Action} {place : Nat}
    (leaves : leavesToDestructor state action) (released : releases action place = true) :
    AtGuard state.guards place fun guard => guard.released = true ∨ guard.conn = none := by
  cases action with
  | release id valid waiter =>
      obtain rfl := of_decide_eq_true released
      exact leaves
  | _ => cases released

theorem exclusive_of_leaves {cfg : Config} {factory : Factory} {state after : State}
    {action : Action} (kept : Kept factory state) (exclusive : Exclusive state)
    (leaves : leavesToDestructor state action) (move : Move cfg factory state action after) :
    Exclusive after := by
  rw [exclusive_iff (kept_move kept move)]
  rw [exclusive_iff kept] at exclusive
  rintro conn ⟨id, guard, present, released, exposed⟩
  rcases exposed_before move present exposed with ⟨place, seen, found, shown, _, either⟩ | ⟨fresh, _⟩
  · have stale : seen.released = true := by
      rcases either with same | now
      · rw [← same]
        exact released
      · rcases left_of_releases leaves now seen found with already | nothing
        · exact already
        · rw [nothing] at shown
          cases shown
    have nowhere := exclusive conn ⟨place, seen, found, stale, shown⟩
    have less := effect_total (effect_move kept move) (kept.known place seen conn found shown)
    omega
  · rw [fresh] at released
    cases released

/-- In every interleaving in which the recycler reads no popped entry: no guard ever reaches
a connection that is idle, destroyed or held by another guard if and only if `release` is
never called on a guard that still has its connection. -/
theorem exclusive_iff_left_to_destructor (cfg : Config) (factory : Factory) (clock : Int)
    (trail : List (State × Action)) (last : State)
    (path : Path (step cfg factory) (opened cfg factory clock) trail last)
    (live : ∀ taken ∈ trail, readsLive cfg taken.1 taken.2 = true) :
    (∀ state ∈ visited trail last, Exclusive state) ↔
      ∀ taken ∈ trail, leavesToDestructor taken.1 taken.2 := by
  apply path_property_iff_good (Kept factory) Exclusive leavesToDestructor
    (kept_opened cfg factory clock) (exclusive_opened cfg factory clock) _ _
    (path_restrict path live)
  · intro state action after kept taken
    obtain ⟨alive, stepped⟩ := restrict_cases taken
    exact kept_move kept (move_of_step kept alive stepped)
  · intro state action after kept exclusive taken
    obtain ⟨alive, stepped⟩ := restrict_cases taken
    have move := move_of_step kept alive stepped
    constructor
    · intro still
      exact leaves_of_exclusive kept still move
    · intro leaves
      exact exclusive_of_leaves kept exclusive leaves move

def single : Config where
  minSize := 0
  maxSize := 1
  maxIdleTime := 60
  opNum := 1

/-- Two threads share the only connection, one guard after the other. -/
def oneAfterTheOther : List Action :=
  [.arrive, .arrive, .borrow 0 (.call 0), .borrow 1 (.call 1), .moveConstruct 0,
    .destroy 1 true 1, .borrow 1 (.wake 1 false), .borrow 1 (.resume 1), .moveAssign 0 2,
    .release 2 true 0, .destroy 0 false 0]

theorem exclusive_one_after_the_other :
    ∃ last, exec (step single fun _ => true) (opened single (fun _ => true) 0) oneAfterTheOther =
        some last ∧ Exclusive last ∧ last.pool.destroyed = [0] := by
  obtain ⟨last, executed, checked⟩ := exec_checked (step single fun _ => true)
    (opened single (fun _ => true) 0) oneAfterTheOther
    (fun last => decide (last.pool.destroyed = [0])) (by decide)
  have path := path_of_exec executed
  refine ⟨last, executed, ?_, of_decide_eq_true checked⟩
  exact (exclusive_iff_left_to_destructor single _ 0 _ last path (by decide)).mpr (by decide) last
    (by simp [visited])

/-- A released guard reaches the connection that another guard has got since. -/
theorem released_guard_reaches_connection : ¬ExclusiveLaw := by
  intro law
  obtain ⟨last, executed, checked⟩ := exec_checked (step single fun _ => true)
    (opened single (fun _ => true) 0)
    [.arrive, .borrow 0 (.call 0), .release 0 true 0, .borrow 0 (.call 0)]
    (fun last => decide (last.guards =
      [some ⟨some (), some 0, true⟩, some ⟨some (), some 0, false⟩])) (by decide)
  have guards := of_decide_eq_true checked
  obtain ⟨_, _, alone⟩ := law single _ 0 _ last (path_of_exec executed) last (by simp [visited])
    0 ⟨some (), some 0, true⟩ 0 (by rw [guards]; rfl) rfl
  exact alone 1 ⟨some (), some 0, false⟩ (by decide) (by rw [guards]; rfl) rfl

end BackendComponents.Guards.Exposure
