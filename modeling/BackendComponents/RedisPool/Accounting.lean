import BackendComponents.RedisPool.Sweeping

/-!
# What `m_current_size` counts

`create_connection` counts an attempt before it knows whether the factory has returned a
connection. So `m_current_size` is the number of real connections plus the number of
failed attempts since `init`, as long as no decrement of an unhealthy return loses what
another thread has written.
-/

namespace BackendComponents.RedisPool.Accounting

open BackendComponents.Lib.Paths
open BackendComponents.Lib.Sweeping
open BackendComponents.Lib.Threads
open BackendComponents.RedisPool.Model
open BackendComponents.RedisPool.Moves
open BackendComponents.RedisPool.Sweeping

set_option autoImplicit false

/-- Between operations: every thread is outside the pool, with a connection or without. -/
def quiet (state : State) : Bool :=
  state.callers.all fun caller => match caller with
    | .idle | .holding _ => true
    | .getting _ | .returning _ => false

def borrowed (state : State) : Nat :=
  state.callers.countP fun caller => match caller with
    | .holding _ => true
    | _ => false

/-- What `m_current_size` says when no operation is in progress. -/
structure SizeExact (cfg : Config) (state : State) : Prop where
  counted : state.pool.currentSize = state.pool.connQueue.length + borrowed state
  bounded : state.pool.currentSize ≤ cfg.maxSize

def SizeLaw : Prop :=
  ∀ (cfg : Config) (clock : Int) (answers : List Bool) (threads : Nat) (state : State),
    1 ≤ cfg.opNum → (answers.length : Int) = cfg.minSize →
      Reachable (step cfg) (launched clock answers threads) state → quiet state = true →
        SizeExact cfg state

def fails : Action → Bool
  | .caller _ (.created succeeds _) => !succeeds
  | _ => false

/-- A decrement outside the mutex stores while the size is what it has read, and not inside
a write under the mutex. -/
def storesFit (state : State) : Action → Bool
  | .caller id answer => match state.callers[id]? with
      | some (.returning (.store read)) =>
          decide (answer = .go ∧ read = state.pool.currentSize)
      | _ => true
  | _ => true

/-- No entry that the recycler has popped is read. -/
def readsLive (cfg : Config) (state : State) : Action → Bool
  | .recycle _ => !pushesBack cfg.minSize cfg.maxIdleTime state.pool
  | _ => true

/-- Neither does a write of the size get lost, nor is a popped entry read. -/
def defined (cfg : Config) (state : State) (action : Action) : Bool :=
  storesFit state action && readsLive cfg state action

/-- The caller has a connection that is neither in the queue nor deleted. -/
def owns : Caller → Bool
  | .holding _ => true
  | .returning (.check _) | .returning (.push _) | .returning (.destroy _) => true
  | _ => false

/-- The connection has been deleted, and `m_current_size` not been lowered. -/
def deleting : Caller → Bool
  | .returning (.store _) => true
  | _ => false

def charged (caller : Caller) : Bool := owns caller || deleting caller

/-! ## The mutex -/

def inside : Caller → Bool
  | .getting pc => match pc with
      | .testExpand | .expanding _ | .testEmpty | .awake _ | .take => true
      | _ => false
  | .returning pc => match pc with
      | .testMin | .replenish | .finish => true
      | _ => false
  | .idle | .holding _ => false

/-- Whoever is inside has the mutex. -/
def Locked (state : State) : Prop :=
  ∀ (id : Nat) (caller : Caller), state.callers[id]? = some caller →
    inside caller = true → state.pool.mutex = some id

/-- What one step of a caller does to the mutex. -/
structure Passes (id : Nat) (pool after : Pool) (moved : Caller) : Prop where
  own : inside moved = true → after.mutex = some id
  others : ∀ other, other ≠ id → pool.mutex = some other → after.mutex = some other

section Passing

variable {id : Nat} {pool after : Pool} {moved : Caller}

theorem passes_away (away : inside moved = false) (same : after.mutex = pool.mutex) :
    Passes id pool after moved := by
  constructor
  · intro entered
    rw [away] at entered
    cases entered
  · intro other _ locked
    rw [same]
    exact locked

theorem passes_inside (own : pool.mutex = some id) (same : after.mutex = pool.mutex) :
    Passes id pool after moved := by
  constructor
  · exact fun _ => same.trans own
  · exact fun _ _ locked => same.trans locked

theorem passes_locks (free : pool.mutex = none) (mine : after.mutex = some id) :
    Passes id pool after moved := by
  constructor
  · exact fun _ => mine
  · intro other _ locked
    rw [free] at locked
    cases locked

theorem passes_unlocks (away : inside moved = false) (own : pool.mutex = some id) :
    Passes id pool after moved := by
  constructor
  · intro entered
    rw [away] at entered
    cases entered
  · intro other different locked
    rw [own] at locked
    exact absurd (Option.some.inj locked).symm different

end Passing

@[simp] theorem create_mutex (succeeds : Bool) (pool : Pool) :
    (createConnection succeeds pool).mutex = pool.mutex := by
  cases succeeds <;> rfl

theorem create_initialized (succeeds : Bool) (pool : Pool) :
    (createConnection succeeds pool).initialized = pool.initialized := by
  cases succeeds <;> rfl

theorem get_passes {cfg : Config} {id : Nat} {pool after : Pool} {pc moved : GetPc}
    {answer : Answer} (entered : inside (.getting pc) = true → pool.mutex = some id)
    (move : GetMove cfg id pool pc answer after moved) : Passes id pool after (afterGet moved) := by
  cases move with
  | refused | notified | woken => exact passes_away rfl rfl
  | lock free | relock _ free => exact passes_locks free rfl
  | create succeeds waiter left => exact passes_inside (entered rfl) (create_mutex succeeds pool)
  | block | timeout | takeNone | take => exact passes_unlocks rfl (entered rfl)
  | expand | noExpand | expanded | found | waited => exact passes_inside (entered rfl) rfl

theorem return_passes {cfg : Config} {id : Nat} {pool after : Pool} {pc moved : ReturnPc}
    {answer : Answer} (entered : inside (.returning pc) = true → pool.mutex = some id)
    (move : ReturnMove cfg id pool pc answer after moved) :
    Passes id pool after (afterReturn moved) := by
  cases move with
  | healthy | unhealthy | destroy | store | overwritten | push => exact passes_away rfl rfl
  | lock free => exact passes_locks free rfl
  | replenishNull waiter => exact passes_inside (entered rfl) (create_mutex false pool)
  | replenish waiter waiting _ => exact passes_inside (entered rfl) (create_mutex true pool)
  | below | enough => exact passes_inside (entered rfl) rfl
  | finish => exact passes_unlocks rfl (entered rfl)

theorem caller_passes {cfg : Config} {id : Nat} {pool after : Pool} {caller moved : Caller}
    {answer : Answer} (entered : inside caller = true → pool.mutex = some id)
    (move : CallerMove cfg id pool answer caller after moved) : Passes id pool after moved := by
  cases move with
  | get move => exact get_passes entered move
  | giveBack move => exact return_passes entered move

theorem locked_caller {state : State} (locked : Locked state) {id : Nat} {moved : Pool × Caller}
    (passes : Passes id state.pool moved.1 moved.2) : Locked (moveCaller state id moved) := by
  intro other seen present within
  rcases lookup_move present with ⟨rfl, rfl⟩ | ⟨different, old⟩
  · exact passes.own within
  · exact passes.others other different (locked other seen old within)

theorem locked_move {cfg : Config} {state after : State} {action : Action}
    (locked : Locked state) (move : Move cfg state action after) : Locked after := by
  cases move with
  | call id found => exact locked_caller locked (passes_away rfl rfl)
  | release id conn found => exact locked_caller locked (passes_away rfl rfl)
  | caller id answer caller moved found stepped =>
      exact locked_caller locked (caller_passes (locked id caller found)
        (caller_move_of_step stepped))
  | recycle reads free =>
      intro id caller found within
      have mine := locked id caller found within
      rw [free] at mine
      cases mine
  | wait ticks => exact locked

/-! ## The sizes -/

/-- The creations that a caller has decided on and not made yet. -/
def reserve : Caller → Nat
  | .getting (.expanding left) => left
  | .returning .replenish => 1
  | _ => 0

/-- Connections that are not in the queue, by the pool's own count. -/
def outside (pool : Pool) : Int :=
  pool.currentSize - pool.connQueue.length - pool.failures

/-- What one step of a caller does to the sizes. -/
structure Effect (cfg : Config) (pool : Pool) (before : Caller) (after : Pool) (moved : Caller) :
    Prop where
  balance : outside after + indicator (charged before) = outside pool + indicator (charged moved)
  room : pool.currentSize + reserve before ≤ cfg.maxSize →
    after.currentSize + reserve moved ≤ cfg.maxSize
  grows : pool.currentSize < after.currentSize → inside before = true

theorem create_balance (succeeds : Bool) (pool : Pool) :
    outside (createConnection succeeds pool) = outside pool := by
  unfold createConnection outside
  cases succeeds with
  | true =>
      simp only [if_true, List.length_append, List.length_singleton]
      omega
  | false =>
      simp only [Bool.false_eq_true, if_false]
      omega

@[simp] theorem create_size (succeeds : Bool) (pool : Pool) :
    (createConnection succeeds pool).currentSize = pool.currentSize + 1 := by
  cases succeeds <;> rfl

theorem effect_same {cfg : Config} {pool after : Pool} {before moved : Caller}
    (sizes : outside after = outside pool) (size : after.currentSize = pool.currentSize)
    (owner : charged moved = charged before) (less : reserve moved ≤ reserve before) :
    Effect cfg pool before after moved := by
  constructor
  · rw [sizes, owner]
  · intro room
    rw [size]
    omega
  · intro grown
    rw [size] at grown
    omega

theorem effect_creates {cfg : Config} {pool : Pool} {before moved : Caller} (succeeds : Bool)
    (entered : inside before = true) (owner : charged moved = charged before)
    (spent : reserve moved + 1 ≤ reserve before) :
    Effect cfg pool before (createConnection succeeds pool) moved := by
  constructor
  · rw [create_balance, owner]
  · intro room
    rw [create_size]
    omega
  · exact fun _ => entered

theorem get_effect {cfg : Config} {id : Nat} {pool after : Pool} {pc moved : GetPc}
    {answer : Answer} (move : GetMove cfg id pool pc answer after moved) :
    Effect cfg pool (.getting pc) after (afterGet moved) := by
  cases move with
  | expand empty below creates =>
      constructor
      · rfl
      · intro _
        have least : toCreate cfg pool ≤ cfg.maxSize - pool.currentSize := Int.min_le_left _ _
        have natural := Int.toNat_of_nonneg (Int.le_of_lt creates)
        dsimp only [afterGet, reserve]
        omega
      · intro impossible
        omega
  | create succeeds waiter left => exact effect_creates succeeds rfl rfl (Nat.le_refl _)
  | take entry rest front =>
      constructor
      · simp [outside, front, charged, owns, deleting, afterGet]
        omega
      · exact fun room => room
      · intro grown
        exact absurd grown (Int.lt_irrefl _)
  | _ => exact effect_same rfl rfl rfl (Nat.zero_le _)

theorem return_effect {cfg : Config} {id : Nat} {pool after : Pool} {pc moved : ReturnPc}
    {answer : Answer} (fits : ∀ read, pc = .store read → answer = .go ∧ read = pool.currentSize)
    (move : ReturnMove cfg id pool pc answer after moved) :
    Effect cfg pool (.returning pc) after (afterReturn moved) := by
  cases move with
  | push conn waiter waiting free _ =>
      constructor
      · simp [outside, charged, owns, deleting, afterReturn, recordIdle]
        omega
      · exact fun room => room
      · intro grown
        exact absurd grown (Int.lt_irrefl _)
  | store read =>
      obtain ⟨_, rfl⟩ := fits read rfl
      constructor
      · simp [outside, charged, owns, deleting, afterReturn, storeSize, recordDestroyed]
        omega
      · intro room
        dsimp only [storeSize, recordDestroyed, afterReturn, reserve] at room ⊢
        omega
      · intro grown
        dsimp only [storeSize, recordDestroyed] at grown
        omega
  | overwritten read => cases (fits read rfl).1
  | below short =>
      constructor
      · rfl
      · intro _
        have ordered := cfg.ordered
        dsimp only [afterReturn, reserve]
        omega
      · intro impossible
        omega
  | replenishNull waiter => exact effect_creates false rfl rfl (Nat.le_refl _)
  | replenish waiter waiting _ =>
      have made : Effect cfg pool (.returning .replenish) (createConnection true pool)
        (.returning .finish) := effect_creates true rfl rfl (Nat.le_refl _)
      exact ⟨made.balance, made.room, made.grows⟩
  | _ => exact effect_same rfl rfl rfl (Nat.zero_le _)

/-- The pool's count against the callers, in every run without a lost write. -/
structure Accounts (cfg : Config) (state : State) : Prop where
  locked : Locked state
  balance : outside state.pool = state.callers.countP charged
  bounded : state.pool.currentSize ≤ cfg.maxSize
  reserved : ∀ (id : Nat) (caller : Caller), state.callers[id]? = some caller →
    state.pool.currentSize + reserve caller ≤ cfg.maxSize

theorem inside_of_reserve {caller : Caller} (positive : 0 < reserve caller) :
    inside caller = true := by
  unfold reserve at positive
  split at positive
  · rfl
  · rfl
  · cases positive

theorem accounts_caller {cfg : Config} {state : State} (accounts : Accounts cfg state) {id : Nat}
    {caller : Caller} (found : state.callers[id]? = some caller) {moved : Pool × Caller}
    (passes : Passes id state.pool moved.1 moved.2)
    (effect : Effect cfg state.pool caller moved.1 moved.2) :
    Accounts cfg (moveCaller state id moved) := by
  have room := effect.room (accounts.reserved id caller found)
  constructor
  · exact locked_caller accounts.locked passes
  · have counts : (state.callers.set id moved.2).countP charged + indicator (charged caller) =
        state.callers.countP charged + indicator (charged moved.2) := countP_move charged found
    have balance := effect.balance
    have before := accounts.balance
    dsimp only [moveCaller]
    omega
  · dsimp only [moveCaller]
    omega
  · intro other seen present
    rcases lookup_move present with ⟨rfl, rfl⟩ | ⟨different, old⟩
    · exact room
    · have reserved := accounts.reserved other seen old
      dsimp only [moveCaller]
      by_cases grown : state.pool.currentSize < moved.1.currentSize
      · -- only the owner of the mutex creates, so the other one has nothing reserved
        have mine := accounts.locked id caller found (effect.grows grown)
        have none : ¬0 < reserve seen := by
          intro positive
          have theirs := accounts.locked other seen old (inside_of_reserve positive)
          rw [mine] at theirs
          exact different (Option.some.inj theirs).symm
        omega
      · omega

theorem accounts_pool {cfg : Config} {state : State} (accounts : Accounts cfg state) {pool : Pool}
    (balance : outside pool = outside state.pool)
    (size : pool.currentSize ≤ state.pool.currentSize) (mutex : pool.mutex = state.pool.mutex) :
    Accounts cfg { state with pool := pool } := by
  constructor
  · intro id caller found within
    exact mutex.trans (accounts.locked id caller found within)
  · dsimp only
    rw [balance]
    exact accounts.balance
  · have bounded := accounts.bounded
    dsimp only
    omega
  · intro id caller found
    have reserved := accounts.reserved id caller found
    dsimp only
    omega

theorem store_fits {state : State} {id : Nat} {caller : Caller} {answer : Answer}
    (fits : storesFit state (.caller id answer) = true) (found : state.callers[id]? = some caller) :
    ∀ read, caller = .returning (.store read) →
      answer = .go ∧ read = state.pool.currentSize := by
  rintro read rfl
  unfold storesFit at fits
  dsimp only at fits
  rw [found] at fits
  exact of_decide_eq_true fits

theorem caller_effect {cfg : Config} {id : Nat} {pool after : Pool} {caller moved : Caller}
    {answer : Answer}
    (fits : ∀ read, caller = .returning (.store read) → answer = .go ∧ read = pool.currentSize)
    (move : CallerMove cfg id pool answer caller after moved) :
    Effect cfg pool caller after moved := by
  cases move with
  | get move => exact get_effect move
  | giveBack move => exact return_effect (fun read same => fits read (congrArg _ same)) move

theorem accounts_move {cfg : Config} {state after : State} {action : Action}
    (accounts : Accounts cfg state) (fits : storesFit state action = true)
    (move : Move cfg state action after) : Accounts cfg after := by
  cases move with
  | call id found =>
      exact accounts_caller accounts found (passes_away rfl rfl)
        (effect_same rfl rfl rfl (Nat.zero_le _))
  | release id conn found =>
      exact accounts_caller accounts found (passes_away rfl rfl)
        (effect_same rfl rfl rfl (Nat.zero_le _))
  | caller id answer caller moved found stepped =>
      have move := caller_move_of_step stepped
      exact accounts_caller accounts found (caller_passes (accounts.locked id caller found) move)
        (caller_effect (store_fits fits found) move)
  | recycle reads _ =>
      have left := recycled cfg.minSize cfg.maxIdleTime reads state.pool
      have size := left.size
      have queue := left.queue
      have failures := left.failures
      apply accounts_pool accounts _ _ left.mutex
      · unfold outside
        omega
      · omega
  | wait ticks => exact accounts_pool accounts rfl (Int.le_refl _) rfl

theorem create_failures (succeeds : Bool) (pool : Pool) :
    (createConnection succeeds pool).failures = pool.failures + indicator (!succeeds) := by
  cases succeeds <;> rfl

theorem source_sizes (answers : List Bool) (pool : Pool) :
    let made := answers.foldl (fun made succeeds => createConnection succeeds made) pool
    outside made = outside pool ∧ made.currentSize = pool.currentSize + answers.length ∧
      made.mutex = pool.mutex ∧
        made.failures = pool.failures + answers.countP fun succeeds => !succeeds := by
  induction answers generalizing pool with
  | nil => simp
  | cons succeeds rest ih =>
      obtain ⟨balance, size, mutex, failures⟩ := ih (createConnection succeeds pool)
      rw [create_balance] at balance
      rw [create_size] at size
      rw [create_mutex] at mutex
      rw [create_failures] at failures
      refine ⟨balance, ?_, mutex, ?_⟩
      · rw [List.foldl_cons, size, List.length_cons]
        push_cast
        omega
      · rw [List.foldl_cons, failures, List.countP_cons]
        cases succeeds with
        | true => simp
        | false =>
            simp only [Bool.not_false, indicator_true, if_true]
            omega

theorem idle_launched {clock : Int} {answers : List Bool} {threads id : Nat} {caller : Caller}
    (found : (launched clock answers threads).callers[id]? = some caller) : caller = .idle :=
  List.eq_of_mem_replicate (List.mem_of_getElem? found)

theorem locked_launched (clock : Int) (answers : List Bool) (threads : Nat) :
    Locked (launched clock answers threads) := by
  intro id caller found within
  rw [idle_launched found] at within
  cases within

theorem accounts_launched {cfg : Config} {clock : Int} {answers : List Bool} (threads : Nat)
    (count : (answers.length : Int) = cfg.minSize) :
    Accounts cfg (launched clock answers threads) := by
  obtain ⟨balance, size, mutex, _⟩ := source_sizes answers {
    connQueue := [], mutex := none, waiting := [], currentSize := 0, initialized := true,
    stats := {}, clock := clock, attempts := 0, failures := 0, destroyed := [] }
  have ordered := cfg.ordered
  have bound : (launched clock answers threads).pool.currentSize ≤ cfg.maxSize := by
    have same : (launched clock answers threads).pool.currentSize = 0 + answers.length := size
    omega
  constructor
  · exact locked_launched clock answers threads
  · have none : (launched clock answers threads).callers.countP charged = 0 := by
      apply List.countP_eq_zero.mpr
      intro caller member
      rw [List.eq_of_mem_replicate member]
      exact Bool.false_ne_true
    rw [none]
    exact balance
  · exact bound
  · intro id caller found
    rw [idle_launched found]
    dsimp only [reserve]
    omega

theorem accounts_path {cfg : Config} {clock : Int} {answers : List Bool} {threads : Nat}
    (count : (answers.length : Int) = cfg.minSize) {trail : List (State × Action)} {last : State}
    (path : Path (step cfg) (launched clock answers threads) trail last)
    (fits : ∀ taken ∈ trail, storesFit taken.1 taken.2 = true) : Accounts cfg last :=
  path_invariant_of_good (Accounts cfg) (fun state action => storesFit state action = true)
    (accounts_launched threads count)
    (fun _ _ _ accounts fits taken => accounts_move accounts fits (move_of_step taken)) path fits
    last (by simp [visited])

theorem fits_of_defined {cfg : Config} {trail : List (State × Action)}
    (sound : ∀ taken ∈ trail, defined cfg taken.1 taken.2 = true) :
    ∀ taken ∈ trail, storesFit taken.1 taken.2 = true :=
  fun taken member => (Bool.and_eq_true_iff.mp (sound taken member)).1

theorem get_failures {cfg : Config} {id : Nat} {pool after : Pool} {pc moved : GetPc}
    {answer : Answer} (move : GetMove cfg id pool pc answer after moved) :
    after.failures = pool.failures + indicator (fails (.caller id answer)) := by
  cases move with
  | create succeeds waiter left => exact create_failures succeeds pool
  | _ => rfl

theorem return_failures {cfg : Config} {id : Nat} {pool after : Pool} {pc moved : ReturnPc}
    {answer : Answer} (move : ReturnMove cfg id pool pc answer after moved) :
    after.failures = pool.failures + indicator (fails (.caller id answer)) := by
  cases move with
  | replenishNull waiter => exact create_failures false pool
  | replenish waiter waiting _ => exact create_failures true pool
  | _ => rfl

theorem caller_failures {cfg : Config} {id : Nat} {pool after : Pool} {caller moved : Caller}
    {answer : Answer} (move : CallerMove cfg id pool answer caller after moved) :
    after.failures = pool.failures + indicator (fails (.caller id answer)) := by
  cases move with
  | get move => exact get_failures move
  | giveBack move => exact return_failures move

theorem move_failures {cfg : Config} {state after : State} {action : Action}
    (move : Move cfg state action after) :
    after.pool.failures = state.pool.failures + indicator (fails action) := by
  cases move with
  | call id _ => rfl
  | release id conn _ => rfl
  | caller id answer caller moved _ stepped => exact caller_failures (caller_move_of_step stepped)
  | recycle reads _ => exact (recycled cfg.minSize cfg.maxIdleTime reads state.pool).failures
  | wait ticks => rfl

theorem path_failures {cfg : Config} {start last : State} {trail : List (State × Action)}
    (path : Path (step cfg) start trail last) :
    last.pool.failures = start.pool.failures + trail.countP fun taken => fails taken.2 := by
  induction path with
  | here => rfl
  | next path taken ih =>
      rw [move_failures (move_of_step taken), ih, List.countP_append, List.countP_singleton,
        Nat.add_assoc]
      rfl

theorem outside_functions {state : State} (still : quiet state = true) {caller : Caller}
    (member : caller ∈ state.callers) : caller = .idle ∨ ∃ conn, caller = .holding conn := by
  have outside := List.all_eq_true.mp still caller member
  cases caller with
  | idle => exact .inl rfl
  | holding conn => exact .inr ⟨conn, rfl⟩
  | getting pc => cases outside
  | returning pc => cases outside

theorem count_quiet {state : State} (still : quiet state = true) {property : Caller → Bool}
    (idle : property .idle = false) (holds : ∀ conn, property (.holding conn) = true) :
    state.callers.countP property = borrowed state := by
  apply List.countP_congr
  intro caller member
  rcases outside_functions still member with rfl | ⟨conn, rfl⟩
  · rw [idle]
  · rw [holds conn]

theorem size_exact_iff_failures {cfg : Config} {state : State} (accounts : Accounts cfg state)
    (still : quiet state = true) : SizeExact cfg state ↔ state.pool.failures = 0 := by
  have balance := accounts.balance
  rw [count_quiet still rfl fun _ => rfl] at balance
  unfold outside at balance
  constructor
  · intro sizes
    have counted := sizes.counted
    omega
  · intro none
    constructor
    · omega
    · exact accounts.bounded

theorem no_failures_iff {cfg : Config} {clock : Int} {answers : List Bool} {threads : Nat}
    {trail : List (State × Action)} {last : State}
    (path : Path (step cfg) (launched clock answers threads) trail last) :
    last.pool.failures = 0 ↔
      (∀ succeeds ∈ answers, succeeds = true) ∧ ∀ taken ∈ trail, fails taken.2 = false := by
  have initial : (launched clock answers threads).pool.failures =
      0 + answers.countP fun succeeds => !succeeds := (source_sizes answers _).2.2.2
  rw [path_failures path, initial]
  constructor
  · intro none
    constructor
    · intro succeeds member
      have zero : answers.countP (fun succeeds => !succeeds) = 0 := by omega
      simpa using List.countP_eq_zero.mp zero succeeds member
    · intro taken member
      have zero : trail.countP (fun taken => fails taken.2) = 0 := by omega
      simpa using List.countP_eq_zero.mp zero taken member
  · rintro ⟨all, good⟩
    have first : answers.countP (fun succeeds => !succeeds) = 0 := by
      apply List.countP_eq_zero.mpr
      intro succeeds member
      simp [all succeeds member]
    have later : trail.countP (fun taken => fails taken.2) = 0 := by
      apply List.countP_eq_zero.mpr
      intro taken member
      simp [good taken member]
    omega

/-- After `init`, in every run whose steps are all defined and whenever no operation is in
progress: the size is exact if and only if no call of the factory has returned null. -/
theorem size_exact_iff_no_failure (cfg : Config) (clock : Int) (answers : List Bool)
    (threads : Nat) (count : (answers.length : Int) = cfg.minSize)
    {trail : List (State × Action)} {last : State}
    (path : Path (step cfg) (launched clock answers threads) trail last)
    (sound : ∀ taken ∈ trail, defined cfg taken.1 taken.2 = true) (still : quiet last = true) :
    SizeExact cfg last ↔
      (∀ succeeds ∈ answers, succeeds = true) ∧ ∀ taken ∈ trail, fails taken.2 = false := by
  have accounts := accounts_path count path (fits_of_defined sound)
  rw [size_exact_iff_failures accounts still]
  exact no_failures_iff path

/-! ## Runs -/

def smallPool : Config where
  minSize := 0
  maxSize := 1
  maxIdleTime := 180
  opNum := 4
  ordered := by decide

/-- One thread creates a connection, borrows it and gives it back sick. -/
def sickReturn : List Action :=
  [.call 0, .caller 0 .go, .caller 0 .go, .caller 0 (.created true 0), .caller 0 .go,
    .caller 0 .go, .caller 0 .go, .release 0, .caller 0 (.health .unknown), .caller 0 .go,
    .caller 0 .go, .caller 0 .go, .caller 0 .go, .caller 0 .go]

theorem size_exact_sick_return :
    ∃ last, exec (step smallPool) (launched 0 [] 1) sickReturn = some last ∧
      SizeExact smallPool last ∧ last.pool.destroyed = [0] := by
  obtain ⟨last, executed, checked⟩ := exec_checked (step smallPool) (launched 0 [] 1) sickReturn
    (fun last => decide (quiet last = true ∧ last.pool.destroyed = [0])) (by decide)
  obtain ⟨still, destroyed⟩ := of_decide_eq_true checked
  refine ⟨last, executed, ?_, destroyed⟩
  apply (size_exact_iff_no_failure smallPool 0 [] 1 rfl (path_of_exec executed) (by decide)
    still).mpr
  constructor
  · intro succeeds member
    cases member
  · decide

/-- The factory fails once, and the pool counts a connection that does not exist. -/
theorem outage_uses_up_capacity : ¬SizeLaw := by
  intro law
  obtain ⟨last, executed, checked⟩ := exec_checked (step smallPool) (launched 0 [] 1)
    [.call 0, .caller 0 .go, .caller 0 .go, .caller 0 (.created false 0), .caller 0 .go,
      .caller 0 .go, .caller 0 (.woken true), .caller 0 .go, .caller 0 (.waited 5000)]
    (fun last => decide (quiet last = true ∧ last.pool.currentSize = 1 ∧
      last.pool.connQueue = [] ∧ borrowed last = 0)) (by decide)
  obtain ⟨still, size, queue, none⟩ := of_decide_eq_true checked
  have counted := (law smallPool 0 [] 1 last (by decide) rfl (reachable_of_exec executed)
    still).counted
  rw [size, queue, none] at counted
  cases counted

end BackendComponents.RedisPool.Accounting
