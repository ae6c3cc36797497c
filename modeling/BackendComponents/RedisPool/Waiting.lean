import BackendComponents.RedisPool.Accounting

/-!
# How a wait in `get_connection` ends

The wait is no loop. A caller that is woken before its time is up goes on to the end of
the function, whether or not there is still a connection for it.
-/

namespace BackendComponents.RedisPool.Waiting

open BackendComponents.Lib.Paths
open BackendComponents.Lib.Threads
open BackendComponents.RedisPool.Model
open BackendComponents.RedisPool.Moves
open BackendComponents.RedisPool.Sweeping
open BackendComponents.RedisPool.Accounting

set_option autoImplicit false

/-- An empty guard is for a wait whose time was up, and a caller
woken before that goes on waiting if there is nothing to take. -/
structure NeverEarly (state : State) (action : Action) (after : State) : Prop where
  byTimeout : ∀ (id : Nat) (pc : GetPc), state.callers[id]? = some (.getting pc) →
    after.callers[id]? = some .idle → pc = .awake true
  goesOn : ∀ (id : Nat) (answer : Answer), action = .caller id answer →
    state.callers[id]? = some (.getting (.awake false)) → state.pool.connQueue = [] →
      after.callers[id]? = some (.getting .waiting)

/-- A caller woken before its time finds a connection when it has the mutex back. -/
def FindsOne (state : State) : Action → Prop
  | .caller id _ =>
      state.callers[id]? = some (.getting (.awake false)) → state.pool.connQueue ≠ []
  | _ => True

instance (state : State) : (action : Action) → Decidable (FindsOne state action)
  | .caller id _ =>
      inferInstanceAs (Decidable (state.callers[id]? = some (.getting (.awake false)) → _))
  | .call _ | .release _ | .recycle _ | .wait _ => isTrue True.intro

/-- What all runs keep. -/
structure Steady (state : State) : Prop where
  locked : Locked state
  initialized : state.pool.initialized = true

def TakeFinds (state : State) : Prop :=
  ∀ id : Nat, state.callers[id]? = some (.getting .take) → state.pool.connQueue ≠ []

/-! ## The pool stays initialised -/

theorem caller_initialized {cfg : Config} {id : Nat} {pool after : Pool} {caller moved : Caller}
    {answer : Answer} (move : CallerMove cfg id pool answer caller after moved) :
    after.initialized = pool.initialized := by
  cases move with
  | get move =>
      cases move with
      | create succeeds waiter left => exact create_initialized succeeds pool
      | _ => rfl
  | giveBack move =>
      cases move with
      | replenishNull waiter => exact create_initialized false pool
      | replenish waiter waiting _ => exact create_initialized true pool
      | _ => rfl

theorem steady_move {cfg : Config} {state after : State} {action : Action}
    (steady : Steady state) (move : Move cfg state action after) : Steady after := by
  constructor
  · exact locked_move steady.locked move
  · cases move with
    | call id _ => exact steady.initialized
    | release id conn _ => exact steady.initialized
    | caller id answer caller moved _ stepped =>
        exact (caller_initialized (caller_move_of_step stepped)).trans steady.initialized
    | recycle reads _ =>
        have left := recycled cfg.minSize cfg.maxIdleTime reads state.pool
        exact left.initialized.trans steady.initialized
    | wait ticks => exact steady.initialized

theorem source_initialized (answers : List Bool) (pool : Pool) :
    (sourceConnections answers pool).initialized = pool.initialized := by
  unfold sourceConnections recordSizes
  dsimp only
  induction answers generalizing pool with
  | nil => rfl
  | cons succeeds rest ih =>
      rw [List.foldl_cons, ih]
      exact create_initialized succeeds pool

theorem steady_launched (clock : Int) (answers : List Bool) (threads : Nat) :
    Steady (launched clock answers threads) :=
  ⟨locked_launched clock answers threads, source_initialized answers _⟩

/-! ## What is left for a caller about to take -/

theorem caller_queue {cfg : Config} {id : Nat} {pool after : Pool} {caller moved : Caller}
    {answer : Answer} (move : CallerMove cfg id pool answer caller after moved) :
    inside caller = true ∨ after.connQueue = pool.connQueue ∨ pool.mutex = none := by
  cases move with
  | get move => cases move <;> first | exact .inl rfl | exact .inr (.inl rfl)
  | giveBack move =>
      cases move with
      | push conn waiter waiting free _ => exact .inr (.inr free)
      | _ => first | exact .inl rfl | exact .inr (.inl rfl)

theorem foreign_queue {cfg : Config} {state : State} {id other : Nat} {caller seen moved : Caller}
    {answer : Answer} {after : Pool} (locked : Locked state)
    (found : state.callers[id]? = some caller)
    (move : CallerMove cfg id state.pool answer caller after moved) (different : other ≠ id)
    (present : state.callers[other]? = some seen) (within : inside seen = true) :
    after.connQueue = state.pool.connQueue := by
  have theirs := locked other seen present within
  rcases caller_queue move with entered | same | free
  · have mine := locked id caller found entered
    rw [mine] at theirs
    exact absurd (Option.some.inj theirs).symm different
  · exact same
  · rw [free] at theirs
    cases theirs

theorem caller_takes {cfg : Config} {id : Nat} {pool after : Pool} {caller : Caller}
    {answer : Answer} (move : CallerMove cfg id pool answer caller after (.getting .take))
    (finds : caller = .getting (.awake false) → pool.connQueue ≠ []) : after.connQueue ≠ [] := by
  generalize moved : Caller.getting .take = result at move
  cases move with
  | @get pc next _ move =>
      cases move with
      | found nonempty => exact nonempty
      | waited timedOut ms served =>
          cases timedOut with
          | true => exact fun nothing => served ⟨rfl, nothing⟩
          | false => exact finds rfl
      | _ => cases moved
  | @giveBack pc next _ move => cases move <;> cases moved

theorem take_finds_caller {cfg : Config} {state : State} {id : Nat} {answer : Answer}
    {caller : Caller} {moved : Pool × Caller} (locked : Locked state)
    (takes : TakeFinds state) (found : state.callers[id]? = some caller)
    (finds : FindsOne state (.caller id answer))
    (move : CallerMove cfg id state.pool answer caller moved.1 moved.2) :
    TakeFinds (moveCaller state id moved) := by
  intro other present
  rcases lookup_move present with ⟨rfl, taking⟩ | ⟨different, old⟩
  · rw [← taking] at move
    apply caller_takes move
    rintro rfl
    exact finds found
  · dsimp only [moveCaller]
    rw [foreign_queue locked found move different old rfl]
    exact takes other old

theorem take_finds_move {cfg : Config} {state after : State} {action : Action}
    (locked : Locked state) (takes : TakeFinds state) (finds : FindsOne state action)
    (move : Move cfg state action after) : TakeFinds after := by
  cases move with
  | call id found =>
      intro other present
      rcases lookup_move present with ⟨_, impossible⟩ | ⟨_, old⟩
      · cases impossible
      · exact takes other old
  | release id conn found =>
      intro other present
      rcases lookup_move present with ⟨_, impossible⟩ | ⟨_, old⟩
      · cases impossible
      · exact takes other old
  | caller id answer caller moved found stepped =>
      exact take_finds_caller locked takes found finds (caller_move_of_step stepped)
  | recycle reads free =>
      intro other present
      have theirs := locked other _ present rfl
      rw [free] at theirs
      cases theirs
  | wait ticks => exact takes

/-! ## One step -/

theorem get_empty {cfg : Config} {id : Nat} {pool after : Pool} {pc moved : GetPc}
    {answer : Answer} (initialized : pool.initialized = true)
    (move : GetMove cfg id pool pc answer after moved) (empty : afterGet moved = .idle) :
    pc = .awake true ∨ pc = .take ∧ pool.connQueue = [] := by
  cases move with
  | refused uninitialised =>
      rw [initialized] at uninitialised
      cases uninitialised
  | timeout ms _ => exact .inl rfl
  | takeNone nothing => exact .inr ⟨rfl, nothing⟩
  | _ => cases empty

theorem awake_leaves {cfg : Config} {id : Nat} {pool after : Pool} {moved : Caller}
    {answer : Answer} {timedOut : Bool}
    (move : CallerMove cfg id pool answer (.getting (.awake timedOut)) after moved) :
    moved ≠ .getting .waiting := by
  cases move with
  | get move => cases move <;> exact fun impossible => nomatch impossible

theorem getting_not_idle {callers : List Caller} {id : Nat} {pc : GetPc}
    (getting : callers[id]? = some (.getting pc)) (idle : callers[id]? = some .idle) :
    pc = .awake true := by
  cases getting.symm.trans idle

theorem never_early_plain {state after : State} {action : Action}
    (foreign : ∀ (id : Nat) (answer : Answer), action ≠ .caller id answer)
    (ended : ∀ id : Nat, after.callers[id]? = some .idle → state.callers[id]? = some .idle) :
    NeverEarly state action after := by
  constructor
  · exact fun id pc getting idle => getting_not_idle getting (ended id idle)
  · exact fun id answer acts => absurd acts (foreign id answer)

theorem never_early_caller_iff {cfg : Config} {state : State} {id : Nat} {answer : Answer}
    {caller : Caller} {moved : Pool × Caller} (steady : Steady state) (takes : TakeFinds state)
    (found : state.callers[id]? = some caller)
    (move : CallerMove cfg id state.pool answer caller moved.1 moved.2) :
    NeverEarly state (.caller id answer) (moveCaller state id moved) ↔
      FindsOne state (.caller id answer) := by
  have own : (state.callers.set id moved.2)[id]? = some moved.2 := lookup_move_self found
  constructor
  · intro law early nothing
    obtain rfl := Option.some.inj (found.symm.trans early)
    have goesOn := law.goesOn id answer rfl early nothing
    exact awake_leaves move (Option.some.inj (own.symm.trans goesOn))
  · intro finds
    constructor
    · intro other pc getting idle
      rcases lookup_move idle with ⟨rfl, empty⟩ | ⟨_, old⟩
      · obtain rfl := Option.some.inj (found.symm.trans getting)
        rw [← empty] at move
        generalize result : Caller.idle = after at move
        cases move with
        | get move =>
            rcases get_empty steady.initialized move result.symm with timedOut | ⟨rfl, nothing⟩
            · exact timedOut
            · exact absurd nothing (takes other getting)
      · exact getting_not_idle getting old
    · intro other seen acts early nothing
      obtain ⟨rfl, rfl⟩ := Action.caller.inj acts
      exact absurd nothing (finds early)

theorem never_early_iff {cfg : Config} {state after : State} {action : Action}
    (steady : Steady state) (takes : TakeFinds state) (move : Move cfg state action after) :
    NeverEarly state action after ↔ FindsOne state action := by
  cases move with
  | call id found =>
      apply iff_of_true _ True.intro
      apply never_early_plain
      · exact fun _ _ impossible => nomatch impossible
      · intro other idle
        rcases lookup_move idle with ⟨_, impossible⟩ | ⟨_, old⟩
        · cases impossible
        · exact old
  | release id conn found =>
      apply iff_of_true _ True.intro
      apply never_early_plain
      · exact fun _ _ impossible => nomatch impossible
      · intro other idle
        rcases lookup_move idle with ⟨_, impossible⟩ | ⟨_, old⟩
        · cases impossible
        · exact old
  | caller id answer caller moved found stepped =>
      exact never_early_caller_iff steady takes found (caller_move_of_step stepped)
  | recycle reads _ =>
      apply iff_of_true _ True.intro
      exact never_early_plain (fun _ _ impossible => nomatch impossible) fun _ idle => idle
  | wait ticks =>
      apply iff_of_true _ True.intro
      exact never_early_plain (fun _ _ impossible => nomatch impossible) fun _ idle => idle

theorem redis_never_early_iff (cfg : Config) (clock : Int) (answers : List Bool) (threads : Nat)
    (trail : List (State × Action)) (last : State)
    (path : Path (step cfg) (launched clock answers threads) trail last) :
    Obeyed (step cfg) NeverEarly trail ↔ ∀ taken ∈ trail, FindsOne taken.1 taken.2 := by
  apply path_obeyed_iff_good Steady TakeFinds NeverEarly FindsOne
    (steady_launched clock answers threads) _ _ _ _ path
  · intro id found
    cases idle_launched found
  · exact fun _ _ _ steady taken => steady_move steady (move_of_step taken)
  · intro state action after steady takes finds taken
    exact take_finds_move steady.locked takes finds (move_of_step taken)
  · exact fun _ _ _ steady takes taken => never_early_iff steady takes (move_of_step taken)

end BackendComponents.RedisPool.Waiting
