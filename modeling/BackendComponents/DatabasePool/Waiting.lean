import BackendComponents.DatabasePool.Accounting

/-!
# How a wait in `get_connection` ends

The wait is no loop. A caller that is woken before its time is up, and finds that another
caller has taken the connection, returns with an empty guard.
-/

namespace BackendComponents.DatabasePool.Waiting

open BackendComponents.Lib.Paths
open BackendComponents.Lib.Threads
open BackendComponents.DatabasePool.Model
open BackendComponents.DatabasePool.Moves
open BackendComponents.DatabasePool.Sweeping
open BackendComponents.DatabasePool.Accounting

set_option autoImplicit false

/-- An empty guard is for a wait whose time was up, and a caller
woken before that goes on waiting if there is nothing to take. -/
structure NeverEarly (state : State) (action : Action) (after : State) : Prop where
  byTimeout : ∀ id : Nat, actor action = some id → after.callers[id]? = some (.holding none) →
    state.callers[id]? = some (.relock true)
  goesOn : ∀ id : Nat, action = .resume id → state.callers[id]? = some (.relock false) →
    state.pool.connQueue = [] → after.callers[id]? = some .waiting

/-- A caller woken before its time finds a connection when it has the mutex back. -/
def FindsOne (state : State) : Action → Prop
  | .resume id => state.callers[id]? = some (.relock false) → state.pool.connQueue ≠ []
  | _ => True

instance (state : State) : (action : Action) → Decidable (FindsOne state action)
  | .resume id => inferInstanceAs (Decidable (state.callers[id]? = some (.relock false) → _))
  | .arrive | .call _ | .wake _ _ | .release _ _ | .giveBack _ _ | .recycle _ | .wait _ =>
      isTrue True.intro

/-! ## The pool stays initialised -/

theorem take_initialized {pool : Pool} {otherwise : Pool × Caller}
    (same : otherwise.1.initialized = pool.initialized) :
    (takeFront pool otherwise).1.initialized = pool.initialized := by
  unfold takeFront
  split
  · exact same
  · rfl

theorem get_initialized (cfg : Config) (factory : Factory) (id : Nat) (pool : Pool) :
    (getConnection cfg factory id pool).1.initialized = pool.initialized := by
  have grown := (growth_get cfg factory pool).initialized
  unfold getConnection
  split
  · rfl
  · dsimp only
    split
    · rw [take_initialized]
      · exact grown
      · rfl
    · exact grown

theorem initialized_move {cfg : Config} {factory : Factory} {state after : State}
    {action : Action} (move : Move cfg factory state action after) :
    after.pool.initialized = state.pool.initialized := by
  cases move with
  | arrive => rfl
  | recycle reads => exact recycle_initialized cfg reads state.pool
  | wait ticks => rfl
  | caller action id caller moved _ found stepped =>
      obtain ⟨pool, later⟩ := moved
      dsimp only [moveCaller]
      have move := caller_move_of_step stepped
      dsimp only at move
      cases move with
      | call id => exact get_initialized cfg factory id state.pool
      | resume id timedOut =>
          unfold afterWait
          split
          · rfl
          · apply take_initialized
            rfl
      | _ => rfl

theorem initialized_start (cfg : Config) (factory : Factory) (clock : Int) :
    (initialised cfg factory clock).pool.initialized = true :=
  (growth_create factory cfg.minSize.toNat (emptyPool clock)).initialized

/-! ## One step -/

theorem take_result (pool : Pool) {otherwise : Pool × Caller}
    (something : otherwise.2 ≠ .holding none) : (takeFront pool otherwise).2 ≠ .holding none := by
  unfold takeFront
  split
  · exact something
  · exact fun impossible => nomatch impossible

theorem get_result (cfg : Config) (factory : Factory) (id : Nat) {pool : Pool}
    (initialized : pool.initialized = true) :
    (getConnection cfg factory id pool).2 ≠ .holding none := by
  unfold getConnection
  rw [initialized, if_neg Bool.noConfusion]
  dsimp only
  split
  · apply take_result
    exact fun impossible => nomatch impossible
  · exact fun impossible => nomatch impossible

theorem never_early_of {state : State} {action : Action} {id : Nat} {moved : Pool × Caller}
    {caller : Caller} (acts : actor action = some id) (found : state.callers[id]? = some caller)
    (something : moved.2 = .holding none → caller = .relock true)
    (late : caller = .relock false → state.pool.connQueue ≠ []) :
    NeverEarly state action (moveCaller state id moved) := by
  constructor
  · intro other acting empty
    obtain rfl : id = other := Option.some.inj (acts.symm.trans acting)
    have result : (state.callers.set id moved.2)[id]? = some moved.2 := lookup_move_self found
    rw [found, something (Option.some.inj (result.symm.trans empty))]
  · intro other resumes early nothing
    subst resumes
    obtain rfl : other = id := Option.some.inj acts
    exact absurd nothing (late (Option.some.inj (found.symm.trans early)))

theorem never_early_nobody {state after : State} {action : Action} (acts : actor action = none) :
    NeverEarly state action after := by
  constructor
  · intro id acting
    rw [acts] at acting
    cases acting
  · intro id resumes
    rw [resumes] at acts
    cases acts

theorem resume_early_iff {state : State} {id : Nat}
    (found : state.callers[id]? = some (.relock false)) :
    NeverEarly state (.resume id) (moveCaller state id (afterWait false state.pool)) ↔
      state.pool.connQueue ≠ [] := by
  constructor
  · intro law nothing
    have empty : (afterWait false state.pool).2 = .holding none := by
      unfold afterWait takeFront
      rw [nothing]
      rfl
    have result : (moveCaller state id (afterWait false state.pool)).callers[id]? =
        some (.holding none) := by
      rw [← empty]
      exact lookup_move_self found
    have impossible := law.byTimeout id rfl result
    rw [found] at impossible
    cases impossible
  · intro present
    refine never_early_of rfl found (fun empty => ?_) fun _ => present
    unfold afterWait takeFront at empty
    split at empty
    · next both => cases both.1
    · split at empty
      · next nothing => exact absurd nothing present
      · cases empty

theorem never_early_iff {cfg : Config} {factory : Factory} {state after : State} {action : Action}
    (initialized : state.pool.initialized = true) (move : Move cfg factory state action after) :
    NeverEarly state action after ↔ FindsOne state action := by
  cases move with
  | arrive => exact iff_of_true (never_early_nobody rfl) True.intro
  | recycle reads => exact iff_of_true (never_early_nobody rfl) True.intro
  | wait ticks => exact iff_of_true (never_early_nobody rfl) True.intro
  | caller action id caller moved acts found stepped =>
      obtain ⟨pool, later⟩ := moved
      have move := caller_move_of_step stepped
      dsimp only at move
      cases move with
      | call other =>
          apply iff_of_true _ True.intro
          apply never_early_of acts found
          · exact fun empty => absurd empty (get_result cfg factory other initialized)
          · exact fun impossible => nomatch impossible
      | resume other timedOut =>
          obtain rfl : other = id := Option.some.inj acts
          cases timedOut with
          | true =>
              refine iff_of_true (never_early_of acts found (fun _ => rfl) ?_) ?_
              · exact fun impossible => nomatch impossible
              · intro early
                cases found.symm.trans early
          | false =>
              apply (resume_early_iff found).trans
              exact ⟨fun present _ => present, fun finds => finds found⟩
      | _ =>
          apply iff_of_true _ True.intro
          apply never_early_of acts found
          · exact fun impossible => nomatch impossible
          · exact fun impossible => nomatch impossible

theorem database_never_early_iff (cfg : Config) (factory : Factory) (clock : Int)
    (trail : List (State × Action)) (last : State)
    (path : Path (step cfg factory) (initialised cfg factory clock) trail last) :
    Obeyed (step cfg factory) NeverEarly trail ↔
      ∀ taken ∈ trail, FindsOne taken.1 taken.2 := by
  apply path_obeyed_iff_good (fun state => state.pool.initialized = true) (fun _ => True)
    NeverEarly FindsOne (initialized_start cfg factory clock) True.intro _ _ _ path
  · intro state action after initialized taken
    exact (initialized_move (move_of_step taken)).trans initialized
  · exact fun _ _ _ _ _ _ _ => True.intro
  · intro state action after initialized _ taken
    exact never_early_iff initialized (move_of_step taken)

end BackendComponents.DatabasePool.Waiting
