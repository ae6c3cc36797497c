import BackendComponents.DatabasePool.Accounting

/-!
# What a timeout says about the pool

A caller waits only when nothing is idle and the limit is reached. A connection that is
deleted afterwards makes room that the waiting caller does not learn of.
-/

namespace BackendComponents.DatabasePool.Exhaustion

open BackendComponents.Lib.Paths
open BackendComponents.Lib.Threads
open BackendComponents.DatabasePool.Model
open BackendComponents.DatabasePool.Moves
open BackendComponents.DatabasePool.Sweeping
open BackendComponents.DatabasePool.Accounting

set_option autoImplicit false

def existing (state : State) : Nat := state.pool.connQueue.length + borrowed state

/-- A call whose wait has timed out and that returns an empty guard leaves a pool with
nothing idle and no room. -/
def TimesOutFull (cfg : Config) (state : State) (action : Action) (after : State) : Prop :=
  ∀ id : Nat, action = .resume id → state.callers[id]? = some (.relock true) →
    after.callers[id]? = some (.holding none) →
      after.pool.connQueue = [] ∧ (existing after : Int) = cfg.maxSize

def deletes (cfg : Config) (state : State) : Action → Bool
  | .giveBack id _ => (state.callers[id]?).any fun caller => match caller with
      | .returning _ valid => !valid
      | _ => false
  | .recycle _ => decide (0 < excessIn cfg state.pool)
  | _ => false

def waits : Caller → Bool
  | .waiting | .relock true => true
  | _ => false

/-- No connection is deleted while a call waits, and no popped entry is read. -/
structure Undisturbed (cfg : Config) (state : State) (action : Action) : Prop where
  apart : deletes cfg state action = true → ∀ caller ∈ state.callers, waits caller = false
  live : readsLive cfg state action = true

instance (cfg : Config) (state : State) (action : Action) :
    Decidable (Undisturbed cfg state action) :=
  decidable_of_iff ((deletes cfg state action = true → ∀ caller ∈ state.callers,
    waits caller = false) ∧ readsLive cfg state action = true)
    ⟨fun both => ⟨both.1, both.2⟩, fun calm => ⟨calm.apart, calm.live⟩⟩

/-- Whoever waits does so at the limit. -/
def Saturated (cfg : Config) (state : State) : Prop :=
  ∀ caller ∈ state.callers, waits caller = true → state.pool.currentSize = cfg.maxSize

/-! ## A call at the limit -/

theorem create_all (count : Nat) (pool : Pool) :
    (createConnections (fun _ => true) count pool).2 = true ∧
      (createConnections (fun _ => true) count pool).1.connQueue.length =
        pool.connQueue.length + count := by
  induction count generalizing pool with
  | zero => exact ⟨rfl, rfl⟩
  | succ count ih =>
      obtain ⟨completed, length⟩ := ih (pushConnection pool)
      unfold createConnections
      rw [if_pos rfl]
      refine ⟨completed, length.trans ?_⟩
      unfold pushConnection
      rw [List.length_append, List.length_singleton]
      omega

theorem expand_at_limit {cfg : Config} {factory : Factory} {pool : Pool}
    (full : ¬pool.currentSize < cfg.maxSize) : expandWhenEmpty cfg factory pool = (pool, true) :=
  if_neg fun both => full both.2

theorem get_at_limit {cfg : Config} {factory : Factory} (id : Nat) {pool : Pool}
    (full : ¬pool.currentSize < cfg.maxSize) :
    (getConnection cfg factory id pool).1.currentSize = pool.currentSize := by
  unfold getConnection
  split
  · rfl
  · rw [expand_at_limit full]
    dsimp only
    rw [if_pos rfl]
    apply take_size
    rfl

theorem get_waits {cfg : Config} (op : 1 ≤ cfg.opNum) (id : Nat) {pool : Pool}
    (waiting : waits (getConnection cfg (fun _ => true) id pool).2 = true) :
    ¬pool.currentSize < cfg.maxSize := by
  intro room
  unfold getConnection at waiting
  split at waiting
  · cases waiting
  · dsimp only at waiting
    by_cases empty : pool.connQueue = []
    · have expanded : expandWhenEmpty cfg (fun _ => true) pool =
          createConnections (fun _ => true)
            (min (cfg.maxSize - pool.currentSize) cfg.opNum).toNat pool := by
        unfold expandWhenEmpty expandConnections
        rw [if_pos ⟨empty, room⟩]
        exact if_neg (by omega)
      obtain ⟨completed, length⟩ :=
        create_all (min (cfg.maxSize - pool.currentSize) cfg.opNum).toNat pool
      rw [expanded, completed, if_pos rfl] at waiting
      unfold takeFront at waiting
      split at waiting
      · next nothing =>
          rw [nothing, List.length_nil] at length
          omega
      · cases waiting
    · have same : expandWhenEmpty cfg (fun _ => true) pool = (pool, true) :=
        if_neg fun both => empty both.1
      rw [same, if_pos rfl] at waiting
      unfold takeFront at waiting
      split at waiting
      · next nothing => exact empty nothing
      · cases waiting

theorem wait_size (timedOut : Bool) (pool : Pool) :
    (afterWait timedOut pool).1.currentSize = pool.currentSize := by
  unfold afterWait
  split
  · rfl
  · apply take_size
    rfl

theorem wait_over (timedOut : Bool) (pool : Pool) : waits (afterWait timedOut pool).2 = false := by
  unfold afterWait takeFront
  split
  · rfl
  · split <;> rfl

/-! ## The invariant -/

section Invariant

variable {cfg : Config} {state : State}

theorem saturated_of_size {pool : Pool} (saturated : Saturated cfg state)
    (size : pool.currentSize = state.pool.currentSize) :
    Saturated cfg { state with pool := pool } :=
  fun caller member waiting => size.trans (saturated caller member waiting)

theorem saturated_caller {id : Nat} {moved : Pool × Caller} (saturated : Saturated cfg state)
    (size : (∃ caller ∈ state.callers, waits caller = true) →
      moved.1.currentSize = state.pool.currentSize)
    (own : waits moved.2 = true → moved.1.currentSize = cfg.maxSize) :
    Saturated cfg (moveCaller state id moved) := by
  intro caller member waiting
  rcases List.mem_or_eq_of_mem_set member with old | rfl
  · exact (size ⟨caller, old, waiting⟩).trans (saturated caller old waiting)
  · exact own waiting

theorem saturated_quiet {id : Nat} {moved : Pool × Caller} (saturated : Saturated cfg state)
    (size : moved.1.currentSize = state.pool.currentSize) (quiet : waits moved.2 = false) :
    Saturated cfg (moveCaller state id moved) := by
  apply saturated_caller saturated
  · exact fun _ => size
  · intro waiting
    rw [quiet] at waiting
    cases waiting

theorem saturated_move {after : State} {action : Action} (op : 1 ≤ cfg.opNum)
    (accounts : Accounts cfg (fun _ => true) state) (saturated : Saturated cfg state)
    (undisturbed : Undisturbed cfg state action)
    (move : Move cfg (fun _ => true) state action after) : Saturated cfg after := by
  have bounded := accounts.bounded
  cases move with
  | arrive =>
      intro caller member waiting
      rcases List.mem_append.mp member with old | new
      · exact saturated caller old waiting
      · rw [List.mem_singleton.mp new] at waiting
        cases waiting
  | recycle reads =>
      by_cases something : 0 < excessIn cfg state.pool
      · intro caller member waiting
        rw [undisturbed.apart (decide_eq_true something) caller member] at waiting
        cases waiting
      · apply saturated_of_size saturated
        rw [recycle_size]
        omega
  | wait ticks => exact saturated_of_size saturated rfl
  | caller action id caller moved acts found stepped =>
      obtain ⟨pool, later⟩ := moved
      have move := caller_move_of_step stepped
      have here := List.mem_of_getElem? found
      dsimp only at move
      cases move with
      | call other =>
          apply saturated_caller saturated
          · rintro ⟨waiter, present, waiting⟩
            have full := saturated waiter present waiting
            exact get_at_limit other (by omega)
          · intro waiting
            have full := get_waits op other waiting
            apply (get_at_limit other full).trans
            omega
      | wake other timedOut =>
          apply saturated_caller saturated
          · exact fun _ => rfl
          · exact fun _ => saturated _ here rfl
      | resume other timedOut =>
          exact saturated_quiet saturated (wait_size timedOut state.pool)
            (wait_over timedOut state.pool)
      | drop other valid => exact saturated_quiet saturated rfl rfl
      | release other conn valid => exact saturated_quiet saturated rfl rfl
      | push other waiter conn waiting _ => exact saturated_quiet saturated rfl rfl
      | discard other waiter conn =>
          apply saturated_caller saturated
          · rintro ⟨caller, present, waiting⟩
            obtain rfl : other = id := Option.some.inj acts
            have deleted : deletes cfg state (.giveBack other waiter) = true := by
              unfold deletes
              dsimp only
              rw [found]
              rfl
            rw [undisturbed.apart deleted caller present] at waiting
            cases waiting
          · exact fun impossible => nomatch impossible

theorem times_out_full {after : State} {action : Action} {factory : Factory}
    (accounts : Accounts cfg factory after) (saturated : Saturated cfg state)
    (move : Move cfg factory state action after) : TimesOutFull cfg state action after := by
  have counted := accounts.size
  intro id resumes expired empty
  subst resumes
  have full := saturated _ (List.mem_of_getElem? expired) rfl
  cases move with
  | caller _ other caller moved acts found stepped =>
      obtain rfl : id = other := Option.some.inj acts
      obtain rfl := Option.some.inj (found.symm.trans expired)
      obtain rfl := Option.some.inj stepped
      have result : (afterWait true state.pool).2 = .holding none := by
        have own : (state.callers.set id (afterWait true state.pool).2)[id]? = _ :=
          lookup_move_self found
        exact Option.some.inj (own.symm.trans empty)
      have same : (afterWait true state.pool).1 = state.pool ∧ state.pool.connQueue = [] := by
        unfold afterWait at result ⊢
        split at result
        · next both => exact ⟨by rw [if_pos both], both.2⟩
        · next skip =>
            unfold takeFront at result
            split at result
            · next nothing => exact absurd ⟨rfl, nothing⟩ skip
            · cases result
      dsimp only [moveCaller, existing] at counted ⊢
      rw [same.1] at counted ⊢
      refine ⟨same.2, ?_⟩
      push_cast
      exact counted.symm.trans full

end Invariant

theorem saturated_initialised (cfg : Config) (factory : Factory) (clock : Int) :
    Saturated cfg (initialised cfg factory clock) :=
  fun _ member => nomatch member

/-- In every run with a factory that always succeeds in which no connection is deleted
while a call waits, and no popped entry is read. -/
theorem database_times_out_full (cfg : Config) (clock : Int) (op : 1 ≤ cfg.opNum)
    (ordered : 0 ≤ cfg.minSize ∧ cfg.minSize ≤ cfg.maxSize) (trail : List (State × Action))
    (last : State)
    (path : Path (step cfg fun _ => true) (initialised cfg (fun _ => true) clock) trail last)
    (undisturbed : ∀ taken ∈ trail, Undisturbed cfg taken.1 taken.2) :
    Obeyed (step cfg fun _ => true) (TimesOutFull cfg) trail := by
  apply path_obeyed_of_good (fun _ => True)
    (fun state => Accounts cfg (fun _ => true) state ∧ Saturated cfg state) (TimesOutFull cfg)
    (Undisturbed cfg) True.intro
    ⟨accounts_initialised _ clock ordered, saturated_initialised cfg _ clock⟩
    _ _ _ path undisturbed
  · exact fun _ _ _ _ _ => True.intro
  · intro state action after _ books undisturbed taken
    have move := move_of_step taken
    exact ⟨accounts_move books.1 undisturbed.live move,
      saturated_move op books.1 books.2 undisturbed move⟩
  · intro state action after _ books undisturbed taken
    have move := move_of_step taken
    exact times_out_full (accounts_move books.1 undisturbed.live move) books.2 move

end BackendComponents.DatabasePool.Exhaustion
