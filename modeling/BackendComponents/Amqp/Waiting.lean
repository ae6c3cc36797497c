import BackendComponents.Amqp.ChannelPool
import BackendComponents.Lib.Paths

/-!
# How a wait in `try_acquire` ends

`acquire` waits in a loop, `try_acquire` once: a borrower that is woken and finds that
another one has taken the channel returns an empty guard.
-/

namespace BackendComponents.Amqp.Waiting

open BackendComponents.Lib.Paths
open BackendComponents.Lib.Threads
open BackendComponents.Amqp.Channels
open BackendComponents.Amqp.ChannelPool

set_option autoImplicit false

/-- An empty guard is for a wait whose time was up, and a borrower woken before that goes on
waiting if there is nothing to take. -/
structure NeverEarly (state : State) (action : Action) (after : State) : Prop where
  byTimeout : ∀ (id : Nat) (call : Call), action = .call id call →
    state.borrowers[id]? = some .tryAcquiring → after.borrowers[id]? = some .idle → call = .expire
  goesOn : ∀ id : Nat, action = .call id .wake → state.borrowers[id]? = some .tryAcquiring →
    state.pool.channels = [] → after.borrowers[id]? = some .tryAcquiring

/-- A borrower woken before its time finds a channel when it has the mutex back. -/
def FindsOne (state : State) : Action → Prop
  | .call id .wake => state.borrowers[id]? = some .tryAcquiring → state.pool.channels ≠ []
  | _ => True

instance (state : State) : (action : Action) → Decidable (FindsOne state action)
  | .call id .wake => inferInstanceAs (Decidable (state.borrowers[id]? = some .tryAcquiring → _))
  | .arrive | .call _ .acquire | .call _ .tryAcquire | .call _ .expire | .call _ (.openChannel _)
  | .call _ (.closeChannel _) | .call _ (.operate _ _) | .call _ (.release _) => isTrue True.intro

theorem borrow_waiting {id : Nat} {pool : Pool} {call : Call} {result : Pool × Borrower}
    (moved : borrow id pool .tryAcquiring call = some result) :
    (call = .wake ∨ call = .expire) ∧ (result.2 = .idle ↔ pool.channels = []) ∧
      result.2 ≠ .tryAcquiring := by
  have ends : takeFront (unblock id pool) (unblock id pool, .idle) = result →
      (result.2 = .idle ↔ pool.channels = []) ∧ result.2 ≠ .tryAcquiring := by
    rintro rfl
    have same : (unblock id pool).channels = pool.channels := rfl
    unfold takeFront
    rw [same]
    cases pool.channels with
    | nil => exact ⟨iff_of_true rfl rfl, fun impossible => nomatch impossible⟩
    | cons link rest =>
        refine ⟨iff_of_false ?_ (List.cons_ne_nil _ _), fun impossible => nomatch impossible⟩
        exact fun impossible => nomatch impossible
  cases call with
  | wake => exact ⟨.inl rfl, ends (Option.some.inj moved)⟩
  | expire => exact ⟨.inr rfl, ends (Option.some.inj moved)⟩
  | _ => cases moved

theorem never_early_waiting_iff {state : State} {id : Nat} {call : Call}
    {result : Pool × Borrower} (found : state.borrowers[id]? = some .tryAcquiring)
    (moved : borrow id state.pool .tryAcquiring call = some result) :
    NeverEarly state (.call id call)
        { pool := result.1, borrowers := state.borrowers.set id result.2 } ↔
      FindsOne state (.call id call) := by
  have own : (state.borrowers.set id result.2)[id]? = some result.2 := lookup_move_self found
  obtain ⟨ends, empty, gone⟩ := borrow_waiting moved
  rcases ends with rfl | rfl
  · constructor
    · intro law _ nothing
      have goesOn := law.goesOn id rfl found nothing
      exact gone (Option.some.inj (own.symm.trans goesOn))
    · intro finds
      constructor
      · intro other call same _ idle
        obtain ⟨rfl, rfl⟩ := Action.call.inj same
        have nothing := empty.mp (Option.some.inj (own.symm.trans idle))
        exact absurd nothing (finds found)
      · intro other same _ nothing
        exact absurd nothing (finds found)
  · apply iff_of_true _ True.intro
    constructor
    · intro other call same _ _
      exact (Action.call.inj same).2.symm
    · exact fun _ same => nomatch same

theorem never_early_away_iff {state after : State} {id : Nat} {call : Call}
    (away : state.borrowers[id]? ≠ some .tryAcquiring) :
    NeverEarly state (.call id call) after ↔ FindsOne state (.call id call) := by
  apply iff_of_true
  · constructor
    · intro other call same waiting
      obtain ⟨rfl, rfl⟩ := Action.call.inj same
      exact absurd waiting away
    · intro other same waiting
      obtain ⟨rfl, rfl⟩ := Action.call.inj same
      exact absurd waiting away
  · cases call with
    | wake => exact fun waiting => absurd waiting away
    | _ => exact True.intro

theorem never_early_iff {state after : State} {action : Action}
    (taken : step state action = some after) :
    NeverEarly state action after ↔ FindsOne state action := by
  cases action with
  | arrive =>
      apply iff_of_true _ True.intro
      constructor
      · exact fun _ _ impossible => nomatch impossible
      · exact fun _ impossible => nomatch impossible
  | call id call =>
      obtain ⟨borrower, found, continued⟩ := Option.bind_eq_some_iff.mp taken
      obtain ⟨result, borrowed, rfl⟩ := Option.map_eq_some_iff.mp continued
      by_cases waits : borrower = .tryAcquiring
      · subst waits
        exact never_early_waiting_iff found borrowed
      · apply never_early_away_iff
        intro waiting
        exact waits (Option.some.inj (found.symm.trans waiting))

theorem channel_never_early_iff (replies : List Reply) (trail : List (State × Action))
    (last : State) (path : Path step (constructed replies) trail last) :
    Obeyed step NeverEarly trail ↔ ∀ taken ∈ trail, FindsOne taken.1 taken.2 := by
  apply path_obeyed_iff_good (fun _ => True) (fun _ => True) NeverEarly FindsOne True.intro
    True.intro _ _ _ path
  · exact fun _ _ _ _ _ => True.intro
  · exact fun _ _ _ _ _ _ _ => True.intro
  · exact fun _ _ _ _ _ taken => never_early_iff taken

end BackendComponents.Amqp.Waiting
