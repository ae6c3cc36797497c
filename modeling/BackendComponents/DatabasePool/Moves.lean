import BackendComponents.DatabasePool.Model

/-!
# What one step of the database pool can do

The steps as relations with one constructor for each section of the source.
-/

namespace BackendComponents.DatabasePool.Moves

open BackendComponents.Lib.Threads
open BackendComponents.DatabasePool.Model

set_option autoImplicit false

inductive CallerMove (cfg : Config) (factory : Factory) (pool : Pool) :
    Action → Caller → Pool → Caller → Prop
  | call (id : Nat) :
      CallerMove cfg factory pool (.call id) .idle (getConnection cfg factory id pool).1
        (getConnection cfg factory id pool).2
  | wake (id : Nat) (timedOut : Bool) :
      CallerMove cfg factory pool (.wake id timedOut) .waiting
        { pool with waiting := pool.waiting.erase id } (.relock timedOut)
  | resume (id : Nat) (timedOut : Bool) :
      CallerMove cfg factory pool (.resume id) (.relock timedOut) (afterWait timedOut pool).1
        (afterWait timedOut pool).2
  | drop (id : Nat) (valid : Bool) :
      CallerMove cfg factory pool (.release id valid) (.holding none) pool .idle
  | release (id : Nat) (conn : Conn) (valid : Bool) :
      CallerMove cfg factory pool (.release id valid) (.holding (some conn)) pool
        (.returning conn valid)
  | push (id waiter : Nat) (conn : Conn) (waiting : List Nat)
      (notified : notifyOne waiter pool.waiting = some waiting) :
      CallerMove cfg factory pool (.giveBack id waiter) (.returning conn true)
        { pool with connQueue := pool.connQueue ++ [⟨conn, pool.clock⟩], waiting := waiting } .idle
  | discard (id waiter : Nat) (conn : Conn) :
      CallerMove cfg factory pool (.giveBack id waiter) (.returning conn false)
        { pool with
          currentSize := pool.currentSize - 1
          destroyed := pool.destroyed ++ [conn] } .idle

theorem caller_move_of_step {cfg : Config} {factory : Factory} {pool : Pool} {action : Action}
    {caller : Caller} {result : Pool × Caller}
    (taken : callerStep cfg factory pool action caller = some result) :
    CallerMove cfg factory pool action caller result.1 result.2 := by
  unfold callerStep at taken
  split at taken
  · obtain rfl := Option.some.inj taken
    exact .call _
  · obtain rfl := Option.some.inj taken
    exact .wake _ _
  · obtain rfl := Option.some.inj taken
    exact .resume _ _
  · obtain rfl := Option.some.inj taken
    exact .drop _ _
  · obtain rfl := Option.some.inj taken
    exact .release _ _ _
  · next id waiter conn valid =>
      obtain ⟨after, given, rfl⟩ := Option.map_eq_some_iff.mp taken
      cases valid with
      | true =>
          obtain ⟨waiting, notified, rfl⟩ := Option.map_eq_some_iff.mp given
          exact .push id waiter conn waiting notified
      | false =>
          obtain rfl := Option.some.inj given
          exact .discard id waiter conn
  · cases taken

inductive Move (cfg : Config) (factory : Factory) (state : State) : Action → State → Prop
  | arrive : Move cfg factory state .arrive { state with callers := state.callers ++ [.idle] }
  | recycle (reads : List Entry) :
      Move cfg factory state (.recycle reads)
        { state with pool := recycleIdleConnections cfg reads state.pool }
  | wait (ticks : Nat) :
      Move cfg factory state (.wait ticks)
        { state with pool := { state.pool with clock := state.pool.clock + ticks } }
  | caller (action : Action) (id : Nat) (caller : Caller) (moved : Pool × Caller)
      (acts : actor action = some id) (found : state.callers[id]? = some caller)
      (stepped : callerStep cfg factory state.pool action caller = some moved) :
      Move cfg factory state action (moveCaller state id moved)

theorem move_of_caller {cfg : Config} {factory : Factory} {state after : State} {action : Action}
    (taken : ((actor action).bind fun id => state.callers[id]?.bind fun caller =>
      (callerStep cfg factory state.pool action caller).map fun moved =>
        moveCaller state id moved) = some after) :
    Move cfg factory state action after := by
  obtain ⟨id, acts, present⟩ := Option.bind_eq_some_iff.mp taken
  obtain ⟨caller, found, continued⟩ := Option.bind_eq_some_iff.mp present
  obtain ⟨moved, stepped, rfl⟩ := Option.map_eq_some_iff.mp continued
  exact .caller action id caller moved acts found stepped

theorem move_of_step {cfg : Config} {factory : Factory} {state after : State} {action : Action}
    (taken : step cfg factory state action = some after) : Move cfg factory state action after := by
  cases action with
  | arrive =>
      obtain rfl := Option.some.inj taken
      exact .arrive
  | recycle reads =>
      obtain rfl := Option.some.inj taken
      exact .recycle reads
  | wait ticks =>
      obtain rfl := Option.some.inj taken
      exact .wait ticks
  | _ => exact move_of_caller taken

end BackendComponents.DatabasePool.Moves
