import BackendComponents.Inventory.Service

/-!
# The moves of the service

One case for each way out of a program point of `deduct`. A call touches the store of
MySQL only through its operation on the repository.
-/

namespace BackendComponents.Inventory.Calls

open BackendComponents.Lib.Threads
open BackendComponents.Inventory.Database
open BackendComponents.Inventory.Repository
open BackendComponents.Inventory.Sessions
open BackendComponents.Inventory.Service

set_option autoImplicit false

inductive CallMove (state : State) (call : Call) : Answer → State → CallPc → Prop
  | rejected : call.point = .validate →
      CallMove state call .go state (.returned (.error .invalidArg))
  | accepted : call.point = .validate → 0 < call.item → 0 < call.quantity →
      CallMove state call .go state .connect
  | connected : call.point = .connect → CallMove state call .connected state .script
  | degraded : call.point = .connect →
      CallMove state call .unavailable state (enterRepository call .fallback)
  | replied : call.point = .script →
      CallMove state call (.redis .returns)
        { state with
          redis := setKey state.redis call.item
            (deductScript (state.redis call.item) call.quantity).1 }
        (afterScript call (parseResult (deductScript (state.redis call.item) call.quantity).2))
  | scriptThrows {performed : Bool} {redis : Table} : call.point = .script →
      CallMove state call (.redis (.throws performed)) { state with redis := redis }
        (enterRepository call .fallback)
  | finished {route : Route} {result : RepoResult} {next : CallPc} :
      call.point = .repository route (.done result) → afterRepository route result = some next →
        CallMove state call .go
          { state with rebuilds := state.rebuilds ++ detached call.item route result } next
  | advances {route : Route} {pc next : RepoPc} {answer : RepoAnswer} {store : Store} :
      call.point = .repository route pc → RepoMove state.store pc answer store next →
        CallMove state call (.repo answer) { state with store := store } (.repository route next)
  | retries {attempt : Nat} {answer : Answer} {next : CallPc} : call.point = .retry attempt →
      next = .returned (.error .mysqlUpdateFailed) ∨ next = .increment attempt ∨
        next = .retry (attempt + 1) → CallMove state call answer state next
  | increments {attempt : Nat} : call.point = .increment attempt →
      CallMove state call (.redis .returns)
        { state with redis := incrBy state.redis call.item call.quantity }
        (.returned (.error .mysqlUpdateFailed))
  | incrementThrows {attempt : Nat} {performed : Bool} {redis : Table} :
      call.point = .increment attempt →
        CallMove state call (.redis (.throws performed)) { state with redis := redis }
          (.retry (attempt + 1))

theorem call_step_cases {retryTimes : Int} {state after : State} {call : Call} {answer : Answer}
    {next : CallPc} (taken : callStep retryTimes state call answer = some (after, next)) :
    CallMove state call answer after next := by
  unfold callStep at taken
  split at taken
  · next at_point =>
      split at taken
      · cases taken
        exact .rejected at_point
      · next valid =>
          cases taken
          have positive := not_or.mp valid
          exact .accepted at_point (Int.not_le.mp positive.1) (Int.not_le.mp positive.2)
  · next at_point =>
      cases taken
      exact .connected at_point
  · next at_point =>
      cases taken
      exact .degraded at_point
  · next command at_point =>
      cases taken
      cases command with
      | returns => exact .replied at_point
      | throws performed => exact .scriptThrows at_point
  · next route result at_point =>
      obtain ⟨point, known, same⟩ := Option.map_eq_some_iff.mp taken
      cases same
      exact .finished at_point known
  · next route pc repoAnswer at_point =>
      obtain ⟨moved, stepped, same⟩ := Option.map_eq_some_iff.mp taken
      cases same
      exact .advances at_point (repo_step_cases stepped)
  · next attempt at_point =>
      split at taken
      · cases taken
      · cases taken
        exact .retries at_point (.inl rfl)
  · next attempt at_point =>
      split at taken
      · cases taken
        exact .retries at_point (.inr (.inl rfl))
      · cases taken
  · next attempt at_point =>
      split at taken
      · cases taken
        exact .retries at_point (.inr (.inr rfl))
      · cases taken
  · next attempt command at_point =>
      cases taken
      cases command with
      | returns => exact .increments at_point
      | throws performed => exact .incrementThrows at_point
  · cases taken

theorem after_script (call : Call) (value : Option Int) :
    afterScript call (parseResult (deductScript value call.quantity).2) =
      match value with
      | none => enterRepository call .fallback
      | some current =>
          if current < call.quantity then .returned (.error .stockInsufficient)
          else enterRepository call (.fast (toInt (current - call.quantity))) := by
  cases value with
  | none => rfl
  | some current =>
      unfold deductScript
      dsimp only
      split <;> rfl

theorem call_move_repository {state after : State} {call : Call} {answer : Answer} {next : CallPc}
    (move : CallMove state call answer after next) :
    (∃ route pc following repoAnswer, call.point = .repository route pc ∧
      next = .repository route following ∧ answer = .repo repoAnswer ∧
        RepoMove state.store pc repoAnswer after.store following) ∨
      (after.store = state.store ∧ connOf (repoPc call) = none ∧
        ((∃ route, next = enterRepository call route) ∨
          repoPc { call with point := next } = .idle)) := by
  cases move with
  | advances at_point step => exact .inl ⟨_, _, _, _, at_point, rfl, rfl, step⟩
  | rejected at_point | accepted at_point _ _ | connected at_point | increments at_point
  | incrementThrows at_point =>
      exact .inr ⟨rfl, by simp only [repoPc, at_point]; rfl, .inr rfl⟩
  | degraded at_point | scriptThrows at_point =>
      exact .inr ⟨rfl, by simp only [repoPc, at_point]; rfl, .inl ⟨_, rfl⟩⟩
  | replied at_point =>
      refine .inr ⟨rfl, by simp only [repoPc, at_point]; rfl, ?_⟩
      unfold afterScript
      split
      · exact .inl ⟨_, rfl⟩
      · exact .inr rfl
      · exact .inl ⟨_, rfl⟩
  | @finished route result _ at_point known =>
      refine .inr ⟨rfl, by simp only [repoPc, at_point]; rfl, .inr ?_⟩
      cases route <;> cases result <;> cases known <;> rfl
  | retries at_point target =>
      refine .inr ⟨rfl, by simp only [repoPc, at_point]; rfl, .inr ?_⟩
      rcases target with rfl | rfl | rfl <;> rfl

theorem entering_free {call : Call} {next : CallPc}
    (entering : (∃ route, next = enterRepository call route) ∨
      repoPc { call with point := next } = .idle) :
    connOf (repoPc { call with point := next }) = none := by
  rcases entering with ⟨route, rfl⟩ | outside
  · rfl
  · rw [outside]
    rfl

theorem operations_move {state : State} {id : Nat} (call : Call) :
    (state.calls.set id call).map repoPc = (operations state).set id (repoPc call) :=
  List.map_set

theorem operation_of_call {state : State} {id : Nat} {call : Call}
    (found : state.calls[id]? = some call) : (operations state)[id]? = some (repoPc call) := by
  rw [operations, List.getElem?_map, found]
  rfl

def requestOf : RepoPc → Option (Item × Int)
  | .connect (.deductStock item quantity) | .begin _ item quantity | .select _ item quantity
  | .update _ item quantity _ | .commit _ item quantity _ | .restore _ item quantity _ =>
      some (item, quantity)
  | _ => none

def plain : RepoPc → Bool
  | .connect (.plain _) | .statement _ _ => true
  | _ => false

def admitted : CallPc → Bool
  | .validate | .returned (.error _) => false
  | _ => true

structure Admissible (call : Call) : Prop where
  positive : admitted call.point = true → 0 < call.quantity
  request : ∀ pair, requestOf (repoPc call) = some pair → pair = (call.item, call.quantity)
  deducts : plain (repoPc call) = false

/-- The operation has committed and is on its way to report success. -/
def committedPc : RepoPc → Bool
  | .restore _ _ _ _ | .release _ (.stock _) | .done (.stock _) => true
  | _ => false

theorem request_conn {store after : Store} {conn : Connection} {answer : DriverAnswer}
    {pc next : RepoPc} {pair : Item × Int} (move : ConnMove store conn answer pc after next)
    (carried : requestOf next = some pair) : requestOf pc = some pair := by
  cases move with
  | fails _ _ _ | skipsCommit _ _ | restores _ | rollsBack _ _ | skipsRollback _ _
  | restoresError _ | states _ => cases carried
  | skipsBegin _ _ | begins _ _ | updates _ | commits _ _ => exact carried
  | @selects id item quantity _ _ =>
      unfold afterSelect at carried
      split at carried
      · cases carried
      · split at carried
        · cases carried
        · exact carried

theorem request_move {store after : Store} {pc next : RepoPc} {answer : RepoAnswer}
    {pair : Item × Int} (move : RepoMove store pc answer after next)
    (carried : requestOf next = some pair) : requestOf pc = some pair := by
  cases move with
  | @takes op _ _ _ =>
      cases op with
      | deductStock item quantity => exact carried
      | plain op => cases carried
  | timesOut | throws | returns => cases carried
  | calls _ _ step => exact request_conn step carried

theorem plain_conn {store after : Store} {conn : Connection} {answer : DriverAnswer}
    {pc next : RepoPc} (move : ConnMove store conn answer pc after next) : plain next = false := by
  cases move with
  | @selects id item quantity _ _ =>
      unfold afterSelect
      split
      · rfl
      · split <;> rfl
  | _ => rfl

theorem plain_move {store after : Store} {pc next : RepoPc} {answer : RepoAnswer}
    (move : RepoMove store pc answer after next) (deducts : plain pc = false) :
    plain next = false := by
  cases move with
  | @takes op _ _ _ =>
      cases op with
      | deductStock item quantity => rfl
      | plain op => cases deducts
  | timesOut | throws | returns => rfl
  | calls _ _ step => exact plain_conn step

theorem admissible_outside {call : Call} {next : CallPc}
    (outside : repoPc { call with point := next } = .idle)
    (positive : admitted next = true → 0 < call.quantity) :
    Admissible { call with point := next } := by
  refine ⟨positive, ?_, ?_⟩
  · intro pair carried
    rw [outside] at carried
    cases carried
  · rw [outside]
    rfl

theorem admissible_requested (item : Item) (quantity : Int) :
    Admissible { item := item, quantity := quantity, point := .validate } := by
  refine ⟨?_, ?_, rfl⟩
  · intro impossible
    cases impossible
  · intro pair carried
    cases carried

theorem admissible_entered {call : Call} (route : Route) (positive : 0 < call.quantity) :
    Admissible { call with point := enterRepository call route } := by
  refine ⟨fun _ => positive, ?_, rfl⟩
  intro pair carried
  exact (Option.some.inj carried).symm

theorem admissible_move {state after : State} {call : Call} {answer : Answer} {next : CallPc}
    (move : CallMove state call answer after next) (before : Admissible call) :
    Admissible { call with point := next } := by
  cases move with
  | rejected _ => exact admissible_outside rfl fun impossible => by cases impossible
  | accepted _ _ positive => exact admissible_outside rfl fun _ => positive
  | connected at_point | increments at_point | incrementThrows at_point =>
      have positive := before.positive (by rw [at_point]; rfl)
      exact admissible_outside rfl fun _ => positive
  | degraded at_point | scriptThrows at_point =>
      exact admissible_entered _ (before.positive (by rw [at_point]; rfl))
  | replied at_point =>
      have positive := before.positive (by rw [at_point]; rfl)
      unfold afterScript
      split
      · exact admissible_entered _ positive
      · exact admissible_outside rfl fun _ => positive
      · exact admissible_entered _ positive
  | @finished route result _ at_point known =>
      have positive := before.positive (by rw [at_point]; rfl)
      apply admissible_outside _ fun _ => positive
      cases route <;> cases result <;> cases known <;> rfl
  | advances at_point step =>
      have request := before.request
      have deducts := before.deducts
      simp only [repoPc, at_point] at request deducts
      refine ⟨fun _ => before.positive (by rw [at_point]; rfl), ?_, plain_move step deducts⟩
      intro pair carried
      exact request pair (request_move step carried)
  | retries at_point target =>
      have positive := before.positive (by rw [at_point]; rfl)
      apply admissible_outside _ fun _ => positive
      rcases target with rfl | rfl | rfl <;> rfl

end BackendComponents.Inventory.Calls
