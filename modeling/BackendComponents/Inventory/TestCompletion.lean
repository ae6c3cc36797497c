import BackendComponents.Inventory.StressTest

/-!
# A concurrent test comes to its end

The threads of a test wait for one another at the pool of MySQL connections and at the row
of their item only. Each of their steps brings the test closer to its end, and while a
thread is under way some thread can make a step, so under every schedule that goes on as
long as it can all threads are joined, and the test passes.
-/

namespace BackendComponents.Inventory.TestCompletion

open BackendComponents.Lib.Paths
open BackendComponents.Lib.Threads
open BackendComponents.Lib.Progress
open BackendComponents.Inventory.Database
open BackendComponents.Inventory.Repository
open BackendComponents.Inventory.Sessions
open BackendComponents.Inventory.Transactions (Clean tenPieces)
open BackendComponents.Inventory.Progress (Locked locking left holding)
open BackendComponents.Inventory.Service
open BackendComponents.Inventory.Calls
open BackendComponents.Inventory.Agreement
open BackendComponents.Inventory.StressTest

set_option autoImplicit false

def own : Action → Prop
  | .call _ answer => calmAnswer answer = true
  | _ => False

def joined (state : State) : Prop := ∀ call ∈ state.calls, isReturned call.point = true

def repository (state : State) : Transactions.State := ⟨state.store, operations state⟩

/-- How many steps a thread that finds the key still has to make at most. -/
def stepsLeft : CallPc → Nat
  | .validate => 11
  | .connect => 10
  | .script => 9
  | .repository _ pc => 1 + left pc
  | .retry _ | .increment _ | .returned _ => 0

def distance (state : State) : Nat := (state.calls.map fun call => stepsLeft call.point).sum

/-! ## Row locks in runs of the service -/

theorem locking_free {pc : RepoPc} (free : connOf pc = none) : locking pc = false := by
  cases pc with
  | idle | connect _ | done _ => rfl
  | _ => cases free

theorem locked_spawn {store : Store} {ops : List RepoPc} (locked : Locked store ops)
    (pc : RepoPc) : Locked store (ops ++ [pc]) := by
  intro item id lock
  obtain ⟨place, seen, found, rest⟩ := locked item id lock
  exact ⟨place, seen, lookup_spawn_old _ found, rest⟩

theorem locked_call {stock : Table} {state after : State} {id : Nat} {call : Call}
    {answer : Answer} {next : CallPc} (clean : Clean stock state.store (operations state))
    (locked : Locked state.store (operations state)) (found : state.calls[id]? = some call)
    (calm : calmAnswer answer = true) (move : CallMove state call answer after next) :
    Locked after.store ((operations state).set id (repoPc { call with point := next })) := by
  have at_pc := operation_of_call found
  rcases call_move_repository move with ⟨route, pc, following, repoAnswer, at_point, rfl, rfl,
    moved⟩ | ⟨same, free, _⟩
  · have mine : repoPc call = pc := by simp only [repoPc, at_point]
    rw [mine] at at_pc
    exact Progress.locked_move clean.placed locked (clean.fits id pc at_pc) at_pc
      (careful_of_calm calm) moved
  · rw [same]
    intro item owner lock
    exact Progress.locked_elsewhere at_pc (.inr (locking_free free)) (locked item owner lock)

theorem locked_step {stock : Table} {retryTimes : Int} {state after : State} {action : Action}
    (clean : Clean stock state.store (operations state))
    (locked : Locked state.store (operations state)) (peace : calm action = true)
    (taken : step retryTimes state action = some after) :
    Locked after.store (operations after) := by
  cases action with
  | request item quantity =>
      obtain rfl := Option.some.inj taken
      change Locked state.store ((state.calls ++ [_]).map repoPc)
      rw [List.map_append]
      exact locked_spawn locked _
  | call id answer =>
      obtain ⟨call, found, rest⟩ := Option.bind_eq_some_iff.mp taken
      obtain ⟨moved, stepped, rfl⟩ := Option.map_eq_some_iff.mp rest
      change Locked moved.1.store
        ((state.calls.set id { call with point := moved.2 }).map repoPc)
      rw [operations_move]
      exact locked_call clean locked found peace (call_step_cases stepped)
  | rebuild id answer =>
      obtain ⟨rebuild, found, rest⟩ := Option.bind_eq_some_iff.mp taken
      obtain ⟨moved, stepped, rfl⟩ := Option.map_eq_some_iff.mp rest
      exact locked
  | evict item =>
      obtain rfl := Option.some.inj taken
      exact locked
  | grow =>
      obtain rfl := Option.some.inj taken
      exact locked
  | recycle place =>
      obtain ⟨store, recycled, rfl⟩ := Option.map_eq_some_iff.mp taken
      obtain ⟨id, conn, _, _, rfl⟩ := recycle_cases recycled
      intro item owner lock
      exact locked item owner (Progress.unlock_all_locked lock).1

theorem locked_of_rested {stock redis : Table} {connections : Nat} {retryTimes : Int}
    {state : State} (rested : Rested stock redis connections retryTimes state) :
    Locked state.store (operations state) := by
  obtain ⟨trail, path, good⟩ := rested.reached
  have both : ∀ seen ∈ visited trail state, Settled stock seen ∧
      Locked seen.store (operations seen) := by
    apply path_invariant_of_good
      (fun seen => Settled stock seen ∧ Locked seen.store (operations seen))
      (fun state action => calm action = true ∧ ordered state action = true)
      ⟨settled_start connections rested.agreed, ?_⟩ _ path good
    · intro item id lock
      cases lock
    · intro seen action after inv fine taken
      exact ⟨settled_step inv.1 fine.1 fine.2 taken,
        locked_step inv.1.clean inv.2 fine.1 taken⟩
  exact (both state (List.mem_append_right _ List.mem_cons_self)).2

/-! ## The pool during the test -/

theorem usable_call {stock : Table} {state after : State} {id : Nat} {call : Call}
    {answer : Answer} {next : CallPc} (clean : Clean stock state.store (operations state))
    (found : state.calls[id]? = some call) (move : CallMove state call answer after next) :
    Progress.usable
        (repository { after with calls := state.calls.set id { call with point := next } }) =
      Progress.usable (repository state) := by
  have at_pc := operation_of_call found
  have owned : ∀ conn kept, connOf (repoPc call) = some conn →
      state.store.conns[conn]? = some kept → Owned conn state.store kept := by
    intro conn kept held there
    have fits := clean.fits id _ at_pc
    obtain rfl := Option.some.inj ((fits.session conn held).symm.trans there)
    exact Transactions.session_owned fits held
  have counted : ((operations state).set id (repoPc { call with point := next })).countP holding +
      indicator (holding (repoPc call)) = (operations state).countP holding +
        indicator (holding (repoPc { call with point := next })) := countP_move holding at_pc
  have same : after.store.idle.length + indicator (holding (repoPc { call with point := next })) =
      state.store.idle.length + indicator (holding (repoPc call)) := by
    rcases call_move_repository move with ⟨route, pc, following, repoAnswer, at_point, rfl, rfl,
      moved⟩ | ⟨kept, free, entering⟩
    · have mine : repoPc call = pc := by simp only [repoPc, at_point]
      rw [mine] at owned ⊢
      exact Progress.move_usable owned moved
    · rw [kept]
      simp only [holding, free, entering_free entering]
  unfold Progress.usable repository
  dsimp only
  rw [operations, operations_move]
  omega

/-! ## Somebody can go on -/

/-- The state of a test whose threads have all been started. -/
structure UnderWay (stock : Table) (request : TestRequest) (old : List Call) (initial : Int)
    (state : State) : Prop where
  settled : Settled stock state
  testing : ∃ tested, Testing request old initial state tested
  locked : Locked state.store (operations state)
  pool : 0 < Progress.usable (repository state)
  started : state.calls.length = old.length + request.concurrency

theorem call_enabled {retryTimes : Int} {state : State} {id : Nat} {call : Call}
    {answer : Answer} {moved : State × CallPc} (found : state.calls[id]? = some call)
    (calm : calmAnswer answer = true)
    (stepped : callStep retryTimes state call answer = some moved) :
    Enabled (step retryTimes) own state := by
  refine ⟨.call id answer,
    { moved.1 with calls := state.calls.set id { call with point := moved.2 } }, calm, ?_⟩
  simp only [step, found, Option.bind_some, stepped, Option.map_some]

theorem repository_enabled {retryTimes : Int} {state : State}
    (moves : Enabled Transactions.step Progress.calm (repository state)) :
    Enabled (step retryTimes) own state := by
  obtain ⟨action, after, ours, taken⟩ := moves
  obtain ⟨place, answer, rfl, which⟩ := Progress.calm_advance ours
  obtain ⟨pc, at_pc, rest⟩ := Option.bind_eq_some_iff.mp taken
  obtain ⟨moved, stepped, _⟩ := Option.map_eq_some_iff.mp rest
  have looked : (state.calls.map repoPc)[place]? = some pc := at_pc
  rw [List.getElem?_map] at looked
  obtain ⟨call, found, same⟩ := Option.map_eq_some_iff.mp looked
  have calm : calmDriver answer = true := by
    rcases which with rfl | rfl | rfl <;> rfl
  change repoStep state.store pc answer = some moved at stepped
  cases point : call.point with
  | repository route inner =>
      simp only [repoPc, point] at same
      subst same
      apply @call_enabled retryTimes state place call (.repo answer)
        ({ state with store := moved.1 }, .repository route moved.2) found calm
      simp only [callStep, point, stepped, Option.map_some]
  | _ =>
      simp only [repoPc, point] at same
      subst same
      rcases which with rfl | rfl | rfl <;> cases stepped

theorem thread_moves {retryTimes : Int} {stock : Table} {request : TestRequest}
    {old : List Call} {initial : Int} {state : State}
    (under : UnderWay stock request old initial state) (waiting : ¬joined state) :
    Enabled (step retryTimes) own state := by
  simp only [joined, not_forall] at waiting
  obtain ⟨call, member, running⟩ := waiting
  obtain ⟨place, found⟩ := List.mem_iff_getElem?.mp member
  obtain ⟨tested, testing⟩ := under.testing
  have track : onTrack call.point = true := by
    rw [testing.calls] at member
    rcases List.mem_append.mp member with before | during
    · exact absurd (testing.earlier call before) running
    · exact (testing.mine call during).2.2
  cases point : call.point with
  | validate =>
      by_cases invalid : call.item ≤ 0 ∨ call.quantity ≤ 0
      · exact @call_enabled retryTimes state place call .go
          (state, .returned (.error .invalidArg)) found rfl
          (by simp only [callStep, point, if_pos invalid])
      · exact @call_enabled retryTimes state place call .go (state, .connect) found rfl
          (by simp only [callStep, point, if_neg invalid])
  | connect =>
      exact @call_enabled retryTimes state place call .connected (state, .script) found rfl
        (by simp only [callStep, point])
  | script =>
      have stepped : (callStep retryTimes state call (.redis .returns)).isSome = true := by
        simp only [callStep, point]
        rfl
      obtain ⟨moved, taken⟩ := Option.isSome_iff_exists.mp stepped
      exact call_enabled found rfl taken
  | repository route pc =>
      rw [point] at track
      by_cases done : ∃ result, pc = .done result
      · obtain ⟨result, rfl⟩ := done
        cases route with
        | fallback => cases track
        | fast remaining =>
            cases result with
            | stock newStock =>
                have stepped : (callStep retryTimes state call .go).isSome = true := by
                  simp only [callStep, point]
                  rfl
                obtain ⟨moved, taken⟩ := Option.isSome_iff_exists.mp stepped
                exact call_enabled found rfl taken
            | error _ | threw | done => cases track
      · have inside : pc ∈ operations state := by
          have mapped : repoPc call ∈ state.calls.map repoPc := List.mem_map_of_mem member
          simp only [repoPc, point] at mapped
          exact mapped
        have called : pc ≠ .idle := by
          rintro rfl
          cases route <;> cases track
        apply repository_enabled
        exact Progress.somebody_moves under.settled.clean under.locked under.pool inside called
          fun result same => done ⟨result, same⟩
  | retry _ | increment _ =>
      rw [point] at track
      cases track
  | returned outcome =>
      rw [point] at running
      exact absurd rfl running

/-! ## Every step is one step less -/

theorem calm_answers {answer : RepoAnswer} (calm : calmDriver answer = true) :
    answer = .front ∨ answer = .driver .returns ∨ answer = .go := by
  cases answer with
  | front => exact .inl rfl
  | go => exact .inr (.inr rfl)
  | driver answer =>
      cases answer with
      | returns => exact .inr (.inl rfl)
      | throws damage => cases calm
  | timeout | createThrows => cases calm

theorem call_left {retryTimes : Int} {state after : State} {call : Call} {answer : Answer}
    {next : CallPc} (track : onTrack call.point = true) (calm : calmAnswer answer = true)
    (taken : callStep retryTimes state call answer = some (after, next)) :
    stepsLeft next < stepsLeft call.point := by
  cases call_step_cases taken with
  | rejected at_point | accepted at_point _ _ | connected at_point =>
      rw [at_point]
      simp [stepsLeft]
  | degraded _ | scriptThrows _ | incrementThrows _ => cases calm
  | replied at_point =>
      rw [at_point]
      unfold afterScript
      split <;> simp [stepsLeft, enterRepository, left]
  | @finished route result _ at_point known =>
      rw [at_point]
      cases route <;> cases result <;> cases known <;> simp [stepsLeft, left]
  | advances at_point step =>
      have less := Progress.move_left (calm_answers calm) step
      rw [at_point]
      exact Nat.add_lt_add_left less 1
  | retries at_point _ | increments at_point =>
      rw [at_point] at track
      cases track

theorem advances {stock : Table} {retryTimes : Int} {request : TestRequest} {old : List Call}
    {initial : Int} (item : 0 < request.item) (quantity : 0 < request.quantity) :
    Advances (step retryTimes) own (UnderWay stock request old initial) joined distance := by
  constructor
  · intro state action after under ours taken
    cases action with
    | call id answer =>
        obtain ⟨tested, testing⟩ := under.testing
        have test : ofTest request (.call id answer) = true := ours
        have peace := calm_of_test test
        refine ⟨?_, testing_step item quantity under.settled testing test taken,
          locked_step under.settled.clean under.locked peace taken, ?_, ?_⟩
        · exact settled_step under.settled peace (ordered_of_rest testing.rebuilds) taken
        · obtain ⟨call, found, rest⟩ := Option.bind_eq_some_iff.mp taken
          obtain ⟨moved, stepped, rfl⟩ := Option.map_eq_some_iff.mp rest
          rw [usable_call under.settled.clean found (call_step_cases stepped)]
          exact under.pool
        · obtain ⟨call, found, rest⟩ := Option.bind_eq_some_iff.mp taken
          obtain ⟨moved, stepped, rfl⟩ := Option.map_eq_some_iff.mp rest
          rw [List.length_set]
          exact under.started
    | request _ _ | rebuild _ _ | evict _ | grow | recycle _ => cases ours
  · intro state action after under ours taken
    cases action with
    | call id answer =>
        obtain ⟨tested, testing⟩ := under.testing
        obtain ⟨call, found, rest⟩ := Option.bind_eq_some_iff.mp taken
        obtain ⟨moved, stepped, rfl⟩ := Option.map_eq_some_iff.mp rest
        obtain ⟨place, _, at_call⟩ := tested_lookup testing found stepped
        have track := (testing.mine call (List.mem_of_getElem? at_call)).2.2
        exact @sum_set_lt Call (fun call => stepsLeft call.point) state.calls id call
          { call with point := moved.2 } found (call_left track ours stepped)
    | request _ _ | rebuild _ _ | evict _ | grow | recycle _ => cases ours
  · intro state under waiting
    exact thread_moves under waiting

theorem under_way_run {stock redis : Table} {connections : Nat} {retryTimes : Int}
    {before begun : State} (rested : Rested stock redis connections retryTimes before)
    {request : TestRequest} (item : 0 < request.item) (quantity : 0 < request.quantity)
    {initial : Int} (key : before.redis request.item = some initial)
    {trail : List (State × Action)} (path : Path (step retryTimes) before trail begun)
    (test : ∀ taken ∈ trail, ofTest request taken.2 = true)
    (started : begun.calls.length = before.calls.length + request.concurrency)
    (pool : 0 < Progress.usable (repository begun)) :
    UnderWay stock request before.calls initial begun := by
  have all : ∀ state ∈ visited trail begun, Settled stock state ∧
      (∃ tested, Testing request before.calls initial state tested) ∧
        Locked state.store (operations state) := by
    apply path_invariant_of_good
      (fun state => Settled stock state ∧
        (∃ tested, Testing request before.calls initial state tested) ∧
          Locked state.store (operations state))
      (fun _ action => ofTest request action = true)
      ⟨settled_of_rested rested, ⟨[], testing_begins rested.still key⟩, locked_of_rested rested⟩
      _ path test
    intro state action after inv ours taken
    obtain ⟨settled, ⟨tested, testing⟩, locked⟩ := inv
    have peace := calm_of_test ours
    exact ⟨settled_step settled peace (ordered_of_rest testing.rebuilds) taken,
      testing_step item quantity settled testing ours taken,
      locked_step settled.clean locked peace taken⟩
  obtain ⟨settled, testing, locked⟩ := all begun (List.mem_append_right _ List.mem_cons_self)
  exact ⟨settled, testing, locked, pool, started⟩

/-- All three threads have been started and one of them has the only connection. -/
def threeThreadsBegun : List Action :=
  [.request 1 4, .request 1 4] ++ scripted 1 ++ [.call 1 (.repo .front), .request 1 4]

end BackendComponents.Inventory.TestCompletion
