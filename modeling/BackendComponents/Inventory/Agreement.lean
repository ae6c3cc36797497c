import BackendComponents.Inventory.Transactions
import BackendComponents.Inventory.Calls

/-!
# Agreement of Redis and MySQL

Without failures, what a present key lacks of the committed stock is what the calls between
their script and their commit have taken. Two kinds of steps leave this balance: the commit
of a fallback deduction, which Redis does not see, and the `SET` of a detached rebuild,
which overwrites the key with the stock of an earlier moment. It is restored when the last
outstanding rebuild of an item is its latest commit and finds no such call.
-/

namespace BackendComponents.Inventory.Agreement

open BackendComponents.Lib.Paths
open BackendComponents.Lib.Threads
open BackendComponents.Inventory.Database
open BackendComponents.Inventory.Repository
open BackendComponents.Inventory.Sessions
open BackendComponents.Inventory.Transactions hiding State Action step start
open BackendComponents.Inventory.Service
open BackendComponents.Inventory.Calls

set_option autoImplicit false

/-! ## Steps without failures -/

def calmDriver : RepoAnswer → Bool
  | .front | .go | .driver .returns => true
  | .timeout | .createThrows | .driver (.throws _) => false

def calmAnswer : Answer → Bool
  | .go | .connected | .redis .returns => true
  | .unavailable | .redis (.throws _) => false
  | .repo answer => calmDriver answer

/-- No call of Redis or MySQL fails in this step, and no `get_connection` of either pool times
out or throws. -/
def calm : Action → Bool
  | .call _ answer | .rebuild _ answer => calmAnswer answer
  | .request _ _ | .evict _ | .grow | .recycle _ => true

theorem careful_of_calm {pc : RepoPc} {answer : RepoAnswer} (calm : calmDriver answer = true) :
    careful pc answer = true := by
  cases answer with
  | driver answer =>
      cases answer with
      | returns => rfl
      | throws damage => cases calm
  | _ => rfl

def refusedPc : RepoPc → Bool
  | .rollback _ _ | .restoreError _ _ => true
  | .release _ (.stock _) | .done (.stock _) => false
  | .release _ _ | .done _ => true
  | _ => false

/-- What a calm step of a deduction does to the committed table. -/
inductive Taken (store after : Store) (pc next : RepoPc) : Prop
  | commits {id : Nat} {item : Item} {quantity newStock : Int} :
      pc = .commit id item quantity newStock → next = .restore id item quantity newStock →
        store.committed item = some (newStock + quantity) →
          after.committed = store.committed.put item newStock → Taken store after pc next
  | stays : after.committed = store.committed → committedPc next = committedPc pc →
      (refusedPc next = true → refusedPc pc = true ∨ ∃ id item quantity,
        pc = .select id item quantity ∧
          ∀ current, store.committed item = some current → current < quantity) →
        Taken store after pc next

theorem returned_of_driven {store after : Store} {id : Nat} {conn : Connection}
    {call : DriverCall} {returned : Bool}
    (driven : drive store id conn call .returns = some (after, returned)) :
    returned = true ∧ perform store id conn call = some after := by
  cases drive_outcome driven with
  | returned _ performed => exact ⟨rfl, performed⟩
  | lost answered _ => cases answered
  | refused answered => cases answered
  | undone answered => cases answered
  | unprepared answered _ => cases answered

theorem taken_conn {store after : Store} {pc next : RepoPc} {id : Nat} (fits : Fits store pc)
    (held : connOf pc = some id) (deducts : plain pc = false)
    (move : ConnMove store (session pc) .returns pc after next) : Taken store after pc next := by
  have bound := lookup_bound (fits.session id held)
  cases move with
  | fails _ _ driveCall => cases (returned_of_driven driveCall).1
  | skipsBegin flag _ | skipsCommit flag _ | skipsRollback flag _ => cases flag
  | begins _ driveCall =>
      obtain rfl := Option.some.inj held
      obtain rfl := Option.some.inj (returned_of_driven driveCall).2
      rw [set_transaction_of (lookup_move_self (fits.session _ rfl))]
      exact .stays rfl rfl fun impossible => by cases impossible
  | @selects _ item quantity _ driveCall =>
      obtain rfl := Option.some.inj held
      have performed := (returned_of_driven driveCall).2
      have committed := (@select_clean store _ _ item quantity bound performed).2.1
      apply Taken.stays committed
      · unfold afterSelect
        split
        · rfl
        · split <;> rfl
      · intro refused
        refine .inr ⟨_, item, quantity, rfl, ?_⟩
        intro current there
        unfold afterSelect at refused
        rw [visible_clean rfl item, there] at refused
        dsimp only at refused
        split at refused
        · next less => exact less
        · cases refused
  | updates driveCall =>
      obtain rfl := Option.some.inj held
      obtain ⟨_, committed, _⟩ := update_clean bound fits.rows (returned_of_driven driveCall).2
      exact .stays committed rfl fun impossible => by cases impossible
  | commits _ driveCall =>
      obtain rfl := Option.some.inj held
      obtain rfl := Option.some.inj (returned_of_driven driveCall).2
      exact .commits rfl rfl fits.rows.2 (put_writes _ _ _)
  | restores driveCall =>
      obtain rfl := Option.some.inj held
      obtain ⟨_, committed, _⟩ := restore_clean bound (returned_of_driven driveCall).2
      exact .stays committed rfl fun impossible => by cases impossible
  | rollsBack _ driveCall =>
      obtain rfl := Option.some.inj held
      obtain rfl := Option.some.inj (returned_of_driven driveCall).2
      exact .stays rfl rfl fun _ => .inl rfl
  | restoresError driveCall =>
      obtain rfl := Option.some.inj held
      obtain ⟨_, committed, _⟩ := restore_clean bound (returned_of_driven driveCall).2
      exact .stays committed rfl fun _ => .inl rfl
  | states _ => cases deducts

theorem taken_move {store after : Store} {pc next : RepoPc} {answer : RepoAnswer}
    (fits : Fits store pc) (deducts : plain pc = false) (calm : calmDriver answer = true)
    (move : RepoMove store pc answer after next) : Taken store after pc next := by
  cases move with
  | @takes op _ _ _ =>
      cases op with
      | deductStock item quantity => exact .stays rfl rfl fun impossible => by cases impossible
      | plain op => cases deducts
  | timesOut | throws => cases calm
  | @calls _ _ id conn answer _ held found step =>
      cases answer with
      | throws damage => cases calm
      | returns =>
          obtain rfl := Option.some.inj ((fits.session id held).symm.trans found)
          exact taken_conn fits held deducts step
  | @returns id result =>
      refine .stays rfl ?_ ?_
      · cases result <;> rfl
      · intro refused
        cases result <;> first | exact .inl rfl | cases refused

/-! ## What is under way -/

/-- From the script of a fast deduction to its commit, or to the end of its compensation. -/
def between : CallPc → Bool
  | .repository (.fast _) pc => !committedPc pc
  | .retry _ | .increment _ => true
  | _ => false

/-- A fallback deduction that has committed and not yet detached its rebuild. -/
def owes : CallPc → Bool
  | .repository .fallback pc => committedPc pc
  | _ => false

def refused : CallPc → Bool
  | .repository (.fast _) pc => refusedPc pc
  | .retry _ | .increment _ => true
  | _ => false

def inFlight (item : Item) (call : Call) : Int :=
  if call.item = item ∧ between call.point = true then call.quantity else 0

def owing (item : Item) (call : Call) : Bool := decide (call.item = item) && owes call.point

def unfinished (item : Item) (rebuild : Rebuild) : Bool :=
  decide (rebuild.item = item) && decide (rebuild.point ≠ .done)

/-- What Redis has given out of an item and MySQL has not yet accounted for. -/
def flowing (state : State) (item : Item) : Int := (state.calls.map (inFlight item)).sum

def outstanding (state : State) (item : Item) : Nat :=
  state.calls.countP (owing item) + state.rebuilds.countP (unfinished item)

/-- A key, a row and what is under way between the two. -/
structure Balanced (cached stored : Option Int) (flow : Int) : Prop where
  cached : ∀ value, cached = some value → stored = some (value + flow)
  covered : 0 < flow → ∃ left, stored = some left ∧ flow ≤ left

structure Settled (stock : Table) (state : State) : Prop where
  clean : Clean stock state.store (operations state)
  calls : ∀ (id : Nat) (call : Call), state.calls[id]? = some call → Admissible call
  refused : ∀ (id : Nat) (call : Call), state.calls[id]? = some call →
    refused call.point = true → 0 < outstanding state call.item
  balanced : ∀ item, outstanding state item = 0 →
    Balanced (state.redis item) (state.store.committed item) (flowing state item)

/-- What a calm step of a call does, as far as the balance of its item is concerned. -/
inductive Shift (state after : State) (call : Call) (next : CallPc) : Prop
  | silent : after.redis = state.redis → after.store.committed = state.store.committed →
      between next = between call.point → Shift state after call next
  | deducts {current : Int} : state.redis call.item = some current → call.quantity ≤ current →
      after.redis = setKey state.redis call.item (some (current - call.quantity)) →
        after.store.committed = state.store.committed → between call.point = false →
          between next = true → Shift state after call next
  | commits {newStock : Int} : after.redis = state.redis →
      state.store.committed call.item = some (newStock + call.quantity) →
        after.store.committed = state.store.committed.put call.item newStock →
          between call.point = true → between next = false → Shift state after call next
  | records {newStock : Int} : after.redis = state.redis →
      after.store.committed = state.store.committed.put call.item newStock → owes next = true →
        Shift state after call next
  | compensates : (∀ item, item ≠ call.item → after.redis item = state.redis item) →
      after.store.committed = state.store.committed → refused call.point = true →
        Shift state after call next

theorem shift_advance {state : State} {store : Store} {call : Call} {route : Route}
    {pc next : RepoPc} {answer : RepoAnswer} (at_point : call.point = .repository route pc)
    (fits : Fits state.store pc) (admissible : Admissible call) (calm : calmDriver answer = true)
    (move : RepoMove state.store pc answer store next) :
    Shift state { state with store := store } call (.repository route next) := by
  have request := admissible.request
  have deducts := admissible.deducts
  simp only [repoPc, at_point] at request deducts
  cases taken_move fits deducts calm move with
  | @commits id item quantity newStock at_pc reached read written =>
      obtain ⟨rfl, rfl⟩ := Prod.mk.inj (request (item, quantity) (by rw [at_pc]; rfl))
      subst at_pc reached
      cases route with
      | fast remaining => exact .commits rfl read written (by rw [at_point]; rfl) rfl
      | fallback => exact .records rfl written rfl
  | stays committed past _ =>
      refine .silent rfl committed ?_
      rw [at_point]
      cases route with
      | fast remaining => exact congrArg not past
      | fallback => rfl

theorem shift_script {state : State} {call : Call} (at_point : call.point = .script) :
    Shift state
      { state with
        redis := setKey state.redis call.item
          (deductScript (state.redis call.item) call.quantity).1 } call
      (afterScript call (parseResult (deductScript (state.redis call.item) call.quantity).2)) := by
  have unchanged : ∀ value, state.redis call.item = value →
      setKey state.redis call.item value = state.redis := by
    rintro value rfl
    funext item
    unfold setKey
    split
    · next same => rw [same]
    · rfl
  have outside : between call.point = false := by rw [at_point]; rfl
  rw [after_script]
  cases key : state.redis call.item with
  | none => exact .silent (unchanged none key) rfl outside.symm
  | some current =>
      dsimp only [deductScript]
      split
      · exact .silent (unchanged (some current) key) rfl outside.symm
      · next enough => exact .deducts key (by omega) rfl rfl outside rfl

theorem shift_move {state after : State} {call : Call} {answer : Answer} {next : CallPc}
    (move : CallMove state call answer after next) (fits : Fits state.store (repoPc call))
    (admissible : Admissible call) (calm : calmAnswer answer = true) :
    Shift state after call next := by
  cases move with
  | rejected at_point | accepted at_point _ _ | connected at_point =>
      exact .silent rfl rfl (by rw [at_point]; rfl)
  | degraded _ | scriptThrows _ | incrementThrows _ => cases calm
  | replied at_point => exact shift_script at_point
  | @finished route result _ at_point known =>
      cases route with
      | fast remaining =>
          cases result <;> cases known
          · exact .silent rfl rfl (by rw [at_point]; rfl)
          · exact .silent rfl rfl (by rw [at_point]; rfl)
          · exact .compensates (fun _ _ => rfl) rfl (by rw [at_point]; rfl)
      | fallback => cases result <;> cases known <;> exact .silent rfl rfl (by rw [at_point]; rfl)
  | advances at_point step =>
      simp only [repoPc, at_point] at fits
      exact shift_advance at_point fits admissible calm step
  | retries at_point target =>
      exact .compensates (fun _ _ => rfl) rfl (by rw [at_point]; rfl)
  | increments at_point =>
      refine .compensates ?_ rfl (by rw [at_point]; rfl)
      intro item other
      exact if_neg other

theorem owing_move {state after : State} {call : Call} {answer : Answer} {next : CallPc}
    (move : CallMove state call answer after next) (fits : Fits state.store (repoPc call))
    (admissible : Admissible call) (calm : calmAnswer answer = true) (item : Item) :
    indicator (owing item call) + state.rebuilds.countP (unfinished item) ≤
      indicator (owing item { call with point := next }) +
        after.rebuilds.countP (unfinished item) := by
  have free : owes call.point = false → indicator (owing item call) = 0 := by
    intro none
    simp [owing, none]
  cases move with
  | rejected at_point | accepted at_point _ _ | connected at_point | degraded at_point
  | replied at_point | scriptThrows at_point | increments at_point | incrementThrows at_point
  | retries at_point _ =>
      rw [free (by rw [at_point]; rfl), Nat.zero_add]
      exact Nat.le_add_left _ _
  | @finished route result _ at_point known =>
      rw [List.countP_append]
      cases route with
      | fast remaining =>
          have none := free (by rw [at_point]; rfl)
          omega
      | fallback =>
          cases result with
          | stock newStock =>
              have mine : indicator (owing item call) ≤
                  (detached call.item .fallback (.stock newStock)).countP (unfinished item) := by
                by_cases same : call.item = item <;>
                  simp [detached, unfinished, owing, owes, at_point, committedPc, same]
              omega
          | error _ | threw | done =>
              have none := free (by rw [at_point]; rfl)
              omega
  | advances at_point step =>
      have deducts := admissible.deducts
      simp only [repoPc, at_point] at fits deducts
      rename_i route pc following _ _
      have past : committedPc pc = true → committedPc following = true := by
        intro committed
        cases taken_move fits deducts calm step with
        | commits at_pc _ _ _ =>
            rw [at_pc] at committed
            cases committed
        | stays _ same _ => exact same.trans committed
      have less : owes call.point = true → owes (.repository route following) = true := by
        rw [at_point]
        cases route with
        | fast remaining => exact id
        | fallback => exact past
      cases before : owing item call with
      | false => simp
      | true =>
          obtain ⟨same, owed⟩ := Bool.and_eq_true_iff.mp before
          have now : owing item { call with point := .repository route following } = true :=
            Bool.and_eq_true_iff.mpr ⟨same, less owed⟩
          exact Nat.le_of_eq (by rw [now])

theorem refused_move {state after : State} {call : Call} {answer : Answer} {next : CallPc}
    (move : CallMove state call answer after next) (fits : Fits state.store (repoPc call))
    (admissible : Admissible call) (calm : calmAnswer answer = true)
    (failed : refused next = true) :
    refused call.point = true ∨ (between call.point = true ∧
      ∀ current, state.store.committed call.item = some current → current < call.quantity) := by
  cases move with
  | rejected _ | accepted _ _ _ | connected _ | degraded _ | scriptThrows _ | increments _ =>
      cases failed
  | replied _ =>
      unfold afterScript at failed
      split at failed <;> cases failed
  | incrementThrows at_point => exact .inl (by rw [at_point]; rfl)
  | @finished route result _ at_point known =>
      rw [at_point]
      cases route <;> cases result <;> cases known <;> first | exact .inl rfl | cases failed
  | retries at_point _ => exact .inl (by rw [at_point]; rfl)
  | advances at_point step =>
      have request := admissible.request
      have deducts := admissible.deducts
      simp only [repoPc, at_point] at fits request deducts
      rename_i route pc following _ _
      rw [at_point]
      cases route with
      | fallback => cases failed
      | fast remaining =>
          cases taken_move fits deducts calm step with
          | commits _ reached _ _ =>
              rw [reached] at failed
              cases failed
          | stays _ _ cause =>
              rcases cause failed with before | ⟨id, item, quantity, rfl, less⟩
              · exact .inl before
              · obtain ⟨rfl, rfl⟩ := Prod.mk.inj (request (item, quantity) rfl)
                exact .inr ⟨rfl, less⟩

theorem admitted_of_between {point : CallPc} (inside : between point = true) :
    admitted point = true := by
  cases point with
  | validate | returned _ => cases inside
  | _ => rfl

theorem in_flight_nonneg {call : Call} (admissible : Admissible call) (item : Item) :
    0 ≤ inFlight item call := by
  unfold inFlight
  split
  · next inside =>
      have positive := admissible.positive (admitted_of_between inside.2)
      omega
  · exact Int.le_refl 0

theorem in_flight_other {call : Call} {item : Item} (other : call.item ≠ item) :
    inFlight item call = 0 :=
  if_neg fun both => other both.1

theorem in_flight_inside {call : Call} (inside : between call.point = true) :
    inFlight call.item call = call.quantity :=
  if_pos ⟨rfl, inside⟩

theorem in_flight_outside {call : Call} (outside : between call.point = false) (item : Item) :
    inFlight item call = 0 := by
  unfold inFlight
  rw [outside]
  exact if_neg fun both => by cases both.2

theorem shift_elsewhere {state after : State} {call : Call} {next : CallPc} {item : Item}
    (shift : Shift state after call next) (other : item ≠ call.item) :
    after.redis item = state.redis item ∧
      after.store.committed item = state.store.committed item := by
  cases shift with
  | silent redis committed _ => exact ⟨by rw [redis], by rw [committed]⟩
  | deducts _ _ redis committed _ _ =>
      rw [redis, committed]
      exact ⟨if_neg other, rfl⟩
  | commits redis _ committed _ _ | records redis committed _ =>
      rw [redis, committed]
      exact ⟨rfl, if_neg other⟩
  | compensates redis committed _ => exact ⟨redis item other, by rw [committed]⟩

theorem shift_here {state after : State} {call : Call} {next : CallPc} {flow flowAfter : Int}
    (shift : Shift state after call next)
    (moved : flowAfter + inFlight call.item call =
      flow + inFlight call.item { call with point := next })
    (balanced : Balanced (state.redis call.item) (state.store.committed call.item) flow)
    (nonneg : 0 ≤ inFlight call.item call) (settled : owes next = false)
    (unrefused : refused call.point = false) :
    Balanced (after.redis call.item) (after.store.committed call.item) flowAfter := by
  cases shift with
  | silent redis committed same =>
      have equal : inFlight call.item { call with point := next } = inFlight call.item call := by
        simp [inFlight, same]
      have flows : flowAfter = flow := by omega
      rw [redis, committed, flows]
      exact balanced
  | @deducts current key enough redis committed outside inside =>
      have entered : inFlight call.item { call with point := next } = call.quantity :=
        in_flight_inside inside
      have none := in_flight_outside outside call.item
      have stored := balanced.cached current key
      rw [redis, committed, stored]
      constructor
      · intro value there
        have equal : current - call.quantity = value := by
          simpa [setKey] using there
        congr 1
        omega
      · intro positive
        exact ⟨_, rfl, by omega⟩
  | @commits newStock redis read written inside outside =>
      have was := in_flight_inside inside
      have none : inFlight call.item { call with point := next } = 0 :=
        in_flight_outside outside call.item
      have now : (state.store.committed.put call.item newStock) call.item = some newStock :=
        if_pos rfl
      rw [redis, written, now]
      constructor
      · intro value there
        have stored := balanced.cached value there
        rw [read] at stored
        have equal := Option.some.inj stored
        congr 1
        omega
      · intro positive
        have flows : 0 < flow := by omega
        obtain ⟨left, stored, less⟩ := balanced.covered flows
        rw [read] at stored
        have equal := Option.some.inj stored
        exact ⟨newStock, rfl, by omega⟩
  | records _ _ owed =>
      rw [owed] at settled
      cases settled
  | compensates _ _ failed =>
      rw [failed] at unrefused
      cases unrefused

theorem clean_call {stock : Table} {state after : State} {id : Nat} {call : Call}
    {answer : Answer} {next : CallPc} (clean : Clean stock state.store (operations state))
    (found : state.calls[id]? = some call) (calm : calmAnswer answer = true)
    (move : CallMove state call answer after next) :
    Clean stock after.store ((operations state).set id (repoPc { call with point := next })) := by
  have at_pc := operation_of_call found
  rcases call_move_repository move with ⟨route, pc, following, repoAnswer, at_point, rfl, rfl,
    moved⟩ | ⟨same, free, entering⟩
  · have mine : repoPc call = pc := by simp only [repoPc, at_point]
    rw [mine] at at_pc
    exact clean_move clean at_pc (careful_of_calm calm) moved
  · rw [same]
    exact clean_set clean at_pc free (entering_free entering)

theorem outstanding_call {state after : State} {id : Nat} {call : Call} {answer : Answer}
    {next : CallPc} (found : state.calls[id]? = some call)
    (move : CallMove state call answer after next) (fits : Fits state.store (repoPc call))
    (admissible : Admissible call) (calm : calmAnswer answer = true) (item : Item) :
    outstanding state item ≤
      outstanding { after with calls := state.calls.set id { call with point := next } } item := by
  have counted : (state.calls.set id { call with point := next }).countP (owing item) +
      indicator (owing item call) = state.calls.countP (owing item) +
        indicator (owing item { call with point := next }) := countP_move (owing item) found
  have owed := owing_move move fits admissible calm item
  unfold outstanding
  dsimp only
  omega

theorem flowing_call {state after : State} {id : Nat} {call : Call} {next : CallPc}
    (found : state.calls[id]? = some call) (item : Item) :
    flowing { after with calls := state.calls.set id { call with point := next } } item +
        inFlight item call =
      flowing state item + inFlight item { call with point := next } :=
  sum_move (inFlight item) found

theorem flights_nonneg {stock : Table} {state : State} (settled : Settled stock state)
    (item : Item) : ∀ call ∈ state.calls, 0 ≤ inFlight item call := by
  intro call inside
  obtain ⟨place, looked⟩ := List.mem_iff_getElem?.mp inside
  exact in_flight_nonneg (settled.calls place call looked) item

/-- In balance, the row has at least what a call between its script and its commit took. -/
theorem row_covers_call {stock : Table} {state : State} {id : Nat} {call : Call}
    (settled : Settled stock state) (found : state.calls[id]? = some call)
    (inside : between call.point = true) (zero : outstanding state call.item = 0) :
    ∃ left, state.store.committed call.item = some left ∧ call.quantity ≤ left := by
  have share := sum_ge_of_lookup (flights_nonneg settled call.item) found
  rw [in_flight_inside inside] at share
  have total : call.quantity ≤ flowing state call.item := share
  have positive := (settled.calls id call found).positive (admitted_of_between inside)
  obtain ⟨left, stored, enough⟩ :=
    (settled.balanced call.item zero).covered (Int.lt_of_lt_of_le positive share)
  exact ⟨left, stored, Int.le_trans total enough⟩

theorem balanced_call {stock : Table} {state after : State} {id : Nat} {call : Call}
    {answer : Answer} {next : CallPc} (settled : Settled stock state)
    (found : state.calls[id]? = some call) (calm : calmAnswer answer = true)
    (move : CallMove state call answer after next) (fits : Fits state.store (repoPc call))
    (item : Item)
    (none : outstanding { after with
      calls := state.calls.set id { call with point := next } } item = 0) :
    Balanced (after.redis item) (after.store.committed item)
      (flowing { after with calls := state.calls.set id { call with point := next } } item) := by
  have admissible := settled.calls id call found
  have more := outstanding_call found move fits admissible calm item
  have zero : outstanding state item = 0 := Nat.le_zero.mp (none ▸ more)
  have before := settled.balanced item zero
  have moved : flowing { after with calls := state.calls.set id { call with point := next } } item +
      inFlight item call = _ := flowing_call found item
  have shift := shift_move move fits admissible calm
  by_cases same : item = call.item
  · subst same
    have member : call ∈ state.calls := List.mem_of_getElem? found
    refine shift_here shift moved before (flights_nonneg settled _ call member) ?_ ?_
    · by_contra owed
      have mine : owing call.item { call with point := next } = true := by
        simpa [owing] using owed
      have counted : 0 < (state.calls.set id { call with point := next }).countP
          (owing call.item) :=
        List.countP_pos_iff.mpr ⟨_, List.mem_of_getElem? (lookup_move_self found), mine⟩
      unfold outstanding at none
      dsimp only at none
      omega
    · by_contra failed
      have waits := settled.refused id call found (by simpa using failed)
      omega
  · obtain ⟨redis, committed⟩ := shift_elsewhere shift same
    have other : call.item ≠ item := fun equal => same equal.symm
    have here := in_flight_other other
    have there : inFlight item { call with point := next } = 0 := in_flight_other other
    have flows : flowing { after with
        calls := state.calls.set id { call with point := next } } item = flowing state item := by
      omega
    rw [flows, redis, committed]
    exact before

theorem settled_call {stock : Table} {state after : State} {id : Nat} {call : Call}
    {answer : Answer} {next : CallPc} (settled : Settled stock state)
    (found : state.calls[id]? = some call) (calm : calmAnswer answer = true)
    (move : CallMove state call answer after next) :
    Settled stock { after with calls := state.calls.set id { call with point := next } } := by
  have at_pc := operation_of_call found
  have fits := settled.clean.fits id _ at_pc
  have admissible := settled.calls id call found
  have more := outstanding_call found move fits admissible calm
  refine ⟨?_, ?_, ?_, ?_⟩
  · change Clean stock after.store ((state.calls.set id { call with point := next }).map repoPc)
    rw [operations_move]
    exact clean_call settled.clean found calm move
  · intro other seen looked
    rcases lookup_move looked with ⟨_, rfl⟩ | ⟨_, old⟩
    · exact admissible_move move admissible
    · exact settled.calls other seen old
  · intro other seen looked failed
    rcases lookup_move looked with ⟨_, rfl⟩ | ⟨_, old⟩
    · rcases refused_move move fits admissible calm failed with already | ⟨inside, less⟩
      · exact Nat.lt_of_lt_of_le (settled.refused id call found already) (more call.item)
      · -- in balance, the row would have had enough
        apply Nat.pos_of_ne_zero
        intro none
        have zero : outstanding state call.item = 0 := Nat.le_zero.mp (none ▸ more call.item)
        obtain ⟨left, stored, enough⟩ := row_covers_call settled found inside zero
        have short := less left stored
        omega
    · exact Nat.lt_of_lt_of_le (settled.refused other seen old failed) (more seen.item)
  · intro item none
    exact balanced_call settled found calm move fits item none

/-! ## The other steps -/

/-- The step is no `SET` of an item's last outstanding rebuild that comes too late: nothing
has been committed for the item since the deduction that it reports, and no call is between
its script and its commit. -/
def ordered (state : State) : Action → Bool
  | .rebuild id _ =>
      (state.rebuilds[id]?).all fun rebuild =>
        decide (rebuild.point = .set ∧ outstanding state rebuild.item = 1 →
          state.store.committed rebuild.item = some rebuild.stock ∧
            ∀ call ∈ state.calls, call.item = rebuild.item → between call.point = false)
  | _ => true

theorem between_of_refused {point : CallPc} (failed : refused point = true) :
    between point = true := by
  cases point with
  | repository route pc =>
      cases route with
      | fallback => cases failed
      | fast remaining =>
          cases pc with
          | release id result | done result => cases result <;> first | rfl | cases failed
          | rollback _ _ | restoreError _ _ => rfl
          | _ => cases failed
  | retry _ | increment _ => rfl
  | _ => cases failed

theorem flowing_none {state : State} {item : Item}
    (none : ∀ call ∈ state.calls, call.item = item → between call.point = false) :
    flowing state item = 0 := by
  have zero : state.calls.map (inFlight item) = state.calls.map fun _ => 0 := by
    apply List.map_congr_left
    intro call member
    by_cases same : call.item = item
    · exact in_flight_outside (none call member same) item
    · exact in_flight_other same
  unfold flowing
  rw [zero]
  simp

theorem rebuild_step_cases {redis after : Table} {rebuild : Rebuild} {answer : Answer}
    {next : RebuildPc} (calm : calmAnswer answer = true)
    (taken : rebuildStep redis rebuild answer = some (after, next)) :
    (rebuild.point = .connect ∧ next = .set ∧ after = redis) ∨
      (rebuild.point = .set ∧ next = .done ∧ after = redis.put rebuild.item rebuild.stock) := by
  unfold rebuildStep at taken
  split at taken
  · next at_point =>
      cases taken
      exact .inl ⟨at_point, rfl, rfl⟩
  · cases calm
  · next command at_point =>
      cases command with
      | returns =>
          cases taken
          exact .inr ⟨at_point, rfl, rfl⟩
      | throws performed => cases calm
  · cases taken

theorem outstanding_rebuild {state : State} {id : Nat} {rebuild : Rebuild}
    (found : state.rebuilds[id]? = some rebuild) (redis : Table) (next : RebuildPc)
    (item : Item) :
    outstanding { state with
        redis := redis
        rebuilds := state.rebuilds.set id { rebuild with point := next } } item +
        indicator (unfinished item rebuild) =
      outstanding state item + indicator (unfinished item { rebuild with point := next }) := by
  have counted : (state.rebuilds.set id { rebuild with point := next }).countP
      (unfinished item) + indicator (unfinished item rebuild) =
        state.rebuilds.countP (unfinished item) +
          indicator (unfinished item { rebuild with point := next }) :=
    countP_move (unfinished item) found
  unfold outstanding
  dsimp only
  omega

theorem settled_connects {stock : Table} {state : State} {id : Nat} {rebuild : Rebuild}
    (settled : Settled stock state) (found : state.rebuilds[id]? = some rebuild)
    (at_point : rebuild.point = .connect) :
    Settled stock { state with
      rebuilds := state.rebuilds.set id { rebuild with point := .set } } := by
  have same : ∀ item, outstanding { state with
      rebuilds := state.rebuilds.set id { rebuild with point := .set } } item =
        outstanding state item := by
    intro item
    have moved := outstanding_rebuild found state.redis .set item
    have equal : unfinished item { rebuild with point := .set } = unfinished item rebuild := by
      simp [unfinished, at_point]
    rw [equal] at moved
    exact Nat.add_right_cancel moved
  refine ⟨settled.clean, settled.calls, ?_, ?_⟩
  · intro other call looked failed
    rw [same]
    exact settled.refused other call looked failed
  · intro item none
    rw [same] at none
    exact settled.balanced item none

/-- The `SET` of the last outstanding rebuild of an item brings it into balance. -/
theorem settled_sets {stock : Table} {state : State} {id : Nat} {rebuild : Rebuild}
    (settled : Settled stock state) (found : state.rebuilds[id]? = some rebuild)
    (at_point : rebuild.point = .set)
    (inOrder : outstanding state rebuild.item = 1 →
      state.store.committed rebuild.item = some rebuild.stock ∧
        ∀ call ∈ state.calls, call.item = rebuild.item → between call.point = false) :
    Settled stock { state with
      redis := state.redis.put rebuild.item rebuild.stock
      rebuilds := state.rebuilds.set id { rebuild with point := .done } } := by
  have moved := outstanding_rebuild found (state.redis.put rebuild.item rebuild.stock) .done
  have finished : ∀ item, unfinished item { rebuild with point := .done } = false := by
    intro item
    simp [unfinished]
  have others : ∀ item, item ≠ rebuild.item → outstanding { state with
      redis := state.redis.put rebuild.item rebuild.stock
      rebuilds := state.rebuilds.set id { rebuild with point := .done } } item =
        outstanding state item := by
    intro item other
    have counted := moved item
    have apart : rebuild.item ≠ item := fun same => other same.symm
    have before : unfinished item rebuild = false := by simp [unfinished, apart]
    rw [before, finished item] at counted
    exact counted
  have mine := moved rebuild.item
  have before : unfinished rebuild.item rebuild = true := by simp [unfinished, at_point]
  rw [before, finished, indicator_true, indicator_false, Nat.add_zero] at mine
  refine ⟨settled.clean, settled.calls, ?_, ?_⟩
  · intro other call looked failed
    have waits := settled.refused other call looked failed
    by_cases same : call.item = rebuild.item
    · rw [same] at waits ⊢
      apply Nat.pos_of_ne_zero
      intro none
      have last : outstanding state rebuild.item = 1 := by omega
      have quiet := (inOrder last).2 call (List.mem_of_getElem? looked) same
      rw [between_of_refused failed] at quiet
      cases quiet
    · rw [others call.item same]
      exact waits
  · intro item none
    by_cases same : item = rebuild.item
    · subst same
      have last : outstanding state rebuild.item = 1 := by omega
      obtain ⟨stored, free⟩ := inOrder last
      change Balanced (state.redis.put rebuild.item rebuild.stock rebuild.item)
        (state.store.committed rebuild.item) (flowing state rebuild.item)
      rw [stored, flowing_none free]
      constructor
      · intro value there
        have equal : rebuild.stock = value := by simpa [Table.put] using there
        rw [equal, Int.add_zero]
      · intro impossible
        exact absurd impossible (by decide)
    · rw [others item same] at none
      have before := settled.balanced item none
      have key : state.redis.put rebuild.item rebuild.stock item = state.redis item := if_neg same
      change Balanced (state.redis.put rebuild.item rebuild.stock item)
        (state.store.committed item) (flowing state item)
      rw [key]
      exact before

theorem settled_rebuild {stock : Table} {state : State} {id : Nat} {rebuild : Rebuild}
    {answer : Answer} {redis : Table} {next : RebuildPc} (settled : Settled stock state)
    (found : state.rebuilds[id]? = some rebuild) (calm : calmAnswer answer = true)
    (inOrder : ordered state (.rebuild id answer) = true)
    (taken : rebuildStep state.redis rebuild answer = some (redis, next)) :
    Settled stock { state with
      redis := redis
      rebuilds := state.rebuilds.set id { rebuild with point := next } } := by
  simp only [ordered, found, Option.all_some, decide_eq_true_eq] at inOrder
  rcases rebuild_step_cases calm taken with ⟨at_point, rfl, rfl⟩ | ⟨at_point, rfl, rfl⟩
  · exact settled_connects settled found at_point
  · exact settled_sets settled found at_point fun last => inOrder ⟨at_point, last⟩

theorem settled_request {stock : Table} {state : State} (settled : Settled stock state)
    (item : Item) (quantity : Int) :
    Settled stock { state with
      calls := state.calls ++ [{ item := item, quantity := quantity, point := .validate }] } := by
  have same : ∀ other, outstanding { state with
      calls := state.calls ++ [{ item := item, quantity := quantity, point := .validate }] } other =
        outstanding state other := by
    intro other
    simp [outstanding, owing, owes]
  refine ⟨?_, ?_, ?_, ?_⟩
  · change Clean stock state.store ((state.calls ++ [_]).map repoPc)
    rw [List.map_append]
    exact clean_spawn settled.clean rfl
  · intro id call found
    rcases lookup_append found with old | ⟨_, rfl⟩
    · exact settled.calls id call old
    · exact admissible_requested item quantity
  · intro id call found failed
    rw [same]
    rcases lookup_append found with old | ⟨_, rfl⟩
    · exact settled.refused id call old failed
    · cases failed
  · intro other none
    rw [same] at none
    have flow : flowing { state with
        calls := state.calls ++ [{ item := item, quantity := quantity, point := .validate }] } other =
          flowing state other := by
      simp [flowing, inFlight, between]
    rw [flow]
    exact settled.balanced other none

theorem settled_store {stock : Table} {state : State} {store : Store}
    (settled : Settled stock state) (clean : Clean stock store (operations state))
    (committed : store.committed = state.store.committed) :
    Settled stock { state with store := store } := by
  refine ⟨clean, settled.calls, settled.refused, ?_⟩
  intro item none
  change Balanced (state.redis item) (store.committed item) (flowing state item)
  rw [committed]
  exact settled.balanced item none

theorem settled_step {stock : Table} {retryTimes : Int} {state after : State} {action : Action}
    (settled : Settled stock state) (peace : calm action = true)
    (inOrder : ordered state action = true) (taken : step retryTimes state action = some after) :
    Settled stock after := by
  cases action with
  | request item quantity =>
      obtain rfl := Option.some.inj taken
      exact settled_request settled item quantity
  | call id answer =>
      obtain ⟨call, found, rest⟩ := Option.bind_eq_some_iff.mp taken
      obtain ⟨moved, stepped, rfl⟩ := Option.map_eq_some_iff.mp rest
      exact settled_call settled found peace (call_step_cases stepped)
  | rebuild id answer =>
      obtain ⟨rebuild, found, rest⟩ := Option.bind_eq_some_iff.mp taken
      obtain ⟨moved, stepped, rfl⟩ := Option.map_eq_some_iff.mp rest
      exact settled_rebuild settled found peace inOrder stepped
  | evict item =>
      obtain rfl := Option.some.inj taken
      refine ⟨settled.clean, settled.calls, settled.refused, ?_⟩
      intro other zero
      have before := settled.balanced other zero
      refine ⟨?_, before.covered⟩
      intro value there
      change (if other = item then none else state.redis other) = some value at there
      split at there
      · cases there
      · exact before.cached value there
  | grow =>
      obtain rfl := Option.some.inj taken
      exact settled_store settled (clean_grow settled.clean) rfl
  | recycle place =>
      obtain ⟨store, recycled, rfl⟩ := Option.map_eq_some_iff.mp taken
      have committed : store.committed = state.store.committed := by
        obtain ⟨_, _, _, _, rfl⟩ := recycle_cases recycled
        rfl
      exact settled_store settled (clean_recycle settled.clean recycled) committed

/-! ## Agreement -/

def isReturned : CallPc → Bool
  | .returned _ => true
  | _ => false

def quiet (state : State) : Bool :=
  state.calls.all (fun call => isReturned call.point) &&
    state.rebuilds.all fun rebuild => decide (rebuild.point = .done)

def Agree (redis stock : Table) : Prop :=
  ∀ (item : Item) (value : Int), redis item = some value → stock item = some value

theorem agree_of_settled {stock : Table} {state : State} (settled : Settled stock state)
    (still : quiet state = true) : Agree state.redis state.store.committed := by
  obtain ⟨calls, rebuilds⟩ := Bool.and_eq_true_iff.mp still
  have returned : ∀ call ∈ state.calls, owes call.point = false ∧ between call.point = false := by
    intro call member
    have ended := List.all_eq_true.mp calls call member
    cases point : call.point with
    | returned outcome => exact ⟨rfl, rfl⟩
    | _ =>
        rw [point] at ended
        cases ended
  intro item value there
  have none : outstanding state item = 0 := by
    have owed : state.calls.countP (owing item) = 0 := by
      apply List.countP_eq_zero.mpr
      intro call member
      simp [owing, (returned call member).1]
    have running : state.rebuilds.countP (unfinished item) = 0 := by
      apply List.countP_eq_zero.mpr
      intro rebuild member
      have ended := List.all_eq_true.mp rebuilds rebuild member
      simp [unfinished, of_decide_eq_true ended]
    unfold outstanding
    omega
  have flow : flowing state item = 0 := flowing_none fun call member _ => (returned call member).2
  have balanced := settled.balanced item none
  rw [flow] at balanced
  have stored := balanced.cached value there
  rw [Int.add_zero] at stored
  exact stored

/-- A whole deduction by one call after its script, with connection and repository calm. -/
def deduction (id : Nat) : List Action :=
  [.call id (.repo .front)] ++ List.replicate 5 (.call id (.repo (.driver .returns))) ++
    [.call id (.repo .go), .call id .go]

def scripted (id : Nat) : List Action :=
  [.call id .go, .call id .connected, .call id (.redis .returns)]

def rebuilt (id : Nat) : List Action := [.rebuild id .connected, .rebuild id (.redis .returns)]

theorem agree_from_empty : Agree noWrites tenPieces := by
  intro item value there
  cases there

/-- The first deduction finds no key and rebuilds it, the second one uses it. -/
def rebuiltRun : List Action :=
  [.request 1 1] ++ scripted 0 ++ deduction 0 ++ rebuilt 0 ++
    [.request 1 2] ++ scripted 1 ++ deduction 1

/-- Both deductions find no key, and the rebuild of the first one comes last. -/
def staleRebuildRun : List Action :=
  [.request 1 1] ++ scripted 0 ++ deduction 0 ++ [.request 1 2] ++ scripted 1 ++ deduction 1 ++
    rebuilt 1 ++ rebuilt 0

end BackendComponents.Inventory.Agreement
