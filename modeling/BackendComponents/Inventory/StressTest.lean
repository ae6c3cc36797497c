import Mathlib.Algebra.Order.Group.Unbundled.Int
import BackendComponents.Inventory.Agreement
import BackendComponents.Inventory.Progress

/-!
# The concurrent test of the service

`ConcurrentTestService::run` starts threads that all make the same deduction, waits for
them and compares what is left in Redis and in MySQL with what should be left. Without
failures, evictions and other callers its report does not depend on the interleaving: as
many threads succeed as the stock has room for, and the test passes. Such a test comes to
its end under every schedule that goes on as long as it can.
-/

namespace BackendComponents.Inventory.StressTest

open BackendComponents.Lib.Paths
open BackendComponents.Lib.Threads
open BackendComponents.Lib.Progress
open BackendComponents.Inventory.Database
open BackendComponents.Inventory.Repository
open BackendComponents.Inventory.Sessions
open BackendComponents.Inventory.Transactions (Clean tenPieces)
open BackendComponents.Inventory.Service
open BackendComponents.Inventory.Calls
open BackendComponents.Inventory.Agreement

set_option autoImplicit false

/-! ## The report -/

/-- `concurrency` is not negative; `reserve` throws otherwise. -/
structure TestRequest where
  item : Item
  quantity : Int
  concurrency : Nat
  deriving DecidableEq, Repr

structure TestResponse where
  totalRequests : Nat
  successCount : Nat
  failCount : Nat
  theoreticalRemain : Int
  actualRedisStock : Int
  actualMysqlStock : Int
  dataConsistent : Bool
  summary : String
  deriving DecidableEq, Repr

def succeeded (call : Call) : Bool :=
  match call.point with
  | .returned (.success _) => true
  | _ => false

def refusedCall (call : Call) : Bool :=
  match call.point with
  | .returned (.error _) => true
  | _ => false

/-- The stock before the test, from MySQL if Redis has no answer; without either the test
fails with `kConcurrencyTestFailed`. -/
def initialStock (redis mysql : Option Int) : Option Int := redis.or mysql

def summaryOf (consistent : Bool) (redis mysql theoretical : Int) (success fail : Nat) : String :=
  if consistent then
    "PASS: Redis=" ++ toString redis ++ ", MySQL=" ++ toString mysql ++ ", Theoretical=" ++
      toString theoretical
  else
    "FAIL: Redis=" ++ toString redis ++ ", MySQL=" ++ toString mysql ++ ", Theoretical=" ++
      toString theoretical ++ ", Success=" ++ toString success ++ ", Fail=" ++ toString fail

def report (request : TestRequest) (initial : Int) (success fail : Nat)
    (finalRedis finalMysql : Option Int) : TestResponse :=
  let redis := finalRedis.getD (-1)
  let mysql := finalMysql.getD (-1)
  let theoretical := initial - success * request.quantity
  let consistent := decide (redis = mysql ∧ redis = theoretical)
  { totalRequests := request.concurrency
    successCount := success
    failCount := fail
    theoreticalRemain := theoretical
    actualRedisStock := redis
    actualMysqlStock := mysql
    dataConsistent := consistent
    summary := summaryOf consistent redis mysql theoretical success fail }

/-- The test between two states, when Redis and MySQL answer its reads. The calls that are
in `after` only are those of its threads. -/
def run (request : TestRequest) (before after : State) : Option TestResponse :=
  (initialStock (before.redis request.item) (before.store.committed request.item)).map fun initial =>
    let tested := after.calls.drop before.calls.length
    report request initial (tested.countP succeeded) (tested.countP refusedCall)
      (after.redis request.item) (after.store.committed request.item)

/-- A step that happens during the test: nothing fails and nobody else calls the service. -/
def ofTest (request : TestRequest) : Action → Bool
  | .request item quantity => decide (item = request.item ∧ quantity = request.quantity)
  | .evict _ => false
  | action => calm action

def threadCall (request : TestRequest) : Call where
  item := request.item
  quantity := request.quantity
  point := .validate

def room (request : TestRequest) (initial : Int) : Nat :=
  min request.concurrency (initial / request.quantity).toNat

/-! ## The calls of the test -/

def onTrack : CallPc → Bool
  | .validate | .connect | .script | .returned (.success _)
  | .returned (.error .stockInsufficient) => true
  | .repository (.fast _) pc => !refusedPc pc && decide (pc ≠ .idle)
  | _ => false

def took : CallPc → Bool
  | .repository (.fast _) _ | .returned (.success _) => true
  | _ => false

def tookCall (call : Call) : Bool := took call.point

/-- What the calls have taken is missing from the key, and a call has been refused only if
the rest is too little. -/
structure Counted (request : TestRequest) (initial : Int) (key : Option Int)
    (tested : List Call) : Prop where
  redis : key = some (initial - request.quantity * tested.countP tookCall)
  enough : tested.countP tookCall = 0 ∨
    0 ≤ initial - request.quantity * tested.countP tookCall
  short : ∀ call ∈ tested, call.point = .returned (.error .stockInsufficient) →
    initial - request.quantity * tested.countP tookCall < request.quantity

structure Testing (request : TestRequest) (old : List Call) (initial : Int) (state : State)
    (tested : List Call) : Prop where
  calls : state.calls = old ++ tested
  earlier : ∀ call ∈ old, isReturned call.point = true
  rebuilds : ∀ rebuild ∈ state.rebuilds, rebuild.point = .done
  mine : ∀ call ∈ tested, call.item = request.item ∧ call.quantity = request.quantity ∧
    onTrack call.point = true
  counted : Counted request initial (state.redis request.item) tested

theorem owes_of_on_track {point : CallPc} (track : onTrack point = true) : owes point = false := by
  cases point with
  | repository route pc =>
      cases route with
      | fast remaining => rfl
      | fallback => cases track
  | _ => rfl

theorem owes_of_returned {point : CallPc} (ended : isReturned point = true) :
    owes point = false := by
  cases point with
  | returned outcome => rfl
  | _ => cases ended

theorem nothing_outstanding {state : State}
    (calls : ∀ call ∈ state.calls, owes call.point = false)
    (rebuilds : ∀ rebuild ∈ state.rebuilds, rebuild.point = .done) (item : Item) :
    outstanding state item = 0 := by
  have owed : state.calls.countP (owing item) = 0 := by
    apply List.countP_eq_zero.mpr
    intro call member
    simp [owing, calls call member]
  have running : state.rebuilds.countP (unfinished item) = 0 := by
    apply List.countP_eq_zero.mpr
    intro rebuild member
    simp [unfinished, rebuilds rebuild member]
  unfold outstanding
  omega

theorem testing_owes {request : TestRequest} {old tested : List Call} {initial : Int}
    {state : State} (testing : Testing request old initial state tested) :
    ∀ call ∈ state.calls, owes call.point = false := by
  intro call member
  rw [testing.calls] at member
  rcases List.mem_append.mp member with before | during
  · exact owes_of_returned (testing.earlier call before)
  · exact owes_of_on_track (testing.mine call during).2.2

theorem tested_lookup {request : TestRequest} {old tested : List Call} {initial : Int}
    {state after : State} {retryTimes : Int} {id : Nat} {call : Call} {answer : Answer}
    {next : CallPc} (testing : Testing request old initial state tested)
    (found : state.calls[id]? = some call)
    (taken : callStep retryTimes state call answer = some (after, next)) :
    ∃ place, id = old.length + place ∧ tested[place]? = some call := by
  rw [testing.calls] at found
  by_cases before : id < old.length
  · rw [List.getElem?_append_left before] at found
    have ended := testing.earlier call (List.mem_of_getElem? found)
    obtain ⟨outcome, point⟩ : ∃ outcome, call.point = .returned outcome := by
      cases point : call.point with
      | returned outcome => exact ⟨outcome, rfl⟩
      | _ =>
          rw [point] at ended
          cases ended
    simp only [callStep, point] at taken
    cases taken
  · rw [List.getElem?_append_right (by omega)] at found
    exact ⟨id - old.length, by omega, found⟩

/-- What a step of such a call does to the key. -/
inductive Track (state after : State) (call : Call) (current : Int) (next : CallPc) : Prop
  | keeps : after.redis = state.redis → took next = took call.point →
      (next = .returned (.error .stockInsufficient) → current < call.quantity) →
        Track state after call current next
  | takes : call.quantity ≤ current →
      after.redis = setKey state.redis call.item (some (current - call.quantity)) →
        took call.point = false → took next = true →
          next ≠ .returned (.error .stockInsufficient) → Track state after call current next

theorem track_script {state : State} {call : Call} {current : Int}
    (at_point : call.point = .script) (key : state.redis call.item = some current) :
    Track state
        { state with
          redis := setKey state.redis call.item
            (deductScript (state.redis call.item) call.quantity).1 }
        call current
        (afterScript call (parseResult (deductScript (state.redis call.item) call.quantity).2)) ∧
      onTrack (afterScript call
        (parseResult (deductScript (state.redis call.item) call.quantity).2)) = true := by
  rw [after_script, key]
  have before : took call.point = false := by rw [at_point]; rfl
  dsimp only [deductScript]
  split
  · next less =>
      refine ⟨.keeps ?_ before.symm fun _ => less, rfl⟩
      funext item
      change setKey state.redis call.item (some current) item = state.redis item
      unfold setKey
      split
      · next same => rw [same, key]
      · rfl
  · next enough =>
      refine ⟨.takes (by omega) rfl before rfl ?_, rfl⟩
      exact fun same => by cases same

theorem track_move {retryTimes : Int} {state after : State} {call : Call} {answer : Answer}
    {next : CallPc} {current : Int} (item : 0 < call.item) (quantity : 0 < call.quantity)
    (track : onTrack call.point = true) (key : state.redis call.item = some current)
    (calm : calmAnswer answer = true)
    (taken : callStep retryTimes state call answer = some (after, next)) :
    Track state after call current next ∧ after.rebuilds = state.rebuilds ∧
      owes next = false ∧ (refused next = false → onTrack next = true) := by
  cases call_step_cases taken with
  | rejected at_point =>
      have invalid : ¬(call.item ≤ 0 ∨ call.quantity ≤ 0) :=
        not_or.mpr ⟨Int.not_le.mpr item, Int.not_le.mpr quantity⟩
      simp only [callStep, at_point, if_neg invalid] at taken
      cases taken
  | accepted at_point _ _ | connected at_point =>
      refine ⟨.keeps rfl (by rw [at_point]; rfl) ?_, rfl, rfl, fun _ => rfl⟩
      exact fun same => by cases same
  | degraded _ | scriptThrows _ | incrementThrows _ => cases calm
  | replied at_point =>
      obtain ⟨tracked, still⟩ := track_script at_point key
      exact ⟨tracked, rfl, owes_of_on_track still, fun _ => still⟩
  | @finished route result _ at_point known =>
      rw [at_point] at track
      cases route with
      | fallback => cases track
      | fast remaining =>
          cases result with
          | stock newStock =>
              cases known
              refine ⟨.keeps rfl (by rw [at_point]; rfl) ?_, List.append_nil _, rfl, fun _ => rfl⟩
              exact fun same => by cases same
          | error _ | threw | done => cases track
  | @advances route pc following _ _ at_point step =>
      rw [at_point] at track
      cases route with
      | fallback => cases track
      | fast remaining =>
          refine ⟨.keeps rfl (by rw [at_point]; rfl) ?_, rfl, rfl, ?_⟩
          · exact fun same => by cases same
          · intro unrefused
            have passes : refusedPc following = false := unrefused
            have present := Progress.move_present step
            simp [onTrack, passes, present]
  | retries at_point _ | increments at_point =>
      rw [at_point] at track
      cases track

theorem unrefused_of_settled {stock : Table} {state : State} {id : Nat} {call : Call}
    (settled : Settled stock state) (found : state.calls[id]? = some call)
    (none : outstanding state call.item = 0) : refused call.point = false := by
  by_contra failed
  have waits := settled.refused id call found (by simpa using failed)
  omega

theorem testing_call {stock : Table} {request : TestRequest} {old tested : List Call}
    {initial : Int} {state after : State} {retryTimes : Int} {id : Nat} {call : Call}
    {answer : Answer} {next : CallPc} (item : 0 < request.item) (quantity : 0 < request.quantity)
    (settled : Settled stock state) (testing : Testing request old initial state tested)
    (found : state.calls[id]? = some call) (calm : calmAnswer answer = true)
    (taken : callStep retryTimes state call answer = some (after, next)) :
    ∃ rest, Testing request old initial
      { after with calls := state.calls.set id { call with point := next } } rest := by
  have stays := settled_call settled found calm (call_step_cases taken)
  have there : (state.calls.set id { call with point := next })[id]? =
      some { call with point := next } := lookup_move_self found
  obtain ⟨place, rfl, at_call⟩ := tested_lookup testing found taken
  obtain ⟨sameItem, sameQuantity, track⟩ := testing.mine call (List.mem_of_getElem? at_call)
  have key := testing.counted.redis
  rw [← sameItem] at key item
  rw [← sameQuantity] at quantity
  obtain ⟨moved, rebuilds, free, still⟩ := track_move item quantity track key calm taken
  have owes : ∀ seen ∈ state.calls.set (old.length + place) { call with point := next },
      owes seen.point = false := by
    intro seen member
    rcases List.mem_or_eq_of_mem_set member with before | rfl
    · exact testing_owes testing seen before
    · exact free
  have settledRebuilds : ∀ rebuild ∈ after.rebuilds, rebuild.point = .done := by
    rw [rebuilds]
    exact testing.rebuilds
  have none := @nothing_outstanding
    { after with calls := state.calls.set (old.length + place) { call with point := next } }
    owes settledRebuilds call.item
  have passes := still (unrefused_of_settled stays there none)
  have counted : (tested.set place { call with point := next }).countP tookCall +
      indicator (tookCall call) = tested.countP tookCall +
        indicator (tookCall { call with point := next }) := countP_move tookCall at_call
  have calls : state.calls.set (old.length + place) { call with point := next } =
      old ++ tested.set place { call with point := next } := by
    rw [testing.calls, List.set_append_right _ _ (Nat.le_add_right _ _), Nat.add_sub_cancel_left]
  have mine : ∀ seen ∈ tested.set place { call with point := next },
      seen.item = request.item ∧ seen.quantity = request.quantity ∧
        onTrack seen.point = true := by
    intro seen member
    rcases List.mem_or_eq_of_mem_set member with before | rfl
    · exact testing.mine seen before
    · exact ⟨sameItem, sameQuantity, passes⟩
  refine ⟨tested.set place { call with point := next }, calls, testing.earlier, settledRebuilds,
    mine, ?_⟩
  cases moved with
  | keeps redis same cause =>
      have equal : (tested.set place { call with point := next }).countP tookCall =
          tested.countP tookCall := by
        have sides : tookCall { call with point := next } = tookCall call := same
        rw [sides] at counted
        exact Nat.add_right_cancel counted
      constructor
      · rw [equal, redis]
        exact testing.counted.redis
      · rw [equal]
        exact testing.counted.enough
      · intro seen member point
        rw [equal]
        rcases List.mem_or_eq_of_mem_set member with before | rfl
        · exact testing.counted.short seen before point
        · have less := cause point
          rw [sameQuantity] at less
          exact less
  | takes enough redis before now fine =>
      have more : (tested.set place { call with point := next }).countP tookCall =
          tested.countP tookCall + 1 := by
        have was : tookCall call = false := before
        have is : tookCall { call with point := next } = true := now
        rw [was, is] at counted
        exact counted
      rw [sameQuantity] at enough redis quantity
      have less : initial - request.quantity * ((tested.countP tookCall + 1 : Nat) : Int) =
          initial - request.quantity * tested.countP tookCall - request.quantity := by
        rw [Int.natCast_add, Int.mul_add]
        omega
      constructor
      · rw [more, less, redis, sameItem]
        exact if_pos rfl
      · rw [more, less]
        exact .inr (by omega)
      · intro seen member point
        rw [more, less]
        rcases List.mem_or_eq_of_mem_set member with earlier | rfl
        · have short := testing.counted.short seen earlier point
          omega
        · exact absurd point fine

theorem testing_request {request : TestRequest} {old tested : List Call} {initial : Int}
    {state : State} (testing : Testing request old initial state tested) :
    Testing request old initial { state with calls := state.calls ++ [threadCall request] }
      (tested ++ [threadCall request]) := by
  have same : (tested ++ [threadCall request]).countP tookCall = tested.countP tookCall := by
    rw [List.countP_append]
    rfl
  refine ⟨?_, testing.earlier, testing.rebuilds, ?_, ⟨?_, ?_, ?_⟩⟩
  · rw [testing.calls, List.append_assoc]
  · intro call member
    rcases List.mem_append.mp member with before | last
    · exact testing.mine call before
    · rw [List.mem_singleton.mp last]
      exact ⟨rfl, rfl, rfl⟩
  · rw [same]
    exact testing.counted.redis
  · rw [same]
    exact testing.counted.enough
  · intro call member point
    rw [same]
    rcases List.mem_append.mp member with before | last
    · exact testing.counted.short call before point
    · rw [List.mem_singleton.mp last] at point
      cases point

theorem rebuilds_rest {state : State} {redis : Table} {id : Nat} {rebuild : Rebuild}
    {answer : Answer} {moved : Table × RebuildPc}
    (rebuilds : ∀ rebuild ∈ state.rebuilds, rebuild.point = .done)
    (found : state.rebuilds[id]? = some rebuild)
    (taken : rebuildStep redis rebuild answer = some moved) : False := by
  have done := rebuilds rebuild (List.mem_of_getElem? found)
  simp only [rebuildStep, done] at taken
  cases taken

theorem ordered_of_rest {state : State} {action : Action}
    (rebuilds : ∀ rebuild ∈ state.rebuilds, rebuild.point = .done) :
    ordered state action = true := by
  cases action with
  | rebuild id answer =>
      cases found : state.rebuilds[id]? with
      | none => simp only [ordered, found, Option.all_none]
      | some rebuild =>
          have done := rebuilds rebuild (List.mem_of_getElem? found)
          simp [ordered, found, done]
  | _ => rfl

theorem calm_of_test {request : TestRequest} {action : Action}
    (test : ofTest request action = true) : calm action = true := by
  cases action with
  | evict item => cases test
  | request item quantity => rfl
  | _ => exact test

theorem testing_step {stock : Table} {request : TestRequest} {old tested : List Call}
    {initial : Int} {retryTimes : Int} {state after : State} {action : Action}
    (item : 0 < request.item) (quantity : 0 < request.quantity) (settled : Settled stock state)
    (testing : Testing request old initial state tested) (test : ofTest request action = true)
    (taken : step retryTimes state action = some after) :
    ∃ rest, Testing request old initial after rest := by
  cases action with
  | request item quantity =>
      obtain rfl := Option.some.inj taken
      obtain ⟨rfl, rfl⟩ := of_decide_eq_true test
      exact ⟨_, testing_request testing⟩
  | call id answer =>
      obtain ⟨call, found, rest⟩ := Option.bind_eq_some_iff.mp taken
      obtain ⟨moved, stepped, rfl⟩ := Option.map_eq_some_iff.mp rest
      exact testing_call item quantity settled testing found test stepped
  | rebuild id answer =>
      obtain ⟨rebuild, found, rest⟩ := Option.bind_eq_some_iff.mp taken
      obtain ⟨moved, stepped, rfl⟩ := Option.map_eq_some_iff.mp rest
      exact (rebuilds_rest testing.rebuilds found stepped).elim
  | evict item => cases test
  | grow =>
      obtain rfl := Option.some.inj taken
      exact ⟨tested, testing.calls, testing.earlier, testing.rebuilds, testing.mine,
        testing.counted⟩
  | recycle place =>
      obtain ⟨store, recycled, rfl⟩ := Option.map_eq_some_iff.mp taken
      exact ⟨tested, testing.calls, testing.earlier, testing.rebuilds, testing.mine,
        testing.counted⟩

/-! ## The end of the test -/

theorem room_of_counts {request : TestRequest} {initial : Int} {taken : Nat}
    (quantity : 0 < request.quantity) (few : taken ≤ request.concurrency)
    (enough : taken = 0 ∨ 0 ≤ initial - request.quantity * taken)
    (short : taken = request.concurrency ∨ initial - request.quantity * taken < request.quantity) :
    taken = room request initial := by
  have fits : taken ≤ (initial / request.quantity).toNat := by
    rcases enough with rfl | left
    · exact Nat.zero_le _
    · have share : (taken : Int) * request.quantity ≤ initial := by
        rw [Int.mul_comm]
        omega
      have quotient := (Int.le_ediv_iff_mul_le quantity).mpr share
      omega
  unfold room
  rcases short with all | rest
  · rw [← all]
    omega
  · have share : initial < ((taken : Int) + 1) * request.quantity := by
      rw [Int.add_mul, Int.one_mul, Int.mul_comm]
      omega
    have quotient := (Int.ediv_lt_iff_lt_mul quantity).mpr share
    omega

theorem returned_on_track {call : Call} (track : onTrack call.point = true)
    (ended : isReturned call.point = true) :
    (tookCall call = true ∧ succeeded call = true ∧ refusedCall call = false) ∨
      (call.point = .returned (.error .stockInsufficient) ∧ tookCall call = false ∧
        succeeded call = false ∧ refusedCall call = true) := by
  obtain ⟨item, quantity, point⟩ := call
  cases point with
  | returned outcome =>
      cases outcome with
      | success remaining => exact .inl ⟨rfl, rfl, rfl⟩
      | error code =>
          cases code with
          | stockInsufficient => exact .inr ⟨rfl, rfl, rfl, rfl⟩
          | invalidArg | mysqlUpdateFailed => cases track
      | threw => cases track
  | _ => cases ended

theorem counts_at_end {tested : List Call}
    (track : ∀ call ∈ tested, onTrack call.point = true)
    (ended : ∀ call ∈ tested, isReturned call.point = true) :
    tested.countP succeeded = tested.countP tookCall ∧
      tested.countP refusedCall + tested.countP tookCall = tested.length := by
  induction tested with
  | nil => exact ⟨rfl, rfl⟩
  | cons call rest ih =>
      have later := ih (fun seen member => track seen (List.mem_cons_of_mem _ member))
        fun seen member => ended seen (List.mem_cons_of_mem _ member)
      have here := returned_on_track (track call List.mem_cons_self) (ended call List.mem_cons_self)
      simp only [List.countP_cons, List.length_cons]
      rcases here with ⟨took, done, fine⟩ | ⟨_, took, done, fine⟩
      · simp only [took, done, fine]
        exact ⟨by simpa using later.1, by have := later.2; simp; omega⟩
      · simp only [took, done, fine]
        exact ⟨by simpa using later.1, by have := later.2; simp; omega⟩

theorem taken_at_end {request : TestRequest} {old tested : List Call} {initial : Int}
    {state : State} (quantity : 0 < request.quantity)
    (testing : Testing request old initial state tested)
    (all : tested.length = request.concurrency)
    (ended : ∀ call ∈ tested, isReturned call.point = true) :
    tested.countP tookCall = room request initial := by
  have few : tested.countP tookCall ≤ tested.length := List.countP_le_length
  apply room_of_counts quantity (all ▸ few) testing.counted.enough
  by_cases full : tested.countP tookCall = tested.length
  · exact .inl (full.trans all)
  · right
    have someone : ∃ call ∈ tested, tookCall call = false := by
      by_contra nobody
      apply full
      apply List.countP_eq_length.mpr
      intro call member
      by_contra missed
      exact nobody ⟨call, member, by simpa using missed⟩
    obtain ⟨call, member, missed⟩ := someone
    rcases returned_on_track (testing.mine call member).2.2 (ended call member) with
      ⟨took, _⟩ | ⟨point, _⟩
    · rw [missed] at took
      cases took
    · exact testing.counted.short call member point

theorem stocks_at_end {stock : Table} {request : TestRequest} {old tested : List Call}
    {initial : Int} {state : State} (settled : Settled stock state)
    (testing : Testing request old initial state tested)
    (ended : ∀ call ∈ tested, isReturned call.point = true) :
    state.store.committed request.item = state.redis request.item := by
  have still : ∀ call ∈ state.calls, between call.point = false := by
    intro call member
    have returned : isReturned call.point = true := by
      rw [testing.calls] at member
      rcases List.mem_append.mp member with before | during
      · exact testing.earlier call before
      · exact ended call during
    cases point : call.point with
    | returned outcome => rfl
    | _ =>
        rw [point] at returned
        cases returned
  have none := nothing_outstanding (testing_owes testing) testing.rebuilds request.item
  have balanced := settled.balanced request.item none
  rw [flowing_none fun call member _ => still call member] at balanced
  have stored := balanced.cached _ testing.counted.redis
  rw [Int.add_zero] at stored
  rw [stored, testing.counted.redis]

theorem settled_start {stock redis : Table} (connections : Nat) (agreed : Agree redis stock) :
    Settled stock (start stock redis connections) := by
  refine ⟨Transactions.clean_opened stock connections, ?_, ?_, ?_⟩
  · intro id call found
    cases found
  · intro id call found
    cases found
  · intro item _
    constructor
    · intro value there
      change stock item = some (value + 0)
      rw [Int.add_zero]
      exact agreed item value there
    · intro impossible
      exact absurd impossible (Int.lt_irrefl 0)

theorem testing_begins {request : TestRequest} {initial : Int} {state : State}
    (still : quiet state = true) (key : state.redis request.item = some initial) :
    Testing request state.calls initial state [] := by
  obtain ⟨calls, rebuilds⟩ := Bool.and_eq_true_iff.mp still
  refine ⟨(List.append_nil _).symm, List.all_eq_true.mp calls, ?_, ?_, ⟨?_, .inl rfl, ?_⟩⟩
  · intro rebuild member
    exact of_decide_eq_true (List.all_eq_true.mp rebuilds rebuild member)
  · intro call member
    cases member
  · rw [key, List.countP_nil, Int.natCast_zero, Int.mul_zero, Int.sub_zero]
  · intro call member
    cases member

/-- The service has worked without failures and has come to rest. -/
structure Rested (stock redis : Table) (connections : Nat) (retryTimes : Int) (state : State) :
    Prop where
  agreed : Agree redis stock
  reached : ∃ trail, Path (step retryTimes) (start stock redis connections) trail state ∧
    ∀ taken ∈ trail, calm taken.2 = true ∧ ordered taken.1 taken.2 = true
  still : quiet state = true

theorem settled_of_rested {stock redis : Table} {connections : Nat} {retryTimes : Int}
    {state : State} (rested : Rested stock redis connections retryTimes state) :
    Settled stock state := by
  obtain ⟨trail, path, good⟩ := rested.reached
  apply path_invariant_of_good (Settled stock)
    (fun state action => calm action = true ∧ ordered state action = true)
    (settled_start connections rested.agreed) _ path good
  · exact List.mem_append_right _ List.mem_cons_self
  · intro state action after inv both taken
    exact settled_step inv both.1 both.2 taken

theorem testing_run {stock : Table} {request : TestRequest} {old tested : List Call}
    {initial : Int} {retryTimes : Int} {before after : State} {trail : List (State × Action)}
    (item : 0 < request.item) (quantity : 0 < request.quantity)
    (settled : Settled stock before) (testing : Testing request old initial before tested)
    (path : Path (step retryTimes) before trail after)
    (test : ∀ taken ∈ trail, ofTest request taken.2 = true) :
    Settled stock after ∧ ∃ rest, Testing request old initial after rest := by
  have both : ∀ state ∈ visited trail after, Settled stock state ∧
      ∃ rest, Testing request old initial state rest := by
    apply path_invariant_of_good
      (fun state => Settled stock state ∧ ∃ rest, Testing request old initial state rest)
      (fun _ action => ofTest request action = true) ⟨settled, tested, testing⟩ _ path test
    intro state action after inv own taken
    obtain ⟨settledNow, rest, testingNow⟩ := inv
    refine ⟨?_, testing_step item quantity settledNow testingNow own taken⟩
    exact settled_step settledNow (calm_of_test own) (ordered_of_rest testingNow.rebuilds) taken
  exact both after (List.mem_append_right _ List.mem_cons_self)

def passed (request : TestRequest) (initial : Int) : TestResponse :=
  let success := room request initial
  let remain := initial - success * request.quantity
  { totalRequests := request.concurrency
    successCount := success
    failCount := request.concurrency - success
    theoreticalRemain := remain
    actualRedisStock := remain
    actualMysqlStock := remain
    dataConsistent := true
    summary := "PASS: Redis=" ++ toString remain ++ ", MySQL=" ++ toString remain ++
      ", Theoretical=" ++ toString remain }

theorem report_passed (request : TestRequest) (initial : Int) :
    report request initial (room request initial) (request.concurrency - room request initial)
      (some (initial - room request initial * request.quantity))
      (some (initial - room request initial * request.quantity)) = passed request initial := by
  simp [report, passed, summaryOf]

theorem run_of_testing {stock : Table} {request : TestRequest} {tested : List Call}
    {initial : Int} {before after : State} (quantity : 0 < request.quantity)
    (key : before.redis request.item = some initial) (settled : Settled stock after)
    (testing : Testing request before.calls initial after tested)
    (started : after.calls.length = before.calls.length + request.concurrency)
    (joined : ∀ call ∈ after.calls, isReturned call.point = true) :
    run request before after = some (passed request initial) := by
  have calls := testing.calls
  have all : tested.length = request.concurrency := by
    rw [calls, List.length_append] at started
    omega
  have ended : ∀ call ∈ tested, isReturned call.point = true := by
    intro call member
    apply joined
    rw [calls]
    exact List.mem_append_right _ member
  have taken := taken_at_end quantity testing all ended
  obtain ⟨success, both⟩ :=
    counts_at_end (fun call member => (testing.mine call member).2.2) ended
  have fail : tested.countP refusedCall = request.concurrency - room request initial := by
    omega
  have left := testing.counted.redis
  rw [taken, Int.mul_comm] at left
  have same := stocks_at_end settled testing ended
  have threads : after.calls.drop before.calls.length = tested := by
    rw [calls, List.drop_left]
  simp only [run, initialStock, key, Option.some_or, Option.map_some, threads, success, taken, fail,
    same, left, report_passed]

def threeThreads : TestRequest where
  item := 1
  quantity := 4
  concurrency := 3

def threeThreadsRun : List Action :=
  [.request 1 4, .request 1 4] ++ scripted 1 ++ [.request 1 4] ++ scripted 2 ++ scripted 0 ++
    deduction 2 ++ deduction 1

theorem agree_with_itself (stock : Table) : Agree stock stock :=
  fun _ _ there => there

end BackendComponents.Inventory.StressTest
