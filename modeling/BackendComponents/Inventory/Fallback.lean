import BackendComponents.Inventory.Calls
import BackendComponents.Inventory.Transactions

/-!
# The fast path and the fallback path

One call of `deduct` with nobody beside it and no store that fails. The script reports a
stock that is too small under a code of its own; `fallback_to_mysql` puts every error of
`deduct_stock` under `kMySQLUpdateFailed`, that one as well.
-/

namespace BackendComponents.Inventory.Fallback

open BackendComponents.Lib.Paths
open BackendComponents.Lib.Threads
open BackendComponents.Inventory.Database
open BackendComponents.Inventory.Repository
open BackendComponents.Inventory.Sessions
open BackendComponents.Inventory.Transactions (inTransaction put_writes)
open BackendComponents.Inventory.Service
open BackendComponents.Inventory.Calls

set_option autoImplicit false

/-- What the environment answers at a program point when nothing fails; Redis may be out of
reach all along. -/
def calmReply (reachable : Bool) : CallPc → Answer
  | .validate | .returned _ => .go
  | .connect | .retry _ => if reachable then .connected else .unavailable
  | .script | .increment _ => .redis .returns
  | .repository _ (.connect _) => .repo .front
  | .repository _ (.release _ _) => .repo .go
  | .repository _ (.done _) => .go
  | .repository _ _ => .repo (.driver .returns)

/-- A call alone, until it returns. -/
def alone (retryTimes : Int) (reachable : Bool) : Nat → State → Call → Option (State × Outcome)
  | 0, _, _ => none
  | fuel + 1, state, call =>
      match call.point with
      | .returned outcome => some (state, outcome)
      | point => (callStep retryTimes state call (calmReply reachable point)).bind fun moved =>
          alone retryTimes reachable fuel moved.1 { call with point := moved.2 }

/-- What the caller and the administrator of MySQL see of `deduct`. No way through it has
more than eleven steps. -/
def observed (retryTimes : Int) (reachable : Bool) (state : State) (item : Item) (quantity : Int) :
    Option (Outcome × Table) :=
  (alone retryTimes reachable 12 state
    { item := item, quantity := quantity, point := .validate }).map
      fun last => (last.2, last.1.store.committed)

def responseCode : Outcome → Option Int
  | .success _ => some 0
  | .error .stockInsufficient => some (-1)
  | .error _ => some (-500)
  | .threw => none

/-- Nobody is at work in MySQL, and there is a connection for the call. -/
structure Ready (store : Store) (front : Nat) (rest : List Nat) : Prop where
  queue : store.idle = front :: rest
  clean : store.conns[front]? = some freshConnection
  unlocked : ∀ item, store.rowLock item = none

/-! ## A call alone is a run of the system -/

theorem call_step_calls (retryTimes : Int) (state : State) (calls : List Call) (call : Call)
    (answer : Answer) :
    callStep retryTimes { state with calls := calls } call answer =
      (callStep retryTimes state call answer).map fun moved =>
        ({ moved.1 with calls := calls }, moved.2) := by
  unfold callStep
  split
  · split <;> rfl
  · rfl
  · rfl
  · rfl
  · rw [Option.map_map]
    rfl
  · rw [Option.map_map]
    rfl
  · split <;> rfl
  · split <;> rfl
  · split <;> rfl
  · rfl
  · rfl

theorem alone_reachable (retryTimes : Int) (reachable : Bool) (calls : List Call) {fuel : Nat}
    {state after : State} {call : Call} {outcome : Outcome}
    (ran : alone retryTimes reachable fuel state call = some (after, outcome)) :
    Reachable (step retryTimes) { state with calls := calls ++ [call] }
      { after with calls := calls ++ [{ call with point := .returned outcome }] } := by
  induction fuel generalizing state call with
  | zero => cases ran
  | succ fuel ih =>
      unfold alone at ran
      split at ran
      · next result at_point =>
          obtain ⟨rfl, rfl⟩ := Prod.mk.inj (Option.some.inj ran)
          have same : { call with point := .returned result } = call := by
            rw [← at_point]
          rw [same]
          exact reachable_start _ _
      · obtain ⟨moved, taken, rest⟩ := Option.bind_eq_some_iff.mp ran
        have stepped : step retryTimes { state with calls := calls ++ [call] }
            (.call calls.length (calmReply reachable call.point)) =
            some { moved.1 with calls := calls ++ [{ call with point := moved.2 }] } := by
          unfold step
          dsimp only
          rw [List.getElem?_concat_length, Option.bind_some, call_step_calls, taken,
            Option.map_some, Option.map_some, List.set_append_right _ _ (Nat.le_refl _),
            Nat.sub_self]
          rfl
        exact reachable_trans (reachable_next (reachable_start _ _) stepped) (ih rest)

/-! ## The operation on the repository -/

/-- The session of the call has its connection in some mode; only it has locked rows. -/
structure Stage (front : Nat) (table : Table) (conn : Connection) (store : Store) : Prop where
  committed : store.committed = table
  session : store.conns[front]? = some conn
  locks : ∀ item, store.rowLock item = none ∨ store.rowLock item = some front

section Stages

variable {front : Nat} {table : Table} {conn : Connection} {store : Store}

theorem stage_set (stage : Stage front table conn store) (next : Connection) :
    Stage front table next (setConn store front next) :=
  ⟨stage.committed, lookup_move_self stage.session, stage.locks⟩

theorem stage_transaction (stage : Stage front table conn store) (flag : Bool) :
    Stage front table { conn with transaction := flag } (setTransaction store front flag) := by
  unfold setTransaction
  rw [stage.session]
  exact stage_set stage _

theorem stage_end (stage : Stage front table conn store) (keep : Bool) :
    Stage front (if keep then fun item => (conn.pending item).or (table item) else table)
      { conn with active := false, pending := noWrites } (endTransaction keep store front conn) := by
  refine ⟨?_, lookup_move_self stage.session, ?_⟩
  · rw [← stage.committed]
    rfl
  · intro item
    change unlockAll store.rowLock front item = none ∨ unlockAll store.rowLock front item = some front
    unfold unlockAll
    split
    · exact Or.inl rfl
    · exact stage.locks item

theorem stage_may_lock (stage : Stage front table conn store) (item : Item) :
    mayLock store front item = true :=
  decide_eq_true (stage.locks item)

theorem stage_lock (stage : Stage front table conn store) (item : Item) :
    Stage front table conn { store with rowLock := lockRow store.rowLock front item } := by
  refine ⟨stage.committed, stage.session, ?_⟩
  intro other
  dsimp only [lockRow]
  split
  · exact Or.inr rfl
  · exact stage.locks other

theorem drive_stage {answer : DriverAnswer} {pc : RepoPc} (stage : Stage front table conn store)
    (held : connOf pc = some front) :
    repoStep store pc (.driver answer) = connStep store conn answer pc := by
  cases pc <;> cases held <;>
    · change (store.conns[front]?).bind _ = _
      rw [stage.session]
      rfl

theorem begins_alone (stage : Stage front table freshConnection store) (item : Item)
    (quantity : Int) :
    ∃ after, repoStep store (.begin front item quantity) (.driver .returns) =
      some (after, .select front item quantity) ∧
        Stage front table (inTransaction false noWrites) after := by
  rw [drive_stage stage rfl]
  refine ⟨_, rfl, ?_⟩
  exact stage_transaction (stage_set stage { freshConnection with autocommit := false }) true

theorem selects_alone {item : Item} {current : Int} (quantity : Int)
    (stage : Stage front table (inTransaction false noWrites) store)
    (there : table item = some current) :
    ∃ after, repoStep store (.select front item quantity) (.driver .returns) =
      some (after, if current < quantity then .rollback front .stockInsufficient
        else .update front item quantity (current - quantity)) ∧
          Stage front table (inTransaction true noWrites) after := by
  have seen : visible store (inTransaction false noWrites) item = some current := by
    unfold visible
    rw [stage.committed, there]
    rfl
  have touched : touchRow store front (inTransaction false noWrites) item =
      setConn { store with rowLock := lockRow store.rowLock front item } front
        (inTransaction true noWrites) := by
    unfold touchRow
    rw [seen]
    rfl
  have performed : perform store front (inTransaction false noWrites) (.selectForUpdate item) =
      some (touchRow store front (inTransaction false noWrites) item) := by
    unfold perform
    exact if_pos (stage_may_lock stage item)
  refine ⟨touchRow store front (inTransaction false noWrites) item, ?_, ?_⟩
  · rw [drive_stage stage rfl]
    unfold connStep drive afterSelect
    dsimp only
    rw [performed, seen]
    rfl
  · rw [touched]
    exact stage_set (stage_lock stage item) _

theorem updates_alone {item : Item} {current : Int} (quantity newStock : Int)
    (stage : Stage front table (inTransaction true noWrites) store)
    (there : table item = some current) :
    ∃ after, repoStep store (.update front item quantity newStock) (.driver .returns) =
      some (after, .commit front item quantity newStock) ∧
        Stage front table (inTransaction true (noWrites.put item newStock)) after := by
  have seen : visible store (inTransaction true noWrites) item = some current := by
    unfold visible
    rw [stage.committed, there]
    rfl
  have performed : perform store front (inTransaction true noWrites) (.update item newStock) =
      some (setConn { store with rowLock := lockRow store.rowLock front item } front
        (inTransaction true (noWrites.put item newStock))) := by
    unfold perform
    dsimp only
    rw [if_pos (stage_may_lock stage item), seen]
    rfl
  refine ⟨_, ?_, stage_set (stage_lock stage item) _⟩
  rw [drive_stage stage rfl]
  unfold connStep drive
  dsimp only
  rw [performed]
  rfl

theorem commits_alone {item : Item} (quantity newStock : Int)
    (stage : Stage front table (inTransaction true (noWrites.put item newStock)) store) :
    ∃ after, repoStep store (.commit front item quantity newStock) (.driver .returns) =
      some (after, .restore front item quantity newStock) ∧
        Stage front (table.put item newStock) (inTransaction false noWrites) after := by
  have ended := stage_end stage true
  refine ⟨record (endTransaction true store front
    (inTransaction true (noWrites.put item newStock))) (.deducted item quantity), ?_, ?_⟩
  · rw [drive_stage stage rfl]
    rfl
  · refine ⟨?_, ended.session, ended.locks⟩
    exact ended.committed.trans (put_writes table item newStock)

theorem restores_alone (stage : Stage front table (inTransaction false noWrites) store) :
    ∃ after, after.committed = table ∧
      (∀ item quantity newStock,
        repoStep store (.restore front item quantity newStock) (.driver .returns) =
          some (after, .release front (.stock newStock))) ∧
      ∀ code, repoStep store (.restoreError front code) (.driver .returns) =
        some (after, .release front (.error code)) := by
  have ended := stage_set (stage_end stage true)
    { inTransaction false noWrites with active := false, pending := noWrites, autocommit := true }
  refine ⟨_, (stage_transaction ended false).committed, ?_, ?_⟩
  · intro item quantity newStock
    rw [drive_stage stage rfl]
    rfl
  · intro code
    rw [drive_stage stage rfl]
    rfl

theorem rolls_back_alone (code : ErrorCode)
    (stage : Stage front table (inTransaction true noWrites) store) :
    ∃ after, repoStep store (.rollback front code) (.driver .returns) =
      some (after, .restoreError front code) ∧
        Stage front table (inTransaction false noWrites) after := by
  rw [drive_stage stage rfl]
  exact ⟨_, rfl, stage_end stage false⟩

end Stages

/-! ## A call from its first to its last step -/

section Alone

variable (retryTimes : Int) (reachable : Bool) {state : State} (call : Call)

theorem alone_step {after : State} {next : CallPc} (fuel : Nat)
    (running : ∀ outcome, call.point ≠ .returned outcome)
    (taken : callStep retryTimes state call (calmReply reachable call.point) = some (after, next)) :
    alone retryTimes reachable (fuel + 1) state call =
      alone retryTimes reachable fuel after { call with point := next } := by
  conv_lhs => unfold alone
  split
  · next outcome at_point => exact absurd at_point (running outcome)
  · rw [taken]
    rfl

theorem alone_repo {route : Route} {pc next : RepoPc} {answer : RepoAnswer} {store : Store}
    (fuel : Nat) (reply : calmReply reachable (.repository route pc) = .repo answer)
    (taken : repoStep state.store pc answer = some (store, next)) :
    alone retryTimes reachable (fuel + 1) state { call with point := .repository route pc } =
      alone retryTimes reachable fuel { state with store := store }
        { call with point := .repository route next } := by
  have moved : callStep retryTimes state { call with point := .repository route pc }
      (.repo answer) = (repoStep state.store pc answer).map fun moved =>
        ({ state with store := moved.1 }, .repository route moved.2) := by
    cases pc <;> rfl
  apply alone_step retryTimes reachable { call with point := .repository route pc } fuel
  · intro outcome impossible
    cases impossible
  · rw [reply, moved, taken]
    rfl

section Repository

variable {front : Nat} {rest : List Nat} {item : Item} {current : Int} (quantity : Int)
  (route : Route)

theorem reads_alone (ready : Ready state.store front rest)
    (there : state.store.committed item = some current) :
    ∃ after, (∀ fuel, alone retryTimes reachable (fuel + 3) state
        { call with point := .repository route (.connect (.deductStock item quantity)) } =
      alone retryTimes reachable fuel { state with store := after } { call with
        point := .repository route (if current < quantity then .rollback front .stockInsufficient
          else .update front item quantity (current - quantity)) }) ∧
      Stage front state.store.committed (inTransaction true noWrites) after := by
  have taken : repoStep state.store (.connect (.deductStock item quantity)) .front =
      some ({ state.store with idle := rest }, .begin front item quantity) := by
    unfold repoStep
    rw [ready.queue]
    rfl
  have lent : Stage front state.store.committed freshConnection
      { state.store with idle := rest } :=
    ⟨rfl, ready.clean, fun row => Or.inl (ready.unlocked row)⟩
  rcases begins_alone lent item quantity with ⟨begun, first, stage⟩
  rcases selects_alone quantity stage there with ⟨after, second, stage⟩
  use after
  constructor
  · intro fuel
    rw [alone_repo retryTimes reachable call (fuel + 2) rfl taken]
    rw [alone_repo retryTimes reachable call (fuel + 1) rfl first]
    rw [alone_repo retryTimes reachable call fuel rfl second]
  · exact stage

theorem deducts_alone (ready : Ready state.store front rest)
    (there : state.store.committed item = some current) (enough : quantity ≤ current) :
    ∃ after, (∀ fuel, alone retryTimes reachable (fuel + 7) state
        { call with point := .repository route (.connect (.deductStock item quantity)) } =
      alone retryTimes reachable fuel { state with store := after }
        { call with point := .repository route (.done (.stock (current - quantity))) }) ∧
      after.committed = state.store.committed.put item (current - quantity) := by
  rcases reads_alone retryTimes reachable call quantity route ready there
    with ⟨selected, begins, stage⟩
  rw [if_neg (Int.not_lt.mpr enough)] at begins
  rcases updates_alone quantity (current - quantity) stage there with ⟨updated, first, stage⟩
  rcases commits_alone quantity (current - quantity) stage with ⟨committed, second, stage⟩
  rcases restores_alone stage with ⟨restored, table, third, _⟩
  use { restored with idle := restored.idle ++ [front] }
  constructor
  · intro fuel
    rw [begins (fuel + 4)]
    rw [alone_repo retryTimes reachable call (fuel + 3) rfl first]
    rw [alone_repo retryTimes reachable call (fuel + 2) rfl second]
    rw [alone_repo retryTimes reachable call (fuel + 1) rfl (third item quantity _)]
    rw [alone_repo retryTimes reachable call fuel rfl rfl]
  · exact table

theorem refuses_alone (ready : Ready state.store front rest)
    (there : state.store.committed item = some current) (less : current < quantity) :
    ∃ after, (∀ fuel, alone retryTimes reachable (fuel + 6) state
        { call with point := .repository route (.connect (.deductStock item quantity)) } =
      alone retryTimes reachable fuel { state with store := after }
        { call with point := .repository route (.done (.error .stockInsufficient)) }) ∧
      after.committed = state.store.committed := by
  rcases reads_alone retryTimes reachable call quantity route ready there
    with ⟨selected, begins, stage⟩
  rw [if_pos less] at begins
  rcases rolls_back_alone .stockInsufficient stage with ⟨undone, first, stage⟩
  rcases restores_alone stage with ⟨restored, table, _, second⟩
  use { restored with idle := restored.idle ++ [front] }
  constructor
  · intro fuel
    rw [begins (fuel + 3)]
    rw [alone_repo retryTimes reachable call (fuel + 2) rfl first]
    rw [alone_repo retryTimes reachable call (fuel + 1) rfl (second _)]
    rw [alone_repo retryTimes reachable call fuel rfl rfl]
  · exact table

end Repository

/-! ### The ways into the repository -/

theorem enters_alone {item : Item} {quantity : Int} (valid : 0 < item ∧ 0 < quantity) (fuel : Nat) :
    alone retryTimes reachable (fuel + 1) state
        { item := item, quantity := quantity, point := .validate } =
      alone retryTimes reachable fuel state
        { item := item, quantity := quantity, point := .connect } := by
  apply alone_step retryTimes reachable ⟨item, quantity, .validate⟩ fuel
  · intro outcome impossible
    cases impossible
  · have admitted : ¬(item ≤ 0 ∨ quantity ≤ 0) :=
      not_or.mpr ⟨Int.not_le.mpr valid.1, Int.not_le.mpr valid.2⟩
    exact if_neg admitted

theorem degrades_alone (fuel : Nat) :
    alone retryTimes false (fuel + 1) state { call with point := .connect } =
      alone retryTimes false fuel state { call with point := enterRepository call .fallback } := by
  apply alone_step retryTimes false { call with point := .connect } fuel
  · intro outcome impossible
    cases impossible
  · rfl

def afterKey (call : Call) : Option Int → CallPc
  | none => enterRepository call .fallback
  | some current =>
      if current < call.quantity then .returned (.error .stockInsufficient)
      else enterRepository call (.fast (toInt (current - call.quantity)))

theorem scripts_alone {value : Option Int} (key : state.redis call.item = value) :
    ∃ redis, ∀ fuel, alone retryTimes true (fuel + 2) state { call with point := .connect } =
      alone retryTimes true fuel { state with redis := redis } { call with
        point := afterKey call value } := by
  use setKey state.redis call.item (deductScript (state.redis call.item) call.quantity).1
  intro fuel
  have connected : alone retryTimes true (fuel + 2) state { call with point := .connect } =
      alone retryTimes true (fuel + 1) state { call with point := .script } := by
    apply alone_step retryTimes true { call with point := .connect } (fuel + 1)
    · intro outcome impossible
      cases impossible
    · rfl
  rw [connected]
  have scripted : callStep retryTimes state { call with point := .script } (.redis .returns) =
      some ({ state with
          redis := setKey state.redis call.item
            (deductScript (state.redis call.item) call.quantity).1 },
        afterScript call (parseResult (deductScript (state.redis call.item) call.quantity).2)) :=
    rfl
  rw [after_script, key] at scripted
  rw [key]
  apply alone_step retryTimes true { call with point := .script } fuel
  · intro outcome impossible
    cases impossible
  · exact scripted

theorem returns_alone {outcome : Outcome} (fuel : Nat) :
    alone retryTimes reachable (fuel + 1) state { call with point := .returned outcome } =
      some (state, outcome) := rfl

theorem leaves_alone {after : State} {route : Route} {result : RepoResult} {outcome : Outcome}
    (fuel : Nat)
    (left : callStep retryTimes state { call with point := .repository route (.done result) }
      (calmReply reachable (.repository route (.done result))) =
        some (after, .returned outcome)) :
    alone retryTimes reachable (fuel + 2) state
        { call with point := .repository route (.done result) } = some (after, outcome) := by
  apply (alone_step retryTimes reachable _ (fuel + 1) _ left).trans
  · exact returns_alone retryTimes reachable call fuel
  · intro outcome impossible
    cases impossible

variable (state)

theorem fallback_alone {front : Nat} {rest : List Nat} {current : Int}
    (ready : Ready state.store front rest) (there : state.store.committed call.item = some current) :
    ∃ after, (∀ fuel, alone retryTimes reachable (fuel + 9) state
        { call with point := enterRepository call .fallback } =
      some (after, if call.quantity ≤ current then .success (current - call.quantity)
        else .error .mysqlUpdateFailed)) ∧
      after.store.committed = if call.quantity ≤ current then
        state.store.committed.put call.item (current - call.quantity) else state.store.committed := by
  by_cases enough : call.quantity ≤ current
  · rcases deducts_alone retryTimes reachable call call.quantity .fallback ready there enough
      with ⟨store, runs, table⟩
    use { state with
      store := store
      rebuilds := state.rebuilds ++
        detached call.item .fallback (.stock (current - call.quantity)) }
    rw [if_pos enough, if_pos enough]
    constructor
    · intro fuel
      unfold enterRepository
      rw [runs (fuel + 2)]
      exact leaves_alone retryTimes reachable call fuel rfl
    · exact table
  · rcases refuses_alone retryTimes reachable call call.quantity .fallback ready there
      (Int.not_le.mp enough) with ⟨store, runs, table⟩
    use { state with store := store, rebuilds := state.rebuilds ++ [] }
    rw [if_neg enough, if_neg enough]
    constructor
    · intro fuel
      unfold enterRepository
      rw [runs (fuel + 3)]
      exact leaves_alone retryTimes reachable call (fuel + 1) rfl
    · exact table

theorem fast_alone {front : Nat} {rest : List Nat} {current : Int} (remaining : Int)
    (ready : Ready state.store front rest) (there : state.store.committed call.item = some current)
    (enough : call.quantity ≤ current) :
    ∃ after, (∀ fuel, alone retryTimes reachable (fuel + 9) state
        { call with point := enterRepository call (.fast remaining) } =
      some (after, .success remaining)) ∧
      after.store.committed = state.store.committed.put call.item (current - call.quantity) := by
  rcases deducts_alone retryTimes reachable call call.quantity (.fast remaining) ready there enough
    with ⟨store, runs, table⟩
  use { state with store := store, rebuilds := state.rebuilds ++ [] }
  constructor
  · intro fuel
    unfold enterRepository
    rw [runs (fuel + 2)]
    exact leaves_alone retryTimes reachable call fuel rfl
  · exact table

end Alone

/-! ## The three situations -/

inductive Situation
  | present
  | missing
  | unreachable
  deriving DecidableEq, Repr

namespace Situation

def reachable : Situation → Bool
  | present | missing => true
  | unreachable => false

/-- Redis holds the stock of MySQL under the key, or no key, or anything at all. -/
def cache (situation : Situation) (state : State) (item : Item) : Table :=
  match situation with
  | present => setKey state.redis item (state.store.committed item)
  | missing => setKey state.redis item none
  | unreachable => state.redis

end Situation

def observedIn (retryTimes : Int) (state : State) (item : Item) (quantity : Int)
    (situation : Situation) : Option (Outcome × Table) :=
  observed retryTimes situation.reachable { state with redis := situation.cache state item } item
    quantity

/-- The caller cannot tell the situations apart: it succeeds with the same remaining stock
and the same table, or fails with the same code and leaves the table alone. -/
def PathsAgree (retryTimes : Int) (state : State) (item : Item) (quantity stock : Int) : Prop :=
  ∃ outcome table, (∀ situation,
      observedIn retryTimes state item quantity situation = some (outcome, table)) ∧
    ((∃ remaining, outcome = .success remaining) ∨
      ∃ code, outcome = .error code ∧ table = state.store.committed ∧
        (stock < quantity → code = .stockInsufficient))

section Situations

variable {retryTimes : Int} {state : State} {front : Nat} {rest : List Nat} {item : Item}
  {stock quantity : Int}

theorem set_key_self (redis : Table) (item : Item) (value : Option Int) :
    setKey redis item value item = value :=
  if_pos rfl

theorem observed_unreachable (ready : Ready state.store front rest)
    (held : state.store.committed item = some stock) (valid : 0 < item ∧ 0 < quantity) :
    observedIn retryTimes state item quantity .unreachable =
      some (if quantity ≤ stock then .success (stock - quantity) else .error .mysqlUpdateFailed,
        if quantity ≤ stock then state.store.committed.put item (stock - quantity)
        else state.store.committed) := by
  rcases fallback_alone retryTimes false
    { state with redis := Situation.unreachable.cache state item } ⟨item, quantity, .connect⟩
    ready held with ⟨after, runs, table⟩
  unfold observedIn observed
  rw [Situation.reachable, enters_alone retryTimes false valid 11,
    degrades_alone retryTimes ⟨item, quantity, .connect⟩ 10]
  apply (congrArg (Option.map _) (runs 1)).trans
  rw [Option.map_some, table]

theorem observed_missing (ready : Ready state.store front rest)
    (held : state.store.committed item = some stock) (valid : 0 < item ∧ 0 < quantity) :
    observedIn retryTimes state item quantity .missing =
      some (if quantity ≤ stock then .success (stock - quantity) else .error .mysqlUpdateFailed,
        if quantity ≤ stock then state.store.committed.put item (stock - quantity)
        else state.store.committed) := by
  have key : { state with redis := Situation.missing.cache state item }.redis item = none :=
    set_key_self state.redis item none
  rcases scripts_alone retryTimes ⟨item, quantity, .connect⟩ key with ⟨redis, scripts⟩
  rcases fallback_alone retryTimes true { state with redis := redis } ⟨item, quantity, .connect⟩
    ready held with ⟨after, runs, table⟩
  unfold observedIn observed
  rw [Situation.reachable, enters_alone retryTimes true valid 11, scripts 9]
  apply (congrArg (Option.map _) (runs 0)).trans
  rw [Option.map_some, table]

theorem observed_present (ready : Ready state.store front rest)
    (held : state.store.committed item = some stock) (valid : 0 < item ∧ 0 < quantity) :
    observedIn retryTimes state item quantity .present =
      some (if quantity ≤ stock then .success (toInt (stock - quantity))
          else .error .stockInsufficient,
        if quantity ≤ stock then state.store.committed.put item (stock - quantity)
        else state.store.committed) := by
  have key : { state with redis := Situation.present.cache state item }.redis item = some stock :=
    (set_key_self state.redis item _).trans held
  rcases scripts_alone retryTimes ⟨item, quantity, .connect⟩ key with ⟨redis, scripts⟩
  unfold observedIn observed
  rw [Situation.reachable, enters_alone retryTimes true valid 11, scripts 9]
  dsimp only [afterKey]
  by_cases enough : quantity ≤ stock
  · rw [if_neg (Int.not_lt.mpr enough), if_pos enough, if_pos enough]
    rcases fast_alone retryTimes true { state with redis := redis } ⟨item, quantity, .connect⟩
      (toInt (stock - quantity)) ready held enough with ⟨after, runs, table⟩
    apply (congrArg (Option.map _) (runs 0)).trans
    rw [Option.map_some, table]
  · rw [if_pos (Int.not_le.mp enough), if_neg enough, if_neg enough]
    rfl

end Situations

/-- A stock that fits into an `int` comes back from the script as it is. -/
theorem to_int_of_bounds {value : Int} (nonneg : 0 ≤ value) (fits : value < 0x80000000) :
    toInt value = value := by
  apply Int.bmod_eq_of_le
  · omega
  · omega

/-- The three situations look the same to the caller exactly when the stock is enough. -/
theorem paths_agree_iff_enough (retryTimes : Int) (state : State) {front : Nat} {rest : List Nat}
    (ready : Ready state.store front rest) (item : Item) (stock quantity : Int32)
    (held : state.store.committed item = some stock.toInt)
    (valid : 0 < item ∧ 0 < quantity.toInt) :
    PathsAgree retryTimes state item quantity.toInt stock.toInt ↔
      quantity.toInt ≤ stock.toInt := by
  constructor
  · rintro ⟨outcome, table, same, _⟩
    by_contra short
    have fast := same .present
    have slow := same .missing
    rw [observed_present ready held valid, if_neg short] at fast
    rw [observed_missing ready held valid, if_neg short] at slow
    have equal := fast.trans slow.symm
    cases equal
  · intro enough
    have upper := stock.toInt_lt
    have exact_stock : toInt (stock.toInt - quantity.toInt) = stock.toInt - quantity.toInt := by
      apply to_int_of_bounds
      · omega
      · omega
    use .success (stock.toInt - quantity.toInt)
    use state.store.committed.put item (stock.toInt - quantity.toInt)
    constructor
    · intro situation
      cases situation with
      | present =>
          rw [observed_present ready held valid, if_pos enough, if_pos enough, exact_stock]
      | missing => rw [observed_missing ready held valid, if_pos enough, if_pos enough]
      | unreachable => rw [observed_unreachable ready held valid, if_pos enough, if_pos enough]
    · exact Or.inl ⟨_, rfl⟩

def tenEverywhere : State := start (fun _ => some 10) (fun _ => some 10) 1

theorem ready_start (stock redis : Table) (connections : Nat) :
    Ready (start stock redis (connections + 1)).store 0 ((List.range connections).map Nat.succ) :=
  ⟨List.range_succ_eq_map, rfl, fun _ => rfl⟩

theorem paths_agree_three :
    PathsAgree 3 tenEverywhere 1 (3 : Int32).toInt (10 : Int32).toInt := by
  apply (paths_agree_iff_enough 3 tenEverywhere (ready_start _ _ 0) 1 10 3 rfl (by decide)).mpr
  decide

/-- Eleven of ten pieces: an insufficient stock (code -1 for the client) turns into a failed
update (code -500) as soon as the key is missing or Redis is out of reach. -/
theorem insufficient_code_differs :
    (observedIn 3 tenEverywhere 1 11 .present).map (fun seen => responseCode seen.1) =
        some (some (-1)) ∧
      (observedIn 3 tenEverywhere 1 11 .missing).map (fun seen => responseCode seen.1) =
        some (some (-500)) ∧
      ¬PathsAgree 3 tenEverywhere 1 11 10 := by
  refine ⟨rfl, rfl, ?_⟩
  rintro ⟨outcome, table, same, _⟩
  have fast : (observedIn 3 tenEverywhere 1 11 .present).map Prod.fst =
      some (.error .stockInsufficient) := rfl
  have slow : (observedIn 3 tenEverywhere 1 11 .missing).map Prod.fst =
      some (.error .mysqlUpdateFailed) := rfl
  rw [same] at fast slow
  cases fast.symm.trans slow

end BackendComponents.Inventory.Fallback
