import BackendComponents.Inventory.Transactions
import BackendComponents.Lib.Progress

/-!
# Row locks and pooled connections do not block each other for good

An operation waits for a connection while it has none, and for the lock of one row while
it has one. A row is locked only by an operation that waits for nothing until it has ended
its transaction, so as long as the pool has a connection somebody can go on.
-/

namespace BackendComponents.Inventory.Progress

open BackendComponents.Lib.Paths
open BackendComponents.Lib.Threads
open BackendComponents.Lib.Progress
open BackendComponents.Inventory.Database
open BackendComponents.Inventory.Repository
open BackendComponents.Inventory.Sessions
open BackendComponents.Inventory.Transactions

set_option autoImplicit false

/-- Between the locking read and the end of the transaction. -/
def locking : RepoPc → Bool
  | .update _ _ _ _ | .commit _ _ _ _ | .rollback _ _ => true
  | _ => false

def Locked (store : Store) (ops : List RepoPc) : Prop :=
  ∀ item id, store.rowLock item = some id →
    ∃ (place : Nat) (pc : RepoPc), ops[place]? = some pc ∧ connOf pc = some id ∧ locking pc = true

/-- A step without an exception, a timeout or a change of the pool. -/
def calm : Action → Prop
  | .advance _ .front | .advance _ (.driver .returns) | .advance _ .go => True
  | _ => False

def finished (state : State) : Prop :=
  ∀ pc ∈ state.ops, ∃ result, pc = .done result

/-- How many steps an operation still has to make at most. -/
def left : RepoPc → Nat
  | .connect _ => 7
  | .begin _ _ _ => 6
  | .select _ _ _ => 5
  | .update _ _ _ _ => 4
  | .commit _ _ _ _ | .rollback _ _ => 3
  | .restore _ _ _ _ | .restoreError _ _ | .statement _ _ => 2
  | .release _ _ => 1
  | .idle | .done _ => 0

def distance (state : State) : Nat := (state.ops.map left).sum

def holding (pc : RepoPc) : Bool := (connOf pc).isSome

def usable (state : State) : Nat := state.store.idle.length + state.ops.countP holding

/-! ## Who has locked a row -/

theorem lock_row_other {rowLock : Item → Option Nat} {id owner : Nat} {row item : Item}
    (locked : lockRow rowLock id row item = some owner) (different : owner ≠ id) :
    rowLock item = some owner := by
  unfold lockRow at locked
  split at locked
  · exact absurd (Option.some.inj locked).symm different
  · exact locked

theorem unlock_all_locked {rowLock : Item → Option Nat} {id owner : Nat} {item : Item}
    (locked : unlockAll rowLock id item = some owner) :
    rowLock item = some owner ∧ owner ≠ id := by
  unfold unlockAll at locked
  split at locked
  · cases locked
  · next foreign =>
      refine ⟨locked, ?_⟩
      rintro rfl
      exact foreign locked

theorem perform_locks {store after : Store} {id owner : Nat} {conn : Connection}
    {call : DriverCall} {item : Item} (performed : perform store id conn call = some after)
    (locked : after.rowLock item = some owner) (different : owner ≠ id) :
    store.rowLock item = some owner := by
  cases perform_cases performed with
  | stays _ | entersMode | reads _ => exact locked
  | leavesMode _ | commits | rollsBack => exact (unlock_all_locked locked).1
  | @touches _ row _ =>
      unfold touchRow at locked
      split at locked
      · exact locked
      · dsimp only [setConn] at locked
        split at locked
        · exact lock_row_other locked different
        · exact locked
  | @writes _ row _ _ _ =>
      unfold writeRow at locked
      split at locked
      · exact locked
      · exact lock_row_other locked different

/-- After a call of an operation a row is locked as before or, by an operation that is
about to end its transaction, for the operation. -/
def LocksFrom (store after : Store) (id : Nat) (next : RepoPc) : Prop :=
  ∀ item owner, after.rowLock item = some owner →
    (owner ≠ id ∧ store.rowLock item = some owner) ∨ (owner = id ∧ locking next = true)

theorem locks_from_locking {store after : Store} {id : Nat} {conn : Connection}
    {call : DriverCall} {next : RepoPc} (performed : perform store id conn call = some after)
    (about : locking next = true) : LocksFrom store after id next := by
  intro item owner locked
  by_cases mine : owner = id
  · exact .inr ⟨mine, about⟩
  · exact .inl ⟨mine, perform_locks performed locked mine⟩

theorem locks_from_same {store after : Store} {id : Nat} (next : RepoPc)
    (own : ∀ item, store.rowLock item ≠ some id) (same : after.rowLock = store.rowLock) :
    LocksFrom store after id next := by
  intro item owner locked
  rw [same] at locked
  refine .inl ⟨?_, locked⟩
  rintro rfl
  exact own item locked

theorem locks_from_end {store after : Store} {id : Nat} (next : RepoPc)
    (ended : after.rowLock = unlockAll store.rowLock id) : LocksFrom store after id next := by
  intro item owner locked
  rw [ended] at locked
  obtain ⟨before, different⟩ := unlock_all_locked locked
  exact .inl ⟨different, before⟩

@[simp] theorem set_transaction_locks (store : Store) (id : Nat) (flag : Bool) :
    (setTransaction store id flag).rowLock = store.rowLock := by
  unfold setTransaction
  split <;> rfl

theorem record_if_locks (answer : DriverAnswer) (entry : Option LedgerEntry) (store : Store) :
    (recordIf answer entry store).rowLock = store.rowLock := by
  rcases record_if_cases answer entry store with same | ⟨made, _, _, recorded⟩
  · rw [same]
  · rw [recorded]
    rfl

theorem statement_locks {store after : Store} {id : Nat} {op : PlainOp}
    (performed : perform store id freshConnection (statementOf op) = some after) :
    after.rowLock = store.rowLock := by
  cases op with
  | getStock item =>
      obtain rfl := Option.some.inj performed
      rfl
  | initStock item stock | updateStock item stock =>
      dsimp only [statementOf, perform] at performed
      split at performed
      · split at performed <;>
          · obtain rfl := Option.some.inj performed
            rfl
      · cases performed

theorem fails_locks {store driven : Store} {pc : RepoPc} {id : Nat} {call : DriverCall}
    {answer : DriverAnswer} (held : connOf pc = some id) (made : callOf pc = some call)
    (good : careful pc (.driver answer) = true)
    (own : locking pc = false → ∀ item, store.rowLock item ≠ some id)
    (driveCall : drive store id (session pc) call answer = some (driven, false)) :
    LocksFrom store driven id (failed id) := by
  cases pc with
  | begin conn item quantity =>
      cases drive_outcome driveCall with
      | lost thrown _ =>
          rw [thrown] at good
          cases good
      | refused _ | unprepared _ _ => exact locks_from_same _ (own rfl) rfl
      | undone _ => exact locks_from_end _ rfl
  | statement conn op =>
      obtain rfl := Option.some.inj made
      cases drive_outcome driveCall with
      | lost _ performed => exact locks_from_same _ (own rfl) (statement_locks performed)
      | refused _ | unprepared _ _ => exact locks_from_same _ (own rfl) rfl
      | undone _ => exact locks_from_end _ rfl
  | select _ _ _ | update _ _ _ _ | commit _ _ _ _ | restore _ _ _ _ | rollback _ _
  | restoreError _ _ =>
      cases drive_outcome driveCall with
      | lost thrown _ | refused thrown | undone thrown | unprepared thrown _ =>
          rw [thrown] at good
          cases good
  | idle | connect _ | release _ _ | done _ => cases made

theorem call_locks {store after : Store} {pc next : RepoPc} {id : Nat} {answer : DriverAnswer}
    (held : connOf pc = some id) (good : careful pc (.driver answer) = true)
    (own : locking pc = false → ∀ item, store.rowLock item ≠ some id)
    (move : ConnMove store (session pc) answer pc after next) :
    LocksFrom store after id next := by
  cases move with
  | fails same made driveCall =>
      obtain rfl := Option.some.inj (held.symm.trans same)
      have locks := fails_locks held made good own driveCall
      unfold LocksFrom at locks ⊢
      rw [record_if_locks]
      exact locks
  | skipsBegin flag _ | skipsCommit flag _ | skipsRollback flag _ => cases flag
  | begins _ driveCall =>
      obtain rfl := Option.some.inj held
      cases drive_outcome driveCall with
      | returned _ performed =>
          apply locks_from_same _ (own rfl)
          obtain rfl := Option.some.inj performed
          exact set_transaction_locks _ _ _
  | @selects _ item quantity _ driveCall =>
      obtain rfl := Option.some.inj held
      cases drive_outcome driveCall with
      | returned _ performed =>
          apply locks_from_locking performed
          unfold afterSelect
          split
          · rfl
          · split <;> rfl
  | updates driveCall =>
      obtain rfl := Option.some.inj held
      cases drive_outcome driveCall with
      | returned _ performed => exact locks_from_locking performed rfl
  | commits _ driveCall =>
      obtain rfl := Option.some.inj held
      cases drive_outcome driveCall with
      | returned _ performed =>
          apply locks_from_end
          obtain rfl := Option.some.inj performed
          exact record_if_locks _ _ _
  | restores driveCall | restoresError driveCall =>
      obtain rfl := Option.some.inj held
      cases drive_outcome driveCall with
      | returned _ performed =>
          apply locks_from_end
          obtain rfl := Option.some.inj performed
          exact set_transaction_locks _ _ _
  | rollsBack _ driveCall =>
      obtain rfl := Option.some.inj held
      cases drive_outcome driveCall with
      | returned _ performed =>
          obtain rfl := Option.some.inj performed
          exact locks_from_end _ rfl
  | states driveCall =>
      obtain rfl := Option.some.inj held
      cases drive_outcome driveCall with
      | returned _ performed =>
          apply locks_from_same _ (own rfl)
          rw [record_if_locks]
          exact statement_locks performed

theorem unlocked_of_placed {store : Store} {ops : List RepoPc} {place id : Nat} {pc : RepoPc}
    (placed : Placed store ops) (locked : Locked store ops) (at_pc : ops[place]? = some pc)
    (held : connOf pc = some id) (without : locking pc = false) (item : Item) :
    store.rowLock item ≠ some id := by
  intro mine
  obtain ⟨other, seen, found, same, about⟩ := locked item id mine
  by_cases equal : other = place
  · subst equal
    obtain rfl := Option.some.inj (found.symm.trans at_pc)
    rw [without] at about
    cases about
  · exact placed_apart placed at_pc held found equal same

theorem locked_elsewhere {ops : List RepoPc} {place owner : Nat} {pc next : RepoPc}
    (at_pc : ops[place]? = some pc) (foreign : connOf pc ≠ some owner ∨ locking pc = false)
    (old : ∃ (other : Nat) (seen : RepoPc), ops[other]? = some seen ∧ connOf seen = some owner ∧
      locking seen = true) :
    ∃ (other : Nat) (seen : RepoPc), (ops.set place next)[other]? = some seen ∧
      connOf seen = some owner ∧ locking seen = true := by
  obtain ⟨other, seen, found, same, about⟩ := old
  refine ⟨other, seen, ?_, same, about⟩
  rw [lookup_move_other]
  · exact found
  · rintro rfl
    obtain rfl := Option.some.inj (found.symm.trans at_pc)
    rcases foreign with apart | without
    · exact apart same
    · rw [without] at about
      cases about

theorem locked_move {store after : Store} {ops : List RepoPc} {place : Nat} {pc next : RepoPc}
    {answer : RepoAnswer} (placed : Placed store ops) (locked : Locked store ops)
    (fits : Fits store pc) (at_pc : ops[place]? = some pc) (good : careful pc answer = true)
    (move : RepoMove store pc answer after next) : Locked after (ops.set place next) := by
  intro item owner mine
  cases move with
  | takes _ | timesOut | throws | returns =>
      exact locked_elsewhere at_pc (.inr rfl) (locked item owner mine)
  | @calls _ _ id conn _ _ held found step =>
      obtain rfl := Option.some.inj ((fits.session _ held).symm.trans found)
      have own := unlocked_of_placed placed locked at_pc held
      rcases call_locks held good own step item owner mine with ⟨different, old⟩ | ⟨rfl, about⟩
      · refine locked_elsewhere at_pc (.inl ?_) (locked item owner old)
        rw [held]
        exact fun same => different (Option.some.inj same).symm
      · exact ⟨place, next, lookup_move_self at_pc, conn_move_conn step held, about⟩

theorem locked_step {initial : Table} {state after : State} {action : Action}
    (clean : Clean initial state.store state.ops) (locked : Locked state.store state.ops)
    (good : carefulStep state action = true) (taken : step state action = some after) :
    Locked after.store after.ops := by
  cases action with
  | call op =>
      obtain rfl := Option.some.inj taken
      intro item owner mine
      obtain ⟨place, pc, found, rest⟩ := locked item owner mine
      exact ⟨place, pc, lookup_spawn_old _ found, rest⟩
  | advance place answer =>
      obtain ⟨pc, at_pc, rest⟩ := Option.bind_eq_some_iff.mp taken
      obtain ⟨moved, stepped, rfl⟩ := Option.map_eq_some_iff.mp rest
      exact locked_move clean.placed locked (clean.fits place pc at_pc) at_pc
        (careful_of_step good at_pc) (repo_step_cases stepped)
  | grow =>
      obtain rfl := Option.some.inj taken
      exact locked
  | recycle place =>
      obtain ⟨store, recycled, rfl⟩ := Option.map_eq_some_iff.mp taken
      obtain ⟨id, conn, _, _, rfl⟩ := recycle_cases recycled
      intro item owner mine
      exact locked item owner (unlock_all_locked mine).1

/-! ## Somebody can go on -/

theorem conn_step_returns {store after : Store} {pc : RepoPc} {id : Nat} {call : DriverCall}
    (held : connOf pc = some id) (made : callOf pc = some call)
    (performed : perform store id (session pc) call = some after) :
    ∃ moved, connStep store (session pc) .returns pc = some moved := by
  have driven : drive store id (session pc) call .returns = some (after, true) :=
    congrArg (Option.map fun after => (after, true)) performed
  cases pc with
  | idle | connect _ | release _ _ | done _ => cases made
  | _ =>
      obtain rfl := Option.some.inj held
      obtain rfl := Option.some.inj made
      apply Option.isSome_iff_exists.mp
      simp only [connStep, driven]
      rfl

theorem driver_enabled {state : State} {place id : Nat} {pc : RepoPc} {call : DriverCall}
    {after : Store} (at_pc : state.ops[place]? = some pc) (fits : Fits state.store pc)
    (held : connOf pc = some id) (made : callOf pc = some call)
    (performed : perform state.store id (session pc) call = some after) :
    Enabled step calm state := by
  obtain ⟨moved, stepped⟩ := conn_step_returns held made performed
  have taken : repoStep state.store pc (.driver .returns) = some moved := by
    cases pc with
    | idle | connect _ | release _ _ | done _ => cases made
    | _ => simp only [repoStep, held, Option.bind_some, fits.session id held, stepped]
  refine ⟨.advance place (.driver .returns), ⟨moved.1, state.ops.set place moved.2⟩,
    True.intro, ?_⟩
  simp only [step, at_pc, Option.bind_some, taken, Option.map_some]

theorem performs_or_waits (store : Store) (id : Nat) (conn : Connection) (call : DriverCall) :
    (∃ after, perform store id conn call = some after) ∨
      ∃ item owner, store.rowLock item = some owner := by
  have waits : ∀ item, ¬mayLock store id item = true → ∃ owner, store.rowLock item = some owner := by
    intro item refused
    rw [may_lock_iff, not_or] at refused
    exact Option.ne_none_iff_exists'.mp refused.1
  cases call with
  | setAutoCommit on => cases on <;> exact .inl ⟨_, rfl⟩
  | commit | rollback => exact .inl ⟨_, rfl⟩
  | select item =>
      left
      dsimp only [perform]
      split <;> exact ⟨_, rfl⟩
  | selectForUpdate item =>
      by_cases free : mayLock store id item = true
      · exact .inl ⟨_, if_pos free⟩
      · exact .inr ⟨item, waits item free⟩
  | update item stock | insertIgnore item stock =>
      by_cases free : mayLock store id item = true
      · left
        dsimp only [perform]
        rw [if_pos free]
        split <;> exact ⟨_, rfl⟩
      · exact .inr ⟨item, waits item free⟩

theorem locker_enabled {state : State} {place id : Nat} {pc : RepoPc}
    (at_pc : state.ops[place]? = some pc) (fits : Fits state.store pc)
    (held : connOf pc = some id) (about : locking pc = true) : Enabled step calm state := by
  cases pc with
  | update conn item quantity newStock =>
      have free : mayLock state.store conn item = true := may_lock_iff.mpr (.inr fits.rows.1)
      have present : (visible state.store (inTransaction true noWrites) item).isSome = true := by
        rw [visible_clean rfl item, fits.rows.2]
        rfl
      have performed : perform state.store conn (inTransaction true noWrites)
          (.update item newStock) =
            some (writeRow state.store conn (inTransaction true noWrites) item newStock) := by
        simp only [perform, if_pos free, if_pos present]
      exact driver_enabled at_pc fits rfl rfl performed
  | commit conn item quantity newStock => exact driver_enabled at_pc fits rfl rfl rfl
  | rollback conn code => exact driver_enabled at_pc fits rfl rfl rfl
  | _ => cases about

theorem holder_enabled {initial : Table} {state : State} {place id : Nat} {pc : RepoPc}
    (clean : Clean initial state.store state.ops) (locked : Locked state.store state.ops)
    (at_pc : state.ops[place]? = some pc) (held : connOf pc = some id) :
    Enabled step calm state := by
  have fits := clean.fits place pc at_pc
  cases made : callOf pc with
  | none =>
      cases pc with
      | release conn result =>
          refine ⟨.advance place .go, ⟨{ state.store with idle := state.store.idle ++ [conn] },
            state.ops.set place (.done result)⟩, True.intro, ?_⟩
          simp only [step, at_pc, Option.bind_some, repoStep, Option.map_some]
      | idle | connect _ | done _ => cases held
      | _ => cases made
  | some call =>
      rcases performs_or_waits state.store id (session pc) call with ⟨after, performed⟩ | waits
      · exact driver_enabled at_pc fits held made performed
      · obtain ⟨item, owner, lock⟩ := waits
        obtain ⟨other, seen, found, same, about⟩ := locked item owner lock
        exact locker_enabled found (clean.fits other seen found) same about

theorem connect_enabled {state : State} {place : Nat} {op : RepoOp}
    (at_pc : state.ops[place]? = some (.connect op)) (queued : 0 < state.store.idle.length) :
    Enabled step calm state := by
  obtain ⟨id, rest, queue⟩ := List.exists_cons_of_length_pos queued
  refine ⟨.advance place .front, ⟨{ state.store with idle := rest },
    state.ops.set place (started id op)⟩, True.intro, ?_⟩
  simp only [step, at_pc, Option.bind_some, repoStep, queue, Option.map_some]

/-- While an operation is under way and the pool has a connection, some operation, not
always the same one, can go on. -/
theorem somebody_moves {initial : Table} {state : State} {pc : RepoPc}
    (clean : Clean initial state.store state.ops) (locked : Locked state.store state.ops)
    (pool : 0 < usable state) (member : pc ∈ state.ops) (called : pc ≠ .idle)
    (unfinished : ∀ result, pc ≠ .done result) : Enabled step calm state := by
  by_cases busy : 0 < state.ops.countP holding
  · obtain ⟨place, seen, found, holds⟩ := exists_lookup_of_countP busy
    obtain ⟨id, held⟩ := Option.isSome_iff_exists.mp holds
    exact holder_enabled clean locked found held
  · have queued : 0 < state.store.idle.length := by
      unfold usable at pool
      omega
    obtain ⟨place, at_pc⟩ := List.mem_iff_getElem?.mp member
    have free : holding pc = false := by
      have nobody : state.ops.countP holding = 0 := by omega
      exact Bool.not_eq_true _ ▸ List.countP_eq_zero.mp nobody pc member
    cases pc with
    | connect op => exact connect_enabled at_pc queued
    | idle => exact absurd rfl called
    | done result => exact absurd rfl (unfinished result)
    | _ => cases free

/-! ## Every step without a fault is one step less -/

theorem calm_advance {action : Action} (ours : calm action) :
    ∃ place answer, action = .advance place answer ∧
      (answer = .front ∨ answer = .driver .returns ∨ answer = .go) := by
  unfold calm at ours
  split at ours
  · exact ⟨_, _, rfl, .inl rfl⟩
  · exact ⟨_, _, rfl, .inr (.inl rfl)⟩
  · exact ⟨_, _, rfl, .inr (.inr rfl)⟩
  · cases ours

theorem careful_of_calm {state : State} {action : Action} (ours : calm action) :
    carefulStep state action = true := by
  obtain ⟨place, answer, rfl, which⟩ := calm_advance ours
  cases found : state.ops[place]? with
  | none => rcases which with rfl | rfl | rfl <;> simp [carefulStep, unprepared, found]
  | some pc => rcases which with rfl | rfl | rfl <;> simp [carefulStep, unprepared, found, careful]

theorem call_left {store after : Store} {conn : Connection} {pc next : RepoPc}
    (move : ConnMove store conn .returns pc after next) : left next < left pc := by
  cases move with
  | fails _ made _ =>
      cases pc with
      | idle | connect _ | release _ _ | done _ => cases made
      | _ => simp [left, failed]
  | selects _ =>
      unfold afterSelect
      split
      · simp [left]
      · split <;> simp [left]
  | _ => simp [left]

theorem move_left {store after : Store} {pc next : RepoPc} {answer : RepoAnswer}
    (which : answer = .front ∨ answer = .driver .returns ∨ answer = .go)
    (move : RepoMove store pc answer after next) : left next < left pc := by
  cases move with
  | @takes op _ _ _ => cases op <;> simp [left, started]
  | timesOut | throws => simp at which
  | @calls _ _ _ _ answer _ held _ step =>
      obtain rfl : answer = .returns := by simpa using which
      exact call_left step
  | returns => simp [left]

theorem move_usable {store after : Store} {pc next : RepoPc} {answer : RepoAnswer}
    (owned : ∀ id conn, connOf pc = some id → store.conns[id]? = some conn → Owned id store conn)
    (move : RepoMove store pc answer after next) :
    after.idle.length + indicator (holding next) = store.idle.length + indicator (holding pc) := by
  cases move with
  | @takes op _ _ queue =>
      rw [queue, List.length_cons]
      cases op <;> rfl
  | timesOut | throws => rfl
  | calls held found step =>
      have framed := conn_move_framed step held (owned _ _ held found)
      rw [framed.idle]
      simp only [holding, conn_move_conn step held, held]
  | returns => simp only [List.length_append, List.length_singleton, holding, connOf]; rfl

theorem move_present {store after : Store} {pc next : RepoPc} {answer : RepoAnswer}
    (move : RepoMove store pc answer after next) : next ≠ .idle := by
  intro same
  cases move with
  | @takes op _ _ _ => cases op <;> cases same
  | calls held _ step =>
      have kept := conn_move_conn step held
      rw [same] at kept
      cases kept
  | _ => cases same

structure Live (initial : Table) (state : State) : Prop where
  clean : Clean initial state.store state.ops
  locked : Locked state.store state.ops
  present : ∀ pc ∈ state.ops, pc ≠ .idle

structure Running (initial : Table) (state : State) : Prop extends Live initial state where
  pool : 0 < usable state

theorem live_step {initial : Table} {state after : State} {action : Action}
    (live : Live initial state) (good : carefulStep state action = true)
    (taken : step state action = some after) : Live initial after := by
  refine ⟨clean_step live.clean good taken, locked_step live.clean live.locked good taken, ?_⟩
  cases action with
  | call op =>
      obtain rfl := Option.some.inj taken
      intro pc member
      rcases List.mem_append.mp member with old | new
      · exact live.present pc old
      · rw [List.mem_singleton.mp new]
        exact fun same => by cases same
  | advance place answer =>
      obtain ⟨pc, at_pc, rest⟩ := Option.bind_eq_some_iff.mp taken
      obtain ⟨⟨store, next⟩, stepped, rfl⟩ := Option.map_eq_some_iff.mp rest
      intro seen member
      rcases List.mem_or_eq_of_mem_set member with old | rfl
      · exact live.present seen old
      · exact move_present (repo_step_cases stepped)
  | grow =>
      obtain rfl := Option.some.inj taken
      exact live.present
  | recycle place =>
      obtain ⟨store, recycled, rfl⟩ := Option.map_eq_some_iff.mp taken
      exact live.present

theorem calm_step {state after : State} {action : Action} (ours : calm action)
    (taken : step state action = some after) :
    ∃ (place : Nat) (answer : RepoAnswer) (pc : RepoPc) (store : Store) (next : RepoPc),
      (answer = .front ∨ answer = .driver .returns ∨ answer = .go) ∧
        state.ops[place]? = some pc ∧ RepoMove state.store pc answer store next ∧
          after = ⟨store, state.ops.set place next⟩ := by
  obtain ⟨place, answer, rfl, which⟩ := calm_advance ours
  obtain ⟨pc, at_pc, rest⟩ := Option.bind_eq_some_iff.mp taken
  obtain ⟨⟨store, next⟩, stepped, rfl⟩ := Option.map_eq_some_iff.mp rest
  exact ⟨place, answer, pc, store, next, which, at_pc, repo_step_cases stepped, rfl⟩

theorem advances (initial : Table) :
    Advances step calm (Running initial) finished distance := by
  constructor
  · intro state action after running ours taken
    refine ⟨live_step running.toLive (careful_of_calm ours) taken, ?_⟩
    obtain ⟨place, answer, pc, store, next, _, at_pc, move, rfl⟩ := calm_step ours taken
    have owned : ∀ id conn, connOf pc = some id → state.store.conns[id]? = some conn →
        Owned id state.store conn := by
      intro id conn held found
      have fits := running.clean.fits place pc at_pc
      obtain rfl := Option.some.inj ((fits.session id held).symm.trans found)
      exact session_owned fits held
    have same := move_usable owned move
    have moved : (state.ops.set place next).countP holding + indicator (holding pc) =
        state.ops.countP holding + indicator (holding next) := countP_move holding at_pc
    have pool := running.pool
    unfold usable at pool ⊢
    dsimp only
    omega
  · intro state action after _ ours taken
    obtain ⟨place, answer, pc, store, next, which, at_pc, move, rfl⟩ := calm_step ours taken
    exact sum_set_lt left at_pc (move_left which move)
  · intro state running unfinished
    simp only [finished, not_forall, not_exists] at unfinished
    obtain ⟨pc, member, under⟩ := unfinished
    exact somebody_moves running.clean running.locked running.pool member
      (running.present pc member) under

theorem live_start (initial : Table) (connections : Nat) :
    Live initial (start initial connections) := by
  refine ⟨clean_opened initial connections, ?_, ?_⟩
  · intro item id locked
    cases locked
  · intro pc member
    cases member

theorem unlocked_of_finished {initial : Table} {state : State} (live : Live initial state)
    (done : finished state) (item : Item) : state.store.rowLock item = none := by
  by_contra locked
  obtain ⟨id, held⟩ := Option.ne_none_iff_exists'.mp locked
  obtain ⟨place, pc, found, _, about⟩ := live.locked item id held
  obtain ⟨result, rfl⟩ := done pc (List.mem_of_getElem? found)
  cases about

/-- Whatever has happened before, exceptions of `prepareStatement` and those of `deduct_stock`
after its `begin` excepted: if the pool still has a connection, and from now on nothing
throws, times out or changes the pool, then every schedule ends after at most seven steps
for each operation, it ends only when all operations have returned and no row is locked, and
there is such a schedule. -/
theorem no_deadlock (initial : Table) (connections : Nat) {trail : List (State × Action)}
    {state : State} (path : Path step (start initial connections) trail state)
    (good : ∀ taken ∈ trail, carefulStep taken.1 taken.2 = true) (pool : 0 < usable state) :
    (∀ later last, Path step state later last → (∀ taken ∈ later, calm taken.2) →
      later.length ≤ distance state ∧
        (¬Enabled step calm last → finished last ∧ ∀ item, last.store.rowLock item = none)) ∧
    ∃ later last, Path step state later last ∧ (∀ taken ∈ later, calm taken.2) ∧
      finished last ∧ ∀ item, last.store.rowLock item = none := by
  have live : Live initial state := by
    apply path_invariant_of_good (Live initial) (fun state action =>
      carefulStep state action = true) (live_start initial connections) _ path good
    · exact List.mem_append_right _ List.mem_cons_self
    · intro before action after inv careful taken
      exact live_step inv careful taken
  have running : Running initial state := ⟨live, pool⟩
  constructor
  · intro later last continued ours
    obtain ⟨still, short⟩ := own_path_keeps (advances initial) running continued ours
    refine ⟨by omega, ?_⟩
    intro stuck
    have done := stuck_finished (advances initial) running continued ours stuck
    exact ⟨done, unlocked_of_finished still.toLive done⟩
  · obtain ⟨later, last, continued, ours, done⟩ := finishes (advances initial) running
    have still := (own_path_keeps (advances initial) running continued ours).1
    exact ⟨later, last, continued, ours, done, unlocked_of_finished still.toLive done⟩

/-- Two deductions of one item on two connections, the second one waiting for the row, and
a third operation waiting for a connection. -/
def waitingRun : List Action :=
  [.call (.deductStock 1 3), .call (.deductStock 1 2), .call (.plain (.updateStock 1 9)),
    .advance 0 .front, .advance 1 .front, .advance 0 (.driver .returns),
    .advance 0 (.driver .returns), .advance 1 (.driver .returns)]

theorem waiting_run_finishes :
    ∃ state, exec step (start tenPieces 2) waitingRun = some state ∧
      step state (.advance 1 (.driver .returns)) = none ∧ step state (.advance 2 .front) = none ∧
        ∃ later last, Path step state later last ∧ (∀ taken ∈ later, calm taken.2) ∧
          finished last ∧ ∀ item, last.store.rowLock item = none := by
  obtain ⟨state, executed, checked⟩ := exec_checked step (start tenPieces 2) waitingRun
    (fun state => (step state (.advance 1 (.driver .returns))).isNone &&
      (step state (.advance 2 .front)).isNone && decide (0 < usable state)) (by decide)
  obtain ⟨blocked, pool⟩ := Bool.and_eq_true_iff.mp checked
  obtain ⟨row, queue⟩ := Bool.and_eq_true_iff.mp blocked
  refine ⟨state, executed, Option.isNone_iff_eq_none.mp row, Option.isNone_iff_eq_none.mp queue, ?_⟩
  exact (no_deadlock tenPieces 2 (path_of_exec executed) (by decide)
    (of_decide_eq_true pool)).2

end BackendComponents.Inventory.Progress
