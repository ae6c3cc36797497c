import BackendComponents.Inventory.Transactions
import BackendComponents.Lib.Linearization

/-!
# The repository as an atomic table

What `InventoryRepository` is for: every call acts on the table at one instant between its
start and its end. A call of `deduct_stock` takes effect with its commit, and one that finds
no row or too little stock with its locking read; the other calls take effect with their
only statement. This holds as long as no driver call of `deduct_stock` throws after `begin`
has started to act, and no `prepareStatement` of any operation.
-/

namespace BackendComponents.Inventory.Atomic

open BackendComponents.Lib.Paths
open BackendComponents.Lib.Threads
open BackendComponents.Lib.Linearization
open BackendComponents.Inventory.Database
open BackendComponents.Inventory.Repository
open BackendComponents.Inventory.Sessions
open BackendComponents.Inventory.Transactions

set_option autoImplicit false

/-- The whole of an operation at one instant. -/
def atomically (table : Table) : RepoOp → Table × RepoResult
  | .deductStock item quantity =>
      match table item with
      | none => (table, .error .mysqlUpdateFailed)
      | some current =>
          if current < quantity then (table, .error .stockInsufficient)
          else (table.put item (current - quantity), .stock (current - quantity))
  | .plain (.getStock item) =>
      match table item with
      | none => (table, .error .notFound)
      | some stock => (table, .stock stock)
  | .plain (.initStock item stock) =>
      (if (table item).isSome then table else table.put item stock, .done)
  | .plain (.updateStock item stock) =>
      -- a row that has the new value already counts as not found
      match table item with
      | none => (table, .error .notFound)
      | some current =>
          (table.put item stock, if current = stock then .error .notFound else .done)

/-- How an operation is answered. `unheard` has taken effect, but the driver call that
did it has thrown. -/
inductive Reply
  | answered
  | unheard
  | failed
  | unavailable
  | threw
  deriving DecidableEq, Repr

/-- The atomic table. A deduction is never made without its caller hearing of it. -/
def serves (table : Table) (op : RepoOp) : Reply → Option (Table × RepoResult)
  | .answered => some (atomically table op)
  | .unheard =>
      match op with
      | .deductStock _ _ => none
      | .plain _ => some ((atomically table op).1, .error .mysqlUpdateFailed)
  | .failed => some (table, .error .mysqlUpdateFailed)
  | .unavailable => some (table, .error .mysqlUnavailable)
  | .threw => some (table, .threw)

def repoLabel (state : State) : Action → Option (Event RepoOp RepoResult)
  | .call op => some (.invoked state.ops.length op)
  | .advance place answer =>
      (Transactions.step state (.advance place answer)).bind fun after =>
        match after.ops[place]? with
        | some (.done result) => some (.responded place result)
        | _ => none
  | .grow | .recycle _ => none

/-- Whether an operation has taken effect, and with which result. -/
def standing : RepoPc → Option (Status RepoOp RepoResult)
  | .idle => none
  | .connect op => some (.called op)
  | .begin _ item quantity | .select _ item quantity | .update _ item quantity _
  | .commit _ item quantity _ => some (.called (.deductStock item quantity))
  | .statement _ op => some (.called (.plain op))
  | .restore _ _ _ newStock => some (.served (.stock newStock))
  | .rollback _ code | .restoreError _ code => some (.served (.error code))
  | .release _ result => some (.served result)
  | .done result => some (.returned result)

def solvent : RepoPc → Bool
  | .update _ _ _ newStock | .commit _ _ _ newStock => decide (0 ≤ newStock)
  | _ => true

/-- A step of an operation, seen from the atomic table. -/
inductive Shift (before : Table) (pc : RepoPc) (after : Table) (next : RepoPc) : Prop
  | silent : standing next = standing pc → after = before → Shift before pc after next
  | serve {op : RepoOp} {reply : Reply} {result : RepoResult} :
      standing pc = some (.called op) → serves before op reply = some (after, result) →
        standing next = some (.served result) → Shift before pc after next
  | refuse {op : RepoOp} {reply : Reply} {result : RepoResult} :
      standing pc = some (.called op) → serves before op reply = some (after, result) →
        standing next = some (.returned result) → Shift before pc after next
  | leave {result : RepoResult} :
      standing pc = some (.served result) → standing next = some (.returned result) →
        after = before → Shift before pc after next

theorem serves_insufficient {table : Table} {item : Item} {quantity current : Int}
    (read : table item = some current) (short : current < quantity) :
    serves table (.deductStock item quantity) .answered =
      some (table, .error .stockInsufficient) := by
  simp only [serves, atomically, read, if_pos short]

theorem serves_missing {table : Table} {item : Item} (quantity : Int)
    (read : table item = none) :
    serves table (.deductStock item quantity) .answered =
      some (table, .error .mysqlUpdateFailed) := by
  simp only [serves, atomically, read]

theorem serves_deduction {table : Table} {item : Item} {quantity newStock : Int}
    (read : table item = some (newStock + quantity)) (enough : 0 ≤ newStock) :
    serves table (.deductStock item quantity) .answered =
      some (table.put item newStock, .stock newStock) := by
  have passes : ¬newStock + quantity < quantity := by omega
  simp only [serves, atomically, read, if_neg passes, Int.add_sub_cancel]

theorem statement_atomically {store after : Store} {id : Nat} {op : PlainOp}
    (performed : perform store id freshConnection (statementOf op) = some after) :
    atomically store.committed (.plain op) =
      (after.committed, statementResult store freshConnection op) := by
  obtain ⟨_, _, committed⟩ := perform_statement performed
  have seen : ∀ item, visible store freshConnection item = store.committed item :=
    visible_clean rfl
  rw [committed]
  cases op with
  | getStock item =>
      simp only [atomically, statementEntry, Option.elim_none, statementResult, seen]
      cases store.committed item <;> rfl
  | initStock item stock => rfl
  | updateStock item stock =>
      simp only [atomically, statementEntry, Option.elim_some, applyEntry, statementResult, seen]
      cases store.committed item <;> rfl

theorem fails_shift {store driven : Store} {pc : RepoPc} {id : Nat} {call : DriverCall}
    {answer : DriverAnswer} (held : connOf pc = some id) (made : callOf pc = some call)
    (good : careful pc (.driver answer) = true)
    (driveCall : drive store id (session pc) call answer = some (driven, false)) :
    Shift store.committed pc (recordIf answer (entryOf pc) driven).committed (failed id) := by
  rw [record_if_committed]
  cases pc with
  | begin conn item quantity =>
      cases drive_outcome driveCall with
      | lost thrown _ =>
          rw [thrown] at good
          cases good
      | refused _ | undone _ | unprepared _ _ =>
          exact @Shift.serve _ _ _ _ _ .failed _ rfl rfl rfl
  | statement conn op =>
      obtain rfl := Option.some.inj made
      cases drive_outcome driveCall with
      | lost _ performed =>
          refine @Shift.serve _ _ _ _ _ .unheard _ rfl ?_ rfl
          simp only [serves, statement_atomically performed]
      | refused _ | undone _ | unprepared _ _ =>
          exact @Shift.serve _ _ _ _ _ .failed _ rfl rfl rfl
  | select _ _ _ | update _ _ _ _ | commit _ _ _ _ | restore _ _ _ _ | rollback _ _
  | restoreError _ _ =>
      cases drive_outcome driveCall with
      | lost thrown _ | refused thrown | undone thrown | unprepared thrown _ =>
          rw [thrown] at good
          cases good
  | idle | connect _ | release _ _ | done _ => cases made

theorem select_shift {store after : Store} {id : Nat} {item : Item} {quantity : Int}
    (same : after.committed = store.committed) :
    Shift store.committed (.select id item quantity) after.committed
        (afterSelect store id (inTransaction false noWrites) item quantity) ∧
      solvent (afterSelect store id (inTransaction false noWrites) item quantity) = true := by
  unfold afterSelect
  rw [visible_clean rfl item, same]
  split
  · next missing =>
      exact ⟨.serve rfl (serves_missing quantity missing) rfl, rfl⟩
  · next current read =>
      split
      · next short => exact ⟨.serve rfl (serves_insufficient read short) rfl, rfl⟩
      · next enough =>
          refine ⟨.silent rfl rfl, ?_⟩
          exact decide_eq_true (by omega)

theorem commit_shift {store after : Store} {id : Nat} {item : Item} {quantity newStock : Int}
    (read : rows store (.commit id item quantity newStock)) (enough : 0 ≤ newStock)
    (performed : perform store id (session (.commit id item quantity newStock)) .commit =
      some after) :
    Shift store.committed (.commit id item quantity newStock) after.committed
      (.restore id item quantity newStock) := by
  obtain rfl := Option.some.inj performed
  have written : (endTransaction true store id
      (session (.commit id item quantity newStock))).committed =
        store.committed.put item newStock := put_writes store.committed item newStock
  rw [written]
  exact .serve rfl (serves_deduction read.2 enough) rfl

theorem call_shift {store after : Store} {pc next : RepoPc} {id : Nat} {answer : DriverAnswer}
    (fits : Fits store pc) (held : connOf pc = some id) (enough : solvent pc = true)
    (good : careful pc (.driver answer) = true)
    (move : ConnMove store (session pc) answer pc after next) :
    Shift store.committed pc after.committed next ∧ solvent next = true := by
  have found := fits.session id held
  have bound := lookup_bound found
  cases move with
  | fails same made driveCall =>
      obtain rfl := Option.some.inj (held.symm.trans same)
      exact ⟨fails_shift held made good driveCall, rfl⟩
  | skipsBegin flag _ | skipsCommit flag _ | skipsRollback flag _ => cases flag
  | begins _ driveCall =>
      obtain rfl := Option.some.inj held
      cases drive_outcome driveCall with
      | returned _ performed =>
          obtain rfl := Option.some.inj performed
          rw [set_transaction_of (lookup_move_self found)]
          exact ⟨.silent rfl rfl, rfl⟩
  | @selects _ item quantity _ driveCall =>
      obtain rfl := Option.some.inj held
      cases drive_outcome driveCall with
      | returned _ performed =>
          exact select_shift (@select_clean _ _ _ item quantity bound performed).2.1
  | updates driveCall =>
      obtain rfl := Option.some.inj held
      cases drive_outcome driveCall with
      | returned _ performed =>
          exact ⟨.silent rfl (update_clean bound fits.rows performed).2.1, enough⟩
  | commits _ driveCall =>
      obtain rfl := Option.some.inj held
      cases drive_outcome driveCall with
      | returned _ performed =>
          rw [record_if_committed]
          exact ⟨commit_shift fits.rows (of_decide_eq_true enough) performed, rfl⟩
  | restores driveCall | restoresError driveCall =>
      obtain rfl := Option.some.inj held
      cases drive_outcome driveCall with
      | returned _ performed =>
          exact ⟨.silent rfl (restore_clean bound performed).2.1, rfl⟩
  | rollsBack _ driveCall =>
      obtain rfl := Option.some.inj held
      cases drive_outcome driveCall with
      | returned _ performed =>
          obtain rfl := Option.some.inj performed
          exact ⟨.silent rfl rfl, rfl⟩
  | states driveCall =>
      obtain rfl := Option.some.inj held
      cases drive_outcome driveCall with
      | returned _ performed =>
          rw [record_if_committed]
          refine ⟨@Shift.serve _ _ _ _ _ .answered _ rfl ?_ rfl, rfl⟩
          exact congrArg some (statement_atomically performed)

theorem move_shift {store after : Store} {pc next : RepoPc} {answer : RepoAnswer}
    (fits : Fits store pc) (enough : solvent pc = true) (good : careful pc answer = true)
    (move : RepoMove store pc answer after next) :
    Shift store.committed pc after.committed next ∧ solvent next = true := by
  cases move with
  | @takes op taken rest queue => cases op <;> exact ⟨.silent rfl rfl, rfl⟩
  | timesOut => exact ⟨@Shift.refuse _ _ _ _ _ .unavailable _ rfl rfl rfl, rfl⟩
  | throws => exact ⟨@Shift.refuse _ _ _ _ _ .threw _ rfl rfl rfl, rfl⟩
  | calls held found step =>
      obtain rfl := Option.some.inj ((fits.session _ held).symm.trans found)
      exact call_shift fits held enough good step
  | returns => exact ⟨.leave rfl rfl rfl, rfl⟩

/-! ## The simulation -/

/-- The atomic table has the committed rows and knows which operations have taken effect. -/
structure Refines (initial : Table) (state : State)
    (machine : Machine Table RepoOp Reply RepoResult) : Prop where
  clean : Clean initial state.store state.ops
  solvent : ∀ (place : Nat) (pc : RepoPc), state.ops[place]? = some pc → solvent pc = true
  object : machine.object = state.store.committed
  statuses : state.ops.map standing = machine.statuses.map some

def heard (place : Nat) : Option (Status RepoOp RepoResult) → Option (Event RepoOp RepoResult)
  | some (.returned result) => some (.responded place result)
  | _ => none

theorem heard_done (place : Nat) (pc : RepoPc) :
    heard place (standing pc) =
      match some pc with
      | some (.done result) => some (.responded place result)
      | _ => none := by
  cases pc <;> rfl

theorem status_found {ops : List RepoPc} {statuses : List (Status RepoOp RepoResult)}
    {place : Nat} {pc : RepoPc} {status : Status RepoOp RepoResult}
    (same : ops.map standing = statuses.map some) (at_pc : ops[place]? = some pc)
    (stands : standing pc = some status) : statuses[place]? = some status := by
  have looked := congrArg (fun list => list[place]?) same
  simp only [List.getElem?_map, at_pc, Option.map_some, stands] at looked
  cases found : statuses[place]? with
  | none =>
      rw [found] at looked
      cases looked
  | some seen =>
      rw [found] at looked
      exact (Option.some.inj looked).symm

theorem statuses_set {ops : List RepoPc} {statuses : List (Status RepoOp RepoResult)}
    {next : RepoPc} {status : Status RepoOp RepoResult} (place : Nat)
    (same : ops.map standing = statuses.map some) (stands : standing next = some status) :
    (ops.set place next).map standing = (statuses.set place status).map some := by
  rw [List.map_set, List.map_set, stands, same]

theorem statuses_kept {ops : List RepoPc} {statuses : List (Status RepoOp RepoResult)}
    {place : Nat} {pc next : RepoPc} (same : ops.map standing = statuses.map some)
    (at_pc : ops[place]? = some pc) (stands : standing next = standing pc) :
    (ops.set place next).map standing = statuses.map some := by
  rw [List.map_set, stands, ← same]
  apply set_lookup
  rw [List.getElem?_map, at_pc]
  rfl

theorem shift_path {machine : Machine Table RepoOp Reply RepoResult} {ops : List RepoPc}
    {place : Nat} {pc next : RepoPc} {after : Table}
    (same : ops.map standing = machine.statuses.map some) (at_pc : ops[place]? = some pc)
    (unfinished : heard place (standing pc) = none)
    (shift : Shift machine.object pc after next) :
    ∃ trail last, Path (machineStep serves) machine trail last ∧ last.object = after ∧
      (ops.set place next).map standing = last.statuses.map some ∧
        history machineLabel trail = (heard place (standing next)).toList := by
  cases shift with
  | silent stands kept =>
      refine ⟨[], machine, .here, kept.symm, statuses_kept same at_pc stands, ?_⟩
      rw [stands, unfinished]
      rfl
  | @serve op reply result waiting served stands =>
      have found := status_found same at_pc waiting
      have path := path_step (serve_taken found served)
      refine ⟨_, _, path, rfl, statuses_set place same stands, ?_⟩
      rw [history_step, stands]
      rfl
  | @refuse op reply result waiting served stands =>
      have found := status_found same at_pc waiting
      have there : (machine.statuses.set place (.served result))[place]? =
          some (.served result) := lookup_move_self found
      have path := path_trans (path_step (serve_taken found served))
        (path_step (leave_taken there))
      refine ⟨_, _, path, rfl, ?_, ?_⟩
      · rw [List.set_set]
        exact statuses_set place same stands
      · rw [history_append, history_step, history_step, stands]
        simp only [machineLabel, there, heard, Option.toList_none, List.nil_append]
  | @leave result waiting stands kept =>
      have found := status_found same at_pc waiting
      have path := path_step (@leave_taken _ _ _ _ serves _ _ _ found)
      refine ⟨_, _, path, kept.symm, statuses_set place same stands, ?_⟩
      rw [history_step, stands]
      simp only [machineLabel, found, heard]

theorem refines_start (initial : Table) (connections : Nat) :
    Refines initial (start initial connections) (fresh initial) := by
  refine ⟨clean_opened initial connections, ?_, rfl, rfl⟩
  intro place pc found
  cases found

theorem move_unfinished {store after : Store} {pc next : RepoPc} {answer : RepoAnswer}
    (place : Nat) (move : RepoMove store pc answer after next) :
    heard place (standing pc) = none := by
  cases move with
  | calls held _ _ =>
      cases pc with
      | done result => cases held
      | _ => rfl
  | _ => rfl

theorem advance_label {state : State} {place : Nat} {answer : RepoAnswer} {pc next : RepoPc}
    {store : Store} (at_pc : state.ops[place]? = some pc)
    (stepped : repoStep state.store pc answer = some (store, next)) :
    repoLabel state (.advance place answer) = heard place (standing next) := by
  have there : (state.ops.set place next)[place]? = some next := lookup_move_self at_pc
  simp only [repoLabel, Transactions.step, at_pc, Option.bind_some, stepped, Option.map_some,
    there]
  exact (heard_done place next).symm

theorem refinement (initial : Table) :
    HistorySimulation Transactions.step (machineStep serves) repoLabel machineLabel
      (fun state action => carefulStep state action = true) (Refines initial) := by
  constructor
  intro state machine action after refines good taken
  have clean := clean_step refines.clean good taken
  cases action with
  | call op =>
      obtain rfl := Option.some.inj taken
      have sizes := congrArg List.length refines.statuses
      rw [List.length_map, List.length_map] at sizes
      have called : Path (machineStep serves) machine [(machine, .call op)]
          { machine with statuses := machine.statuses ++ [.called op] } := path_step rfl
      refine ⟨_, _, called, ⟨clean, ?_, refines.object, ?_⟩, ?_⟩
      · intro place pc found
        rcases lookup_append found with old | ⟨_, rfl⟩
        · exact refines.solvent place pc old
        · rfl
      · rw [List.map_append, List.map_append, refines.statuses]
        rfl
      · rw [history_step]
        simp only [machineLabel, repoLabel, sizes]
  | advance place answer =>
      obtain ⟨pc, at_pc, rest⟩ := Option.bind_eq_some_iff.mp taken
      obtain ⟨⟨store, next⟩, stepped, rfl⟩ := Option.map_eq_some_iff.mp rest
      have careful := careful_of_step good at_pc
      have move := repo_step_cases stepped
      obtain ⟨shift, enough⟩ := move_shift (refines.clean.fits place pc at_pc)
        (refines.solvent place pc at_pc) careful move
      rw [← refines.object] at shift
      obtain ⟨trail, last, path, object, statuses, seen⟩ :=
        shift_path refines.statuses at_pc (move_unfinished place move) shift
      refine ⟨trail, last, path, ⟨clean, ?_, object, statuses⟩, ?_⟩
      · intro other pc found
        rcases lookup_move found with ⟨_, rfl⟩ | ⟨_, old⟩
        · exact enough
        · exact refines.solvent other pc old
      · rw [seen, advance_label at_pc stepped]
  | grow =>
      obtain rfl := Option.some.inj taken
      exact ⟨[], machine, .here, ⟨clean, refines.solvent, refines.object, refines.statuses⟩, rfl⟩
  | recycle place =>
      obtain ⟨store, recycled, rfl⟩ := Option.map_eq_some_iff.mp taken
      refine ⟨[], machine, .here, ⟨clean, refines.solvent, ?_, refines.statuses⟩, rfl⟩
      obtain ⟨id, conn, _, _, rfl⟩ := recycle_cases recycled
      exact refines.object

/-- In every interleaving of careful steps there is an order of the operations in
which the table, working on one operation at a time, gives each caller the result it got
and ends with the committed rows; the order respects which call returned before which
other one began. -/
theorem repository_linearizable (initial : Table) (connections : Nat)
    {trail : List (State × Action)} {last : State}
    (path : Path Transactions.step (start initial connections) trail last)
    (good : ∀ taken ∈ trail, carefulStep taken.1 taken.2 = true) :
    ∃ order, Linearizes serves initial last.store.committed (history repoLabel trail) order := by
  obtain ⟨trailB, machine, pathB, refines, same⟩ :=
    matched_path (refinement initial) (refines_start initial connections) path good
  have explained := machine_linearizes pathB
  rw [refines.object, same] at explained
  exact ⟨machine.order, explained⟩

def racingRun : List Action :=
  [.call (.deductStock 1 6), .call (.deductStock 1 6), .advance 0 .front, .advance 1 .front,
    .advance 1 (.driver .returns), .advance 0 (.driver .returns),
    .advance 1 (.driver .returns), .advance 1 (.driver .returns), .advance 1 (.driver .returns),
    .advance 0 (.driver .returns), .advance 1 (.driver .returns), .advance 1 .go,
    .advance 0 (.driver .returns), .advance 0 (.driver .returns), .advance 0 .go]

theorem racing_run_linearizable :
    ∃ last, exec Transactions.step (start tenPieces 2) racingRun = some last ∧
      last.ops = [.done (.error .stockInsufficient), .done (.stock 4)] ∧
        ∃ order, Linearizes serves tenPieces last.store.committed
          (history repoLabel (trailOf Transactions.step (start tenPieces 2) racingRun)) order := by
  obtain ⟨last, executed, checked⟩ := exec_checked Transactions.step (start tenPieces 2) racingRun
    (fun last => decide (last.ops = [.done (.error .stockInsufficient), .done (.stock 4)]))
    (by decide)
  refine ⟨last, executed, of_decide_eq_true checked, ?_⟩
  exact repository_linearizable tenPieces 2 (path_of_exec executed) (by decide)

end BackendComponents.Inventory.Atomic
