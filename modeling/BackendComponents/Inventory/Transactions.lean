import BackendComponents.Inventory.Sessions

/-!
# Transactions on pooled connections

While no driver call of `deduct_stock` throws after `begin` has started to act, the state
of a connection is a function of the program point of the operation that holds it, and a
connection in the queue is as good as new. The table then holds what the ledger accounts
for. The `catch` branch of `deduct_stock` has no `rollback`, so an exception anywhere
between `begin` and the end of `commit` gives a connection back in the middle of a
transaction, and the next `deduct_stock` on it commits the leftover writes.
-/

namespace BackendComponents.Inventory.Transactions

open BackendComponents.Lib.Paths
open BackendComponents.Lib.Threads
open BackendComponents.Inventory.Database
open BackendComponents.Inventory.Repository
open BackendComponents.Inventory.Sessions

set_option autoImplicit false

def inTransaction (active : Bool) (pending : Table) : Connection where
  transaction := true
  autocommit := false
  active := active
  pending := pending

/-- The connection of an operation whose calls have gone well so far. -/
def session : RepoPc → Connection
  | .select _ _ _ | .restore _ _ _ _ | .restoreError _ _ => inTransaction false noWrites
  | .update _ _ _ _ | .rollback _ _ => inTransaction true noWrites
  | .commit _ item _ newStock => inTransaction true (noWrites.put item newStock)
  | .begin _ _ _ | .statement _ _ | .release _ _ | .idle | .connect _ | .done _ => freshConnection

/-- From the locking read to the commit, the row is locked and as it was read. -/
def rows (store : Store) : RepoPc → Prop
  | .update id item quantity newStock | .commit id item quantity newStock =>
      store.rowLock item = some id ∧ store.committed item = some (newStock + quantity)
  | _ => True

structure Fits (store : Store) (pc : RepoPc) : Prop where
  session : ∀ id, connOf pc = some id → store.conns[id]? = some (session pc)
  rows : rows store pc

structure Clean (initial : Table) (store : Store) (ops : List RepoPc) : Prop where
  placed : Placed store ops
  queue : ∀ id ∈ store.idle, store.conns[id]? = some freshConnection
  fits : ∀ (place : Nat) (pc : RepoPc), ops[place]? = some pc → Fits store pc
  accounted : store.committed = replay initial store.ledger

/-- An exception after which the connection is not as it was before `begin`. -/
def leaves : RepoPc → Damage → Bool
  | .begin _ _ _, .performed => true
  | .begin _ _ _, .nothing | .begin _ _ _, .rolledBack | .begin _ _ _, .unprepared => false
  | .select _ _ _, _ | .update _ _ _ _, _ | .commit _ _ _ _, _ | .restore _ _ _ _, _
  | .rollback _ _, _ | .restoreError _ _, _ => true
  | .statement _ _, _ | .release _ _, _ | .idle, _ | .connect _, _ | .done _, _ => false

def careful (pc : RepoPc) : RepoAnswer → Bool
  | .driver (.throws damage) => !leaves pc damage
  | _ => true

theorem visible_clean {store : Store} {conn : Connection} (empty : conn.pending = noWrites)
    (item : Item) : visible store conn item = store.committed item := by
  simp [visible, empty, noWrites]

theorem end_fresh {store : Store} {id : Nat}
    (found : store.conns[id]? = some freshConnection) :
    (endTransaction false store id freshConnection).conns = store.conns :=
  set_lookup found

theorem put_writes (table : Table) (item : Item) (stock : Int) :
    (fun other => ((noWrites.put item stock) other).or (table other)) = table.put item stock := by
  funext other
  unfold Table.put noWrites
  split <;> rfl

theorem put_deducted {table : Table} {item : Item} {quantity newStock : Int}
    (read : table item = some (newStock + quantity)) :
    table.put item newStock = applyEntry table (.deducted item quantity) := by
  funext other
  simp only [Table.put, applyEntry]
  split
  · rw [read, Option.map_some]
    congr 1
    omega
  · rfl

theorem fits_framed {store after : Store} {id : Nat} {pc : RepoPc}
    (framed : Framed id store after) (foreign : connOf pc ≠ some id) (fits : Fits store pc) :
    Fits after pc := by
  have other : ∀ conn, connOf pc = some conn → conn ≠ id := by
    rintro conn held rfl
    exact foreign held
  constructor
  · intro conn held
    rw [framed.conns conn (other conn held)]
    exact fits.session conn held
  · have held := fits.rows
    cases pc with
    | update conn item quantity newStock =>
        have kept := framed.locks item conn (other conn rfl) held.1
        exact ⟨kept.1, kept.2.trans held.2⟩
    | commit conn item quantity newStock =>
        have kept := framed.locks item conn (other conn rfl) held.1
        exact ⟨kept.1, kept.2.trans held.2⟩
    | _ => exact True.intro

theorem session_owned {store : Store} {pc : RepoPc} {id : Nat} (fits : Fits store pc)
    (held : connOf pc = some id) : Owned id store (session pc) := by
  cases pc with
  | commit conn item quantity newStock =>
      obtain rfl := Option.some.inj held
      intro row written
      have same : row = item := by
        by_contra apart
        simp [session, inTransaction, Table.put, noWrites, apart] at written
      rw [same]
      exact fits.rows.1
  | _ =>
      intro row written
      cases written

theorem perform_statement {store after : Store} {id : Nat} {op : PlainOp}
    (performed : perform store id freshConnection (statementOf op) = some after) :
    after.conns = store.conns ∧ after.ledger = store.ledger ∧
      after.committed = (statementEntry op).elim store.committed (applyEntry store.committed) := by
  have seen : ∀ item, visible store freshConnection item = store.committed item :=
    visible_clean rfl
  cases op with
  | getStock item =>
      obtain rfl := Option.some.inj performed
      exact ⟨rfl, rfl, rfl⟩
  | initStock item stock =>
      dsimp only [statementOf, perform] at performed
      simp only [statementEntry, Option.elim_some, applyEntry]
      split at performed
      · split at performed
        · next present =>
            obtain rfl := Option.some.inj performed
            rw [seen] at present
            rw [if_pos present]
            exact ⟨rfl, rfl, rfl⟩
        · next absent =>
            obtain rfl := Option.some.inj performed
            rw [seen] at absent
            rw [if_neg absent]
            exact ⟨rfl, rfl, rfl⟩
      · cases performed
  | updateStock item stock =>
      dsimp only [statementOf, perform] at performed
      simp only [statementEntry, Option.elim_some, applyEntry]
      split at performed
      · split at performed
        · next present =>
            obtain rfl := Option.some.inj performed
            rw [seen] at present
            rw [if_pos present]
            exact ⟨rfl, rfl, rfl⟩
        · next absent =>
            obtain rfl := Option.some.inj performed
            rw [seen] at absent
            rw [if_neg absent]
            exact ⟨rfl, rfl, rfl⟩
      · cases performed

theorem record_if_of_no_effect {answer : DriverAnswer} (refused : takesEffect answer = false)
    (entry : Option LedgerEntry) (store : Store) : recordIf answer entry store = store := by
  unfold recordIf
  split
  · rfl
  · rw [refused]
    rfl

theorem accounted_statement {initial : Table} {store after : Store} {id : Nat} {op : PlainOp}
    {answer : DriverAnswer} (effective : takesEffect answer = true)
    (performed : perform store id freshConnection (statementOf op) = some after)
    (accounted : store.committed = replay initial store.ledger) :
    (recordIf answer (statementEntry op) after).committed =
      replay initial (recordIf answer (statementEntry op) after).ledger := by
  obtain ⟨conns, ledger, committed⟩ := perform_statement performed
  cases entry : statementEntry op with
  | none =>
      rw [entry] at committed
      change after.committed = replay initial after.ledger
      rw [committed, ledger]
      exact accounted
  | some made =>
      rw [entry] at committed
      simp only [recordIf, effective, if_true, record]
      rw [replay_snoc, ledger, ← accounted]
      exact committed

theorem fits_holding {store : Store} {pc : RepoPc} {id : Nat} (held : connOf pc = some id)
    (there : store.conns[id]? = some (session pc)) (known : rows store pc) : Fits store pc := by
  constructor
  · intro other same
    obtain rfl := Option.some.inj (held.symm.trans same)
    exact there
  · exact known

theorem fails_clean {initial : Table} {store driven : Store} {pc : RepoPc} {id : Nat}
    {call : DriverCall} {answer : DriverAnswer} (fits : Fits store pc)
    (held : connOf pc = some id) (made : callOf pc = some call)
    (good : careful pc (.driver answer) = true)
    (driveCall : drive store id (session pc) call answer = some (driven, false))
    (accounted : store.committed = replay initial store.ledger) :
    Fits (recordIf answer (entryOf pc) driven) (failed id) ∧
      (recordIf answer (entryOf pc) driven).committed =
        replay initial (recordIf answer (entryOf pc) driven).ledger := by
  have found := fits.session id held
  cases pc with
  | begin conn item quantity =>
      obtain rfl := Option.some.inj held
      cases drive_outcome driveCall with
      | lost thrown _ =>
          rw [thrown] at good
          cases good
      | refused _ | unprepared _ _ => exact ⟨fits_holding rfl found True.intro, accounted⟩
      | undone _ =>
          have kept := (congrArg (fun conns => conns[conn]?) (end_fresh found)).trans found
          exact ⟨fits_holding rfl kept True.intro, accounted⟩
  | statement conn op =>
      obtain rfl := Option.some.inj held
      obtain rfl := Option.some.inj made
      cases drive_outcome driveCall with
      | lost thrown performed =>
          have effective : takesEffect answer = true := by rw [thrown]; rfl
          apply And.intro _ (accounted_statement effective performed accounted)
          refine fits_holding rfl ?_ True.intro
          rw [record_if_conns, (perform_statement performed).1]
          exact found
      | refused thrown | unprepared thrown _ =>
          have refused : takesEffect answer = false := by rw [thrown]; rfl
          rw [record_if_of_no_effect refused]
          exact ⟨fits_holding rfl found True.intro, accounted⟩
      | undone thrown =>
          have refused : takesEffect answer = false := by rw [thrown]; rfl
          rw [record_if_of_no_effect refused]
          have kept := (congrArg (fun conns => conns[conn]?) (end_fresh found)).trans found
          exact ⟨fits_holding rfl kept True.intro, accounted⟩
  | select _ _ _ | update _ _ _ _ | commit _ _ _ _ | restore _ _ _ _ | rollback _ _
  | restoreError _ _ =>
      cases drive_outcome driveCall with
      | lost thrown _ | refused thrown | undone thrown | unprepared thrown _ =>
          rw [thrown] at good
          cases good
  | idle | connect _ | release _ _ | done _ => cases made

theorem select_clean {store after : Store} {id : Nat} {item : Item} {quantity : Int}
    (bound : id < store.conns.length)
    (performed : perform store id (inTransaction false noWrites) (.selectForUpdate item) =
      some after) :
    Fits after (afterSelect store id (inTransaction false noWrites) item quantity) ∧
      after.committed = store.committed ∧ after.ledger = store.ledger := by
  dsimp only [perform] at performed
  split at performed
  · obtain rfl := Option.some.inj performed
    refine ⟨?_, rfl, rfl⟩
    have there : (store.conns.set id (inTransaction true noWrites))[id]? =
        some (inTransaction true noWrites) := List.getElem?_set_self bound
    unfold afterSelect
    rw [visible_clean rfl item]
    split
    · exact fits_holding rfl there True.intro
    · next current read =>
        split
        · exact fits_holding rfl there True.intro
        · refine fits_holding rfl there ⟨?_, ?_⟩
          · have present : (visible store (inTransaction false noWrites) item).isSome = true := by
              rw [visible_clean rfl item, read]
              rfl
            change (if (visible store (inTransaction false noWrites) item).isSome = true then
              lockRow store.rowLock id item else store.rowLock) item = some id
            rw [if_pos present]
            exact if_pos rfl
          · change store.committed item = _
            rw [read]
            congr 1
            omega
  · cases performed

theorem update_clean {store after : Store} {id : Nat} {item : Item} {quantity newStock : Int}
    (bound : id < store.conns.length)
    (read : rows store (.update id item quantity newStock))
    (performed : perform store id (inTransaction true noWrites) (.update item newStock) =
      some after) :
    Fits after (.commit id item quantity newStock) ∧ after.committed = store.committed ∧
      after.ledger = store.ledger := by
  have present : (visible store (inTransaction true noWrites) item).isSome = true := by
    rw [visible_clean rfl item, read.2]
    rfl
  dsimp only [perform] at performed
  rw [if_pos present] at performed
  split at performed
  · obtain rfl := Option.some.inj performed
    refine ⟨fits_holding rfl (List.getElem?_set_self bound) ⟨?_, read.2⟩, rfl, rfl⟩
    exact if_pos rfl
  · cases performed

/-- The commit of a `deduct_stock` call takes the quantity off and nothing else. -/
theorem commit_clean {initial : Table} {store after : Store} {id : Nat} {item : Item}
    {quantity newStock : Int} (bound : id < store.conns.length)
    (read : rows store (.commit id item quantity newStock))
    (performed : perform store id (session (.commit id item quantity newStock)) .commit =
      some after)
    (accounted : store.committed = replay initial store.ledger) :
    Fits (record after (.deducted item quantity)) (.restore id item quantity newStock) ∧
      (record after (.deducted item quantity)).committed =
        replay initial (record after (.deducted item quantity)).ledger := by
  obtain rfl := Option.some.inj performed
  constructor
  · exact fits_holding rfl (List.getElem?_set_self bound) True.intro
  · change (fun other => ((noWrites.put item newStock) other).or (store.committed other)) =
      replay initial (store.ledger ++ [.deducted item quantity])
    rw [put_writes, put_deducted read.2, replay_snoc, accounted]

theorem restore_clean {store after : Store} {id : Nat} (bound : id < store.conns.length)
    (performed : perform store id (inTransaction false noWrites) (.setAutoCommit true) =
      some after) :
    (setTransaction after id false).conns[id]? = some freshConnection ∧
      (setTransaction after id false).committed = store.committed ∧
      (setTransaction after id false).ledger = store.ledger := by
  have left : after.conns[id]? = some ⟨true, true, false, noWrites⟩ ∧
      after.committed = store.committed ∧ after.ledger = store.ledger := by
    obtain rfl := Option.some.inj performed
    refine ⟨List.getElem?_set_self ?_, rfl, rfl⟩
    simpa [endTransaction] using bound
  rw [set_transaction_of left.1]
  exact ⟨lookup_move_self left.1, left.2⟩

/-- What a driver call of an operation leaves behind, as its next program point has it. -/
theorem call_clean {initial : Table} {store after : Store} {pc next : RepoPc} {id : Nat}
    {answer : DriverAnswer} (fits : Fits store pc) (held : connOf pc = some id)
    (good : careful pc (.driver answer) = true)
    (move : ConnMove store (session pc) answer pc after next)
    (accounted : store.committed = replay initial store.ledger) :
    Fits after next ∧ after.committed = replay initial after.ledger := by
  have found := fits.session id held
  have bound := lookup_bound found
  cases move with
  | fails same made driveCall =>
      obtain rfl := Option.some.inj (held.symm.trans same)
      exact fails_clean fits held made good driveCall accounted
  | skipsBegin flag _ => cases flag
  | begins _ driveCall =>
      obtain rfl := Option.some.inj held
      cases drive_outcome driveCall with
      | returned _ performed =>
          obtain rfl := Option.some.inj performed
          rw [set_transaction_of (lookup_move_self found)]
          refine ⟨fits_holding rfl ?_ True.intro, accounted⟩
          exact lookup_move_self (lookup_move_self found)
  | selects driveCall =>
      obtain rfl := Option.some.inj held
      cases drive_outcome driveCall with
      | returned _ performed =>
          obtain ⟨there, committed, ledger⟩ := select_clean bound performed
          rw [committed, ledger]
          exact ⟨there, accounted⟩
  | updates driveCall =>
      obtain rfl := Option.some.inj held
      cases drive_outcome driveCall with
      | returned _ performed =>
          obtain ⟨there, committed, ledger⟩ := update_clean bound fits.rows performed
          rw [committed, ledger]
          exact ⟨there, accounted⟩
  | commits _ driveCall =>
      obtain rfl := Option.some.inj held
      cases drive_outcome driveCall with
      | returned returned performed =>
          rw [returned]
          exact commit_clean bound fits.rows performed accounted
  | skipsCommit flag _ => cases flag
  | restores driveCall =>
      obtain rfl := Option.some.inj held
      cases drive_outcome driveCall with
      | returned _ performed =>
          obtain ⟨there, committed, ledger⟩ := restore_clean bound performed
          rw [committed, ledger]
          exact ⟨fits_holding rfl there True.intro, accounted⟩
  | rollsBack _ driveCall =>
      obtain rfl := Option.some.inj held
      cases drive_outcome driveCall with
      | returned _ performed =>
          obtain rfl := Option.some.inj performed
          exact ⟨fits_holding rfl (List.getElem?_set_self bound) True.intro, accounted⟩
  | skipsRollback flag _ => cases flag
  | restoresError driveCall =>
      obtain rfl := Option.some.inj held
      cases drive_outcome driveCall with
      | returned _ performed =>
          obtain ⟨there, committed, ledger⟩ := restore_clean bound performed
          rw [committed, ledger]
          exact ⟨fits_holding rfl there True.intro, accounted⟩
  | states driveCall =>
      obtain rfl := Option.some.inj held
      cases drive_outcome driveCall with
      | returned returned performed =>
          have effective : takesEffect answer = true := by rw [returned]; rfl
          apply And.intro _ (accounted_statement effective performed accounted)
          refine fits_holding rfl ?_ True.intro
          rw [record_if_conns, (perform_statement performed).1]
          exact found

theorem fits_queue {store : Store} {pc : RepoPc} (fits : Fits store pc) (queue : List Nat) :
    Fits { store with idle := queue } pc := by
  constructor
  · exact fits.session
  · have held := fits.rows
    cases pc <;> exact held

theorem fits_outside {store : Store} {pc : RepoPc} (free : connOf pc = none) : Fits store pc := by
  constructor
  · intro id held
    rw [free] at held
    cases held
  · cases pc <;> first | exact True.intro | cases free

theorem clean_move {initial : Table} {store after : Store} {ops : List RepoPc} {place : Nat}
    {pc next : RepoPc} {answer : RepoAnswer} (clean : Clean initial store ops)
    (at_pc : ops[place]? = some pc) (good : careful pc answer = true)
    (move : RepoMove store pc answer after next) : Clean initial after (ops.set place next) := by
  have fits := clean.fits place pc at_pc
  have owned : ∀ id conn, connOf pc = some id → store.conns[id]? = some conn →
      Owned id store conn := by
    intro id conn held found
    obtain rfl := Option.some.inj ((fits.session id held).symm.trans found)
    exact session_owned fits held
  have placed := placed_move clean.placed at_pc move owned
  cases move with
  | @takes op taken rest queue =>
      have fresh : store.conns[taken]? = some freshConnection := by
        apply clean.queue
        rw [queue]
        exact List.mem_cons_self
      refine ⟨placed, ?_, ?_, clean.accounted⟩
      · intro id queued
        apply clean.queue
        rw [queue]
        exact List.mem_cons_of_mem _ queued
      · intro other seen found
        rcases lookup_move found with ⟨_, rfl⟩ | ⟨_, old⟩
        · cases op <;> exact fits_holding rfl fresh True.intro
        · exact fits_queue (clean.fits other seen old) rest
  | timesOut | throws =>
      refine ⟨placed, clean.queue, ?_, clean.accounted⟩
      intro other seen found
      rcases lookup_move found with ⟨_, rfl⟩ | ⟨_, old⟩
      · exact fits_outside rfl
      · exact clean.fits other seen old
  | @calls _ _ id conn _ _ held found step =>
      have framed := conn_move_framed step held (owned id conn held found)
      obtain rfl := Option.some.inj ((fits.session id held).symm.trans found)
      have mine := call_clean fits held good step clean.accounted
      refine ⟨placed, ?_, ?_, mine.2⟩
      · intro other queued
        rw [framed.idle] at queued
        have different : other ≠ id := by
          rintro rfl
          exact placed_busy clean.placed at_pc held queued
        rw [framed.conns other different]
        exact clean.queue other queued
      · intro other seen looked
        rcases lookup_move looked with ⟨_, rfl⟩ | ⟨different, old⟩
        · exact mine.1
        · have foreign := placed_apart clean.placed at_pc held old different
          exact fits_framed framed foreign (clean.fits other seen old)
  | @returns id result =>
      refine ⟨placed, ?_, ?_, clean.accounted⟩
      · intro other queued
        rcases List.mem_append.mp queued with before | last
        · exact clean.queue other before
        · obtain rfl := List.mem_singleton.mp last
          exact fits.session _ rfl
      · intro other seen found
        rcases lookup_move found with ⟨_, rfl⟩ | ⟨_, old⟩
        · exact fits_outside rfl
        · exact fits_queue (clean.fits other seen old) _

theorem clean_spawn {initial : Table} {store : Store} {ops : List RepoPc} {pc : RepoPc}
    (clean : Clean initial store ops) (free : connOf pc = none) :
    Clean initial store (ops ++ [pc]) := by
  refine ⟨placed_spawn clean.placed free, clean.queue, ?_, clean.accounted⟩
  intro place seen found
  rcases lookup_append found with old | ⟨_, rfl⟩
  · exact clean.fits place seen old
  · exact fits_outside free

theorem clean_set {initial : Table} {store : Store} {ops : List RepoPc} {place : Nat}
    {pc next : RepoPc} (clean : Clean initial store ops) (at_pc : ops[place]? = some pc)
    (free : connOf pc = none) (freeAfter : connOf next = none) :
    Clean initial store (ops.set place next) := by
  refine ⟨placed_set clean.placed at_pc (freeAfter.trans free.symm), clean.queue, ?_,
    clean.accounted⟩
  intro other seen found
  rcases lookup_move found with ⟨_, rfl⟩ | ⟨_, old⟩
  · exact fits_outside freeAfter
  · exact clean.fits other seen old

theorem clean_grow {initial : Table} {store : Store} {ops : List RepoPc}
    (clean : Clean initial store ops) : Clean initial (grow store) ops := by
  refine ⟨placed_grow clean.placed, ?_, ?_, clean.accounted⟩
  · intro id queued
    rcases List.mem_append.mp queued with old | last
    · exact lookup_spawn_old _ (clean.queue id old)
    · obtain rfl := List.mem_singleton.mp last
      exact List.getElem?_concat_length
  · intro place pc found
    have fits := clean.fits place pc found
    constructor
    · intro id held
      exact lookup_spawn_old _ (fits.session id held)
    · have held := fits.rows
      cases pc <;> exact held

theorem clean_recycle {initial : Table} {store after : Store} {ops : List RepoPc} {place : Nat}
    (clean : Clean initial store ops) (taken : recycle store place = some after) :
    Clean initial after ops := by
  have placed := placed_recycle clean.placed taken
  obtain ⟨id, conn, queued, found, rfl⟩ := recycle_cases taken
  have member : id ∈ store.idle := List.mem_of_getElem? queued
  obtain rfl := Option.some.inj ((clean.queue id member).symm.trans found)
  have owned : Owned id { store with idle := store.idle.eraseIdx place } freshConnection := by
    intro item written
    cases written
  have framed : Framed id { store with idle := store.idle.eraseIdx place }
      (endTransaction false { store with idle := store.idle.eraseIdx place } id freshConnection) :=
    framed_end owned
  refine ⟨placed, ?_, ?_, clean.accounted⟩
  · intro other left
    have same : (endTransaction false { store with idle := store.idle.eraseIdx place } id
        freshConnection).conns = store.conns := set_lookup found
    rw [same]
    exact clean.queue other (List.mem_of_mem_eraseIdx left)
  · intro other pc looked
    have foreign : connOf pc ≠ some id := by
      intro held
      exact placed_busy clean.placed looked held member
    exact fits_framed framed foreign (fits_queue (clean.fits other pc looked) _)

theorem clean_opened (initial : Table) (connections : Nat) :
    Clean initial (opened initial connections) [] := by
  refine ⟨placed_opened initial connections, ?_, ?_, rfl⟩
  · intro id queued
    have bound : id < connections := List.mem_range.mp queued
    exact List.getElem?_replicate_of_lt bound
  · intro place pc found
    cases found

/-! ## Runs of the repository -/

structure State where
  store : Store
  ops : List RepoPc

inductive Action
  | call (op : RepoOp)
  | advance (place : Nat) (answer : RepoAnswer)
  | grow
  | recycle (place : Nat)
  deriving DecidableEq, Repr

def step (state : State) : Action → Option State
  | .call op => some { state with ops := state.ops ++ [.connect op] }
  | .advance place answer =>
      (state.ops[place]?).bind fun pc =>
        (repoStep state.store pc answer).map fun moved =>
          { store := moved.1, ops := state.ops.set place moved.2 }
  | .grow => some { state with store := grow state.store }
  | .recycle place => (recycle state.store place).map fun store => { state with store := store }

def start (initial : Table) (connections : Nat) : State where
  store := opened initial connections
  ops := []

/-- The session or the connection object believes that a transaction is open. -/
def hasTransaction (conn : Connection) : Bool :=
  conn.transaction || !conn.autocommit || conn.active

/-- No connection in the queue has an open transaction, and the committed stock is the
initial one with the explicit writes and the deductions whose own commit took effect. -/
structure Traceless (initial : Table) (state : State) : Prop where
  closed : ∀ id ∈ state.store.idle, ∀ conn, state.store.conns[id]? = some conn →
    hasTransaction conn = false
  accounted : state.store.committed = replay initial state.store.ledger

/-- The step is not an exception of a driver call of `deduct_stock` that has begun to act:
one of `begin` may have had no effect, none of the later ones may throw. Nor is it, in any
operation, an exception of `prepareStatement`, which would leave `m_pstmt` deleted. -/
def carefulStep (state : State) : Action → Bool
  | .advance place answer =>
      !unprepared answer && (state.ops[place]?).all fun pc => careful pc answer
  | .call _ | .grow | .recycle _ => true

theorem careful_of_step {state : State} {place : Nat} {pc : RepoPc} {answer : RepoAnswer}
    (good : carefulStep state (.advance place answer) = true)
    (at_pc : state.ops[place]? = some pc) : careful pc answer = true := by
  have known := (Bool.and_eq_true_iff.mp good).2
  rw [at_pc] at known
  exact known

theorem clean_step {initial : Table} {state after : State} {action : Action}
    (clean : Clean initial state.store state.ops) (good : carefulStep state action = true)
    (taken : step state action = some after) : Clean initial after.store after.ops := by
  cases action with
  | call op =>
      obtain rfl := Option.some.inj taken
      exact clean_spawn clean rfl
  | advance place answer =>
      obtain ⟨pc, at_pc, rest⟩ := Option.bind_eq_some_iff.mp taken
      obtain ⟨moved, stepped, rfl⟩ := Option.map_eq_some_iff.mp rest
      exact clean_move clean at_pc (careful_of_step good at_pc) (repo_step_cases stepped)
  | grow =>
      obtain rfl := Option.some.inj taken
      exact clean_grow clean
  | recycle place =>
      obtain ⟨store, recycled, rfl⟩ := Option.map_eq_some_iff.mp taken
      exact clean_recycle clean recycled

theorem traceless_of_clean {initial : Table} {state : State}
    (clean : Clean initial state.store state.ops) : Traceless initial state := by
  refine ⟨?_, clean.accounted⟩
  intro id queued conn found
  obtain rfl := Option.some.inj ((clean.queue id queued).symm.trans found)
  rfl

theorem not_traceless_of_open {initial : Table} {state : State} {id : Nat}
    (queued : id ∈ state.store.idle)
    (opened : (state.store.conns[id]?).any hasTransaction = true) : ¬Traceless initial state := by
  intro traceless
  obtain ⟨conn, found, still⟩ := (Option.any_eq_true _ _).mp opened
  rw [traceless.closed id queued conn found] at still
  cases still

theorem thrown_fails {store after : Store} {conn : Connection} {damage : Damage}
    {pc next : RepoPc} {id : Nat} (held : connOf pc = some id)
    (move : ConnMove store conn (.throws damage) pc after next) :
    next = failed id ∧ ∃ call driven, callOf pc = some call ∧
      drive store id conn call (.throws damage) = some (driven, false) ∧
        after.conns = driven.conns := by
  cases move with
  | fails same made driveCall =>
      obtain rfl := Option.some.inj (held.symm.trans same)
      exact ⟨rfl, _, _, made, driveCall, record_if_conns _ _ _⟩
  | skipsBegin _ returned | skipsCommit _ returned | skipsRollback _ returned => cases returned
  | begins _ driveCall | selects driveCall | updates driveCall | commits _ driveCall
  | restores driveCall | rollsBack _ driveCall | restoresError driveCall | states driveCall =>
      cases drive_outcome driveCall with
      | returned returned _ => cases returned

theorem leaves_open {store driven : Store} {pc : RepoPc} {id : Nat} {call : DriverCall}
    {damage : Damage} (fits : Fits store pc) (held : connOf pc = some id)
    (made : callOf pc = some call) (left : leaves pc damage = true)
    (driveCall : drive store id (session pc) call (.throws damage) = some (driven, false)) :
    (driven.conns[id]?).any hasTransaction = true := by
  have found := fits.session id held
  have flagged : (session pc).transaction = true →
      (driven.conns[id]?).any hasTransaction = true := by
    intro flag
    obtain ⟨kept, there, same⟩ := same_flag_drive found driveCall
    rw [there, Option.any_some, hasTransaction, same, flag]
    rfl
  cases pc with
  | begin conn item quantity =>
      cases damage with
      | performed =>
          obtain rfl := Option.some.inj held
          obtain rfl := Option.some.inj made
          cases driveCall
          rw [set_conn_conns, lookup_move_self found]
          rfl
      | nothing | rolledBack | unprepared => cases left
  | select _ _ _ | update _ _ _ _ | commit _ _ _ _ | restore _ _ _ _ | rollback _ _
  | restoreError _ _ => exact flagged rfl
  | statement _ _ | release _ _ | idle | connect _ | done _ => cases left

/-- Apart from `prepareStatement`, every other exception leads to a trace as soon as the call
returns its connection. -/
theorem careless_leaves_trace {initial : Table} {state middle : State} {place : Nat}
    {answer : RepoAnswer} (clean : Clean initial state.store state.ops)
    (prepared : unprepared answer = false)
    (careless : carefulStep state (.advance place answer) = false)
    (taken : step state (.advance place answer) = some middle) :
    ∃ after, step middle (.advance place .go) = some after ∧ ¬Traceless initial after := by
  obtain ⟨pc, at_pc, rest⟩ := Option.bind_eq_some_iff.mp taken
  obtain ⟨moved, stepped, rfl⟩ := Option.map_eq_some_iff.mp rest
  simp only [carefulStep, prepared, at_pc, Option.all_some, Bool.not_false,
    Bool.true_and] at careless
  have fits := clean.fits place pc at_pc
  obtain ⟨store, next⟩ := moved
  cases repo_step_cases stepped with
  | takes _ => cases careless
  | timesOut => cases careless
  | throws => cases careless
  | returns => cases careless
  | @calls _ _ id conn answer _ held found move =>
      cases answer with
      | returns => cases careless
      | throws damage =>
          obtain rfl := Option.some.inj ((fits.session id held).symm.trans found)
          obtain ⟨rfl, call, driven, made, driveCall, conns⟩ := thrown_fails held move
          have left : leaves pc damage = true := by simpa [careful] using careless
          have opened := leaves_open fits held made left driveCall
          have there : (state.ops.set place (failed id))[place]? = some (failed id) :=
            lookup_move_self at_pc
          refine ⟨⟨{ store with idle := store.idle ++ [id] },
            (state.ops.set place (failed id)).set place (.done (.error .mysqlUpdateFailed))⟩,
            ?_, ?_⟩
          · simp only [step, there]
            rfl
          · have queued : id ∈ store.idle ++ [id] := by simp
            refine not_traceless_of_open queued ?_
            change (store.conns[id]?).any hasTransaction = true
            rw [conns]
            exact opened

def tenPieces : Table := noWrites.put 1 10

/-- A deduction is made although `begin` has thrown in an earlier call. -/
def carefulRun : List Action :=
  [.call (.deductStock 1 4), .advance 0 .front, .advance 0 (.driver (.throws .nothing)),
    .advance 0 .go, .call (.deductStock 1 3), .advance 1 .front, .advance 1 (.driver .returns),
    .advance 1 (.driver .returns), .advance 1 (.driver .returns), .advance 1 (.driver .returns)]

/-- The call that commits fails, and the connection goes back with its transaction. -/
def failedDeduction : List Action :=
  [.call (.deductStock 1 3), .advance 0 .front, .advance 0 (.driver .returns),
    .advance 0 (.driver .returns), .advance 0 (.driver .returns),
    .advance 0 (.driver (.throws .nothing)), .advance 0 .go]

def laterDeduction : List Action :=
  [.call (.deductStock 1 2), .advance 1 .front, .advance 1 (.driver .returns),
    .advance 1 (.driver .returns), .advance 1 (.driver .returns), .advance 1 (.driver .returns)]

end BackendComponents.Inventory.Transactions
