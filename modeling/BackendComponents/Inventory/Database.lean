import BackendComponents.Lib.Paths
import BackendComponents.Lib.Threads

/-!
# The inventory table and its sessions

The server's side of the driver calls that `InventoryRepository` makes: one table, one
lock for each row, and for each session the mode that `setAutoCommit` sets and the
uncommitted writes of the open transaction. `SELECT ... FOR UPDATE` and the writing
statements wait for the lock of their row, and the lock is kept until the transaction
ends; in autocommit mode every statement is a transaction of its own. A plain `SELECT`
locks nothing, and which snapshot it reads has no effect on the table.

`ledger` is not a part of the server: it lists the explicit writes and the commits of
`deduct_stock` calls in the order in which they took effect.
-/

namespace BackendComponents.Inventory.Database

open BackendComponents.Lib.Threads

set_option autoImplicit false

abbrev Item := Int

/-- The rows `(item_id, stock)`. -/
abbrev Table := Item → Option Int

def Table.put (table : Table) (item : Item) (stock : Int) : Table :=
  fun other => if other = item then some stock else table other

/-- A `MySQLConnection` with its session: `transaction` is the member `m_transaction`. -/
structure Connection where
  transaction : Bool
  autocommit : Bool
  active : Bool
  pending : Table

inductive LedgerEntry
  | deducted (item : Item) (quantity : Int)
  | updated (item : Item) (stock : Int)
  | inserted (item : Item) (stock : Int)
  deriving DecidableEq, Repr

/-- `idle` is `m_conn_queue` of the pool, by connection numbers. -/
structure Store where
  committed : Table
  rowLock : Item → Option Nat
  conns : List Connection
  idle : List Nat
  ledger : List LedgerEntry

def noWrites : Table := fun _ => none

def freshConnection : Connection where
  transaction := false
  autocommit := true
  active := false
  pending := noWrites

/-- What a locking read of this session sees. -/
def visible (store : Store) (conn : Connection) (item : Item) : Option Int :=
  (conn.pending item).or (store.committed item)

def setConn (store : Store) (id : Nat) (conn : Connection) : Store :=
  { store with conns := store.conns.set id conn }

def mayLock (store : Store) (id : Nat) (item : Item) : Bool :=
  decide (store.rowLock item = none ∨ store.rowLock item = some id)

def unlockAll (rowLock : Item → Option Nat) (id : Nat) : Item → Option Nat :=
  fun item => if rowLock item = some id then none else rowLock item

def lockRow (rowLock : Item → Option Nat) (id : Nat) (item : Item) : Item → Option Nat :=
  fun other => if other = item then some id else rowLock other

/-- The end of the transaction of a session, keeping its writes or not. -/
def endTransaction (keep : Bool) (store : Store) (id : Nat) (conn : Connection) : Store :=
  setConn { store with
    committed := if keep then fun item => (conn.pending item).or (store.committed item)
      else store.committed
    rowLock := unlockAll store.rowLock id } id { conn with active := false, pending := noWrites }

inductive DriverCall
  | setAutoCommit (on : Bool)
  | commit
  | rollback
  | selectForUpdate (item : Item)
  | select (item : Item)
  | update (item : Item) (stock : Int)
  | insertIgnore (item : Item) (stock : Int)
  deriving DecidableEq, Repr

/-- A statement that writes one existing row, in the mode of the session. -/
def writeRow (store : Store) (id : Nat) (conn : Connection) (item : Item) (stock : Int) : Store :=
  if conn.autocommit then { store with committed := store.committed.put item stock }
  else setConn { store with rowLock := lockRow store.rowLock id item } id
    { conn with active := true, pending := conn.pending.put item stock }

def touchRow (store : Store) (id : Nat) (conn : Connection) (item : Item) : Store :=
  if conn.autocommit then store
  else setConn { store with
    rowLock := if (visible store conn item).isSome then lockRow store.rowLock id item
      else store.rowLock } id { conn with active := true }

/-- What the server does for a call; `none` while it waits for a lock. -/
def perform (store : Store) (id : Nat) (conn : Connection) : DriverCall → Option Store
  | .setAutoCommit true =>
      -- leaving the transaction mode commits what is open
      some (if conn.autocommit then store
        else setConn (endTransaction true store id conn) id
          { conn with active := false, pending := noWrites, autocommit := true })
  | .setAutoCommit false => some (setConn store id { conn with autocommit := false })
  | .commit => some (endTransaction true store id conn)
  | .rollback => some (endTransaction false store id conn)
  | .selectForUpdate item =>
      if mayLock store id item then some (touchRow store id conn item) else none
  | .select _ =>
      if conn.autocommit then some store else some (setConn store id { conn with active := true })
  | .update item stock =>
      if mayLock store id item then
        if (visible store conn item).isSome then some (writeRow store id conn item stock)
        else some (touchRow store id conn item)
      else none
  | .insertIgnore item stock =>
      if mayLock store id item then
        if (visible store conn item).isSome then some (touchRow store id conn item)
        else some (writeRow store id conn item stock)
      else none

/-- How much of a call has happened when it throws. `rolledBack` is the victim of a
deadlock or a lost session. `unprepared` is an exception of `prepareStatement`:
`prepare_statement` has deleted `m_pstmt` by then and keeps the pointer, and what a later
call does with it is not followed here. -/
inductive Damage
  | nothing
  | performed
  | rolledBack
  | unprepared
  deriving DecidableEq, Repr

inductive DriverAnswer
  | returns
  | throws (damage : Damage)
  deriving DecidableEq, Repr

/-- The calls that go through `prepare_statement`. -/
def prepares : DriverCall → Bool
  | .selectForUpdate _ | .select _ | .update _ _ | .insertIgnore _ _ => true
  | .setAutoCommit _ | .commit | .rollback => false

def drive (store : Store) (id : Nat) (conn : Connection) (call : DriverCall) :
    DriverAnswer → Option (Store × Bool)
  | .returns => (perform store id conn call).map fun after => (after, true)
  | .throws .performed => (perform store id conn call).map fun after => (after, false)
  | .throws .nothing => some (store, false)
  | .throws .rolledBack => some (endTransaction false store id conn, false)
  | .throws .unprepared => if prepares call then some (store, false) else none

def takesEffect : DriverAnswer → Bool
  | .returns | .throws .performed => true
  | .throws .nothing | .throws .rolledBack | .throws .unprepared => false

def record (store : Store) (entry : LedgerEntry) : Store :=
  { store with ledger := store.ledger ++ [entry] }

def applyEntry (table : Table) : LedgerEntry → Table
  | .deducted item quantity =>
      fun other => if other = item then (table item).map fun stock => stock - quantity
        else table other
  | .updated item stock => if (table item).isSome then table.put item stock else table
  | .inserted item stock => if (table item).isSome then table else table.put item stock

def replay (initial : Table) (ledger : List LedgerEntry) : Table :=
  ledger.foldl applyEntry initial

theorem replay_snoc (initial : Table) (ledger : List LedgerEntry) (entry : LedgerEntry) :
    replay initial (ledger ++ [entry]) = applyEntry (replay initial ledger) entry := by
  simp [replay]

/-- What no call of one session can do to the others: their connections, and the rows they
have locked. -/
structure Local (id : Nat) (store after : Store) : Prop where
  conns : ∀ other, other ≠ id → after.conns[other]? = store.conns[other]?
  locks : ∀ item other, other ≠ id → store.rowLock item = some other →
    after.rowLock item = some other ∧ after.committed item = store.committed item

end BackendComponents.Inventory.Database
