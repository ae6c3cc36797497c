import BackendComponents.Inventory.Database

/-!
# The repository on pooled connections

A transcription of `InventoryRepository` with `begin`, `commit` and `rollback` of
`MySQLConnection`, one driver call for each step. Preparing a statement and setting its
parameters change nothing on the server, so an exception while a parameter is set is one of
the next call before it happens, and an exception while the result is read is one after it
happened. An exception of `prepareStatement` is an answer of its own, since it leaves
`m_pstmt` deleted. The guard gives the connection back as it is: `is_valid` looks at
pointers only.

The pool is known here by its queue. When it creates connections, and which idle ones it
recycles, is not decided by its callers.
-/

namespace BackendComponents.Inventory.Repository

open BackendComponents.Lib.Threads
open BackendComponents.Inventory.Database

set_option autoImplicit false

inductive ErrorCode
  | mysqlUnavailable
  | mysqlUpdateFailed
  | stockInsufficient
  | notFound
  deriving DecidableEq, Repr

/-- `threw` is an exception that leaves the function: `get_connection` is outside the
`try` block. -/
inductive RepoResult
  | done
  | stock (value : Int)
  | error (code : ErrorCode)
  | threw
  deriving DecidableEq, Repr

/-- The operations that make one statement without a transaction of their own. -/
inductive PlainOp
  | getStock (item : Item)
  | initStock (item : Item) (stock : Int)
  | updateStock (item : Item) (stock : Int)
  deriving DecidableEq, Repr

inductive RepoOp
  | deductStock (item : Item) (quantity : Int)
  | plain (op : PlainOp)
  deriving DecidableEq, Repr

/-- The program points, with the number of the connection that the guard holds; `idle` is
outside the repository. -/
inductive RepoPc
  | idle
  | connect (op : RepoOp)
  | begin (conn : Nat) (item : Item) (quantity : Int)
  | select (conn : Nat) (item : Item) (quantity : Int)
  | update (conn : Nat) (item : Item) (quantity newStock : Int)
  | commit (conn : Nat) (item : Item) (quantity newStock : Int)
  | restore (conn : Nat) (item : Item) (quantity newStock : Int)
  | rollback (conn : Nat) (code : ErrorCode)
  | restoreError (conn : Nat) (code : ErrorCode)
  | statement (conn : Nat) (op : PlainOp)
  | release (conn : Nat) (result : RepoResult)
  | done (result : RepoResult)
  deriving DecidableEq, Repr

def connOf : RepoPc → Option Nat
  | .idle | .connect _ | .done _ => none
  | .begin conn _ _ | .select conn _ _ | .update conn _ _ _ | .commit conn _ _ _
  | .restore conn _ _ _ | .rollback conn _ | .restoreError conn _ | .statement conn _
  | .release conn _ => some conn

inductive RepoAnswer
  | front
  | timeout
  | createThrows
  | driver (answer : DriverAnswer)
  | go
  deriving DecidableEq, Repr

/-- `prepare_statement` has deleted the old statement and has got no new one. -/
def unprepared : RepoAnswer → Bool
  | .driver (.throws .unprepared) => true
  | _ => false

def setTransaction (store : Store) (id : Nat) (flag : Bool) : Store :=
  match store.conns[id]? with
  | none => store
  | some conn => setConn store id { conn with transaction := flag }

/-- The first step after `get_connection` has returned a connection. -/
def started (id : Nat) : RepoOp → RepoPc
  | .deductStock item quantity => .begin id item quantity
  | .plain op => .statement id op

def failed (id : Nat) : RepoPc := .release id (.error .mysqlUpdateFailed)

def afterSelect (store : Store) (id : Nat) (conn : Connection) (item : Item) (quantity : Int) :
    RepoPc :=
  match visible store conn item with
  | none => .rollback id .mysqlUpdateFailed
  | some current =>
      if current < quantity then .rollback id .stockInsufficient
      else .update id item quantity (current - quantity)

def statementOf : PlainOp → DriverCall
  | .getStock item => .select item
  | .initStock item stock => .insertIgnore item stock
  | .updateStock item stock => .update item stock

/-- An `UPDATE` that finds its row with the new value already affects no row. -/
def statementResult (store : Store) (conn : Connection) : PlainOp → RepoResult
  | .getStock item =>
      match visible store conn item with
      | none => .error .notFound
      | some stock => .stock stock
  | .initStock _ _ => .done
  | .updateStock item stock =>
      match visible store conn item with
      | none => .error .notFound
      | some current => if current = stock then .error .notFound else .done

def statementEntry : PlainOp → Option LedgerEntry
  | .getStock _ => none
  | .initStock item stock => some (.inserted item stock)
  | .updateStock item stock => some (.updated item stock)

def recordIf (answer : DriverAnswer) (entry : Option LedgerEntry) (store : Store) : Store :=
  match entry with
  | none => store
  | some entry => if takesEffect answer then record store entry else store

/-- One driver call of an operation that holds a connection. `begin`, `commit` and
`rollback` make none if `m_transaction` says there is nothing to do. -/
def connStep (store : Store) (conn : Connection) (answer : DriverAnswer) :
    RepoPc → Option (Store × RepoPc)
  | .begin id item quantity =>
      if conn.transaction then
        if answer = .returns then some (store, .select id item quantity) else none
      else (drive store id conn (.setAutoCommit false) answer).map fun driven =>
        if driven.2 then (setTransaction driven.1 id true, .select id item quantity)
        else (driven.1, failed id)
  | .select id item quantity =>
      (drive store id conn (.selectForUpdate item) answer).map fun driven =>
        (driven.1, if driven.2 then afterSelect store id conn item quantity else failed id)
  | .update id item quantity newStock =>
      (drive store id conn (.update item newStock) answer).map fun driven =>
        (driven.1, if driven.2 then .commit id item quantity newStock else failed id)
  | .commit id item quantity newStock =>
      if conn.transaction then
        (drive store id conn .commit answer).map fun driven =>
          (recordIf answer (some (.deducted item quantity)) driven.1,
            if driven.2 then .restore id item quantity newStock else failed id)
      else if answer = .returns then some (store, .release id (.stock newStock)) else none
  | .restore id _ _ newStock =>
      (drive store id conn (.setAutoCommit true) answer).map fun driven =>
        if driven.2 then (setTransaction driven.1 id false, .release id (.stock newStock))
        else (driven.1, failed id)
  | .rollback id code =>
      if conn.transaction then
        (drive store id conn .rollback answer).map fun driven =>
          (driven.1, if driven.2 then .restoreError id code else failed id)
      else if answer = .returns then some (store, .release id (.error code)) else none
  | .restoreError id code =>
      (drive store id conn (.setAutoCommit true) answer).map fun driven =>
        if driven.2 then (setTransaction driven.1 id false, .release id (.error code))
        else (driven.1, failed id)
  | .statement id op =>
      (drive store id conn (statementOf op) answer).map fun driven =>
        (recordIf answer (statementEntry op) driven.1,
          if driven.2 then .release id (statementResult store conn op) else failed id)
  | .idle | .connect _ | .release _ _ | .done _ => none

def repoStep (store : Store) : RepoPc → RepoAnswer → Option (Store × RepoPc)
  | .connect op, .front =>
      match store.idle with
      | [] => none
      | id :: rest => some ({ store with idle := rest }, started id op)
  | .connect _, .timeout => some (store, .done (.error .mysqlUnavailable))
  | .connect _, .createThrows => some (store, .done .threw)
  | .release id result, .go => some ({ store with idle := store.idle ++ [id] }, .done result)
  | pc, .driver answer =>
      (connOf pc).bind fun id =>
        (store.conns[id]?).bind fun conn => connStep store conn answer pc
  | _, _ => none

def grow (store : Store) : Store :=
  { store with
    conns := store.conns ++ [freshConnection]
    idle := store.idle ++ [store.conns.length] }

/-- `recycle_idle_connections` deletes one connection; the server ends its session. -/
def recycle (store : Store) (place : Nat) : Option Store :=
  (store.idle[place]?).bind fun id =>
    (store.conns[id]?).map fun conn =>
      endTransaction false { store with idle := store.idle.eraseIdx place } id conn

/-- The table at the start with some clean connections in the pool. -/
def opened (initial : Table) (connections : Nat) : Store where
  committed := initial
  rowLock := fun _ => none
  conns := List.replicate connections freshConnection
  idle := List.range connections
  ledger := []

end BackendComponents.Inventory.Repository
