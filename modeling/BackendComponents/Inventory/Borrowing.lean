import BackendComponents.RedisPool.Moves
import BackendComponents.Inventory.Service

/-!
# The Redis connections of the service

`InventoryService::deduct` again, with the pool of Redis connections as it is and the two
stores by their answers. The guard of `deduct` lives until `deduct` returns, so a call in
`rollback_redis` has its first connection while it asks for another one. A thread of
`async_rebuild_redis` has one guard.
-/

namespace BackendComponents.Inventory.Borrowing

open BackendComponents.Lib.Threads
open BackendComponents.RedisPool.Model (Config Conn Entry Pool GetPc ReturnPc getStep returnStep
  recycleIdleConnections initialised)
open BackendComponents.Inventory.Service (LuaResult)

set_option autoImplicit false

/-- What `deduct_stock` does: an exception may leave it. -/
inductive UpdateResult
  | done
  | failed
  | threw
  deriving DecidableEq, Repr

/-- The program points of a thread that serves requests. `conn` is the connection of the
guard of `deduct`, which the fallback may be without. -/
inductive Deduct
  | idle
  | connect (pc : GetPc)
  | script (conn : Conn)
  | fallback (conn : Option Conn)
  | update (conn : Conn)
  | retry (conn : Conn) (attempt : Nat)
  | again (conn : Conn) (attempt : Nat) (pc : GetPc)
  | increment (conn : Conn) (attempt : Nat) (own : Conn)
  | giveBack (conn : Conn) (attempt : Nat) (added : Bool) (pc : ReturnPc)
  | leave (pc : ReturnPc)
  deriving DecidableEq, Repr

inductive Rebuild
  | connect (pc : GetPc)
  | set (conn : Conn)
  | leave (pc : ReturnPc)
  | done
  deriving DecidableEq, Repr

inductive Answer
  | pool (answer : RedisPool.Model.Answer)
  | script (result : LuaResult)
  | mysql (result : UpdateResult)
  | redis (returns : Bool)
  | go
  deriving DecidableEq, Repr

def connecting : GetPc → Deduct
  | .returned none => .fallback none
  | .returned (some conn) => .script conn
  | pc => .connect pc

def reconnecting (conn : Conn) (attempt : Nat) : GetPc → Deduct
  | .returned none => .retry conn (attempt + 1)
  | .returned (some own) => .increment conn attempt own
  | pc => .again conn attempt pc

def leaving : ReturnPc → Deduct
  | .returned => .idle
  | pc => .leave pc

def leavingWith : Option Conn → Deduct
  | none => .idle
  | some conn => .leave (.check conn)

def givingBack (conn : Conn) (attempt : Nat) (added : Bool) : ReturnPc → Deduct
  | .returned => if added then .leave (.check conn) else .retry conn (attempt + 1)
  | pc => .giveBack conn attempt added pc

def afterScript (conn : Conn) : LuaResult → Deduct
  | .keyNotFound => .fallback (some conn)
  | .stockInsufficient => .leave (.check conn)
  | .deductSuccess => .update conn

def afterUpdate (conn : Conn) : UpdateResult → Deduct
  | .done | .threw => .leave (.check conn)
  | .failed => .retry conn 0

def deductStep (cfg : Config) (retryTimes : Int) (id : Nat) (pool : Pool) :
    Deduct → Answer → Option (Pool × Deduct)
  | .connect pc, .pool answer =>
      (getStep cfg id pool pc answer).map fun moved => (moved.1, connecting moved.2)
  | .script conn, .script result => some (pool, afterScript conn result)
  | .fallback conn, .mysql _ => some (pool, leavingWith conn)
  | .update conn, .mysql result => some (pool, afterUpdate conn result)
  | .retry conn attempt, .go =>
      some (pool, if (attempt : Int) < retryTimes then .again conn attempt .enter
        else .leave (.check conn))
  | .again conn attempt pc, .pool answer =>
      (getStep cfg id pool pc answer).map fun moved => (moved.1, reconnecting conn attempt moved.2)
  | .increment conn attempt own, .redis returns =>
      some (pool, .giveBack conn attempt returns (.check own))
  | .giveBack conn attempt added pc, .pool answer =>
      (returnStep cfg id pool pc answer).map fun moved =>
        (moved.1, givingBack conn attempt added moved.2)
  | .leave pc, .pool answer =>
      (returnStep cfg id pool pc answer).map fun moved => (moved.1, leaving moved.2)
  | _, _ => none

def detaches : Deduct → Answer → List Rebuild
  | .fallback _, .mysql .done => [.connect .enter]
  | _, _ => []

def rebuildConnecting : GetPc → Rebuild
  | .returned none => .done
  | .returned (some conn) => .set conn
  | pc => .connect pc

def rebuildLeaving : ReturnPc → Rebuild
  | .returned => .done
  | pc => .leave pc

def rebuildStep (cfg : Config) (id : Nat) (pool : Pool) :
    Rebuild → Answer → Option (Pool × Rebuild)
  | .connect pc, .pool answer =>
      (getStep cfg id pool pc answer).map fun moved => (moved.1, rebuildConnecting moved.2)
  | .set conn, .redis _ => some (pool, .leave (.check conn))
  | .leave pc, .pool answer =>
      (returnStep cfg id pool pc answer).map fun moved => (moved.1, rebuildLeaving moved.2)
  | _, _ => none

/-- Threads are numbered for the pool with the serving threads first. -/
structure State where
  pool : Pool
  calls : List Deduct
  rebuilds : List Rebuild
  deriving DecidableEq, Repr

inductive Action
  | request (id : Nat)
  | call (id : Nat) (answer : Answer)
  | rebuild (id : Nat) (answer : Answer)
  | recycle (reads : List Entry)
  | wait (ticks : Nat)
  deriving DecidableEq, Repr

def moveCall (state : State) (id : Nat) (moved : Pool × Deduct) (detached : List Rebuild) : State where
  pool := moved.1
  calls := state.calls.set id moved.2
  rebuilds := state.rebuilds ++ detached

def step (cfg : Config) (retryTimes : Int) (state : State) : Action → Option State
  | .request id =>
      match state.calls[id]? with
      | some .idle => some (moveCall state id (state.pool, .connect .enter) [])
      | _ => none
  | .call id answer =>
      (state.calls[id]?).bind fun call =>
        (deductStep cfg retryTimes id state.pool call answer).map fun moved =>
          moveCall state id moved (detaches call answer)
  | .rebuild id answer =>
      (state.rebuilds[id]?).bind fun rebuild =>
        (rebuildStep cfg (state.calls.length + id) state.pool rebuild answer).map fun moved =>
          { state with pool := moved.1, rebuilds := state.rebuilds.set id moved.2 }
  | .recycle reads =>
      if state.pool.mutex = none then
        some { state with
          pool := recycleIdleConnections cfg.minSize cfg.maxIdleTime reads state.pool }
      else none
  | .wait ticks => some { state with pool := { state.pool with clock := state.pool.clock + ticks } }

/-- The pool after an `init` whose connections have all been created, and the threads that
serve requests. -/
def launched (cfg : Config) (clock : Int) (concurrent : Nat) : State where
  pool := initialised clock (List.replicate cfg.minSize.toNat true)
  calls := List.replicate concurrent .idle
  rebuilds := []

/-- The call holds its connection and is blocked in the `get_connection` of
`rollback_redis`. -/
def waits : Deduct → Bool
  | .again _ _ .waiting => true
  | _ => false

/-- As many connections as the pool may have are held by calls that wait for another one. -/
def AllWaiting (cfg : Config) (state : State) : Prop :=
  cfg.maxSize ≤ state.calls.countP waits

end BackendComponents.Inventory.Borrowing
