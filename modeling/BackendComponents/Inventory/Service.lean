import BackendComponents.Inventory.Sessions

/-!
# The inventory service over two stores

A transcription of `InventoryService::deduct` with its fallback, its compensation and the
detached threads that rebuild a key, one call of Redis or of the repository for each step.
The pool of Redis connections is known here by what `get_connection` answers, and an error
of a Redis command may be reported before or after the command has been carried out.
-/

namespace BackendComponents.Inventory.Service

open BackendComponents.Lib.Threads
open BackendComponents.Inventory.Database
open BackendComponents.Inventory.Repository
open BackendComponents.Inventory.Sessions

set_option autoImplicit false

inductive LuaResult
  | keyNotFound
  | stockInsufficient
  | deductSuccess
  deriving DecidableEq, Repr

structure DeductResult where
  result : LuaResult
  remainingStock : Int
  deriving DecidableEq, Repr

/-- The script of `deduct_script`: the value of the key after it and the reply. -/
def deductScript (value : Option Int) (quantity : Int) : Option Int × List (Option Int) :=
  match value with
  | none => (none, [some (-1), some 0])
  | some current =>
      if current < quantity then (some current, [some 0, some current])
      else (some (current - quantity), [some 1, some (current - quantity)])

/-- The conversion from `long long` to `int`. -/
def toInt (value : Int) : Int := value.bmod 0x100000000

def parseResult : List (Option Int) → DeductResult
  | some code :: some stock :: _ =>
      { result :=
          if toInt code = 0 then .stockInsufficient
          else if toInt code = 1 then .deductSuccess
          else .keyNotFound
        remainingStock := toInt stock }
  | _ => { result := .keyNotFound, remainingStock := 0 }

inductive ServiceError
  | invalidArg
  | stockInsufficient
  | mysqlUpdateFailed
  deriving DecidableEq, Repr

/-- `threw` is an exception of the repository that passes through. -/
inductive Outcome
  | success (remaining : Int)
  | error (code : ServiceError)
  | threw
  deriving DecidableEq, Repr

/-- The two callers of `deduct_stock`, with the stock that the script has left. -/
inductive Route
  | fast (remaining : Int)
  | fallback
  deriving DecidableEq, Repr

inductive CallPc
  | validate
  | connect
  | script
  | repository (route : Route) (pc : RepoPc)
  | retry (attempt : Nat)
  | increment (attempt : Nat)
  | returned (outcome : Outcome)
  deriving DecidableEq, Repr

structure Call where
  item : Item
  quantity : Int
  point : CallPc
  deriving DecidableEq, Repr

inductive RebuildPc
  | connect
  | set
  | done
  deriving DecidableEq, Repr

structure Rebuild where
  item : Item
  stock : Int
  point : RebuildPc
  deriving DecidableEq, Repr

/-- `redis` has the values of the stock keys by item. -/
structure State where
  store : Store
  redis : Table
  calls : List Call
  rebuilds : List Rebuild

inductive RedisAnswer
  | returns
  | throws (performed : Bool)
  deriving DecidableEq, Repr

inductive Answer
  | go
  | connected
  | unavailable
  | redis (answer : RedisAnswer)
  | repo (answer : RepoAnswer)
  deriving DecidableEq, Repr

def carriedOut : RedisAnswer → Bool
  | .returns => true
  | .throws performed => performed

def setKey (redis : Table) (item : Item) (value : Option Int) : Table :=
  fun other => if other = item then value else redis other

/-- `INCRBY`, which takes an absent key for zero. -/
def incrBy (redis : Table) (item : Item) (quantity : Int) : Table :=
  setKey redis item (some ((redis item).getD 0 + quantity))

def enterRepository (call : Call) (route : Route) : CallPc :=
  .repository route (.connect (.deductStock call.item call.quantity))

def afterScript (call : Call) (reply : DeductResult) : CallPc :=
  match reply.result with
  | .keyNotFound => enterRepository call .fallback
  | .stockInsufficient => .returned (.error .stockInsufficient)
  | .deductSuccess => enterRepository call (.fast reply.remainingStock)

def afterRepository : Route → RepoResult → Option CallPc
  | .fast remaining, .stock _ => some (.returned (.success remaining))
  | .fast _, .error _ => some (.retry 0)
  | .fallback, .stock newStock => some (.returned (.success newStock))
  | .fallback, .error _ => some (.returned (.error .mysqlUpdateFailed))
  | _, .threw => some (.returned .threw)
  | _, .done => none

def detached (item : Item) : Route → RepoResult → List Rebuild
  | .fallback, .stock newStock => [{ item := item, stock := newStock, point := .connect }]
  | _, _ => []

def callStep (retryTimes : Int) (state : State) (call : Call) (answer : Answer) :
    Option (State × CallPc) :=
  match call.point, answer with
  | .validate, .go =>
      if call.item ≤ 0 ∨ call.quantity ≤ 0 then some (state, .returned (.error .invalidArg))
      else some (state, .connect)
  | .connect, .connected => some (state, .script)
  | .connect, .unavailable => some (state, enterRepository call .fallback)
  | .script, .redis command =>
      let run := deductScript (state.redis call.item) call.quantity
      let redis := if carriedOut command then setKey state.redis call.item run.1 else state.redis
      some ({ state with redis := redis },
        if command = .returns then afterScript call (parseResult run.2)
        else enterRepository call .fallback)
  | .repository route (.done result), .go =>
      (afterRepository route result).map fun next =>
        ({ state with rebuilds := state.rebuilds ++ detached call.item route result }, next)
  | .repository route pc, .repo answer =>
      (repoStep state.store pc answer).map fun moved =>
        ({ state with store := moved.1 }, .repository route moved.2)
  | .retry attempt, .go =>
      if (attempt : Int) < retryTimes then none
      else some (state, .returned (.error .mysqlUpdateFailed))
  | .retry attempt, .connected =>
      if (attempt : Int) < retryTimes then some (state, .increment attempt) else none
  | .retry attempt, .unavailable =>
      if (attempt : Int) < retryTimes then some (state, .retry (attempt + 1)) else none
  | .increment attempt, .redis command =>
      let redis := if carriedOut command then incrBy state.redis call.item call.quantity
        else state.redis
      some ({ state with redis := redis },
        if command = .returns then .returned (.error .mysqlUpdateFailed)
        else .retry (attempt + 1))
  | _, _ => none

def rebuildStep (redis : Table) (rebuild : Rebuild) (answer : Answer) : Option (Table × RebuildPc) :=
  match rebuild.point, answer with
  | .connect, .connected => some (redis, .set)
  | .connect, .unavailable => some (redis, .done)
  | .set, .redis command =>
      some (if carriedOut command then redis.put rebuild.item rebuild.stock else redis, .done)
  | _, _ => none

inductive Action
  | request (item : Item) (quantity : Int)
  | call (id : Nat) (answer : Answer)
  | rebuild (id : Nat) (answer : Answer)
  | evict (item : Item)
  | grow
  | recycle (place : Nat)
  deriving DecidableEq, Repr

/-- One step of the system; Redis evicts keys and the pool of MySQL connections grows and
shrinks on their own. -/
def step (retryTimes : Int) (state : State) : Action → Option State
  | .request item quantity =>
      some { state with
        calls := state.calls ++ [{ item := item, quantity := quantity, point := .validate }] }
  | .call id answer =>
      (state.calls[id]?).bind fun call =>
        (callStep retryTimes state call answer).map fun moved =>
          { moved.1 with calls := state.calls.set id { call with point := moved.2 } }
  | .rebuild id answer =>
      (state.rebuilds[id]?).bind fun rebuild =>
        (rebuildStep state.redis rebuild answer).map fun moved =>
          { state with
            redis := moved.1
            rebuilds := state.rebuilds.set id { rebuild with point := moved.2 } }
  | .evict item => some { state with redis := setKey state.redis item none }
  | .grow => some { state with store := grow state.store }
  | .recycle place => (recycle state.store place).map fun store => { state with store := store }

def start (stock redis : Table) (connections : Nat) : State where
  store := opened stock connections
  redis := redis
  calls := []
  rebuilds := []

def repoPc (call : Call) : RepoPc :=
  match call.point with
  | .repository _ pc => pc
  | _ => .idle

/-- The operations on the repository that are in progress, one for each call. -/
def operations (state : State) : List RepoPc := state.calls.map repoPc

end BackendComponents.Inventory.Service
