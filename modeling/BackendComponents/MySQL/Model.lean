import BackendComponents.Lib.Ownership
import BackendComponents.Lib.Paths

/-!
# MySQL connections

A transcription of `MySQLConnection.cpp` as far as it goes for the driver's objects. Which
calls of the driver throw is an input. There is no step where the process ends: at a null
pointer, a failed assertion, or an exception that leaves a `noexcept` function.
-/

namespace BackendComponents.MySQL.Model

set_option autoImplicit false

/-- An object of the driver, named by its place in the order of creation. -/
abbrev Handle := Nat

/-- The driver's connections and statements. The destructor of one does not throw. -/
structure Driver where
  created : Nat
  deleted : List Handle
  deriving DecidableEq, Repr

def Driver.create (driver : Driver) : Driver := { driver with created := driver.created + 1 }

/-- Deleting a null pointer does nothing. -/
def Driver.delete (driver : Driver) (pointer : Option Handle) : Driver :=
  { driver with deleted := driver.deleted ++ pointer.toList }

structure MySQLConnection where
  conn : Option Handle
  stmt : Option Handle
  pstmt : Option Handle
  pre : Bool
  transaction : Bool
  deriving DecidableEq, Repr

/-- What a closed connection and one that has been moved from look like. -/
def emptyConnection : MySQLConnection where
  conn := none
  stmt := none
  pstmt := none
  pre := false
  transaction := false

inductive Constructing
  | connect
  | createStatement
  | setSchema
  deriving DecidableEq, Repr

/-- Up to the call that throws, if any; then there is no object, and its destructor does
not run. -/
def construct (driver : Driver) : Option Constructing → Driver × Option MySQLConnection
  | some .connect => (driver, none)
  | some .createStatement => (driver.create, none)
  | some .setSchema => (driver.create.create, none)
  | none => (driver.create.create, some {
      conn := some driver.created
      stmt := some (driver.created + 1)
      pstmt := none
      pre := false
      transaction := false })

/-- What is left when a function returns or throws. -/
structure Outcome where
  driver : Driver
  self : MySQLConnection
  threw : Bool
  deriving DecidableEq, Repr

/-- `m_conn->close()` comes after both statements are gone and before the fields that say
so are written. -/
def close (driver : Driver) (self : MySQLConnection) (throws : Bool) : Outcome :=
  let released := (driver.delete self.pstmt).delete self.stmt
  if self.conn.isSome && throws then
    { driver := released, self := { self with pstmt := none, stmt := none }, threw := true }
  else { driver := released.delete self.conn, self := emptyConnection, threw := false }

/-- The old statement is deleted first. -/
def prepareStatement (driver : Driver) (self : MySQLConnection) (throws : Bool) :
    Option Outcome :=
  self.conn.map fun _ =>
    let released := driver.delete self.pstmt
    if throws then { driver := released, self := self, threw := true }
    else
      { driver := released.create
        self := { self with pstmt := some released.created, pre := true }
        threw := false }

def beginTransaction (self : MySQLConnection) (throws : Bool) : Option MySQLConnection :=
  if self.transaction then some self
  else self.conn.map fun _ => if throws then self else { self with transaction := true }

/-- `commit` and `rollback`: two calls of the driver, either of which may throw. -/
def endTransaction (self : MySQLConnection) (throws : Bool) : Option MySQLConnection :=
  if self.transaction then
    self.conn.map fun _ => if throws then self else { self with transaction := false }
  else some self

def commit : MySQLConnection → Bool → Option MySQLConnection := endTransaction

def rollback : MySQLConnection → Bool → Option MySQLConnection := endTransaction

/-- The functions that leave the object as it is, whether the driver throws or not. The two
overloads of `execute_update` and of `execute_query` differ in the statement they use. -/
inductive Method
  | connection
  | isValid
  | lastInsertId
  | execute
  | executeUpdate
  | executeQuery
  | executePreparedUpdate
  | executePreparedQuery
  | setInt
  | setString
  | setBigint
  | setBlob
  | setBoolean
  | setDatetime
  | setDouble
  | setUint
  | setInt64
  | setUint64
  | setNull
  | setVector
  | setTransactionIsolation
  deriving DecidableEq, Repr

def ready (self : MySQLConnection) : Method → Bool
  | .connection | .isValid | .lastInsertId => true
  | .execute | .executeUpdate | .executeQuery => self.stmt.isSome
  | .setTransactionIsolation => self.conn.isSome
  | _ => self.pre && self.pstmt.isSome

structure State where
  driver : Driver
  objects : List (Option MySQLConnection)
  deriving DecidableEq, Repr

inductive Action
  | construct (throws : Option Constructing)
  | moveConstruct (other : Nat)
  | moveAssign (id other : Nat) (throws : Bool)
  | destroy (id : Nat) (throws : Bool)
  | close (id : Nat) (throws : Bool)
  | prepareStatement (id : Nat) (throws : Bool)
  | begin (id : Nat) (throws : Bool)
  | commit (id : Nat) (throws : Bool)
  | rollback (id : Nat) (throws : Bool)
  | call (id : Nat) (method : Method)
  deriving DecidableEq, Repr

def object (state : State) (id : Nat) : Option MySQLConnection := state.objects[id]?.join

def put (state : State) (id : Nat) (self : MySQLConnection) : State :=
  { state with objects := state.objects.set id (some self) }

def add (state : State) (self : MySQLConnection) : State :=
  { state with objects := state.objects ++ [some self] }

def finish (state : State) (id : Nat) (outcome : Outcome) : State :=
  put { state with driver := outcome.driver } id outcome.self

def step (state : State) : Action → Option State
  | .construct throws =>
      let built := construct state.driver throws
      some (built.2.elim { state with driver := built.1 } (add { state with driver := built.1 }))
  | .moveConstruct other =>
      (object state other).map fun source => add (put state other emptyConnection) source
  | .moveAssign id other throws =>
      (object state id).bind fun self => (object state other).bind fun source =>
        if id = other then some state
        else
          let closed := close state.driver self throws
          if closed.threw then none
          else some (put (put { state with driver := closed.driver } id source) other
            emptyConnection)
  | .destroy id throws =>
      (object state id).bind fun self =>
        let closed := close state.driver self throws
        if closed.threw then none
        else some { driver := closed.driver, objects := state.objects.set id none }
  | .close id throws =>
      (object state id).map fun self => finish state id (close state.driver self throws)
  | .prepareStatement id throws =>
      (object state id).bind fun self =>
        (prepareStatement state.driver self throws).map (finish state id)
  | .begin id throws =>
      (object state id).bind fun self => (beginTransaction self throws).map (put state id)
  | .commit id throws =>
      (object state id).bind fun self => (commit self throws).map (put state id)
  | .rollback id throws =>
      (object state id).bind fun self => (rollback self throws).map (put state id)
  | .call id method =>
      (object state id).bind fun self => if ready self method then some state else none

def started : State where
  driver := { created := 0, deleted := [] }
  objects := []

end BackendComponents.MySQL.Model
