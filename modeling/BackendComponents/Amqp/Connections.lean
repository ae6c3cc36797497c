import BackendComponents.Amqp.Channels
import BackendComponents.Lib.Paths

/-!
# The connection and the handle behind it

`connection.cpp`, and `channel.cpp` as far as it goes for the handle. Which step of a
connect sequence fails is an input. A channel points to a `Connection` object, moved from or
not; there is no step where that object is gone. The settings play no role.

`invalid` records the calls of `rabbitmq-c` that were given no handle, or a destroyed one.
-/

namespace BackendComponents.Amqp.Connections

open BackendComponents.Amqp.Channels

set_option autoImplicit false

/-- An `amqp_connection_state_t`, named by its place in the order of creation. -/
abbrev Handle := Nat

structure Library where
  created : Nat
  destroyed : List Handle
  invalid : List (Option Handle)
  deriving DecidableEq, Repr

def Library.isLive (library : Library) : Option Handle → Bool
  | none => false
  | some handle => decide (handle < library.created ∧ handle ∉ library.destroyed)

/-- Any call that takes a handle and neither creates nor destroys one. -/
def Library.call (library : Library) (handle : Option Handle) : Library :=
  if library.isLive handle then library
  else { library with invalid := library.invalid ++ [handle] }

/-- `amqp_destroy_connection` -/
def Library.destroy (library : Library) (handle : Option Handle) : Library :=
  { library.call handle with destroyed := library.destroyed ++ handle.toList }

/-- `amqp_new_connection` -/
def Library.create (library : Library) : Library :=
  { library with created := library.created + 1 }

structure Connection where
  conn : Option Handle
  init : Bool
  deriving DecidableEq, Repr

def unconnected : Connection := ⟨none, false⟩

inductive Failure
  | newConnection
  | tcpSocketNew
  | socketOpen
  | login
  deriving DecidableEq, Repr

/-- The sequence that `init` and `reconnect` share, up to its failure. The socket that is
opened belongs to the handle. -/
def connect (library : Library) (failure : Option Failure) : Library × Connection :=
  let handle := some library.created
  match failure with
  | some .newConnection => (library, ⟨none, false⟩)
  | some .tcpSocketNew => (library.create.call handle, ⟨handle, false⟩)
  | some .socketOpen => (library.create.call handle, ⟨handle, false⟩)
  | some .login => ((library.create.call handle).call handle, ⟨handle, false⟩)
  | none => ((library.create.call handle).call handle, ⟨handle, true⟩)

/-- After a failure `m_conn` may have a handle that has not been destroyed. -/
def init (library : Library) (connection : Connection) (failure : Option Failure) :
    Library × Connection :=
  if connection.init then (library, connection) else connect library failure

def reconnect (library : Library) (connection : Connection) (failure : Option Failure) :
    Library × Connection :=
  match connection.conn with
  | none => connect library failure
  | some handle =>
      let closed := if connection.init then library.call (some handle) else library
      connect (closed.destroy (some handle)) failure

def destroy (library : Library) (connection : Connection) : Library :=
  if connection.conn.isSome && connection.init then
    (library.call connection.conn).destroy connection.conn
  else library

/-- `Connection::connection` -/
def handleOf (connection : Connection) : Option Handle :=
  if connection.init then connection.conn else none

/-- `m_connection` by its place in the table. -/
structure Channel where
  connection : Nat
  isOpen : Bool
  deriving DecidableEq, Repr

/-- `connection()` is asked for a null pointer first. The reply is asked for after the request. -/
def openChannel (library : Library) (connection : Connection) (reply : Reply)
    (channel : Channel) : Library × Channel :=
  match handleOf connection with
  | none => (library, channel)
  | some handle =>
      ((library.call (some handle)).call (some handle),
        { channel with isOpen := channel.isOpen || checkRpcReply reply })

def closeChannel (library : Library) (connection : Connection) (reply : Reply)
    (channel : Channel) : Library × Channel :=
  if channel.isOpen then
    match handleOf connection with
    | none => (library, channel)
    | some handle =>
        ((library.call (some handle)).call (some handle),
          { channel with isOpen := !checkRpcReply reply })
  else (library, channel)

/-- How many calls an operation makes: most ask for the reply after the request. -/
def calls : Operation → Nat
  | .basicPublish | .basicAck | .basicNack => 1
  | _ => 2

/-- The operations give what `connection()` returns to each of their calls. -/
def operate (library : Library) (connection : Connection) (operation : Operation) : Library :=
  (List.replicate (calls operation) (handleOf connection)).foldl Library.call library

def setRpcTimeout (library : Library) (connection : Connection) (timeoutMs : Int) : Library :=
  if timeoutMs < 0 then library else library.call (handleOf connection)

def destroyChannel (library : Library) (connection : Connection) (reply : Reply)
    (channel : Channel) : Library :=
  let shortened := setRpcTimeout library connection 1000
  let closed := (closeChannel shortened connection reply channel).1
  setRpcTimeout closed connection 120000

structure State where
  library : Library
  connections : List (Option Connection)
  channels : List (Option Channel)
  deriving DecidableEq, Repr

def started : State := ⟨⟨0, [], []⟩, [], []⟩

inductive Action
  | construct
  | init (id : Nat) (failure : Option Failure)
  | reconnect (id : Nat) (failure : Option Failure)
  | moveConstruct (source : Nat)
  | moveAssign (target source : Nat)
  | destroy (id : Nat)
  | newChannel (connection : Nat)
  | openChannel (id : Nat) (reply : Reply)
  | closeChannel (id : Nat) (reply : Reply)
  | operate (id : Nat) (operation : Operation)
  | setRpcTimeout (id : Nat) (timeoutMs : Int)
  | moveConstructChannel (source : Nat)
  | moveAssignChannel (target source : Nat) (reply : Reply)
  | destroyChannel (id : Nat) (reply : Reply)
  deriving DecidableEq, Repr

def connectionAt (state : State) (id : Nat) : Option Connection := state.connections[id]?.join

def channelAt (state : State) (id : Nat) : Option (Channel × Connection) :=
  state.channels[id]?.join.bind fun channel =>
    (connectionAt state channel.connection).map fun connection => (channel, connection)

def putConnection (state : State) (id : Nat) (result : Library × Connection) : State :=
  { state with library := result.1, connections := state.connections.set id (some result.2) }

def putChannel (state : State) (id : Nat) (result : Library × Channel) : State :=
  { state with library := result.1, channels := state.channels.set id (some result.2) }

def step (state : State) : Action → Option State
  | .construct => some { state with connections := state.connections ++ [some unconnected] }
  | .init id failure =>
      (connectionAt state id).map fun connection =>
        putConnection state id (init state.library connection failure)
  | .reconnect id failure =>
      (connectionAt state id).map fun connection =>
        putConnection state id (reconnect state.library connection failure)
  | .moveConstruct source =>
      (connectionAt state source).map fun connection =>
        { state with
          connections := state.connections.set source (some unconnected) ++ [some connection] }
  | .moveAssign target source =>
      (connectionAt state target).bind fun _ =>
        (connectionAt state source).map fun other =>
          if target = source then state
          else { state with
            connections := (state.connections.set target (some other)).set source
              (some unconnected) }
  | .destroy id =>
      (connectionAt state id).map fun connection =>
        { state with
          library := destroy state.library connection
          connections := state.connections.set id none }
  | .newChannel connection =>
      (connectionAt state connection).map fun _ =>
        { state with channels := state.channels ++ [some ⟨connection, false⟩] }
  | .openChannel id reply =>
      (channelAt state id).map fun found =>
        putChannel state id (openChannel state.library found.2 reply found.1)
  | .closeChannel id reply =>
      (channelAt state id).map fun found =>
        putChannel state id (closeChannel state.library found.2 reply found.1)
  | .operate id operation =>
      (channelAt state id).map fun found =>
        { state with library := operate state.library found.2 operation }
  | .setRpcTimeout id timeoutMs =>
      (channelAt state id).map fun found =>
        { state with library := setRpcTimeout state.library found.2 timeoutMs }
  | .moveConstructChannel source =>
      state.channels[source]?.join.map fun channel =>
        { state with
          channels := state.channels.set source (some { channel with isOpen := false }) ++
            [some channel] }
  | .moveAssignChannel target source reply =>
      (channelAt state target).bind fun found =>
        state.channels[source]?.join.map fun other =>
          if target = source then state
          else
            { putChannel state target
                ((closeChannel state.library found.2 reply found.1).1, other) with
              channels := (state.channels.set target (some other)).set source
                (some { other with isOpen := false }) }
  | .destroyChannel id reply =>
      (channelAt state id).map fun found =>
        { state with
          library := destroyChannel state.library found.2 reply found.1
          channels := state.channels.set id none }

end BackendComponents.Amqp.Connections
