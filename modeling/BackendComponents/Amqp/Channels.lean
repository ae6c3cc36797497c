/-!
# A channel and its number at the broker

`channel.cpp`. Of the `rabbitmq-c` calls only the reply type is kept, which is all
that `check_rpc_reply` looks at. Beside each `Channel` object stands what the broker
knows about the channel with its number: an operation answered by a server exception
closes it there, and until it is opened again no later operation succeeds.

Every method runs under the mutex of the connection from its request to its reply.
-/

namespace BackendComponents.Amqp.Channels

set_option autoImplicit false

/-- `reply_type`. After a library exception, such as a timeout, the broker may or may
not have carried out the request. -/
inductive Reply
  | normal
  | serverException
  | libraryException (performed : Bool)
  deriving DecidableEq, Repr

def checkRpcReply : Reply → Bool
  | .normal => true
  | .serverException => false
  | .libraryException _ => false

def performed : Reply → Bool
  | .normal => true
  | .serverException => false
  | .libraryException done => done

structure Channel where
  channelId : Nat
  isOpen : Bool
  deriving DecidableEq, Repr

/-- `refused`: an operation was answered by a server exception since the channel was
last opened. -/
structure BrokerChannel where
  isOpen : Bool
  refused : Bool
  deriving DecidableEq, Repr

/-- A `Channel` object and its counterpart. -/
structure Link where
  channel : Channel
  broker : BrokerChannel
  deriving DecidableEq, Repr

/-- The methods that leave `m_open` alone. -/
inductive Operation
  | exchangeDeclare
  | exchangeDelete
  | exchangeBind
  | exchangeUnbind
  | queueDeclare
  | queueDelete
  | queueBind
  | queueUnbind
  | queuePurge
  | basicPublish
  | basicConsume
  | basicAck
  | basicNack
  | basicQos
  | basicCancel
  | consumeMessage
  deriving DecidableEq, Repr

/-- What the broker makes of a request whose success would be `done`. -/
def settle (reply : Reply) (done : BrokerChannel → BrokerChannel) (broker : BrokerChannel) :
    BrokerChannel :=
  match reply with
  | .serverException => { isOpen := false, refused := true }
  | other => if performed other then done broker else broker

/-- `Channel::Channel`, before `open`. -/
def newLink (channelId : Nat) : Link where
  channel := { channelId := channelId, isOpen := false }
  broker := { isOpen := false, refused := false }

/-- `Channel::open`. A connection that is not initialized gives the same result as a
library exception before the request was sent. -/
def openChannel (reply : Reply) (link : Link) : Bool × Link :=
  let broker := settle reply (fun _ => { isOpen := true, refused := false }) link.broker
  if checkRpcReply reply then
    (true, { channel := { link.channel with isOpen := true }, broker := broker })
  else (false, { link with broker := broker })

def closeChannel (reply : Reply) (link : Link) : Bool × Link :=
  if link.channel.isOpen then
    let broker := settle reply (fun before => { before with isOpen := false }) link.broker
    if checkRpcReply reply then
      (true, { channel := { link.channel with isOpen := false }, broker := broker })
    else (false, { link with broker := broker })
  else (true, link)

/-- `basic_ack` and `basic_nack` report success without looking, `basic_publish` only
fails when the message could not be sent; the broker may answer all three later. -/
def result (operation : Operation) (reply : Reply) : Bool :=
  match operation, reply with
  | .basicAck, _ => true
  | .basicNack, _ => true
  | .basicPublish, .serverException => true
  | _, other => checkRpcReply other

def operate (operation : Operation) (reply : Reply) (link : Link) : Bool × Link :=
  (result operation reply, { link with broker := settle reply (fun broker => broker) link.broker })

/-- An operation on a channel that is closed at the broker does not succeed. -/
def admissible (reply : Reply) (link : Link) : Bool :=
  link.broker.isOpen || reply != .normal

end BackendComponents.Amqp.Channels
