import BackendComponents.Amqp.Channels

/-!
# Consumers and producers on one connection

`Consumer::consume_loop` and the threads beside it. A call of `rabbitmq-c` under the
connection's mutex is one step from the lock to the unlock, because nothing else can
touch the connection meanwhile. `amqp_consume_message` is the exception: it waits for
a delivery with the mutex held, so entering it and returning from it are two steps.

What has been delivered on any channel lies in one queue of the connection. The broker
numbers the deliveries of a channel from 1.
-/

namespace BackendComponents.Amqp.Consumers

open BackendComponents.Amqp.Channels

set_option autoImplicit false

/-- An envelope: the message itself plays no role. An acknowledgement has the same
two fields. -/
structure Envelope where
  channel : Nat
  deliveryTag : Nat
  deriving DecidableEq, Repr

/-- The settings of a `Consumer` with the defaults of its constructor. `pool` is the
`ChannelPool` it is given. -/
structure Settings where
  pool : Nat
  noAck : Bool := true
  timeoutMs : Int := -1
  prefetchCount : Int := 0
  deriving DecidableEq, Repr

/-- The program points of `consume_loop`, with the channel that the guard holds. -/
inductive ConsumerPc
  | acquire
  | lockQos (channel : Nat)
  | lockConsume (channel : Nat)
  | testRunning (channel : Nat)
  | lockReceive (channel : Nat)
  | receiving (channel : Nat)
  | handling (channel : Nat) (envelope : Envelope)
  | lockAck (channel : Nat) (envelope : Envelope)
  | lockCancel (channel : Nat)
  | releaseGuard (channel : Nat)
  | ended
  deriving DecidableEq, Repr

structure Consumer where
  settings : Settings
  running : Bool
  pc : ConsumerPc
  deriving DecidableEq, Repr

/-- Code that borrows a channel and calls its methods one after another, except for
those of a consumer. `Producer::send` is such code: `acquire`, `basic_publish`, release.
Which method it calls makes no difference here. -/
inductive BorrowerPc
  | idle
  | holding (channel : Nat)
  | lockOperation (channel : Nat)
  deriving DecidableEq, Repr

structure Borrower where
  pool : Nat
  pc : BorrowerPc
  deriving DecidableEq, Repr

/-- A call of a message handler: which consumer, and the channel it holds. -/
structure Handled where
  consumer : Nat
  held : Nat
  noAck : Bool
  envelope : Envelope
  deriving DecidableEq, Repr

/-- `holder` is the consumer that is inside `amqp_consume_message`, `subscribed` the
channels the broker delivers on. The lists at the end record what happened, in order. -/
structure Connection where
  holder : Option Nat
  failed : Bool
  pools : List (List Nat)
  subscribed : List Nat
  inbox : List Envelope
  delivered : List Envelope
  started : List Handled
  returned : List Handled
  acked : List Envelope
  deriving DecidableEq, Repr

structure State where
  connection : Connection
  consumers : List Consumer
  borrowers : List Borrower
  deriving DecidableEq, Repr

/-- `ChannelPool::acquire` on pool `pool`; blocked while it is empty. -/
def acquire (pool : Nat) (pools : List (List Nat)) : Option (Nat × List (List Nat)) :=
  match pools[pool]? with
  | some (channel :: rest) => some (channel, pools.set pool rest)
  | _ => none

def giveBack (pool channel : Nat) (pools : List (List Nat)) : List (List Nat) :=
  pools.modify pool fun channels => channels ++ [channel]

/-- One step of `consume_loop` by consumer `id`; `reply` is the answer to the call of
`rabbitmq-c` at this point. A message handler that is not set acts like one that does
nothing; the error handler and the log do not matter here. -/
def consumeLoop (id : Nat) (reply : Reply) (connection : Connection) (consumer : Consumer) :
    Option (Connection × Consumer) :=
  match consumer.pc with
  | .acquire =>
      (acquire consumer.settings.pool connection.pools).map fun taken =>
        ({ connection with pools := taken.2 },
          { consumer with
            pc := if 0 < consumer.settings.prefetchCount then .lockQos taken.1
              else .lockConsume taken.1 })
  | .lockQos channel =>
      if connection.holder = none then
        some (connection, { consumer with pc := .lockConsume channel })
      else none
  | .lockConsume channel =>
      if connection.holder = none then
        let subscribed :=
          if performed reply then connection.subscribed ++ [channel] else connection.subscribed
        some ({ connection with subscribed := subscribed },
          if checkRpcReply reply then { consumer with pc := .testRunning channel }
          else { consumer with running := false, pc := .releaseGuard channel })
      else none
  | .testRunning channel =>
      some (connection,
        { consumer with pc := if consumer.running then .lockReceive channel else .lockCancel channel })
  | .lockReceive channel =>
      if connection.holder = none then
        some ({ connection with holder := some id }, { consumer with pc := .receiving channel })
      else none
  | .receiving channel =>
      if checkRpcReply reply then
        match connection.inbox with
        | [] => none
        | envelope :: rest =>
            some ({ connection with
                holder := none
                inbox := rest
                started := connection.started ++ [⟨id, channel, consumer.settings.noAck, envelope⟩] },
              { consumer with pc := .handling channel envelope })
      -- with a null timeout only a broken connection makes the call return empty-handed
      else if 0 ≤ consumer.settings.timeoutMs ∨ connection.failed = true then
        some ({ connection with holder := none }, { consumer with pc := .testRunning channel })
      else none
  | .handling channel envelope =>
      some ({ connection with
          returned := connection.returned ++ [⟨id, channel, consumer.settings.noAck, envelope⟩] },
        { consumer with
          pc := if consumer.settings.noAck then .testRunning channel else .lockAck channel envelope })
  | .lockAck channel envelope =>
      if connection.holder = none then
        some ({ connection with acked := connection.acked ++ [⟨channel, envelope.deliveryTag⟩] },
          { consumer with pc := .testRunning channel })
      else none
  | .lockCancel channel =>
      if connection.holder = none then
        let subscribed :=
          if performed reply then connection.subscribed.erase channel else connection.subscribed
        some ({ connection with subscribed := subscribed },
          { consumer with pc := .releaseGuard channel })
      else none
  | .releaseGuard channel =>
      some ({ connection with
          pools := giveBack consumer.settings.pool channel connection.pools },
        { consumer with pc := .ended })
  | .ended => none

inductive Choice
  | callMethod
  | giveBack
  deriving DecidableEq, Repr

def borrow (choice : Choice) (connection : Connection) (borrower : Borrower) :
    Option (Connection × Borrower) :=
  match borrower.pc with
  | .idle =>
      (acquire borrower.pool connection.pools).map fun taken =>
        ({ connection with pools := taken.2 }, { borrower with pc := .holding taken.1 })
  | .holding channel =>
      match choice with
      | .callMethod => some (connection, { borrower with pc := .lockOperation channel })
      | .giveBack =>
          some ({ connection with pools := giveBack borrower.pool channel connection.pools },
            { borrower with pc := .idle })
  | .lockOperation channel =>
      if connection.holder = none then some (connection, { borrower with pc := .holding channel })
      else none

/-- The broker delivers a message on a channel that it has a subscription for; how many
it may have outstanding is left open. -/
def deliver (channel : Nat) (connection : Connection) : Option Connection :=
  if channel ∈ connection.subscribed ∧ connection.failed = false then
    let envelope : Envelope :=
      ⟨channel, connection.delivered.countP (fun earlier => earlier.channel == channel) + 1⟩
    some { connection with
      inbox := connection.inbox ++ [envelope]
      delivered := connection.delivered ++ [envelope] }
  else none

/-- `stop` is called by any thread, `fail` is the loss of the connection. -/
inductive Action
  | consumer (id : Nat) (reply : Reply)
  | borrower (id : Nat) (choice : Choice)
  | stop (id : Nat)
  | deliver (channel : Nat)
  | fail
  deriving DecidableEq, Repr

def step (state : State) : Action → Option State
  | .consumer id reply =>
      state.consumers[id]?.bind fun consumer =>
        (consumeLoop id reply state.connection consumer).map fun result =>
          { state with connection := result.1, consumers := state.consumers.set id result.2 }
  | .borrower id choice =>
      state.borrowers[id]?.bind fun borrower =>
        (borrow choice state.connection borrower).map fun result =>
          { state with connection := result.1, borrowers := state.borrowers.set id result.2 }
  | .stop id =>
      state.consumers[id]?.map fun consumer =>
        { state with consumers := state.consumers.set id { consumer with running := false } }
  | .deliver channel =>
      (deliver channel state.connection).map fun connection =>
        { state with connection := connection }
  | .fail => some { state with connection := { state.connection with failed := true } }

/-- The consumers have been started and the channels are all in their pools. -/
def launched (pools : List (List Nat)) (consumers : List Settings) (borrowers : List Nat) :
    State where
  connection :=
    { holder := none
      failed := false
      pools := pools
      subscribed := []
      inbox := []
      delivered := []
      started := []
      returned := []
      acked := [] }
  consumers := consumers.map fun settings => ⟨settings, true, .acquire⟩
  borrowers := borrowers.map fun pool => ⟨pool, .idle⟩

end BackendComponents.Amqp.Consumers
