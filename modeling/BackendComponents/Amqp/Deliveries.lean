import BackendComponents.Amqp.ConsumerMoves

/-!
# What the broker still expects an acknowledgement for

The broker's side of the connection of `Consumers`: who subscribed on which channel, which
message went to which subscription, and which messages it has put back in their queue. A
delivered message stays assigned to its channel until it is acknowledged or the channel or
the connection closes; `basic_cancel` ends the subscription and nothing else.
-/

namespace BackendComponents.Amqp.Deliveries

open BackendComponents.Amqp.Channels
open BackendComponents.Amqp.Consumers hiding State Action step launched
open BackendComponents.Amqp.ConsumerMoves hiding Move

set_option autoImplicit false

structure Subscription where
  consumer : Nat
  channel : Nat
  noAck : Bool
  deriving DecidableEq, Repr

structure Delivery where
  subscription : Subscription
  envelope : Envelope
  deriving DecidableEq, Repr

/-- `deliveries` and `requeued` record what happened, in order. -/
structure Broker where
  subscriptions : List Subscription
  deliveries : List Delivery
  requeued : List Delivery
  deriving DecidableEq, Repr

structure State where
  world : Consumers.State
  broker : Broker
  deriving DecidableEq, Repr

def unacked (acked : List Envelope) (broker : Broker) : List Delivery :=
  broker.deliveries.filter fun delivery =>
    !delivery.subscription.noAck && decide (delivery.envelope ∉ acked) &&
      decide (delivery ∉ broker.requeued)

def closeChannel (channel : Nat) (acked : List Envelope) (broker : Broker) : Broker :=
  { broker with
    subscriptions := broker.subscriptions.filter fun subscription =>
      decide (subscription.channel ≠ channel)
    requeued := broker.requeued ++ (unacked acked broker).filter fun delivery =>
      decide (delivery.subscription.channel = channel) }

def closeConnection (acked : List Envelope) (broker : Broker) : Broker :=
  { broker with
    subscriptions := []
    requeued := broker.requeued ++ unacked acked broker }

/-- What the broker does with a request on a channel that it answers with `reply`. A server
exception closes the channel. -/
def answer (reply : Reply) (channel : Nat) (acked : List Envelope)
    (done : List Subscription → List Subscription) (broker : Broker) : Broker :=
  match reply with
  | .serverException => closeChannel channel acked broker
  | other =>
      if performed other then { broker with subscriptions := done broker.subscriptions } else broker

/-- The request that consumer `id` sends at this point of `consume_loop`. -/
def serve (id : Nat) (reply : Reply) (acked : List Envelope) (consumer : Consumer)
    (broker : Broker) : Broker :=
  match consumer.pc with
  | .lockQos channel => answer reply channel acked (fun subscriptions => subscriptions) broker
  | .lockConsume channel =>
      answer reply channel acked
        (fun subscriptions => subscriptions ++ [⟨id, channel, consumer.settings.noAck⟩]) broker
  | .lockCancel channel =>
      answer reply channel acked
        (fun subscriptions => subscriptions.erase ⟨id, channel, consumer.settings.noAck⟩) broker
  | _ => broker

/-- The channels to deliver on are those of the broker's subscriptions. -/
def join (world : Consumers.State) (broker : Broker) : State where
  world :=
    { world with connection := { world.connection with
        subscribed := broker.subscriptions.map Subscription.channel } }
  broker := broker

/-- `close` is the closing of a channel by the broker for a reason of its own, or by whoever
got the channel from the pool later. -/
inductive Action
  | consumer (id : Nat) (reply : Reply)
  | borrower (id : Nat) (choice : Choice)
  | stop (id : Nat)
  | deliver (subscription : Subscription)
  | close (channel : Nat)
  | fail
  deriving DecidableEq, Repr

def step (state : State) : Action → Option State
  | .consumer id reply =>
      state.world.consumers[id]?.bind fun consumer =>
        (Consumers.step state.world (.consumer id reply)).map fun world =>
          join world (serve id reply state.world.connection.acked consumer state.broker)
  | .borrower id choice =>
      (Consumers.step state.world (.borrower id choice)).map fun world =>
        { state with world := world }
  | .stop id =>
      (Consumers.step state.world (.stop id)).map fun world => { state with world := world }
  | .deliver subscription =>
      if subscription ∈ state.broker.subscriptions then
        (Consumers.step state.world (.deliver subscription.channel)).map fun world =>
          { world := world
            broker := { state.broker with
              deliveries := state.broker.deliveries ++
                [⟨subscription, nextEnvelope subscription.channel state.world.connection⟩] } }
      else none
  | .close channel =>
      some (join state.world
        (closeChannel channel state.world.connection.acked state.broker))
  | .fail =>
      (Consumers.step state.world .fail).map fun world =>
        join world (closeConnection state.world.connection.acked state.broker)

def launched (pools : List (List Nat)) (consumers : List Settings) (borrowers : List Nat) :
    State where
  world := Consumers.launched pools consumers borrowers
  broker := { subscriptions := [], deliveries := [], requeued := [] }

/-! ## What one step does -/

/-- The messages delivered stay recorded, and only what is not acknowledged is requeued. -/
structure Extends (before after : Broker) : Prop where
  deliveries : after.deliveries = before.deliveries
  requeued : before.requeued ⊆ after.requeued
  delivered : after.requeued ⊆ before.requeued ++ before.deliveries

theorem Extends.refl (broker : Broker) : Extends broker broker where
  deliveries := rfl
  requeued := fun _ member => member
  delivered := List.subset_append_left _ _

theorem extends_close_channel (channel : Nat) (acked : List Envelope) (broker : Broker) :
    Extends broker (closeChannel channel acked broker) where
  deliveries := rfl
  requeued := List.subset_append_left _ _
  delivered := by
    apply List.append_subset.mpr ⟨List.subset_append_left _ _, _⟩
    intro delivery member
    apply List.mem_append_right
    exact (List.mem_filter.mp (List.mem_filter.mp member).1).1

theorem extends_close_connection (acked : List Envelope) (broker : Broker) :
    Extends broker (closeConnection acked broker) where
  deliveries := rfl
  requeued := List.subset_append_left _ _
  delivered := by
    apply List.append_subset.mpr ⟨List.subset_append_left _ _, _⟩
    intro delivery member
    apply List.mem_append_right
    exact (List.mem_filter.mp member).1

theorem extends_answer (reply : Reply) (channel : Nat) (acked : List Envelope)
    (done : List Subscription → List Subscription) (broker : Broker) :
    Extends broker (answer reply channel acked done broker) := by
  unfold answer
  split
  · exact extends_close_channel channel acked broker
  · split
    · exact ⟨rfl, fun _ member => member, List.subset_append_left _ _⟩
    · exact Extends.refl broker

theorem extends_serve (id : Nat) (reply : Reply) (acked : List Envelope) (consumer : Consumer)
    (broker : Broker) : Extends broker (serve id reply acked consumer broker) := by
  unfold serve
  split
  · exact extends_answer _ _ _ _ _
  · exact extends_answer _ _ _ _ _
  · exact extends_answer _ _ _ _ _
  · exact Extends.refl broker

/-- A step is one of the threads, which leaves the deliveries alone, or a delivery, or the
closing of a channel or of the connection. -/
inductive Move (state : State) : Action → State → Prop
  | consumer {id : Nat} {reply : Reply} {before after : Consumer} {connection : Connection}
      (at_id : state.world.consumers[id]? = some before)
      (kept : after.settings = before.settings)
      (move : ConsumerMove id reply before.settings state.world.connection before.running
        before.pc connection after.running after.pc) :
      Move state (.consumer id reply)
        (join { state.world with
            connection := connection
            consumers := state.world.consumers.set id after }
          (serve id reply state.world.connection.acked before state.broker))
  | borrower {id : Nat} {choice : Choice} {world : Consumers.State}
      (move : ConsumerMoves.Move state.world (.borrower id choice) world) :
      Move state (.borrower id choice) { state with world := world }
  | stop {id : Nat} {world : Consumers.State}
      (move : ConsumerMoves.Move state.world (.stop id) world) :
      Move state (.stop id) { state with world := world }
  | deliver {subscription : Subscription} {world : Consumers.State}
      (active : subscription ∈ state.broker.subscriptions)
      (move : ConsumerMoves.Move state.world (.deliver subscription.channel) world) :
      Move state (.deliver subscription)
        { world := world
          broker := { state.broker with
            deliveries := state.broker.deliveries ++
              [⟨subscription, nextEnvelope subscription.channel state.world.connection⟩] } }
  | close {channel : Nat} :
      Move state (.close channel) (join state.world
        (closeChannel channel state.world.connection.acked state.broker))
  | fail {world : Consumers.State} (move : ConsumerMoves.Move state.world .fail world) :
      Move state .fail
        (join world (closeConnection state.world.connection.acked state.broker))

theorem move_of_step {state after : State} {action : Action}
    (moved : step state action = some after) : Move state action after := by
  cases action with
  | consumer id reply =>
      obtain ⟨before, at_id, continued⟩ := Option.bind_eq_some_iff.mp moved
      obtain ⟨world, stepped, rfl⟩ := Option.map_eq_some_iff.mp continued
      cases ConsumerMoves.move_of_step stepped with
      | consumer found kept move =>
          obtain rfl := Option.some.inj (at_id.symm.trans found)
          exact .consumer at_id kept move
  | borrower id choice =>
      obtain ⟨world, stepped, rfl⟩ := Option.map_eq_some_iff.mp moved
      exact .borrower (ConsumerMoves.move_of_step stepped)
  | stop id =>
      obtain ⟨world, stepped, rfl⟩ := Option.map_eq_some_iff.mp moved
      exact .stop (ConsumerMoves.move_of_step stepped)
  | deliver subscription =>
      obtain ⟨active, done⟩ := Option.ite_none_right_eq_some.mp moved
      obtain ⟨world, stepped, rfl⟩ := Option.map_eq_some_iff.mp done
      exact .deliver active (ConsumerMoves.move_of_step stepped)
  | close channel =>
      obtain rfl := Option.some.inj moved
      exact .close
  | fail =>
      obtain rfl := Option.some.inj moved
      exact .fail .fail

end BackendComponents.Amqp.Deliveries
