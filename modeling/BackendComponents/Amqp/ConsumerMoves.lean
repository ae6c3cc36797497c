import BackendComponents.Amqp.Consumers

/-!
# What one step of the consumers' world can do

The steps of `Consumers` as relations, one named constructor for each branch of the
source.
-/

namespace BackendComponents.Amqp.ConsumerMoves

open BackendComponents.Amqp.Channels
open BackendComponents.Amqp.Consumers

set_option autoImplicit false

/-- The branches of `consume_loop`, from a running flag and a program point to the next
ones. -/
inductive ConsumerMove (id : Nat) (reply : Reply) (settings : Settings)
    (connection : Connection) : Bool → ConsumerPc → Connection → Bool → ConsumerPc → Prop
  | acquires {running : Bool} {channel : Nat} {pools : List (List Nat)}
      (taken : acquire settings.pool connection.pools = some (channel, pools)) :
      ConsumerMove id reply settings connection running .acquire
        { connection with pools := pools } running
        (if 0 < settings.prefetchCount then .lockQos channel else .lockConsume channel)
  | setsQos {running : Bool} {channel : Nat} (free : connection.holder = none) :
      ConsumerMove id reply settings connection running (.lockQos channel)
        connection running (.lockConsume channel)
  | subscribes {running : Bool} {channel : Nat} (free : connection.holder = none)
      (answered : checkRpcReply reply = true) :
      ConsumerMove id reply settings connection running (.lockConsume channel)
        { connection with subscribed := if performed reply then connection.subscribed ++ [channel]
            else connection.subscribed }
        running (.testRunning channel)
  | isRefused {running : Bool} {channel : Nat} (free : connection.holder = none)
      (failed : checkRpcReply reply = false) :
      ConsumerMove id reply settings connection running (.lockConsume channel)
        { connection with subscribed := if performed reply then connection.subscribed ++ [channel]
            else connection.subscribed }
        false (.releaseGuard channel)
  | continues {channel : Nat} :
      ConsumerMove id reply settings connection true (.testRunning channel)
        connection true (.lockReceive channel)
  | leavesLoop {channel : Nat} :
      ConsumerMove id reply settings connection false (.testRunning channel)
        connection false (.lockCancel channel)
  | enters {running : Bool} {channel : Nat} (free : connection.holder = none) :
      ConsumerMove id reply settings connection running (.lockReceive channel)
        { connection with holder := some id } running (.receiving channel)
  | receives {running : Bool} {channel : Nat} {envelope : Envelope} {rest : List Envelope}
      (answered : checkRpcReply reply = true) (front : connection.inbox = envelope :: rest) :
      ConsumerMove id reply settings connection running (.receiving channel)
        { connection with
          holder := none
          inbox := rest
          started := connection.started ++ [⟨id, channel, settings.noAck, envelope⟩] }
        running (.handling channel envelope)
  | receivesNothing {running : Bool} {channel : Nat} (failed : checkRpcReply reply = false)
      (bounded : 0 ≤ settings.timeoutMs ∨ connection.failed = true) :
      ConsumerMove id reply settings connection running (.receiving channel)
        { connection with holder := none } running (.testRunning channel)
  | returnsAuto {running : Bool} {channel : Nat} {envelope : Envelope}
      (auto : settings.noAck = true) :
      ConsumerMove id reply settings connection running (.handling channel envelope)
        { connection with
          returned := connection.returned ++ [⟨id, channel, settings.noAck, envelope⟩] }
        running (.testRunning channel)
  | returnsManual {running : Bool} {channel : Nat} {envelope : Envelope}
      (manual : settings.noAck = false) :
      ConsumerMove id reply settings connection running (.handling channel envelope)
        { connection with
          returned := connection.returned ++ [⟨id, channel, settings.noAck, envelope⟩] }
        running (.lockAck channel envelope)
  | acknowledges {running : Bool} {channel : Nat} {envelope : Envelope}
      (free : connection.holder = none) :
      ConsumerMove id reply settings connection running (.lockAck channel envelope)
        { connection with acked := connection.acked ++ [⟨channel, envelope.deliveryTag⟩] }
        running (.testRunning channel)
  | cancels {running : Bool} {channel : Nat} (free : connection.holder = none) :
      ConsumerMove id reply settings connection running (.lockCancel channel)
        { connection with subscribed := if performed reply then connection.subscribed.erase channel
            else connection.subscribed }
        running (.releaseGuard channel)
  | givesBack {running : Bool} {channel : Nat} :
      ConsumerMove id reply settings connection running (.releaseGuard channel)
        { connection with pools := giveBack settings.pool channel connection.pools }
        running .ended

theorem consumer_move_of_loop {id : Nat} {reply : Reply} {connection : Connection}
    {consumer : Consumer} {result : Connection × Consumer}
    (moved : consumeLoop id reply connection consumer = some result) :
    result.2.settings = consumer.settings ∧
      ConsumerMove id reply consumer.settings connection consumer.running consumer.pc
        result.1 result.2.running result.2.pc := by
  obtain ⟨settings, running, pc⟩ := consumer
  cases pc with
  | acquire =>
      obtain ⟨⟨channel, pools⟩, taken, rfl⟩ := Option.map_eq_some_iff.mp moved
      exact ⟨rfl, .acquires taken⟩
  | lockQos channel =>
      obtain ⟨free, done⟩ := Option.ite_none_right_eq_some.mp moved
      obtain rfl := Option.some.inj done
      exact ⟨rfl, .setsQos free⟩
  | lockConsume channel =>
      obtain ⟨free, done⟩ := Option.ite_none_right_eq_some.mp moved
      obtain rfl := Option.some.inj done
      cases answered : checkRpcReply reply with
      | true => exact ⟨rfl, .subscribes free answered⟩
      | false => exact ⟨rfl, .isRefused free answered⟩
  | testRunning channel =>
      obtain rfl := Option.some.inj moved
      cases running with
      | true => exact ⟨rfl, .continues⟩
      | false => exact ⟨rfl, .leavesLoop⟩
  | lockReceive channel =>
      obtain ⟨free, done⟩ := Option.ite_none_right_eq_some.mp moved
      obtain rfl := Option.some.inj done
      exact ⟨rfl, .enters free⟩
  | receiving channel =>
      simp only [consumeLoop] at moved
      split at moved
      · next answered =>
          split at moved
          · cases moved
          · next envelope rest front =>
              obtain rfl := Option.some.inj moved
              exact ⟨rfl, .receives answered front⟩
      · next failed =>
          obtain ⟨bounded, done⟩ := Option.ite_none_right_eq_some.mp moved
          obtain rfl := Option.some.inj done
          exact ⟨rfl, .receivesNothing (Bool.eq_false_iff.mpr failed) bounded⟩
  | handling channel envelope =>
      obtain rfl := Option.some.inj moved
      obtain ⟨pool, noAck, timeoutMs, prefetchCount⟩ := settings
      cases noAck with
      | true => exact ⟨rfl, .returnsAuto rfl⟩
      | false => exact ⟨rfl, .returnsManual rfl⟩
  | lockAck channel envelope =>
      obtain ⟨free, done⟩ := Option.ite_none_right_eq_some.mp moved
      obtain rfl := Option.some.inj done
      exact ⟨rfl, .acknowledges free⟩
  | lockCancel channel =>
      obtain ⟨free, done⟩ := Option.ite_none_right_eq_some.mp moved
      obtain rfl := Option.some.inj done
      exact ⟨rfl, .cancels free⟩
  | releaseGuard channel =>
      obtain rfl := Option.some.inj moved
      exact ⟨rfl, .givesBack⟩
  | ended => cases moved

inductive BorrowerMove (pool : Nat) (connection : Connection) :
    Choice → BorrowerPc → Connection → BorrowerPc → Prop
  | acquires {choice : Choice} {channel : Nat} {pools : List (List Nat)}
      (taken : acquire pool connection.pools = some (channel, pools)) :
      BorrowerMove pool connection choice .idle
        { connection with pools := pools } (.holding channel)
  | calls {channel : Nat} :
      BorrowerMove pool connection .callMethod (.holding channel)
        connection (.lockOperation channel)
  | givesBack {channel : Nat} :
      BorrowerMove pool connection .giveBack (.holding channel)
        { connection with pools := giveBack pool channel connection.pools } .idle
  | operates {choice : Choice} {channel : Nat} (free : connection.holder = none) :
      BorrowerMove pool connection choice (.lockOperation channel) connection (.holding channel)

theorem borrower_move_of_borrow {choice : Choice} {connection : Connection} {borrower : Borrower}
    {result : Connection × Borrower} (moved : borrow choice connection borrower = some result) :
    result.2.pool = borrower.pool ∧
      BorrowerMove borrower.pool connection choice borrower.pc result.1 result.2.pc := by
  obtain ⟨pool, pc⟩ := borrower
  cases pc with
  | idle =>
      obtain ⟨⟨channel, pools⟩, taken, rfl⟩ := Option.map_eq_some_iff.mp moved
      exact ⟨rfl, .acquires taken⟩
  | holding channel =>
      cases choice with
      | callMethod =>
          obtain rfl := Option.some.inj moved
          exact ⟨rfl, .calls⟩
      | giveBack =>
          obtain rfl := Option.some.inj moved
          exact ⟨rfl, .givesBack⟩
  | lockOperation channel =>
      obtain ⟨free, done⟩ := Option.ite_none_right_eq_some.mp moved
      obtain rfl := Option.some.inj done
      exact ⟨rfl, .operates free⟩

theorem borrower_move_pools {pool : Nat} {connection after : Connection} {choice : Choice}
    {pc pcAfter : BorrowerPc} (move : BorrowerMove pool connection choice pc after pcAfter) :
    ∃ pools, after = { connection with pools := pools } := by
  cases move with
  | acquires taken => exact ⟨_, rfl⟩
  | givesBack => exact ⟨_, rfl⟩
  | _ => exact ⟨connection.pools, rfl⟩

theorem launched_consumer {pools : List (List Nat)} {consumers : List Settings}
    {borrowers : List Nat} {id : Nat} {consumer : Consumer}
    (found : (launched pools consumers borrowers).consumers[id]? = some consumer) :
    consumer.pc = .acquire := by
  obtain ⟨settings, _, rfl⟩ : ∃ settings, consumers[id]? = some settings ∧
      (⟨settings, true, .acquire⟩ : Consumer) = consumer := by
    simpa [launched] using found
  rfl

/-- The number the broker gives to the next delivery on a channel. -/
def nextEnvelope (channel : Nat) (connection : Connection) : Envelope where
  channel := channel
  deliveryTag := connection.delivered.countP (fun earlier => earlier.channel == channel) + 1

inductive Move (state : State) : Action → State → Prop
  | consumer {id : Nat} {reply : Reply} {before after : Consumer} {connection : Connection}
      (at_id : state.consumers[id]? = some before) (kept : after.settings = before.settings)
      (move : ConsumerMove id reply before.settings state.connection before.running before.pc
        connection after.running after.pc) :
      Move state (.consumer id reply)
        { state with connection := connection, consumers := state.consumers.set id after }
  | borrower {id : Nat} {choice : Choice} {before after : Borrower} {connection : Connection}
      (at_id : state.borrowers[id]? = some before) (kept : after.pool = before.pool)
      (move : BorrowerMove before.pool state.connection choice before.pc connection after.pc) :
      Move state (.borrower id choice)
        { state with connection := connection, borrowers := state.borrowers.set id after }
  | stop {id : Nat} {before : Consumer} (at_id : state.consumers[id]? = some before) :
      Move state (.stop id)
        { state with consumers := state.consumers.set id { before with running := false } }
  | deliver {channel : Nat} (subscribed : channel ∈ state.connection.subscribed)
      (up : state.connection.failed = false) :
      Move state (.deliver channel)
        { state with connection := { state.connection with
            inbox := state.connection.inbox ++ [nextEnvelope channel state.connection]
            delivered := state.connection.delivered ++ [nextEnvelope channel state.connection] } }
  | fail :
      Move state .fail { state with connection := { state.connection with failed := true } }

theorem move_of_step {state after : State} {action : Action}
    (moved : step state action = some after) : Move state action after := by
  cases action with
  | consumer id reply =>
      obtain ⟨before, at_id, continued⟩ := Option.bind_eq_some_iff.mp moved
      obtain ⟨result, looped, rfl⟩ := Option.map_eq_some_iff.mp continued
      obtain ⟨kept, move⟩ := consumer_move_of_loop looped
      exact .consumer at_id kept move
  | borrower id choice =>
      obtain ⟨before, at_id, continued⟩ := Option.bind_eq_some_iff.mp moved
      obtain ⟨result, borrowed, rfl⟩ := Option.map_eq_some_iff.mp continued
      obtain ⟨kept, move⟩ := borrower_move_of_borrow borrowed
      exact .borrower at_id kept move
  | stop id =>
      obtain ⟨before, at_id, rfl⟩ := Option.map_eq_some_iff.mp moved
      exact .stop at_id
  | deliver channel =>
      obtain ⟨connection, delivered, rfl⟩ := Option.map_eq_some_iff.mp moved
      obtain ⟨⟨subscribed, up⟩, done⟩ := Option.ite_none_right_eq_some.mp delivered
      obtain rfl := Option.some.inj done
      exact .deliver subscribed up
  | fail =>
      obtain rfl := Option.some.inj moved
      exact .fail

end BackendComponents.Amqp.ConsumerMoves
