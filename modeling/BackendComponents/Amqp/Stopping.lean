import BackendComponents.Amqp.Deliveries
import BackendComponents.Amqp.Routing

/-!
# Stopping a consumer

`consume_loop` looks at `m_running` between two messages, cancels the subscription and gives
its channel, still open, back to the pool. What the broker had pushed and the loop had not
read by then stays assigned to a channel that nobody acknowledges on.
-/

namespace BackendComponents.Amqp.Stopping

open BackendComponents.Lib.Paths
open BackendComponents.Lib.Threads
open BackendComponents.Amqp.Channels
open BackendComponents.Amqp.Consumers hiding State Action step launched
open BackendComponents.Amqp.ConsumerMoves hiding Move move_of_step
open BackendComponents.Amqp.Routing hiding Kept
open BackendComponents.Amqp.Deliveries

set_option autoImplicit false

def ownCall (delivery : Delivery) : Handled where
  consumer := delivery.subscription.consumer
  held := delivery.subscription.channel
  noAck := delivery.subscription.noAck
  envelope := delivery.envelope

/-- The message was handled and acknowledged, or the broker has put it back. -/
def Settled (state : State) (delivery : Delivery) : Prop :=
  (ownCall delivery ∈ state.world.connection.returned ∧
    delivery.envelope ∈ state.world.connection.acked) ∨ delivery ∈ state.broker.requeued

def hasEnded (world : Consumers.State) (id : Nat) : Bool :=
  world.consumers[id]?.any fun consumer => decide (consumer.pc = .ended)

/-- Every message delivered to a manual consumer whose thread has ended is settled. -/
def NoneStranded (state : State) : Prop :=
  ∀ delivery ∈ state.broker.deliveries, delivery.subscription.noAck = false →
    hasEnded state.world delivery.subscription.consumer = true → Settled state delivery

def StoppingLaw : Prop :=
  ∀ (pools : List (List Nat)) (consumers : List Settings) (borrowers : List Nat) (state : State),
    Reachable step (launched pools consumers borrowers) state → NoneStranded state

/-- The message does not wait unread, and no other call of a handler got it. -/
def readByOwner (connection : Connection) (delivery : Delivery) : Bool :=
  decide (delivery.envelope ∉ connection.inbox) &&
    connection.started.all fun handled =>
      decide (handled.envelope = delivery.envelope → handled = ownCall delivery)

/-- A manual consumer that gives its channel back has read every message delivered to it,
apart from those put back, and nothing is delivered to a manual consumer that has ended. -/
def strandsNone (state : State) : Action → Bool
  | .consumer id _ =>
      match state.world.consumers[id]?.map Consumer.pc with
      | some (.releaseGuard _) =>
          state.broker.deliveries.all fun delivery =>
            decide (delivery.subscription.consumer = id → delivery.subscription.noAck = false →
              delivery ∈ state.broker.requeued ∨
                readByOwner state.world.connection delivery = true)
      | _ => true
  | .deliver subscription =>
      subscription.noAck || !hasEnded state.world subscription.consumer
  | _ => true

/-! ## From reading a message to acknowledging it -/

def ackOf (handled : Handled) : Envelope where
  channel := handled.held
  deliveryTag := handled.envelope.deliveryTag

/-- A message that was read is in its consumer's handler until the call has returned, and
then, in manual mode, waits for its acknowledgement until that is sent. -/
structure Finishing (world : Consumers.State) : Prop where
  handlers : ∀ handled ∈ world.connection.started, handled ∈ world.connection.returned ∨
    world.consumers[handled.consumer]?.any (inHandler handled) = true
  acks : ∀ handled ∈ world.connection.returned, handled.noAck = false →
    ackOf handled ∈ world.connection.acked ∨
      world.consumers[handled.consumer]?.any (sendsNext (ackOf handled)) = true

/-- Every message the broker delivered is in its account, on the channel of its
subscription. -/
structure Accounted (state : State) : Prop where
  kept : Routing.Kept state.world
  finishing : Finishing state.world
  ledger : state.world.connection.delivered = state.broker.deliveries.map Delivery.envelope
  placed : ∀ delivery ∈ state.broker.deliveries,
    delivery.envelope.channel = delivery.subscription.channel
  requeued : state.broker.requeued ⊆ state.broker.deliveries

section ConsumerMoves

variable {id : Nat} {reply : Reply} {settings : Settings} {connection after : Connection}
  {running runningAfter : Bool} {pc pcAfter : ConsumerPc}

theorem logs_grow
    (move : ConsumerMove id reply settings connection running pc after runningAfter pcAfter) :
    connection.returned ⊆ after.returned ∧ connection.acked ⊆ after.acked := by
  refine ⟨(lock_ack_move move).1, ?_⟩
  cases move with
  | acknowledges free => exact List.subset_append_left _ _
  | _ => exact fun _ member => member

theorem delivered_unchanged
    (move : ConsumerMove id reply settings connection running pc after runningAfter pcAfter) :
    after.delivered = connection.delivered := by
  cases move <;> rfl

theorem started_by_move
    (move : ConsumerMove id reply settings connection running pc after runningAfter pcAfter)
    {handled : Handled} (member : handled ∈ after.started) :
    handled ∈ connection.started ∨ handled.consumer = id ∧
      inHandler handled ⟨settings, runningAfter, pcAfter⟩ = true := by
  cases move with
  | receives answered front =>
      rcases List.mem_append.mp member with old | new
      · exact Or.inl old
      · obtain rfl := List.mem_singleton.mp new
        exact Or.inr ⟨rfl, by simp [inHandler]⟩
  | _ => exact Or.inl member

theorem returned_by_move
    (move : ConsumerMove id reply settings connection running pc after runningAfter pcAfter)
    {handled : Handled} (member : handled ∈ after.returned) (manual : handled.noAck = false) :
    handled ∈ connection.returned ∨ handled.consumer = id ∧
      sendsNext (ackOf handled) ⟨settings, runningAfter, pcAfter⟩ = true := by
  cases move with
  | returnsAuto auto =>
      rcases List.mem_append.mp member with old | new
      · exact Or.inl old
      · obtain rfl := List.mem_singleton.mp new
        rw [auto] at manual
        cases manual
  | returnsManual mode =>
      rcases List.mem_append.mp member with old | new
      · exact Or.inl old
      · obtain rfl := List.mem_singleton.mp new
        exact Or.inr ⟨rfl, by simp [sendsNext, ackOf]⟩
  | _ => exact Or.inl member

theorem handler_returns
    (move : ConsumerMove id reply settings connection running pc after runningAfter pcAfter)
    {handled : Handled} (own : handled.consumer = id)
    (inside : inHandler handled ⟨settings, running, pc⟩ = true) : handled ∈ after.returned := by
  cases move with
  | @returnsAuto running channel envelope auto =>
      rw [in_handler_own settings _ _ _ own, decide_eq_true_eq] at inside
      rw [inside]
      exact List.mem_append_right _ (List.mem_singleton_self _)
  | @returnsManual running channel envelope manual =>
      rw [in_handler_own settings _ _ _ own, decide_eq_true_eq] at inside
      rw [inside]
      exact List.mem_append_right _ (List.mem_singleton_self _)
  | _ => simp [inHandler] at inside

theorem ack_is_sent
    (move : ConsumerMove id reply settings connection running pc after runningAfter pcAfter)
    {ack : Envelope} (due : sendsNext ack ⟨settings, running, pc⟩ = true) :
    ack ∈ after.acked := by
  cases move with
  | @acknowledges running channel envelope free =>
      have sent : (⟨channel, envelope.deliveryTag⟩ : Envelope) = ack := of_decide_eq_true due
      rw [sent]
      exact List.mem_append_right _ (List.mem_singleton_self _)
  | _ => simp [sendsNext] at due

end ConsumerMoves

theorem finishing_consumer {world : Consumers.State} {id : Nat} {reply : Reply}
    {before after : Consumer} {connection : Connection} (finishing : Finishing world)
    (at_id : world.consumers[id]? = some before) (same : after.settings = before.settings)
    (move : ConsumerMove id reply before.settings world.connection before.running before.pc
      connection after.running after.pc) :
    Finishing { world with connection := connection, consumers := world.consumers.set id after }
    where
  handlers := by
    intro handled member
    obtain ⟨settings, runningAfter, pcAfter⟩ := after
    obtain rfl : settings = before.settings := same
    rcases started_by_move move member with old | ⟨rfl, inside⟩
    · rcases finishing.handlers handled old with returned | inside
      · exact Or.inl ((logs_grow move).1 returned)
      · by_cases own : handled.consumer = id
        · rw [own, at_id, Option.any_some] at inside
          exact Or.inl (handler_returns move own inside)
        · simp only [lookup_move_other own]
          exact Or.inr inside
    · simp only [lookup_move_self at_id, Option.any_some]
      exact Or.inr inside
  acks := by
    intro handled member manual
    obtain ⟨settings, runningAfter, pcAfter⟩ := after
    obtain rfl : settings = before.settings := same
    rcases returned_by_move move member manual with old | ⟨rfl, due⟩
    · rcases finishing.acks handled old manual with acked | due
      · exact Or.inl ((logs_grow move).2 acked)
      · by_cases own : handled.consumer = id
        · rw [own, at_id, Option.any_some] at due
          exact Or.inl (ack_is_sent move due)
        · simp only [lookup_move_other own]
          exact Or.inr due
    · simp only [lookup_move_self at_id, Option.any_some]
      exact Or.inr due

theorem finishing_stop {world : Consumers.State} {id : Nat} {before : Consumer}
    (finishing : Finishing world) (at_id : world.consumers[id]? = some before) :
    Finishing { world with
      consumers := world.consumers.set id { before with running := false } } := by
  have looks : ∀ (other : Nat) (test : Consumer → Bool),
      test { before with running := false } = test before →
        (world.consumers.set id { before with running := false })[other]?.any test =
          world.consumers[other]?.any test := by
    intro other test same
    by_cases own : other = id
    · rw [own, lookup_move_self at_id, at_id]
      exact same
    · rw [lookup_move_other own]
  constructor
  · intro handled member
    dsimp only
    rw [looks handled.consumer _ rfl]
    exact finishing.handlers handled member
  · intro handled member manual
    dsimp only
    rw [looks handled.consumer _ rfl]
    exact finishing.acks handled member manual

theorem finishing_move {world later : Consumers.State} {action : Consumers.Action}
    (finishing : Finishing world) (moved : ConsumerMoves.Move world action later) :
    Finishing later := by
  cases moved with
  | consumer at_id same move => exact finishing_consumer finishing at_id same move
  | borrower at_id same move =>
      obtain ⟨pools, rfl⟩ := borrower_move_pools move
      exact ⟨finishing.handlers, finishing.acks⟩
  | stop at_id => exact finishing_stop finishing at_id
  | deliver subscribed up => exact ⟨finishing.handlers, finishing.acks⟩
  | fail => exact ⟨finishing.handlers, finishing.acks⟩

/-! ## The account of a run -/

theorem accounted_join {world : Consumers.State} {broker : Broker}
    (accounted : Accounted ⟨world, broker⟩) : Accounted (join world broker) where
  kept :=
    { stream :=
        ⟨accounted.kept.stream.fifo, accounted.kept.stream.numbered, accounted.kept.stream.distinct⟩
      progress :=
        ⟨accounted.kept.progress.handlers, accounted.kept.progress.acks,
          accounted.kept.progress.pending⟩ }
  finishing := ⟨accounted.finishing.handlers, accounted.finishing.acks⟩
  ledger := accounted.ledger
  placed := accounted.placed
  requeued := accounted.requeued

theorem accounted_broker {world : Consumers.State} {broker after : Broker}
    (accounted : Accounted ⟨world, broker⟩) (extended : Extends broker after) :
    Accounted ⟨world, after⟩ where
  kept := accounted.kept
  finishing := accounted.finishing
  ledger := by
    rw [extended.deliveries]
    exact accounted.ledger
  placed := by
    rw [extended.deliveries]
    exact accounted.placed
  requeued := by
    intro delivery member
    rw [extended.deliveries]
    rcases List.mem_append.mp (extended.delivered member) with old | new
    · exact accounted.requeued old
    · exact new

theorem accounted_world {state : State} {later : Consumers.State} {action : Consumers.Action}
    (accounted : Accounted state) (moved : ConsumerMoves.Move state.world action later)
    (same : later.connection.delivered = state.world.connection.delivered) :
    Accounted ⟨later, state.broker⟩ where
  kept := kept_move accounted.kept moved
  finishing := finishing_move accounted.finishing moved
  ledger := by
    rw [same]
    exact accounted.ledger
  placed := accounted.placed
  requeued := accounted.requeued

theorem accounted_deliver {state : State} {later : Consumers.State} {subscription : Subscription}
    (accounted : Accounted state)
    (moved : ConsumerMoves.Move state.world (.deliver subscription.channel) later) :
    Accounted
      { world := later
        broker := { state.broker with
          deliveries := state.broker.deliveries ++
            [⟨subscription, nextEnvelope subscription.channel state.world.connection⟩] } } where
  kept := kept_move accounted.kept moved
  finishing := finishing_move accounted.finishing moved
  ledger := by
    cases moved
    simp only [List.map_append, List.map_cons, List.map_nil]
    rw [accounted.ledger]
  placed := by
    intro delivery member
    rcases List.mem_append.mp member with old | new
    · exact accounted.placed delivery old
    · obtain rfl := List.mem_singleton.mp new
      rfl
  requeued := by
    intro delivery member
    exact List.mem_append_left _ (accounted.requeued member)

theorem accounted_move {state after : State} {action : Action} (accounted : Accounted state)
    (moved : Move state action after) : Accounted after := by
  cases moved with
  | @consumer id reply before later connection at_id same move =>
      have world := accounted_world accounted (.consumer at_id same move) (delivered_unchanged move)
      apply accounted_join
      exact accounted_broker world (extends_serve id reply _ before state.broker)
  | borrower move =>
      apply accounted_world accounted move
      cases move with
      | borrower at_id same move =>
          obtain ⟨pools, rfl⟩ := borrower_move_pools move
          rfl
  | stop move =>
      apply accounted_world accounted move
      cases move
      rfl
  | deliver active move => exact accounted_deliver accounted move
  | close =>
      apply accounted_join
      exact accounted_broker accounted (extends_close_channel _ _ _)
  | fail move =>
      apply accounted_join
      apply accounted_broker _ (extends_close_connection _ state.broker)
      apply accounted_world accounted move
      cases move
      rfl

theorem accounted_launched (pools : List (List Nat)) (consumers : List Settings)
    (borrowers : List Nat) : Accounted (launched pools consumers borrowers) where
  kept := kept_launched pools consumers borrowers
  finishing := by
    constructor
    · intro handled member
      cases member
    · intro handled member
      cases member
  ledger := rfl
  placed := by
    intro delivery member
    cases member
  requeued := fun _ member => member

/-! ## What stopping leaves behind -/

theorem settled_mono {state after : State} {delivery : Delivery}
    (settled : Settled state delivery)
    (returned : state.world.connection.returned ⊆ after.world.connection.returned)
    (acked : state.world.connection.acked ⊆ after.world.connection.acked)
    (requeued : state.broker.requeued ⊆ after.broker.requeued) : Settled after delivery := by
  rcases settled with ⟨handled, sent⟩ | back
  · exact Or.inl ⟨returned handled, acked sent⟩
  · exact Or.inr (requeued back)

theorem read_by_owner_of_returned {state : State} (accounted : Accounted state)
    {delivery : Delivery} (returned : ownCall delivery ∈ state.world.connection.returned) :
    readByOwner state.world.connection delivery = true := by
  have started := started_of_returned accounted.kept.progress returned
  have distinct := accounted.kept.stream.distinct
  rw [accounted.kept.stream.fifo, List.nodup_append] at distinct
  obtain ⟨readOnce, _, apart⟩ := distinct
  have read : delivery.envelope ∈ state.world.connection.started.map Handled.envelope :=
    List.mem_map_of_mem started
  simp only [readByOwner, Bool.and_eq_true, decide_eq_true_eq, List.all_eq_true]
  constructor
  · intro unread
    exact apart _ read _ unread rfl
  · intro handled member same
    exact List.inj_on_of_nodup_map readOnce member started same

theorem settled_of_read {state : State} (accounted : Accounted state) {delivery : Delivery}
    (delivered : delivery ∈ state.broker.deliveries)
    (manual : delivery.subscription.noAck = false)
    (read : readByOwner state.world.connection delivery = true)
    (handled : state.world.consumers[delivery.subscription.consumer]?.any
      (inHandler (ownCall delivery)) = false)
    (sent : state.world.consumers[delivery.subscription.consumer]?.any
      (sendsNext (ackOf (ownCall delivery))) = false) : Settled state delivery := by
  simp only [readByOwner, Bool.and_eq_true, decide_eq_true_eq, List.all_eq_true] at read
  obtain ⟨notUnread, own⟩ := read
  have entry : delivery.envelope ∈ state.world.connection.delivered := by
    rw [accounted.ledger]
    exact List.mem_map_of_mem delivered
  rw [accounted.kept.stream.fifo] at entry
  have started : ownCall delivery ∈ state.world.connection.started := by
    rcases List.mem_append.mp entry with read | unread
    · obtain ⟨call, member, same⟩ := List.mem_map.mp read
      rw [← own call member same]
      exact member
    · exact absurd unread notUnread
  have returned : ownCall delivery ∈ state.world.connection.returned := by
    rcases accounted.finishing.handlers _ started with returned | inside
    · exact returned
    · exact absurd inside (Bool.eq_false_iff.mp handled)
  have same : ackOf (ownCall delivery) = delivery.envelope := by
    simp only [ackOf, ownCall]
    rw [← accounted.placed delivery delivered]
  rcases accounted.finishing.acks _ returned manual with acked | due
  · rw [same] at acked
    exact Or.inl ⟨returned, acked⟩
  · exact absurd due (Bool.eq_false_iff.mp sent)

theorem settled_at_release {state : State} (accounted : Accounted state) {delivery : Delivery}
    {consumer : Consumer} {channel : Nat} (delivered : delivery ∈ state.broker.deliveries)
    (manual : delivery.subscription.noAck = false)
    (found : state.world.consumers[delivery.subscription.consumer]? = some consumer)
    (leaving : consumer.pc = .releaseGuard channel) :
    Settled state delivery ↔ delivery ∈ state.broker.requeued ∨
      readByOwner state.world.connection delivery = true := by
  constructor
  · intro settled
    rcases settled with ⟨returned, _⟩ | back
    · exact Or.inr (read_by_owner_of_returned accounted returned)
    · exact Or.inl back
  · intro condition
    rcases condition with back | read
    · exact Or.inr back
    · apply settled_of_read accounted delivered manual read
      · simp [found, inHandler, leaving]
      · simp [found, sendsNext, leaving]

theorem has_ended_set {world : Consumers.State} {id : Nat} {before after : Consumer}
    {connection : Connection} (at_id : world.consumers[id]? = some before) (other : Nat) :
    hasEnded { world with connection := connection, consumers := world.consumers.set id after }
        other =
      if other = id then decide (after.pc = .ended) else hasEnded world other := by
  unfold hasEnded
  dsimp only
  split
  · next own =>
      rw [own, lookup_move_self at_id]
      rfl
  · next own => rw [lookup_move_other own]

theorem ended_by_release {id : Nat} {reply : Reply} {settings : Settings}
    {connection after : Connection} {running runningAfter : Bool} {pc pcAfter : ConsumerPc}
    (move : ConsumerMove id reply settings connection running pc after runningAfter pcAfter)
    (ends : pcAfter = .ended) : ∃ channel, pc = .releaseGuard channel := by
  cases move with
  | givesBack => exact ⟨_, rfl⟩
  | acquires taken => split at ends <;> cases ends
  | _ => cases ends

theorem none_stranded_frame {state after : State} (settled : NoneStranded state)
    (deliveries : after.broker.deliveries = state.broker.deliveries)
    (ended : ∀ id, hasEnded after.world id = true → hasEnded state.world id = true)
    (returned : state.world.connection.returned ⊆ after.world.connection.returned)
    (acked : state.world.connection.acked ⊆ after.world.connection.acked)
    (requeued : state.broker.requeued ⊆ after.broker.requeued) : NoneStranded after := by
  intro delivery delivered manual gone
  rw [deliveries] at delivered
  have before := settled delivery delivered manual (ended _ gone)
  exact settled_mono before returned acked requeued

theorem none_stranded_consumer {state after : State} {id : Nat} {reply : Reply}
    (accounted : Accounted state) (settled : NoneStranded state)
    (moved : Move state (.consumer id reply) after) :
    NoneStranded after ↔ strandsNone state (.consumer id reply) = true := by
  cases moved with
  | @consumer _ _ before later connection at_id same move =>
      obtain ⟨settings, running, pc⟩ := before
      obtain ⟨settingsLater, runningLater, pcLater⟩ := later
      have extended := extends_serve id reply state.world.connection.acked
        ⟨settings, running, pc⟩ state.broker
      by_cases leaving : ∃ channel, pc = .releaseGuard channel
      · obtain ⟨channel, rfl⟩ := leaving
        have condition : strandsNone state (.consumer id reply) = true ↔
            ∀ delivery ∈ state.broker.deliveries, delivery.subscription.consumer = id →
              delivery.subscription.noAck = false → Settled state delivery := by
          simp only [strandsNone, at_id, Option.map_some, List.all_eq_true, decide_eq_true_eq]
          apply forall₂_congr
          intro delivery delivered
          apply forall₂_congr
          intro own manual
          rw [← own] at at_id
          exact (settled_at_release accounted delivered manual at_id rfl).symm
        rw [condition]
        cases move with
        | givesBack =>
            constructor
            · intro holds delivery delivered own manual
              apply holds delivery delivered manual
              show hasEnded _ _ = true
              rw [join, own]
              exact (has_ended_set at_id id).trans (by simp)
            · intro own delivery delivered manual gone
              by_cases mine : delivery.subscription.consumer = id
              · exact own delivery delivered mine manual
              · have kept := (has_ended_set at_id delivery.subscription.consumer).symm.trans gone
                rw [if_neg mine] at kept
                exact settled delivery delivered manual kept
      · have condition : strandsNone state (.consumer id reply) = true := by
          simp only [strandsNone, at_id, Option.map_some]
          split
          · next channel here => exact absurd ⟨channel, Option.some.inj here⟩ leaving
          · rfl
        refine ⟨fun _ => condition, fun _ => ?_⟩
        obtain ⟨returned, acked⟩ := logs_grow move
        apply none_stranded_frame settled extended.deliveries _ returned acked extended.requeued
        intro other gone
        have kept := (has_ended_set at_id other).symm.trans gone
        split at kept
        · exact absurd (ended_by_release move (of_decide_eq_true kept)) leaving
        · exact kept

theorem none_stranded_deliver {state after : State} {subscription : Subscription}
    (accounted : Accounted state) (settled : NoneStranded state)
    (moved : Move state (.deliver subscription) after) :
    NoneStranded after ↔ strandsNone state (.deliver subscription) = true := by
  cases moved with
  | deliver active move =>
      have fresh := next_envelope_fresh accounted.kept.stream subscription.channel
      cases move with
      | deliver subscribed up =>
          constructor
          · intro holds
            by_contra refused
            simp only [strandsNone, Bool.or_eq_true, Bool.not_eq_true', not_or,
              Bool.not_eq_true, Bool.not_eq_false] at refused
            obtain ⟨manual, gone⟩ := refused
            rcases holds _ (List.mem_append_right _ (List.mem_singleton_self _)) manual gone with
              ⟨returned, _⟩ | back
            · have started := started_of_returned accounted.kept.progress returned
              apply fresh
              rw [accounted.kept.stream.fifo]
              exact List.mem_append_left _ (List.mem_map_of_mem started)
            · apply fresh
              rw [accounted.ledger]
              exact List.mem_map_of_mem (accounted.requeued back)
          · intro condition delivery delivered manual gone
            rcases List.mem_append.mp delivered with old | new
            · exact settled delivery old manual gone
            · obtain rfl := List.mem_singleton.mp new
              have gone : hasEnded state.world subscription.consumer = true := gone
              have manual : subscription.noAck = false := manual
              simp [strandsNone, manual, gone] at condition

theorem none_stranded_step_iff {state after : State} {action : Action}
    (accounted : Accounted state) (settled : NoneStranded state)
    (stepped : step state action = some after) :
    NoneStranded after ↔ strandsNone state action = true := by
  have moved := move_of_step stepped
  cases action with
  | consumer id reply => exact none_stranded_consumer accounted settled moved
  | deliver subscription => exact none_stranded_deliver accounted settled moved
  | borrower id choice =>
      refine ⟨fun _ => rfl, fun _ => ?_⟩
      cases moved with
      | borrower move =>
          cases move with
          | borrower at_id same move =>
              obtain ⟨pools, rfl⟩ := borrower_move_pools move
              exact settled
  | stop id =>
      refine ⟨fun _ => rfl, fun _ => ?_⟩
      cases moved with
      | stop move =>
          cases move with
          | @stop _ before at_id =>
              intro delivery delivered manual gone
              have kept := (has_ended_set at_id delivery.subscription.consumer).symm.trans gone
              apply settled delivery delivered manual
              split at kept
              · next own =>
                  rw [own, hasEnded, at_id]
                  exact kept
              · exact kept
  | close channel =>
      refine ⟨fun _ => rfl, fun _ => ?_⟩
      cases moved with
      | close =>
          have extended :=
            extends_close_channel channel state.world.connection.acked state.broker
          exact none_stranded_frame settled extended.deliveries (fun _ gone => gone)
            (fun _ member => member) (fun _ member => member) extended.requeued
  | fail =>
      refine ⟨fun _ => rfl, fun _ => ?_⟩
      cases moved with
      | fail move =>
          cases move with
          | fail =>
              have extended := extends_close_connection state.world.connection.acked state.broker
              exact none_stranded_frame settled extended.deliveries (fun _ gone => gone)
                (fun _ member => member) (fun _ member => member) extended.requeued

/-- Stopping strands no message in a run exactly if every manual consumer gives its channel
back with all its deliveries read, and nothing is delivered to it afterwards. -/
theorem none_stranded_iff (pools : List (List Nat)) (consumers : List Settings)
    (borrowers : List Nat) (trail : List (State × Action)) (last : State)
    (path : Path step (launched pools consumers borrowers) trail last) :
    (∀ state ∈ visited trail last, NoneStranded state) ↔
      ∀ taken ∈ trail, strandsNone taken.1 taken.2 = true := by
  apply path_property_iff_good Accounted NoneStranded
    (fun state action => strandsNone state action = true)
    (accounted_launched pools consumers borrowers) _ _ _ path
  · intro delivery delivered
    cases delivered
  · intro state action after accounted stepped
    exact accounted_move accounted (move_of_step stepped)
  · intro state action after accounted settled stepped
    exact none_stranded_step_iff accounted settled stepped

/-- A manual consumer with prefetch count 1 handles and acknowledges a message, then the given
steps happen, and it sees that it is to stop. -/
def stoppedAfter (meanwhile : List Action) : List Action :=
  List.replicate 3 (.consumer 0 .normal) ++ [.deliver ⟨0, 1, false⟩] ++
    List.replicate 5 (.consumer 0 .normal) ++ meanwhile ++ [.stop 0] ++
    List.replicate 3 (.consumer 0 .normal)

def manualConsumer : State := launched [[1]] [⟨0, false, -1, 1⟩] []

theorem none_stranded_after_last :
    ∃ last, exec step manualConsumer (stoppedAfter []) = some last ∧
      hasEnded last.world 0 = true ∧
      ∀ state ∈ visited (trailOf step manualConsumer (stoppedAfter [])) last,
        NoneStranded state := by
  obtain ⟨last, run, gone⟩ := exec_checked step manualConsumer (stoppedAfter [])
    (fun state => hasEnded state.world 0) (by decide)
  refine ⟨last, run, gone, ?_⟩
  exact (none_stranded_iff _ _ _ _ last (path_of_exec run)).mpr (by decide)

/-- The broker pushes the next message as soon as the first one is acknowledged. -/
theorem next_message_stranded : ¬StoppingLaw := by
  intro law
  obtain ⟨last, run, seen⟩ := exec_checked step manualConsumer
    (stoppedAfter [.deliver ⟨0, 1, false⟩])
    (fun state => decide (⟨⟨0, 1, false⟩, ⟨1, 2⟩⟩ ∈ state.broker.deliveries ∧
      hasEnded state.world 0 = true ∧ state.world.connection.acked = [⟨1, 1⟩] ∧
      state.broker.requeued = [])) (by decide)
  obtain ⟨delivered, gone, acked, requeued⟩ := of_decide_eq_true seen
  rcases law _ _ _ last (reachable_of_exec run) _ delivered rfl gone with ⟨_, sent⟩ | back
  · rw [acked] at sent
    exact absurd sent (by decide)
  · rw [requeued] at back
    cases back

end BackendComponents.Amqp.Stopping
