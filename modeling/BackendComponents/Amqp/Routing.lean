import Mathlib.Data.List.Perm.Subperm
import BackendComponents.Amqp.ConsumerMoves
import BackendComponents.Lib.Paths
import BackendComponents.Lib.Threads

/-!
# Whose message a consumer gets

`amqp_consume_message` returns the next delivery of the connection, on whatever channel
it is, and `consume_loop` handles it and acknowledges it on its own channel without
looking. A message reaches its own consumer exactly if that consumer happens to be the
one inside the call.
-/

namespace BackendComponents.Amqp.Routing

open BackendComponents.Lib.Paths
open BackendComponents.Lib.Threads
open BackendComponents.Amqp.Channels
open BackendComponents.Amqp.Consumers
open BackendComponents.Amqp.ConsumerMoves

set_option autoImplicit false

def manually (envelope : Envelope) (handled : Handled) : Bool :=
  !handled.noAck && decide (handled.envelope = envelope)

def acksNext (envelope : Envelope) (consumer : Consumer) : Bool :=
  match consumer.pc with
  | .lockAck _ waiting => decide (waiting = envelope)
  | _ => false

/-- Messages go to the handler of the consumer that holds their channel. In manual mode a
message whose handler returned has been acknowledged once, on its channel with its tag, or
its consumer is about to do so; nothing else is acknowledged, and no handler sees a message
twice. -/
structure Routed (state : State) : Prop where
  own : ∀ handled ∈ state.connection.started, handled.envelope.channel = handled.held
  acked : ∀ envelope, state.connection.acked.count envelope +
    state.consumers.countP (acksNext envelope) =
      state.connection.returned.countP (manually envelope)
  once : ∀ envelope, state.connection.returned.countP (manually envelope) ≤ 1

def RoutingLaw : Prop :=
  ∀ (pools : List (List Nat)) (consumers : List Settings) (borrowers : List Nat) (state : State),
    Reachable step (launched pools consumers borrowers) state → Routed state

/-- The consumer that returns from `amqp_consume_message` with a message holds the channel
of the next delivery. -/
def forwardsOwn (state : State) : Action → Bool
  | .consumer id reply =>
      match (state.consumers[id]?).map Consumer.pc, state.connection.inbox with
      | some (.receiving channel), envelope :: _ =>
          !checkRpcReply reply || decide (envelope.channel = channel)
      | _, _ => true
  | _ => true

/-! ## The deliveries of the connection -/

/-- Deliveries are read in order, each once, and numbered within their channel. -/
structure Stream (connection : Connection) : Prop where
  fifo : connection.delivered = connection.started.map Handled.envelope ++ connection.inbox
  numbered : ∀ envelope ∈ connection.delivered, envelope.deliveryTag ≤
    connection.delivered.countP fun earlier => earlier.channel == envelope.channel
  distinct : connection.delivered.Nodup

theorem next_envelope_fresh {connection : Connection} (stream : Stream connection)
    (channel : Nat) : nextEnvelope channel connection ∉ connection.delivered := by
  intro old
  have := stream.numbered _ old
  simp only [nextEnvelope] at this
  omega

theorem stream_deliver {connection : Connection} (stream : Stream connection) (channel : Nat) :
    Stream { connection with
      inbox := connection.inbox ++ [nextEnvelope channel connection]
      delivered := connection.delivered ++ [nextEnvelope channel connection] } where
  fifo := by
    rw [stream.fifo, List.append_assoc]
  numbered := by
    intro envelope member
    rw [List.countP_append]
    rcases List.mem_append.mp member with old | new
    · have := stream.numbered envelope old
      omega
    · obtain rfl := List.mem_singleton.mp new
      simp [nextEnvelope]
  distinct := by
    apply stream.distinct.append (List.nodup_singleton _)
    intro envelope old new
    obtain rfl := List.mem_singleton.mp new
    exact next_envelope_fresh stream channel old

theorem stream_consumer {id : Nat} {reply : Reply} {settings : Settings}
    {connection after : Connection} {running runningAfter : Bool} {pc pcAfter : ConsumerPc}
    (stream : Stream connection)
    (move : ConsumerMove id reply settings connection running pc after runningAfter pcAfter) :
    Stream after := by
  cases move with
  | receives answered front =>
      refine ⟨?_, stream.numbered, stream.distinct⟩
      simp [stream.fifo, front]
  | _ => exact ⟨stream.fifo, stream.numbered, stream.distinct⟩

/-! ## The messages between a handler and the acknowledgement -/

def inHandler (handled : Handled) (consumer : Consumer) : Bool :=
  decide (consumer.pc = .handling handled.held handled.envelope ∧
    consumer.settings.noAck = handled.noAck)

def sendsNext (ack : Envelope) (consumer : Consumer) : Bool :=
  match consumer.pc with
  | .lockAck channel envelope => decide (⟨channel, envelope.deliveryTag⟩ = ack)
  | _ => false

/-- The handler returned in manual mode and this is the acknowledgement to send. -/
def owes (ack : Envelope) (handled : Handled) : Bool :=
  !handled.noAck && decide (⟨handled.held, handled.envelope.deliveryTag⟩ = ack)

structure Progress (state : State) : Prop where
  handlers : ∀ handled : Handled, state.connection.returned.count handled +
    indicator ((state.consumers[handled.consumer]?).any (inHandler handled)) ≤
      state.connection.started.count handled
  acks : ∀ ack, state.connection.acked.count ack + state.consumers.countP (sendsNext ack) =
    state.connection.returned.countP (owes ack)
  pending : ∀ (id : Nat) (consumer : Consumer) (channel : Nat) (envelope : Envelope),
    state.consumers[id]? = some consumer → consumer.pc = .lockAck channel envelope →
      (⟨id, channel, false, envelope⟩ : Handled) ∈ state.connection.returned

theorem progress_launched (pools : List (List Nat)) (consumers : List Settings)
    (borrowers : List Nat) : Progress (launched pools consumers borrowers) where
  handlers := by
    intro handled
    have idle : ((launched pools consumers borrowers).consumers[handled.consumer]?).any
        (inHandler handled) = false := by
      cases found : consumers[handled.consumer]? with
      | none => simp [launched, found]
      | some settings => simp [launched, found, inHandler]
    rw [idle]
    simp [launched]
  acks := by
    intro ack
    have idle : (launched pools consumers borrowers).consumers.countP (sendsNext ack) = 0 := by
      rw [List.countP_eq_zero]
      intro consumer member
      obtain ⟨settings, _, rfl⟩ := List.mem_map.mp member
      simp [sendsNext]
    rw [idle]
    rfl
  pending := by
    intro id consumer channel envelope found at_ack
    rw [launched_consumer found] at at_ack
    cases at_ack

theorem in_handler_own {handled : Handled} {id : Nat} (settings : Settings) (running : Bool)
    (channel : Nat) (envelope : Envelope) (own : handled.consumer = id) :
    inHandler handled ⟨settings, running, .handling channel envelope⟩ =
      decide (handled = ⟨id, channel, settings.noAck, envelope⟩) := by
  obtain ⟨consumer, held, noAck, message⟩ := handled
  subst own
  simp only [inHandler, ConsumerPc.handling.injEq, Handled.mk.injEq, true_and]
  apply decide_eq_decide.mpr
  constructor
  · rintro ⟨⟨rfl, rfl⟩, rfl⟩
    exact ⟨rfl, rfl, rfl⟩
  · rintro ⟨rfl, rfl, rfl⟩
    exact ⟨⟨rfl, rfl⟩, rfl⟩

theorem count_snoc {Entry : Type*} [DecidableEq Entry] (entries : List Entry) (new entry : Entry) :
    (entries ++ [new]).count entry = entries.count entry + indicator (decide (entry = new)) := by
  rw [List.count_append]
  by_cases same : entry = new
  · simp [same]
  · have flipped : ¬new = entry := fun equal => same equal.symm
    simp [same, flipped]

theorem count_foreign {handled new : Handled} (entries : List Handled)
    (other : handled.consumer ≠ new.consumer) :
    (entries ++ [new]).count handled = entries.count handled := by
  have different : decide (handled = new) = false := by
    apply decide_eq_false
    rintro rfl
    exact other rfl
  rw [count_snoc, different]
  rfl

theorem handler_move_counts {id : Nat} {reply : Reply} {settings : Settings}
    {connection after : Connection} {running runningAfter : Bool} {pc pcAfter : ConsumerPc}
    (move : ConsumerMove id reply settings connection running pc after runningAfter pcAfter)
    (handled : Handled) :
    (handled.consumer = id → after.returned.count handled +
        indicator (inHandler handled ⟨settings, runningAfter, pcAfter⟩) +
        connection.started.count handled ≤
      connection.returned.count handled + indicator (inHandler handled ⟨settings, running, pc⟩) +
        after.started.count handled) ∧
    (handled.consumer ≠ id → after.returned.count handled = connection.returned.count handled ∧
      after.started.count handled = connection.started.count handled) := by
  cases move with
  | receives answered front =>
      constructor
      · intro own
        rw [in_handler_own settings _ _ _ own, count_snoc]
        simp only [inHandler, reduceCtorEq, false_and, decide_false, indicator_false]
        omega
      · intro other
        exact ⟨rfl, count_foreign _ other⟩
  | returnsAuto auto =>
      constructor
      · intro own
        rw [in_handler_own settings _ _ _ own, count_snoc]
        simp only [inHandler, reduceCtorEq, false_and, decide_false, indicator_false]
        omega
      · intro other
        exact ⟨count_foreign _ other, rfl⟩
  | returnsManual manual =>
      constructor
      · intro own
        rw [in_handler_own settings _ _ _ own, count_snoc]
        simp only [inHandler, reduceCtorEq, false_and, decide_false, indicator_false]
        omega
      · intro other
        exact ⟨count_foreign _ other, rfl⟩
  | @acquires _ channel pools taken =>
      refine ⟨fun own => ?_, fun other => ⟨rfl, rfl⟩⟩
      have outside : inHandler handled ⟨settings, running,
          if 0 < settings.prefetchCount then .lockQos channel else .lockConsume channel⟩ =
            false := by
        split <;> simp [inHandler]
      rw [outside]
      simp only [inHandler, reduceCtorEq, false_and, decide_false, indicator_false]
      omega
  | _ =>
      refine ⟨fun own => ?_, fun other => ⟨rfl, rfl⟩⟩
      simp only [inHandler, reduceCtorEq, false_and, decide_false, indicator_false]
      omega

theorem ack_move_counts {id : Nat} {reply : Reply} {settings : Settings}
    {connection after : Connection} {running runningAfter : Bool} {pc pcAfter : ConsumerPc}
    (move : ConsumerMove id reply settings connection running pc after runningAfter pcAfter)
    (ack : Envelope) :
    after.acked.count ack + indicator (sendsNext ack ⟨settings, runningAfter, pcAfter⟩) +
        connection.returned.countP (owes ack) =
      connection.acked.count ack + indicator (sendsNext ack ⟨settings, running, pc⟩) +
        after.returned.countP (owes ack) := by
  cases move with
  | @returnsAuto running channel envelope auto =>
      have nothing : owes ack ⟨id, channel, settings.noAck, envelope⟩ = false := by
        simp [owes, auto]
      simp [sendsNext, List.countP_append, nothing]
  | @returnsManual running channel envelope manual =>
      have due : sendsNext ack ⟨settings, running, .lockAck channel envelope⟩ =
          owes ack ⟨id, channel, settings.noAck, envelope⟩ := by
        simp [sendsNext, owes, manual]
      rw [due, List.countP_append, List.countP_singleton]
      simp only [sendsNext, indicator, Bool.false_eq_true, if_false]
      omega
  | @acknowledges running channel envelope free =>
      have sent : sendsNext ack ⟨settings, running, .lockAck channel envelope⟩ =
          decide (ack = ⟨channel, envelope.deliveryTag⟩) := by
        simp [sendsNext, eq_comm]
      rw [count_snoc, sent]
      simp only [sendsNext, indicator_false]
      omega
  | @acquires _ channel pools taken =>
      have outside : sendsNext ack ⟨settings, running,
          if 0 < settings.prefetchCount then .lockQos channel else .lockConsume channel⟩ =
            false := by
        split <;> rfl
      rw [outside]
      simp only [sendsNext]
  | _ => simp only [sendsNext]

theorem lock_ack_move {id : Nat} {reply : Reply} {settings : Settings}
    {connection after : Connection} {running runningAfter : Bool} {pc pcAfter : ConsumerPc}
    (move : ConsumerMove id reply settings connection running pc after runningAfter pcAfter) :
    connection.returned ⊆ after.returned ∧
      ∀ channel envelope, pcAfter = .lockAck channel envelope →
        (⟨id, channel, false, envelope⟩ : Handled) ∈ after.returned := by
  cases move with
  | returnsManual manual =>
      refine ⟨List.subset_append_left _ _, ?_⟩
      intro channel envelope here
      obtain ⟨rfl, rfl⟩ := ConsumerPc.lockAck.inj here
      simp [manual]
  | returnsAuto auto =>
      exact ⟨List.subset_append_left _ _, fun channel envelope impossible => by cases impossible⟩
  | acquires taken =>
      refine ⟨fun _ member => member, ?_⟩
      intro channel envelope impossible
      split at impossible <;> cases impossible
  | _ => exact ⟨fun _ member => member, fun channel envelope impossible => by cases impossible⟩

theorem progress_update {state : State} {id : Nat} {before after : Consumer}
    {connection : Connection} (progress : Progress state)
    (at_id : state.consumers[id]? = some before)
    (handlers : ∀ handled : Handled,
      (handled.consumer = id → connection.returned.count handled +
          indicator (inHandler handled after) + state.connection.started.count handled ≤
        state.connection.returned.count handled + indicator (inHandler handled before) +
          connection.started.count handled) ∧
      (handled.consumer ≠ id →
        connection.returned.count handled = state.connection.returned.count handled ∧
        connection.started.count handled = state.connection.started.count handled))
    (acks : ∀ ack, connection.acked.count ack + indicator (sendsNext ack after) +
        state.connection.returned.countP (owes ack) =
      state.connection.acked.count ack + indicator (sendsNext ack before) +
        connection.returned.countP (owes ack))
    (pending : state.connection.returned ⊆ connection.returned ∧
      ∀ channel envelope, after.pc = .lockAck channel envelope →
        (⟨id, channel, false, envelope⟩ : Handled) ∈ connection.returned) :
    Progress { state with
      connection := connection
      consumers := state.consumers.set id after } where
  handlers := by
    intro handled
    have bound := progress.handlers handled
    obtain ⟨ownCounts, otherCounts⟩ := handlers handled
    by_cases own : handled.consumer = id
    · have counts := ownCounts own
      rw [own, at_id, Option.any_some] at bound
      simp only [own, lookup_move_self at_id, Option.any_some]
      omega
    · obtain ⟨sameReturned, sameStarted⟩ := otherCounts own
      simp only [lookup_move_other own]
      omega
  acks := by
    intro ack
    have balance := progress.acks ack
    have counts := acks ack
    have moved : (state.consumers.set id after).countP (sendsNext ack) +
        indicator (sendsNext ack before) = _ := countP_move (sendsNext ack) at_id
    dsimp only
    omega
  pending := by
    intro other consumer channel envelope found at_ack
    rcases lookup_move found with ⟨rfl, rfl⟩ | ⟨_, old⟩
    · exact pending.2 channel envelope at_ack
    · exact pending.1 (progress.pending other consumer channel envelope old at_ack)

theorem progress_stop {state : State} {id : Nat} {settings : Settings} {running : Bool}
    {pc : ConsumerPc} (progress : Progress state)
    (at_id : state.consumers[id]? = some ⟨settings, running, pc⟩) :
    Progress { state with consumers := state.consumers.set id ⟨settings, false, pc⟩ } := by
  apply progress_update progress at_id
  · intro handled
    exact ⟨fun _ => Nat.le_refl _, fun _ => ⟨rfl, rfl⟩⟩
  · intro ack
    rfl
  · refine ⟨fun _ member => member, ?_⟩
    intro channel envelope at_ack
    exact progress.pending id _ channel envelope at_id at_ack

/-- What holds in every run, whoever gets which message. -/
structure Kept (state : State) : Prop where
  stream : Stream state.connection
  progress : Progress state

theorem kept_move {state after : State} {action : Action} (kept : Kept state)
    (moved : Move state action after) : Kept after := by
  obtain ⟨stream, progress⟩ := kept
  cases moved with
  | @consumer id reply before later connection at_id same move =>
      obtain ⟨settings, running, pc⟩ := before
      obtain ⟨settingsLater, runningLater, pcLater⟩ := later
      obtain rfl : settingsLater = settings := same
      exact ⟨stream_consumer stream move,
        progress_update progress at_id (handler_move_counts move) (ack_move_counts move)
          (lock_ack_move move)⟩
  | borrower at_id same move =>
      obtain ⟨pools, rfl⟩ := borrower_move_pools move
      exact ⟨⟨stream.fifo, stream.numbered, stream.distinct⟩,
        ⟨progress.handlers, progress.acks, progress.pending⟩⟩
  | @stop id before at_id =>
      obtain ⟨settings, running, pc⟩ := before
      exact ⟨stream, progress_stop progress at_id⟩
  | @deliver channel subscribed up =>
      exact ⟨stream_deliver stream channel,
        ⟨progress.handlers, progress.acks, progress.pending⟩⟩
  | fail =>
      exact ⟨⟨stream.fifo, stream.numbered, stream.distinct⟩,
        ⟨progress.handlers, progress.acks, progress.pending⟩⟩

theorem kept_launched (pools : List (List Nat)) (consumers : List Settings)
    (borrowers : List Nat) : Kept (launched pools consumers borrowers) where
  stream := by
    refine ⟨rfl, ?_, List.nodup_nil⟩
    intro envelope member
    cases member
  progress := progress_launched pools consumers borrowers

/-! ## Routing -/

theorem started_of_returned {state : State} (progress : Progress state) {handled : Handled}
    (returned : handled ∈ state.connection.returned) : handled ∈ state.connection.started := by
  have bound := progress.handlers handled
  have positive := List.count_pos_iff.mpr returned
  apply List.count_pos_iff.mp
  omega

theorem manually_once {state : State} (kept : Kept state) (envelope : Envelope) :
    state.connection.returned.countP (manually envelope) ≤ 1 := by
  have called : List.Subperm state.connection.returned state.connection.started := by
    rw [List.subperm_iff_count]
    intro handled
    have bound := kept.progress.handlers handled
    omega
  have read : state.connection.started.countP (manually envelope) ≤
      (state.connection.started.map Handled.envelope).count envelope := by
    rw [List.count, List.countP_map]
    apply List.countP_mono_left
    intro handled _ chosen
    simp only [manually, Bool.and_eq_true, decide_eq_true_eq] at chosen
    simp [chosen.2]
  have unique := List.nodup_iff_count_le_one.mp kept.stream.distinct envelope
  rw [kept.stream.fifo, List.count_append] at unique
  have handlers := called.countP_le (manually envelope)
  omega

theorem routed_iff_own {state : State} (kept : Kept state) :
    Routed state ↔
      ∀ handled ∈ state.connection.started, handled.envelope.channel = handled.held := by
  refine ⟨Routed.own, fun own => ⟨own, ?_, manually_once kept⟩⟩
  intro envelope
  have balance := kept.progress.acks envelope
  have debts : state.connection.returned.countP (owes envelope) =
      state.connection.returned.countP (manually envelope) := by
    apply List.countP_congr
    intro handled member
    have here := own handled (started_of_returned kept.progress member)
    simp [owes, manually, ← here]
  have senders : state.consumers.countP (sendsNext envelope) =
      state.consumers.countP (acksNext envelope) := by
    apply List.countP_congr
    intro consumer member
    obtain ⟨id, found⟩ := List.mem_iff_getElem?.mp member
    unfold sendsNext acksNext
    split
    · next channel waiting at_ack =>
        have entry := kept.progress.pending id consumer channel waiting found at_ack
        have here := own _ (started_of_returned kept.progress entry)
        dsimp only at here
        simp [← here]
    · rfl
  omega

theorem forwards_own_elsewhere {state : State} {id : Nat} {consumer : Consumer} (reply : Reply)
    (at_id : state.consumers[id]? = some consumer)
    (elsewhere : checkRpcReply reply = true → ∀ channel, consumer.pc ≠ .receiving channel) :
    forwardsOwn state (.consumer id reply) = true := by
  simp only [forwardsOwn, at_id, Option.map_some]
  split
  · next channel envelope rest here front =>
      cases answered : checkRpcReply reply with
      | false => rfl
      | true => exact absurd (Option.some.inj here) (elsewhere answered channel)
  · rfl

theorem routed_step_iff {state after : State} {action : Action} (kept : Kept state)
    (routed : Routed state) (stepped : step state action = some after) :
    Routed after ↔ forwardsOwn state action = true := by
  have moved := move_of_step stepped
  rw [routed_iff_own (kept_move kept moved)]
  cases moved with
  | @consumer id reply before later connection at_id same move =>
      obtain ⟨settings, running, pc⟩ := before
      obtain ⟨settingsLater, runningLater, pcLater⟩ := later
      cases move with
      | @receives running channel envelope rest answered front =>
          have asked : forwardsOwn state (.consumer id reply) =
              decide (envelope.channel = channel) := by
            simp [forwardsOwn, at_id, front, answered]
          rw [asked, decide_eq_true_eq]
          constructor
          · intro own
            exact own ⟨id, channel, settings.noAck, envelope⟩ (by simp)
          · intro own handled member
            rcases List.mem_append.mp member with old | new
            · exact routed.own handled old
            · obtain rfl := List.mem_singleton.mp new
              exact own
      | receivesNothing failed bounded =>
          have elsewhere := forwards_own_elsewhere reply at_id
            (fun answered => by rw [failed] at answered; cases answered)
          exact ⟨fun _ => elsewhere, fun _ => routed.own⟩
      | _ =>
          have elsewhere := forwards_own_elsewhere reply at_id (by simp)
          exact ⟨fun _ => elsewhere, fun _ => routed.own⟩
  | borrower at_id same move =>
      obtain ⟨pools, rfl⟩ := borrower_move_pools move
      exact ⟨fun _ => rfl, fun _ => routed.own⟩
  | stop at_id => exact ⟨fun _ => rfl, fun _ => routed.own⟩
  | deliver subscribed up => exact ⟨fun _ => rfl, fun _ => routed.own⟩
  | fail => exact ⟨fun _ => rfl, fun _ => routed.own⟩

/-- In a run every message goes to its own consumer and is acknowledged as it should be
exactly if each consumer that gets a message holds the channel of the next delivery. -/
theorem routed_iff_forwards_own (pools : List (List Nat)) (consumers : List Settings)
    (borrowers : List Nat) (trail : List (State × Action)) (last : State)
    (path : Path step (launched pools consumers borrowers) trail last) :
    (∀ state ∈ visited trail last, Routed state) ↔
      ∀ taken ∈ trail, forwardsOwn taken.1 taken.2 = true := by
  have kept := kept_launched pools consumers borrowers
  apply path_property_iff_good Kept Routed (fun state action => forwardsOwn state action = true)
    kept ((routed_iff_own kept).mpr _) _ _ path
  · intro handled member
    cases member
  · intro state action after kept stepped
    exact kept_move kept (move_of_step stepped)
  · intro state action after kept routed stepped
    exact routed_step_iff kept routed stepped

/-- Two manual consumers on channels 1 and 2 subscribe, consumer 0 first enters
`amqp_consume_message`, and a message arrives on the given channel. -/
def oneDelivery (channel : Nat) : List Action :=
  List.replicate 2 (.consumer 0 .normal) ++ List.replicate 2 (.consumer 1 .normal) ++
    List.replicate 2 (.consumer 0 .normal) ++ [.deliver channel] ++
    List.replicate 3 (.consumer 0 .normal)

def manualPair : State := launched [[1, 2]] [⟨0, false, -1, 0⟩, ⟨0, false, -1, 0⟩] []

theorem routed_own_delivery :
    ∃ last, exec step manualPair (oneDelivery 1) = some last ∧
      last.connection.acked = [⟨1, 1⟩] ∧
      ∀ state ∈ visited (trailOf step manualPair (oneDelivery 1)) last, Routed state := by
  obtain ⟨last, run, acked⟩ := exec_checked step manualPair (oneDelivery 1)
    (fun state => decide (state.connection.acked = [⟨1, 1⟩])) (by decide)
  refine ⟨last, run, of_decide_eq_true acked, ?_⟩
  exact (routed_iff_forwards_own _ _ _ _ last (path_of_exec run)).mpr (by decide)

/-- The message on channel 2 reaches the handler of the consumer that holds channel 1. -/
theorem foreign_message_handled : ¬RoutingLaw := by
  intro law
  obtain ⟨last, run, seen⟩ := exec_checked step manualPair (oneDelivery 2)
    (fun state => decide ((⟨0, 1, false, ⟨2, 1⟩⟩ : Handled) ∈ state.connection.started ∧
      state.connection.acked = [⟨1, 1⟩])) (by decide)
  have routed := law _ _ _ last (reachable_of_exec run)
  have own := routed.own _ (of_decide_eq_true seen).1
  cases own

end BackendComponents.Amqp.Routing
