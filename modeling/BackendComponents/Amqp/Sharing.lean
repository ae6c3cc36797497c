import BackendComponents.Amqp.ConsumerMoves
import BackendComponents.Lib.Paths
import BackendComponents.Lib.Threads

/-!
# Who waits for the mutex of the connection

`consume_message` holds the connection's mutex while `amqp_consume_message` waits. With
the default timeout of -1 that wait ends with the next delivery only, and until then no
other thread can publish, acknowledge or declare anything on the connection.
-/

namespace BackendComponents.Amqp.Sharing

open BackendComponents.Lib.Paths
open BackendComponents.Lib.Threads
open BackendComponents.Amqp.Channels
open BackendComponents.Amqp.Consumers
open BackendComponents.Amqp.ConsumerMoves

set_option autoImplicit false

def atLock : ConsumerPc → Bool
  | .lockQos _ | .lockConsume _ | .lockReceive _ | .lockAck _ _ | .lockCancel _ => true
  | _ => false

def borrowerAtLock : BorrowerPc → Bool
  | .lockOperation _ => true
  | _ => false

def waiters (state : State) : Nat :=
  state.consumers.countP (fun consumer => atLock consumer.pc) +
    state.borrowers.countP (fun borrower => borrowerAtLock borrower.pc)

def inside : ConsumerPc → Bool
  | .receiving _ => true
  | _ => false

/-- Nothing but a delivery that has not been sent yet, or the loss of the connection, ends
a call of `amqp_consume_message` with these settings. -/
def unbounded (settings : Settings) (connection : Connection) : Bool :=
  decide (settings.timeoutMs < 0 ∧ connection.inbox = [] ∧ connection.failed = false)

def holderStuck (state : State) : Bool :=
  state.connection.holder.any fun id =>
    (state.consumers[id]?).any fun consumer =>
      inside consumer.pc && unbounded consumer.settings state.connection

def isThread : Action → Bool
  | .consumer _ _ | .borrower _ _ => true
  | _ => false

structure Live (state : State) : Prop where
  unblocked : ¬(0 < waiters state ∧ holderStuck state = true)
  enabled : 0 < waiters state → ∃ action after, isThread action = true ∧
    step state action = some after

def SharingLaw : Prop :=
  ∀ (pools : List (List Nat)) (consumers : List Settings) (borrowers : List Nat) (state : State),
    Reachable step (launched pools consumers borrowers) state → Live state

def asks (consumer : Consumer) : Bool :=
  match consumer.pc with
  | .acquire | .testRunning _ => true
  | .handling _ _ => !consumer.settings.noAck
  | _ => false

/-- A consumer enters `amqp_consume_message` without bound only when no other thread
waits, and no thread asks for the mutex while it is inside. -/
def considerate (state : State) : Action → Bool
  | .consumer id _ =>
      match state.consumers[id]? with
      | some consumer =>
          (!asks consumer || !holderStuck state) &&
            match consumer.pc with
            | .lockReceive _ =>
                !unbounded consumer.settings state.connection || decide (waiters state = 1)
            | _ => true
      | none => true
  | .borrower id choice =>
      match (state.borrowers[id]?).map Borrower.pc, choice with
      | some (.holding _), .callMethod => !holderStuck state
      | _, _ => true
  | _ => true

/-! ## The holder is inside amqp_consume_message -/

structure HolderInside (state : State) : Prop where
  holder : ∀ id, state.connection.holder = some id →
    ∃ consumer, state.consumers[id]? = some consumer ∧ inside consumer.pc = true
  owner : ∀ (id : Nat) (consumer : Consumer), state.consumers[id]? = some consumer →
    inside consumer.pc = true → state.connection.holder = some id

theorem consumer_move_mutex {id : Nat} {reply : Reply} {settings : Settings}
    {connection after : Connection} {running runningAfter : Bool} {pc pcAfter : ConsumerPc}
    (move : ConsumerMove id reply settings connection running pc after runningAfter pcAfter) :
    MutexMove id connection.holder (inside pc) after.holder (inside pcAfter) := by
  cases move with
  | acquires taken => split <;> exact .keeps
  | enters free => rw [free]; exact .acquires
  | receives answered front => exact .releases
  | receivesNothing failed bounded => exact .releases
  | _ => exact .keeps

theorem holder_inside_consumer {state : State} {id : Nat} {reply : Reply} {settings : Settings}
    {running runningAfter : Bool} {pc pcAfter : ConsumerPc} {connection : Connection}
    (held : HolderInside state) (at_id : state.consumers[id]? = some ⟨settings, running, pc⟩)
    (move : ConsumerMove id reply settings state.connection running pc
      connection runningAfter pcAfter) :
    HolderInside { state with
      connection := connection
      consumers := state.consumers.set id ⟨settings, runningAfter, pcAfter⟩ } := by
  have mutex := consumer_move_mutex move
  have claim : inside pc = true → state.connection.holder = some id := held.owner id _ at_id
  constructor
  · exact mutex_move_present (fun consumer : Consumer => inside consumer.pc)
      (fun _ _ same => same) at_id mutex held.holder
  · intro other consumer found isInside
    rcases lookup_move found with ⟨rfl, rfl⟩ | ⟨different, old⟩
    · exact mutex_move_self mutex claim isInside
    · exact mutex_move_other mutex claim different (held.owner other consumer old isInside)

theorem holder_inside_move {state after : State} {action : Action} (held : HolderInside state)
    (moved : Move state action after) : HolderInside after := by
  cases moved with
  | @consumer id reply before later connection at_id same move =>
      obtain ⟨settings, running, pc⟩ := before
      obtain ⟨settingsLater, runningLater, pcLater⟩ := later
      obtain rfl : settingsLater = settings := same
      exact holder_inside_consumer held at_id move
  | borrower at_id same move =>
      obtain ⟨pools, rfl⟩ := borrower_move_pools move
      exact ⟨held.holder, held.owner⟩
  | @stop id before at_id =>
      constructor
      · intro other holds
        obtain ⟨consumer, found, isInside⟩ := held.holder other holds
        by_cases own : other = id
        · subst own
          rw [at_id] at found
          obtain rfl := Option.some.inj found
          exact ⟨_, lookup_move_self at_id, isInside⟩
        · exact ⟨consumer, (lookup_move_other own).trans found, isInside⟩
      · intro other consumer found isInside
        rcases lookup_move found with ⟨rfl, rfl⟩ | ⟨_, old⟩
        · exact held.owner other before at_id isInside
        · exact held.owner other consumer old isInside
  | deliver subscribed up => exact ⟨held.holder, held.owner⟩
  | fail => exact ⟨held.holder, held.owner⟩

theorem holder_inside_launched (pools : List (List Nat)) (consumers : List Settings)
    (borrowers : List Nat) : HolderInside (launched pools consumers borrowers) where
  holder := by
    intro id holds
    cases holds
  owner := by
    intro id consumer found isInside
    rw [launched_consumer found] at isInside
    cases isInside

/-! ## When the holder is stuck -/

theorem not_stuck_of_free {state : State} (free : state.connection.holder = none) :
    holderStuck state = false := by
  simp [holderStuck, free]

theorem stuck_unmoved {state : State} {id : Nat} {settings : Settings}
    {running runningAfter : Bool} {pc pcAfter : ConsumerPc} {connection : Connection}
    (held : HolderInside state) (at_id : state.consumers[id]? = some ⟨settings, running, pc⟩)
    (outside : inside pc = false) (sameHolder : connection.holder = state.connection.holder)
    (sameInbox : connection.inbox = state.connection.inbox)
    (sameFailed : connection.failed = state.connection.failed) :
    holderStuck { state with
      connection := connection
      consumers := state.consumers.set id ⟨settings, runningAfter, pcAfter⟩ } =
      holderStuck state := by
  unfold holderStuck
  simp only [sameHolder]
  cases holds : state.connection.holder with
  | none => rfl
  | some holder =>
      have different : holder ≠ id := by
        rintro rfl
        obtain ⟨consumer, found, isInside⟩ := held.holder holder holds
        rw [at_id] at found
        obtain rfl := Option.some.inj found
        rw [outside] at isInside
        cases isInside
      simp only [Option.any_some, lookup_move_other different, unbounded, sameInbox, sameFailed]

theorem stuck_of_stop {state : State} {id : Nat} {settings : Settings} {running : Bool}
    {pc : ConsumerPc} (at_id : state.consumers[id]? = some ⟨settings, running, pc⟩) :
    holderStuck { state with consumers := state.consumers.set id ⟨settings, false, pc⟩ } =
      holderStuck state := by
  unfold holderStuck
  congr 1
  funext holder
  by_cases own : holder = id
  · subst own
    simp only [lookup_move_self at_id, at_id, Option.any_some]
  · simp only [lookup_move_other own]

theorem waiters_consumer {state : State} {id : Nat} {settings : Settings} {running : Bool}
    {pc : ConsumerPc} (runningAfter : Bool) (pcAfter : ConsumerPc) (connection : Connection)
    (at_id : state.consumers[id]? = some ⟨settings, running, pc⟩) :
    waiters { state with
      connection := connection
      consumers := state.consumers.set id ⟨settings, runningAfter, pcAfter⟩ } +
        indicator (atLock pc) = waiters state + indicator (atLock pcAfter) := by
  have moved : (state.consumers.set id ⟨settings, runningAfter, pcAfter⟩).countP
      (fun consumer => atLock consumer.pc) + indicator (atLock pc) =
      state.consumers.countP (fun consumer => atLock consumer.pc) +
        indicator (atLock pcAfter) :=
    countP_move (fun consumer => atLock consumer.pc) at_id
  unfold waiters
  dsimp only
  omega

theorem waiters_borrower {state : State} {id pool : Nat} {pc : BorrowerPc} (pcAfter : BorrowerPc)
    (connection : Connection) (at_id : state.borrowers[id]? = some ⟨pool, pc⟩) :
    waiters { state with
      connection := connection
      borrowers := state.borrowers.set id ⟨pool, pcAfter⟩ } +
        indicator (borrowerAtLock pc) = waiters state + indicator (borrowerAtLock pcAfter) := by
  have moved : (state.borrowers.set id ⟨pool, pcAfter⟩).countP
      (fun borrower => borrowerAtLock borrower.pc) + indicator (borrowerAtLock pc) =
      state.borrowers.countP (fun borrower => borrowerAtLock borrower.pc) +
        indicator (borrowerAtLock pcAfter) :=
    countP_move (fun borrower => borrowerAtLock borrower.pc) at_id
  unfold waiters
  dsimp only
  omega

theorem considerate_consumer {state : State} {id : Nat} {consumer : Consumer}
    (at_id : state.consumers[id]? = some consumer) (reply : Reply)
    (notEntering : ∀ channel, consumer.pc ≠ .lockReceive channel) :
    considerate state (.consumer id reply) = (!asks consumer || !holderStuck state) := by
  simp only [considerate, at_id]
  rw [Bool.and_true]

def Unblocked (state : State) : Prop := ¬(0 < waiters state ∧ holderStuck state = true)

theorem unblocked_outside {state : State} {id : Nat} {settings : Settings}
    {running runningAfter : Bool} {pc pcAfter : ConsumerPc} {connection : Connection}
    (held : HolderInside state) (unblocked : Unblocked state) (reply : Reply)
    (at_id : state.consumers[id]? = some ⟨settings, running, pc⟩)
    (outside : inside pc = false ∧ atLock pc = false)
    (asking : asks ⟨settings, running, pc⟩ = atLock pcAfter)
    (sameHolder : connection.holder = state.connection.holder)
    (sameInbox : connection.inbox = state.connection.inbox)
    (sameFailed : connection.failed = state.connection.failed) :
    Unblocked { state with
      connection := connection
      consumers := state.consumers.set id ⟨settings, runningAfter, pcAfter⟩ } ↔
      considerate state (.consumer id reply) = true := by
  have notEntering : ∀ channel, pc ≠ .lockReceive channel := by
    rintro channel rfl
    cases outside.2
  have count := waiters_consumer runningAfter pcAfter connection at_id
  rw [considerate_consumer at_id reply notEntering, asking]
  unfold Unblocked at *
  rw [stuck_unmoved held at_id outside.1 sameHolder sameInbox sameFailed]
  rw [outside.2] at count
  cases arrives : atLock pcAfter with
  | true =>
      rw [arrives] at count
      simp only [indicator_true, indicator_false] at count
      cases stuck : holderStuck state with
      | true => simp; omega
      | false => simp
  | false =>
      rw [arrives] at count
      simp only [indicator_false, Nat.add_zero] at count
      rw [count]
      simpa using unblocked

theorem unblocked_free {state : State} (free : state.connection.holder = none) :
    Unblocked state := by
  intro blocked
  rw [not_stuck_of_free free] at blocked
  cases blocked.2

theorem unblocked_leaving {state after : State} {id : Nat} {consumer : Consumer} (reply : Reply)
    (at_id : state.consumers[id]? = some consumer)
    (notEntering : ∀ channel, consumer.pc ≠ .lockReceive channel)
    (quiet : asks consumer = false) (free : after.connection.holder = none) :
    Unblocked after ↔ considerate state (.consumer id reply) = true := by
  rw [considerate_consumer at_id reply notEntering, quiet]
  exact ⟨fun _ => rfl, fun _ => unblocked_free free⟩

theorem unblocked_entering {state : State} {id : Nat} {settings : Settings} {running : Bool}
    {channel : Nat} (reply : Reply)
    (at_id : state.consumers[id]? = some ⟨settings, running, .lockReceive channel⟩) :
    Unblocked { state with
      connection := { state.connection with holder := some id }
      consumers := state.consumers.set id ⟨settings, running, .receiving channel⟩ } ↔
      considerate state (.consumer id reply) = true := by
  have count := waiters_consumer running (.receiving channel)
    { state.connection with holder := some id } at_id
  have stuck : holderStuck { state with
      connection := { state.connection with holder := some id }
      consumers := state.consumers.set id ⟨settings, running, .receiving channel⟩ } =
        unbounded settings state.connection := by
    simp only [holderStuck, Option.any_some, lookup_move_self at_id, inside, Bool.true_and]
    rfl
  have entering : considerate state (.consumer id reply) =
      (!unbounded settings state.connection || decide (waiters state = 1)) := by
    simp [considerate, at_id, asks]
  rw [entering]
  unfold Unblocked
  rw [stuck]
  simp only [atLock, indicator_true, indicator_false] at count
  cases unbounded settings state.connection with
  | true => simp; omega
  | false => simp

theorem unblocked_consumer_iff {state : State} {id : Nat} {reply : Reply} {settings : Settings}
    {running runningAfter : Bool} {pc pcAfter : ConsumerPc} {connection : Connection}
    (held : HolderInside state) (unblocked : Unblocked state)
    (at_id : state.consumers[id]? = some ⟨settings, running, pc⟩)
    (move : ConsumerMove id reply settings state.connection running pc
      connection runningAfter pcAfter) :
    Unblocked { state with
      connection := connection
      consumers := state.consumers.set id ⟨settings, runningAfter, pcAfter⟩ } ↔
      considerate state (.consumer id reply) = true := by
  cases move with
  | acquires taken =>
      apply unblocked_outside held unblocked reply at_id ⟨rfl, rfl⟩ _ rfl rfl rfl
      split <;> rfl
  | continues => exact unblocked_outside held unblocked reply at_id ⟨rfl, rfl⟩ rfl rfl rfl rfl
  | leavesLoop => exact unblocked_outside held unblocked reply at_id ⟨rfl, rfl⟩ rfl rfl rfl rfl
  | returnsAuto auto =>
      apply unblocked_outside held unblocked reply at_id ⟨rfl, rfl⟩ _ rfl rfl rfl
      simp [asks, auto, atLock]
  | returnsManual manual =>
      apply unblocked_outside held unblocked reply at_id ⟨rfl, rfl⟩ _ rfl rfl rfl
      simp [asks, manual, atLock]
  | givesBack => exact unblocked_outside held unblocked reply at_id ⟨rfl, rfl⟩ rfl rfl rfl rfl
  | enters free => exact unblocked_entering reply at_id
  | receives answered front => exact unblocked_leaving reply at_id (by simp) rfl rfl
  | receivesNothing failed bounded => exact unblocked_leaving reply at_id (by simp) rfl rfl
  | setsQos free => exact unblocked_leaving reply at_id (by simp) rfl free
  | subscribes free answered => exact unblocked_leaving reply at_id (by simp) rfl free
  | isRefused free failed => exact unblocked_leaving reply at_id (by simp) rfl free
  | acknowledges free => exact unblocked_leaving reply at_id (by simp) rfl free
  | cancels free => exact unblocked_leaving reply at_id (by simp) rfl free

theorem unblocked_borrower_iff {state : State} {id pool : Nat} {choice : Choice}
    {pc pcAfter : BorrowerPc} {connection : Connection} (unblocked : Unblocked state)
    (at_id : state.borrowers[id]? = some ⟨pool, pc⟩)
    (move : BorrowerMove pool state.connection choice pc connection pcAfter) :
    Unblocked { state with
      connection := connection
      borrowers := state.borrowers.set id ⟨pool, pcAfter⟩ } ↔
      considerate state (.borrower id choice) = true := by
  have count := waiters_borrower pcAfter connection at_id
  have stuck : holderStuck { state with
      connection := connection
      borrowers := state.borrowers.set id ⟨pool, pcAfter⟩ } = holderStuck state := by
    obtain ⟨pools, rfl⟩ := borrower_move_pools move
    rfl
  -- the borrower did not and does not wait
  have stays : borrowerAtLock pc = false → borrowerAtLock pcAfter = false →
      considerate state (.borrower id choice) = true →
        (Unblocked { state with
          connection := connection
          borrowers := state.borrowers.set id ⟨pool, pcAfter⟩ } ↔
          considerate state (.borrower id choice) = true) := by
    intro before after kind
    refine ⟨fun _ => kind, fun _ => ?_⟩
    rw [before, after] at count
    unfold Unblocked at *
    rw [stuck, Nat.add_right_cancel count]
    exact unblocked
  cases move with
  | acquires taken => exact stays rfl rfl (by simp [considerate, at_id])
  | calls =>
      have kind : considerate state (.borrower id .callMethod) = !holderStuck state := by
        simp [considerate, at_id]
      rw [kind]
      unfold Unblocked
      rw [stuck]
      simp only [borrowerAtLock, indicator_true, indicator_false] at count
      cases holderStuck state with
      | true => simp; omega
      | false => simp
  | givesBack => exact stays rfl rfl (by simp [considerate, at_id])
  | operates free =>
      have kind : considerate state (.borrower id choice) = true := by
        simp [considerate, at_id]
      exact ⟨fun _ => kind, fun _ => unblocked_free free⟩

theorem unblocked_step_iff {state after : State} {action : Action} (held : HolderInside state)
    (unblocked : Unblocked state) (moved : Move state action after) :
    Unblocked after ↔ considerate state action = true := by
  cases moved with
  | @consumer id reply before later connection at_id same move =>
      obtain ⟨settings, running, pc⟩ := before
      obtain ⟨settingsLater, runningLater, pcLater⟩ := later
      obtain rfl : settingsLater = settings := same
      exact unblocked_consumer_iff held unblocked at_id move
  | @borrower id choice before later connection at_id same move =>
      obtain ⟨pool, pc⟩ := before
      obtain ⟨poolLater, pcLater⟩ := later
      obtain rfl : poolLater = pool := same
      exact unblocked_borrower_iff unblocked at_id move
  | @stop id before at_id =>
      obtain ⟨settings, running, pc⟩ := before
      refine ⟨fun _ => rfl, fun _ => ?_⟩
      have count := waiters_consumer false pc state.connection at_id
      have same : waiters { state with
          consumers := state.consumers.set id ⟨settings, false, pc⟩ } = waiters state :=
        Nat.add_right_cancel count
      unfold Unblocked at *
      rw [same, stuck_of_stop at_id]
      exact unblocked
  | deliver subscribed up =>
      refine ⟨fun _ => rfl, ?_⟩
      rintro - ⟨-, stuck⟩
      simp [holderStuck, unbounded] at stuck
  | fail =>
      refine ⟨fun _ => rfl, ?_⟩
      rintro - ⟨-, stuck⟩
      simp [holderStuck, unbounded] at stuck

theorem unblocked_launched (pools : List (List Nat)) (consumers : List Settings)
    (borrowers : List Nat) : Unblocked (launched pools consumers borrowers) :=
  unblocked_free rfl

/-! ## Progress -/

theorem enabled_of_free {state : State} (free : state.connection.holder = none)
    (waits : 0 < waiters state) :
    ∃ action after, isThread action = true ∧ step state action = some after := by
  unfold waiters at waits
  by_cases consuming : 0 < state.consumers.countP fun consumer => atLock consumer.pc
  · obtain ⟨id, ⟨settings, running, pc⟩, at_id, locks⟩ := exists_lookup_of_countP consuming
    refine ⟨.consumer id .normal, ?_⟩
    cases pc with
    | lockQos channel => simp [isThread, step, at_id, consumeLoop, free]
    | lockConsume channel => simp [isThread, step, at_id, consumeLoop, free]
    | lockReceive channel => simp [isThread, step, at_id, consumeLoop, free]
    | lockAck channel envelope => simp [isThread, step, at_id, consumeLoop, free]
    | lockCancel channel => simp [isThread, step, at_id, consumeLoop, free]
    | _ => cases locks
  · obtain ⟨id, ⟨pool, pc⟩, at_id, locks⟩ := exists_lookup_of_countP
      (show 0 < state.borrowers.countP fun borrower => borrowerAtLock borrower.pc by omega)
    refine ⟨.borrower id .callMethod, ?_⟩
    cases pc with
    | lockOperation channel => simp [isThread, step, at_id, borrow, free]
    | _ => cases locks

theorem enabled_of_holder {state : State} (held : HolderInside state)
    (unstuck : holderStuck state = false) {id : Nat} (holds : state.connection.holder = some id) :
    ∃ action after, isThread action = true ∧ step state action = some after := by
  obtain ⟨⟨settings, running, pc⟩, at_id, isInside⟩ := held.holder id holds
  cases pc with
  | receiving channel =>
      cases front : state.connection.inbox with
      | cons envelope rest =>
          refine ⟨.consumer id .normal, ?_⟩
          simp [isThread, step, at_id, consumeLoop, checkRpcReply, front]
      | nil =>
          refine ⟨.consumer id (.libraryException false), ?_⟩
          have bounded : 0 ≤ settings.timeoutMs ∨ state.connection.failed = true := by
            simp only [holderStuck, holds, Option.any_some, at_id, inside, Bool.true_and,
              unbounded, front, true_and, decide_eq_false_iff_not, not_and_or] at unstuck
            rcases unstuck with timed | failed
            · exact .inl (Int.not_lt.mp timed)
            · exact .inr (by simpa using failed)
          simp [isThread, step, at_id, consumeLoop, checkRpcReply, bounded]
  | _ => cases isInside

theorem live_iff_unblocked {state : State} (held : HolderInside state) :
    Live state ↔ Unblocked state := by
  refine ⟨Live.unblocked, fun unblocked => ⟨unblocked, fun waits => ?_⟩⟩
  cases holds : state.connection.holder with
  | none => exact enabled_of_free holds waits
  | some id =>
      have unstuck : holderStuck state = false := by
        cases stuck : holderStuck state with
        | false => rfl
        | true => exact absurd ⟨waits, stuck⟩ unblocked
      exact enabled_of_holder held unstuck holds

/-- A run never lets a thread wait for a holder that waits without bound, and always leaves
a waiting application something to do, exactly if all its steps are considerate. -/
theorem live_iff_considerate (pools : List (List Nat)) (consumers : List Settings)
    (borrowers : List Nat) (trail : List (State × Action)) (last : State)
    (path : Path step (launched pools consumers borrowers) trail last) :
    (∀ state ∈ visited trail last, Live state) ↔
      ∀ taken ∈ trail, considerate taken.1 taken.2 = true := by
  have inside := holder_inside_launched pools consumers borrowers
  apply path_property_iff_good HolderInside Live
    (fun state action => considerate state action = true) inside
    ((live_iff_unblocked inside).mpr (unblocked_launched pools consumers borrowers)) _ _ path
  · intro state action after held stepped
    exact holder_inside_move held (move_of_step stepped)
  · intro state action after held live stepped
    have moved := move_of_step stepped
    rw [live_iff_unblocked (holder_inside_move held moved)]
    exact unblocked_step_iff held live.unblocked moved

/-- A consumer with the default settings and a producer on one pool. -/
def shared : State := launched [[1, 2]] [{ pool := 0 }] [0]

/-- The message is there before the consumer enters `amqp_consume_message`; the producer
waits for the mutex until the consumer has it. -/
def pendingFirst : List Action :=
  List.replicate 2 (.consumer 0 .normal) ++ [.deliver 1] ++ List.replicate 2 (.consumer 0 .normal) ++
    [.borrower 0 .callMethod, .borrower 0 .callMethod, .consumer 0 .normal,
      .borrower 0 .callMethod, .borrower 0 .giveBack]

theorem live_pending_first :
    ∃ last, exec step shared pendingFirst = some last ∧
      last.borrowers = [⟨0, .idle⟩] ∧
      ∀ state ∈ visited (trailOf step shared pendingFirst) last, Live state := by
  obtain ⟨last, run, sent⟩ := exec_checked step shared pendingFirst
    (fun state => decide (state.borrowers = [⟨0, .idle⟩])) (by decide)
  refine ⟨last, run, of_decide_eq_true sent, ?_⟩
  exact (live_iff_considerate _ _ _ _ last (path_of_exec run)).mpr (by decide)

/-- The consumer enters with nothing delivered; the producer, whose message it waits for,
waits for the mutex. -/
theorem producer_waits_for_consumer : ¬SharingLaw := by
  intro law
  obtain ⟨last, run, seen⟩ := exec_checked step shared
    (List.replicate 4 (.consumer 0 .normal) ++ List.replicate 2 (.borrower 0 .callMethod))
    (fun state => decide (0 < waiters state ∧ holderStuck state = true)) (by decide)
  have live := law _ _ _ last (reachable_of_exec run)
  exact live.unblocked (of_decide_eq_true seen)

end BackendComponents.Amqp.Sharing
