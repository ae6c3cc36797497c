import BackendComponents.Amqp.ChannelPool
import BackendComponents.Lib.Paths

/-!
# Which channels the pool hands out

`m_open` is written by `open` and `close` only, while every operation answered by a
server exception closes the channel at the broker. The pool takes back whatever it is
given, so the next borrower gets the closed channel.
-/

namespace BackendComponents.Amqp.Usability

open BackendComponents.Lib.Paths
open BackendComponents.Lib.Threads
open BackendComponents.Amqp.Channels
open BackendComponents.Amqp.ChannelPool

set_option autoImplicit false

def Agrees (link : Link) : Prop := link.channel.isOpen = link.broker.isOpen

/-- What `acquire` and `try_acquire` hand out is an element of `m_channels`. -/
structure Usable (state : State) : Prop where
  available : ∀ link ∈ state.pool.channels, link.broker.refused = false ∧ Agrees link
  held : ∀ (id : Nat) (link : Link), state.borrowers[id]? = some (.holding link) → Agrees link

def PoolLaw : Prop :=
  ∀ (replies : List Reply) (state : State), Reachable step (constructed replies) state →
    Usable state

/-- The calls on a channel that is held after which its flag is right and it can be
handed out again. -/
def harmless (link : Link) : Call → Bool
  | .openChannel .normal => true
  | .openChannel .serverException => !link.channel.isOpen
  | .openChannel (.libraryException done) => !done || link.channel.isOpen
  | .closeChannel .normal => true
  | .closeChannel .serverException => !link.channel.isOpen
  | .closeChannel (.libraryException done) => !done || !link.channel.isOpen
  | .operate _ .serverException => !link.channel.isOpen
  | .release _ => !link.broker.refused
  | _ => true

def harmlessStep (state : State) : Action → Bool
  | .arrive => true
  | .call id call =>
      match state.borrowers[id]? with
      | some (.holding link) => harmless link call
      | _ => true

/-! ## One channel -/

theorem open_agrees_iff (reply : Reply) {link : Link} (agrees : Agrees link) :
    Agrees (openChannel reply link).2 ↔ harmless link (.openChannel reply) = true := by
  unfold Agrees at *
  cases reply with
  | normal => simp [openChannel, settle, checkRpcReply, performed, harmless]
  | serverException => simp [openChannel, settle, checkRpcReply, harmless]
  | libraryException done =>
      cases done with
      | false => simp [openChannel, settle, checkRpcReply, performed, harmless, agrees]
      | true => simp [openChannel, settle, checkRpcReply, performed, harmless]

theorem close_agrees_iff (reply : Reply) {link : Link} (agrees : Agrees link) :
    Agrees (closeChannel reply link).2 ↔ harmless link (.closeChannel reply) = true := by
  unfold Agrees at *
  unfold closeChannel
  cases entered : link.channel.isOpen with
  | false => cases reply <;> simp [harmless, entered, ← agrees]
  | true =>
      cases reply with
      | normal => simp [settle, checkRpcReply, performed, harmless]
      | serverException => simp [settle, checkRpcReply, harmless, entered]
      | libraryException done =>
          cases done with
          | false => simp [settle, checkRpcReply, performed, harmless, agrees]
          | true => simp [settle, checkRpcReply, performed, harmless, entered]

theorem operate_agrees_iff (operation : Operation) (reply : Reply) {link : Link}
    (agrees : Agrees link) :
    Agrees (operate operation reply link).2 ↔
      harmless link (.operate operation reply) = true := by
  unfold Agrees at *
  cases reply <;> simp [operate, settle, harmless, agrees]

/-! ## One step -/

/-- What a step does to the channels: it moves none, takes the front one, changes the
one it holds, or gives it back. -/
inductive LinkMove (pool : Pool) : Borrower → Call → Pool → Borrower → Prop
  | keeps {borrower after : Borrower} {call : Call} {poolAfter : Pool}
      (same : poolAfter.channels = pool.channels)
      (before : ∀ link, borrower ≠ .holding link) (later : ∀ link, after ≠ .holding link) :
      LinkMove pool borrower call poolAfter after
  | takes {borrower : Borrower} {call : Call} {poolAfter : Pool} {link : Link}
      (front : pool.channels = link :: poolAfter.channels)
      (before : ∀ link, borrower ≠ .holding link) :
      LinkMove pool borrower call poolAfter (.holding link)
  | changes {call : Call} {link after : Link}
      (exact_call : Agrees link → (Agrees after ↔ harmless link call = true)) :
      LinkMove pool (.holding link) call pool (.holding after)
  | gives {pick : Nat} {link : Link} {waiting : List Nat} :
      LinkMove pool (.holding link) (.release pick)
        { channels := pool.channels ++ [link], waiting := waiting } .idle

theorem link_move_of_take {pool awake given : Pool} {borrower after : Borrower} {call : Call}
    {result : Pool × Borrower} (moved : some (takeFront awake (given, after)) = some result)
    (front : awake.channels = pool.channels) (same : given.channels = pool.channels)
    (before : ∀ link, borrower ≠ .holding link) (later : ∀ link, after ≠ .holding link) :
    LinkMove pool borrower call result.1 result.2 := by
  obtain rfl := Option.some.inj moved
  unfold takeFront
  split
  · exact .keeps same before later
  · next link rest shape => exact .takes (by rw [← front, shape]) before

theorem link_move_of_borrow {id : Nat} {pool : Pool} {borrower : Borrower} {call : Call}
    {result : Pool × Borrower} (moved : borrow id pool borrower call = some result) :
    LinkMove pool borrower call result.1 result.2 := by
  unfold borrow at moved
  split at moved
  · exact link_move_of_take moved rfl rfl (by simp) (by simp)
  · exact link_move_of_take moved rfl rfl (by simp) (by simp)
  · exact link_move_of_take moved rfl rfl (by simp) (by simp)
  · exact link_move_of_take moved rfl rfl (by simp) (by simp)
  · exact link_move_of_take moved rfl rfl (by simp) (by simp)
  · next link reply =>
      obtain rfl := Option.some.inj moved
      exact .changes (open_agrees_iff reply)
  · next link reply =>
      obtain ⟨_, taken⟩ := Option.ite_none_right_eq_some.mp moved
      obtain rfl := Option.some.inj taken
      exact .changes (close_agrees_iff reply)
  · next link operation reply =>
      obtain ⟨_, taken⟩ := Option.ite_none_right_eq_some.mp moved
      obtain rfl := Option.some.inj taken
      exact .changes (operate_agrees_iff operation reply)
  · next link pick =>
      obtain ⟨waiting, _, rfl⟩ := Option.map_eq_some_iff.mp moved
      exact .gives
  · obtain rfl := Option.some.inj moved
    exact .keeps rfl (by simp) (by simp)
  · cases moved

theorem harmless_step_holding {state : State} {id : Nat} {link : Link} (call : Call)
    (holds : state.borrowers[id]? = some (.holding link)) :
    harmlessStep state (.call id call) = harmless link call := by
  simp only [harmlessStep, holds]

theorem harmless_step_empty {state : State} {id : Nat} {borrower : Borrower} (call : Call)
    (at_id : state.borrowers[id]? = some borrower) (empty : ∀ link, borrower ≠ .holding link) :
    harmlessStep state (.call id call) = true := by
  simp only [harmlessStep, at_id]
  cases borrower with
  | holding link => exact absurd rfl (empty link)
  | _ => rfl

theorem usable_step_iff {state after : State} {action : Action} (usable : Usable state)
    (moved : step state action = some after) :
    Usable after ↔ harmlessStep state action = true := by
  cases action with
  | arrive =>
      obtain rfl := Option.some.inj moved
      refine ⟨fun _ => rfl, fun _ => ⟨usable.available, ?_⟩⟩
      intro id link found
      rcases lookup_append found with old | ⟨_, fresh⟩
      · exact usable.held id link old
      · cases fresh
  | call id call =>
      obtain ⟨borrower, at_id, continued⟩ := Option.bind_eq_some_iff.mp moved
      obtain ⟨result, borrowed, rfl⟩ := Option.map_eq_some_iff.mp continued
      have move := link_move_of_borrow borrowed
      generalize result.1 = poolAfter at move
      generalize result.2 = borrowerAfter at move
      have held : (∀ link, borrowerAfter = .holding link → Agrees link) →
          ∀ (other : Nat) (link : Link),
            (state.borrowers.set id borrowerAfter)[other]? = some (.holding link) →
              Agrees link := by
        intro own other link found
        rcases lookup_move found with ⟨_, here⟩ | ⟨_, old⟩
        · exact own link here.symm
        · exact usable.held other link old
      cases move with
      | keeps same before later =>
          rw [harmless_step_empty call at_id before]
          refine ⟨fun _ => rfl, fun _ => ⟨?_, held fun link here => absurd here (later link)⟩⟩
          intro link member
          simp only [same] at member
          exact usable.available link member
      | @takes _ _ _ link front before =>
          rw [harmless_step_empty call at_id before]
          have ready := usable.available link (by simp [front])
          refine ⟨fun _ => rfl, fun _ => ⟨?_, held ?_⟩⟩
          · intro other member
            apply usable.available
            rw [front]
            exact List.mem_cons_of_mem _ member
          · intro other here
            obtain rfl := Borrower.holding.inj here
            exact ready.2
      | @changes _ link linkAfter exact_call =>
          rw [harmless_step_holding call at_id, ← exact_call (usable.held id link at_id)]
          constructor
          · intro after
            exact after.held id linkAfter (lookup_move_self at_id)
          · intro agrees
            refine ⟨usable.available, held ?_⟩
            intro other here
            obtain rfl := Borrower.holding.inj here
            exact agrees
      | @gives pick link waiting =>
          rw [harmless_step_holding _ at_id]
          constructor
          · intro after
            have given := (after.available link (by simp)).1
            simp [harmless, given]
          · intro taken
            have clean : link.broker.refused = false := by simpa [harmless] using taken
            refine ⟨?_, held fun other here => by cases here⟩
            intro other member
            rcases List.mem_append.mp member with old | new
            · exact usable.available other old
            · obtain rfl := List.mem_singleton.mp new
              exact ⟨clean, usable.held id other at_id⟩

theorem open_all_usable (replies : List Reply) (next : Nat) :
    ∀ link ∈ openAll next replies, link.broker.refused = false ∧ Agrees link := by
  induction replies generalizing next with
  | nil =>
      intro link member
      cases member
  | cons reply rest ih =>
      intro link member
      cases reply with
      | normal =>
          rcases List.mem_cons.mp member with rfl | later
          · exact ⟨rfl, rfl⟩
          · exact ih (next + 1) link later
      | serverException => exact ih (next + 1) link member
      | libraryException done => exact ih (next + 1) link member

theorem usable_constructed (replies : List Reply) : Usable (constructed replies) where
  available := open_all_usable replies 1
  held := by
    intro id link found
    cases found

/-- The second of three channels cannot be opened. Borrower 0 declares a queue and gives
its channel back; borrower 1 closes the other one, opens it again and gives it back. -/
def cleanCalls : List Action :=
  [.arrive, .arrive, .call 0 .acquire, .call 1 .tryAcquire,
    .call 0 (.operate .queueDeclare .normal), .call 0 (.release 0),
    .call 1 (.closeChannel .normal), .call 1 (.openChannel .normal), .call 1 (.release 0)]

/-- Channel 1 after a refused operation. -/
def refusedLink : Link where
  channel := { channelId := 1, isOpen := true }
  broker := { isOpen := false, refused := true }

end BackendComponents.Amqp.Usability
