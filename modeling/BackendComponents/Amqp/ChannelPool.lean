import BackendComponents.Amqp.Channels
import BackendComponents.Lib.Threads

/-!
# The channel pool and its borrowers

`channelPool.cpp` and the release of `channelGuard.cpp`. A section of `m_mutex` never
blocks inside except in the waits, which give it up, so each of them is one step. A
borrower is one guard: the code around it may call any method of the channel while it
holds it. Moving a guard does not change who holds the channel.
-/

namespace BackendComponents.Amqp.ChannelPool

open BackendComponents.Lib.Threads
open BackendComponents.Amqp.Channels

set_option autoImplicit false

/-- `waiting` holds the borrowers blocked in `m_cv`. -/
structure Pool where
  channels : List Link
  waiting : List Nat
  deriving DecidableEq, Repr

/-- `idle` has no channel: it has not asked, got an empty guard or gave it back. -/
inductive Borrower
  | idle
  | acquiring
  | tryAcquiring
  | holding (link : Link)
  deriving DecidableEq, Repr

structure State where
  pool : Pool
  borrowers : List Borrower
  deriving DecidableEq, Repr

/-- `wake` is the end of a wait by a notification, which has taken the borrower out of
`waiting`, or for no reason; `expire` is the end of the time that `try_acquire` waits. -/
inductive Call
  | acquire
  | tryAcquire
  | wake
  | expire
  | openChannel (reply : Reply)
  | closeChannel (reply : Reply)
  | operate (operation : Operation) (reply : Reply)
  | release (pick : Nat)
  deriving DecidableEq, Repr

/-- The end of `acquire` and `try_acquire`: the front channel, or `otherwise`. -/
def takeFront (pool : Pool) (otherwise : Pool × Borrower) : Pool × Borrower :=
  match pool.channels with
  | [] => otherwise
  | link :: rest => ({ pool with channels := rest }, .holding link)

def block (id : Nat) (pool : Pool) : Pool := { pool with waiting := pool.waiting ++ [id] }

def unblock (id : Nat) (pool : Pool) : Pool := { pool with waiting := pool.waiting.erase id }

/-- One step of borrower `id`. `acquire` tests the queue in a loop, `try_acquire` waits
once; `release` of an empty guard does nothing. -/
def borrow (id : Nat) (pool : Pool) : Borrower → Call → Option (Pool × Borrower)
  | .idle, .acquire => some (takeFront pool (block id pool, .acquiring))
  | .idle, .tryAcquire => some (takeFront pool (block id pool, .tryAcquiring))
  | .acquiring, .wake =>
      some (takeFront (unblock id pool) (block id (unblock id pool), .acquiring))
  | .tryAcquiring, .wake | .tryAcquiring, .expire =>
      some (takeFront (unblock id pool) (unblock id pool, .idle))
  | .holding link, .openChannel reply => some (pool, .holding (openChannel reply link).2)
  | .holding link, .closeChannel reply =>
      if link.channel.isOpen = false ∨ admissible reply link = true then
        some (pool, .holding (closeChannel reply link).2)
      else none
  | .holding link, .operate operation reply =>
      if admissible reply link then some (pool, .holding (operate operation reply link).2) else none
  | .holding link, .release pick =>
      (notifyOne pick pool.waiting).map fun waiting =>
        ({ channels := pool.channels ++ [link], waiting := waiting }, .idle)
  | .idle, .release _ => some (pool, .idle)
  | _, _ => none

inductive Action
  | arrive
  | call (id : Nat) (call : Call)
  deriving DecidableEq, Repr

def step (state : State) : Action → Option State
  | .arrive => some { state with borrowers := state.borrowers ++ [.idle] }
  | .call id call =>
      state.borrowers[id]?.bind fun borrower =>
        (borrow id state.pool borrower call).map fun result =>
          { pool := result.1, borrowers := state.borrowers.set id result.2 }

/-- The loop of the constructor: channel numbers from `next` on, one answer each. -/
def openAll (next : Nat) : List Reply → List Link
  | [] => []
  | reply :: rest =>
      let opened := openChannel reply (newLink next)
      if opened.1 then opened.2 :: openAll (next + 1) rest else openAll (next + 1) rest

/-- A pool of `replies.length` channels, with the answers to their `open`. -/
def constructed (replies : List Reply) : State where
  pool := { channels := openAll 1 replies, waiting := [] }
  borrowers := []

end BackendComponents.Amqp.ChannelPool
