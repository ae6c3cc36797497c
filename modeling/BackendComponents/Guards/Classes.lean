import BackendComponents.Lib.Guards

/-!
# The three guard classes

`PooledConnGuard`, `RedisConnGuard` and `ChannelGuard`, member function by member
function. `none` is the null pointer. A call is what `release` asks of the pool.
-/

namespace BackendComponents.Guards.Classes

open BackendComponents.Lib.Guards

set_option autoImplicit false

variable {Pool : Type*}

/-- The members of `PooledConnGuard` and of `RedisConnGuard`. -/
structure ConnGuard (Pool : Type*) where
  pool : Option Pool
  conn : Option Nat
  released : Bool
  deriving DecidableEq, Repr

/-- The members of `ChannelGuard`; the channel is in a `unique_ptr`. -/
structure ChannelGuard (Pool : Type*) where
  pool : Option Pool
  channel : Option Nat
  released : Bool
  deriving DecidableEq, Repr

namespace ConnGuard

def construct (pool : Option Pool) (conn : Option Nat) : ConnGuard Pool := ⟨pool, conn, false⟩

def movedFrom : ConnGuard Pool := ⟨none, none, false⟩

def moveConstruct (other : ConnGuard Pool) : ConnGuard Pool × ConnGuard Pool :=
  (⟨other.pool, other.conn, other.released⟩, movedFrom)

def owned (guard : ConnGuard Pool) : Option Nat := if guard.released then none else guard.conn

def toBool (guard : ConnGuard Pool) : Bool :=
  guard.pool.isSome && guard.conn.isSome && !guard.released

theorem owned_released {guard : ConnGuard Pool} (released : guard.released = true) :
    guard.owned = none := by
  unfold owned
  rw [if_pos released]

theorem owned_unreleased {guard : ConnGuard Pool} (unreleased : guard.released = false) :
    guard.owned = guard.conn := by
  unfold owned
  rw [unreleased, if_neg Bool.false_ne_true]

end ConnGuard

namespace PooledConnGuard

/-- The call goes through `m_pool` whatever it is, also with a null connection. -/
def release (guard : ConnGuard Pool) : List (Call Pool) × ConnGuard Pool :=
  if guard.released = false then
    ([⟨guard.pool, guard.conn⟩], { guard with released := true })
  else ([], guard)

theorem release_owned (guard : ConnGuard Pool) : (release guard).2.owned = none := by
  unfold release
  split
  · exact ConnGuard.owned_released rfl
  · next released => exact ConnGuard.owned_released (Bool.not_eq_false _ ▸ released)

/-- What the target had is overwritten. -/
def moveAssign (_this other : ConnGuard Pool) :
    List (Call Pool) × ConnGuard Pool × ConnGuard Pool :=
  ([], ⟨other.pool, other.conn, other.released⟩, ConnGuard.movedFrom)

def destroy (guard : ConnGuard Pool) : List (Call Pool) := (release guard).1

end PooledConnGuard

namespace RedisConnGuard

def release (guard : ConnGuard Pool) : List (Call Pool) × ConnGuard Pool :=
  if guard.released = false then
    (if guard.pool.isSome && guard.conn.isSome then [⟨guard.pool, guard.conn⟩] else [],
      ⟨none, none, true⟩)
  else ([], guard)

/-- The target gives its connection back first. -/
def moveAssign (this other : ConnGuard Pool) :
    List (Call Pool) × ConnGuard Pool × ConnGuard Pool :=
  ((release this).1, ⟨other.pool, other.conn, other.released⟩, ConnGuard.movedFrom)

def destroy (guard : ConnGuard Pool) : List (Call Pool) := (release guard).1

end RedisConnGuard

namespace ChannelGuard

def construct (pool : Option Pool) (channel : Option Nat) : ChannelGuard Pool :=
  ⟨pool, channel, false⟩

/-- `std::move` empties the `unique_ptr` of the source. -/
def moveConstruct (other : ChannelGuard Pool) : ChannelGuard Pool × ChannelGuard Pool :=
  (⟨other.pool, other.channel, other.released⟩, ⟨none, none, true⟩)

/-- The channel goes to the pool with `std::move`; the pool pointer stays. -/
def release (guard : ChannelGuard Pool) : List (Call Pool) × ChannelGuard Pool :=
  if guard.released = false ∧ guard.channel.isSome = true ∧ guard.pool.isSome = true then
    ([⟨guard.pool, guard.channel⟩], ⟨guard.pool, none, true⟩)
  else ([], guard)

/-- A channel that `release` leaves with the target is deleted by the assignment. -/
def moveAssign (this other : ChannelGuard Pool) :
    List (Call Pool) × ChannelGuard Pool × ChannelGuard Pool :=
  ((release this).1, ⟨other.pool, other.channel, other.released⟩, ⟨none, none, true⟩)

def destroy (guard : ChannelGuard Pool) : List (Call Pool) := (release guard).1

end ChannelGuard

variable (Pool)

def pooledConnGuard : GuardClass (ConnGuard Pool) Pool where
  construct := ConnGuard.construct
  moveConstruct := ConnGuard.moveConstruct
  moveAssign := PooledConnGuard.moveAssign
  release := PooledConnGuard.release
  destroy := PooledConnGuard.destroy
  owned := ConnGuard.owned
  pool := ConnGuard.pool
  get := ConnGuard.conn
  toBool := ConnGuard.toBool

def redisConnGuard : GuardClass (ConnGuard Pool) Pool where
  construct := ConnGuard.construct
  moveConstruct := ConnGuard.moveConstruct
  moveAssign := RedisConnGuard.moveAssign
  release := RedisConnGuard.release
  destroy := RedisConnGuard.destroy
  owned := ConnGuard.owned
  pool := ConnGuard.pool
  get := ConnGuard.conn
  toBool := ConnGuard.toBool

def channelGuard : GuardClass (ChannelGuard Pool) Pool where
  construct := ChannelGuard.construct
  moveConstruct := ChannelGuard.moveConstruct
  moveAssign := ChannelGuard.moveAssign
  release := ChannelGuard.release
  destroy := ChannelGuard.destroy
  owned := ChannelGuard.channel
  pool := ChannelGuard.pool
  get := ChannelGuard.channel
  toBool guard := guard.channel.isSome

end BackendComponents.Guards.Classes
