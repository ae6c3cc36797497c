import BackendComponents.Guards.Classes
import BackendComponents.Lib.LinearGuards

/-!
# Redis and channel guards own linearly

Both classes give back what a target of a move assignment holds. Their members differ after
a move (`m_released` is false in one and true in the other); what is common is that a guard
with a resource is not released and has its pool.
-/

namespace BackendComponents.Guards.Linear

open BackendComponents.Lib.Guards
open BackendComponents.Lib.LinearGuards
open BackendComponents.Lib.Paths
open BackendComponents.Guards.Classes

set_option autoImplicit false

variable {Pool : Type*}

namespace RedisConnGuard

/-- A guard with a connection is not released and has its pool. -/
def Sound (guard : ConnGuard Pool) : Prop :=
  guard.conn.isSome = true → guard.released = false ∧ guard.pool.isSome = true

theorem sound_empty {guard : ConnGuard Pool} (empty : guard.conn = none) : Sound guard := by
  intro present
  rw [empty] at present
  cases present

theorem owned_empty {guard : ConnGuard Pool} (empty : guard.conn = none) : guard.owned = none := by
  unfold ConnGuard.owned
  rw [empty]
  exact ite_self none

theorem owned_sound {guard : ConnGuard Pool} (good : Sound guard) : guard.owned = guard.conn := by
  cases present : guard.conn with
  | none => exact owned_empty present
  | some conn =>
      have unreleased := (good (by rw [present]; rfl)).1
      exact (ConnGuard.owned_unreleased unreleased).trans present

theorem release_conn {guard : ConnGuard Pool} (good : Sound guard) :
    (RedisConnGuard.release guard).2.conn = none := by
  unfold RedisConnGuard.release
  split
  · rfl
  · next released =>
      cases present : guard.conn with
      | none => rfl
      | some conn => exact absurd (good (by rw [present]; rfl)).1 released

theorem release_calls {guard : ConnGuard Pool} (good : Sound guard) :
    (RedisConnGuard.release guard).1 = givesBack (redisConnGuard Pool) guard := by
  have owned : (redisConnGuard Pool).owned guard = guard.conn := owned_sound good
  unfold RedisConnGuard.release givesBack
  rw [owned]
  cases present : guard.conn with
  | none =>
      rw [Option.isSome_none, Bool.and_false, if_neg Bool.false_ne_true]
      split <;> rfl
  | some conn =>
      obtain ⟨unreleased, pool⟩ := good (by rw [present]; rfl)
      rw [if_pos unreleased, pool]
      rfl

theorem toBool_sound {guard : ConnGuard Pool} (good : Sound guard) :
    guard.toBool = guard.conn.isSome := by
  unfold ConnGuard.toBool
  cases present : guard.conn with
  | none => exact (congrArg (· && !guard.released) (Bool.and_false _)).trans (Bool.false_and _)
  | some conn =>
      obtain ⟨unreleased, pool⟩ := good (by rw [present]; rfl)
      rw [unreleased, pool]
      rfl

theorem redis_linear : LinearClass (redisConnGuard Pool) Sound := by
  constructor
  · intro pool resource
    exact ⟨fun _ => ⟨rfl, rfl⟩, rfl, rfl⟩
  · intro pool
    exact ⟨sound_empty rfl, rfl⟩
  · intro guard good
    exact ⟨good, sound_empty rfl, rfl, rfl, rfl⟩
  · intro this other good also
    exact ⟨also, sound_empty rfl, rfl, rfl, rfl, release_calls good⟩
  · intro guard good
    have empty := release_conn good
    exact ⟨sound_empty empty, owned_empty empty, release_calls good⟩
  · intro guard good
    exact release_calls good
  · intro guard good
    have owned : (redisConnGuard Pool).owned guard = guard.conn := owned_sound good
    rw [owned]
    exact ⟨rfl, toBool_sound good⟩

end RedisConnGuard

namespace ChannelGuard

/-- A guard with a channel is not released and has its pool. -/
def Sound (guard : ChannelGuard Pool) : Prop :=
  guard.channel.isSome = true → guard.released = false ∧ guard.pool.isSome = true

theorem sound_empty {guard : ChannelGuard Pool} (empty : guard.channel = none) : Sound guard := by
  intro present
  rw [empty] at present
  cases present

theorem release_channel {guard : ChannelGuard Pool} (good : Sound guard) :
    (ChannelGuard.release guard).2.channel = none := by
  unfold ChannelGuard.release
  split
  · rfl
  · next kept =>
      cases present : guard.channel with
      | none => rfl
      | some channel =>
          have full : guard.channel.isSome = true := by
            rw [present]
            rfl
          obtain ⟨unreleased, pool⟩ := good full
          exact absurd ⟨unreleased, full, pool⟩ kept

theorem release_calls {guard : ChannelGuard Pool} (good : Sound guard) :
    (ChannelGuard.release guard).1 = givesBack (channelGuard Pool) guard := by
  have owned : (channelGuard Pool).owned guard = guard.channel := rfl
  unfold ChannelGuard.release givesBack
  rw [owned]
  cases present : guard.channel with
  | none =>
      rw [if_neg fun all => Bool.false_ne_true all.2.1]
  | some channel =>
      obtain ⟨unreleased, pool⟩ := good (by rw [present]; rfl)
      rw [if_pos ⟨unreleased, rfl, pool⟩]
      rfl

theorem channel_linear : LinearClass (channelGuard Pool) Sound := by
  constructor
  · intro pool resource
    exact ⟨fun _ => ⟨rfl, rfl⟩, rfl, rfl⟩
  · intro pool
    exact ⟨sound_empty rfl, rfl⟩
  · intro guard good
    exact ⟨good, sound_empty rfl, rfl, rfl, rfl⟩
  · intro this other good also
    exact ⟨also, sound_empty rfl, rfl, rfl, rfl, release_calls good⟩
  · intro guard good
    have empty := release_channel good
    exact ⟨sound_empty empty, empty, release_calls good⟩
  · intro guard good
    exact release_calls good
  · intro guard good
    exact ⟨rfl, rfl⟩

end ChannelGuard

/-- Every program over guards of the two classes, with any number of pools: in each state a
resource is with one guard or has been given back once, to its own pool; what a guard shows
is what it owns; and each step gives back by the owner only and empties the guards that it
leaves moved-from or released. -/
theorem guards_own_linearly :
    (∀ (trail : List (State (ConnGuard Nat) Nat × Op Nat)) (last : State (ConnGuard Nat) Nat),
      Path (step (redisConnGuard Nat)) started trail last →
        (∀ state ∈ visited trail last, LinearlyOwned (redisConnGuard Nat) state) ∧
          ∀ (state after : State (ConnGuard Nat) Nat) (op : Op Nat), (state, op) ∈ trail →
            step (redisConnGuard Nat) state op = some after →
              LinearStep (redisConnGuard Nat) state op after) ∧
    (∀ (trail : List (State (ChannelGuard Nat) Nat × Op Nat))
        (last : State (ChannelGuard Nat) Nat),
      Path (step (channelGuard Nat)) started trail last →
        (∀ state ∈ visited trail last, LinearlyOwned (channelGuard Nat) state) ∧
          ∀ (state after : State (ChannelGuard Nat) Nat) (op : Op Nat), (state, op) ∈ trail →
            step (channelGuard Nat) state op = some after →
              LinearStep (channelGuard Nat) state op after) := by
  constructor
  · intro trail last path
    exact linear_path RedisConnGuard.redis_linear path
  · intro trail last path
    exact linear_path ChannelGuard.channel_linear path

/-- Hand-outs from two pools, one of them empty, moved onto holding, empty and released
guards, released twice, and the last guard destroyed. -/
def handsOn : List (Op Nat) :=
  [.handOut 0, .handOut 1, .refuse none, .moveAssign 0 1, .moveAssign 2 0, .moveConstruct 2,
    .release 0, .moveAssign 0 3, .moveAssign 0 0, .release 0, .release 0, .destroy 0, .destroy 1]

theorem guards_own_linearly_hands_on :
    (∃ last, exec (step (redisConnGuard Nat)) started handsOn = some last ∧
      LinearlyOwned (redisConnGuard Nat) last ∧
        last.calls = [(0, ⟨some 0, some 0⟩), (0, ⟨some 1, some 1⟩)]) ∧
    (∃ last, exec (step (channelGuard Nat)) started handsOn = some last ∧
      LinearlyOwned (channelGuard Nat) last ∧
        last.calls = [(0, ⟨some 0, some 0⟩), (0, ⟨some 1, some 1⟩)]) := by
  constructor
  · obtain ⟨last, executed, calls⟩ := exec_checked (step (redisConnGuard Nat)) started handsOn
      (fun last => decide (last.calls = [(0, ⟨some 0, some 0⟩), (0, ⟨some 1, some 1⟩)]))
      (by decide)
    have good := (guards_own_linearly.1 _ last (path_of_exec executed)).1 last (by simp [visited])
    exact ⟨last, executed, good, of_decide_eq_true calls⟩
  · obtain ⟨last, executed, calls⟩ := exec_checked (step (channelGuard Nat)) started handsOn
      (fun last => decide (last.calls = [(0, ⟨some 0, some 0⟩), (0, ⟨some 1, some 1⟩)]))
      (by decide)
    have good := (guards_own_linearly.2 _ last (path_of_exec executed)).1 last (by simp [visited])
    exact ⟨last, executed, good, of_decide_eq_true calls⟩

end BackendComponents.Guards.Linear
