import BackendComponents.Guards.Classes

/-!
# Connections that a database guard loses

The move assignment of `PooledConnGuard` overwrites what the target holds, and `release`
goes through the pool pointer that a move has set to null. Every other operation keeps
each connection with one guard or gives it back once.
-/

namespace BackendComponents.Guards.Losses

open BackendComponents.Lib.Guards
open BackendComponents.Lib.Ownership
open BackendComponents.Lib.Paths
open BackendComponents.Lib.Threads
open BackendComponents.Guards.Classes

set_option autoImplicit false

variable {Pool : Type*}

/-- Every connection handed out is with one unreleased guard or has been given back once, and
no call has gone through a null pool. -/
structure NothingLost (state : State (ConnGuard Pool) Pool) : Prop where
  once : Once (pooledConnGuard Pool) state
  reached : Reached state

def NothingLostLaw : Prop :=
  ∀ (trail : List (State (ConnGuard Nat) Nat × Op Nat)) (last : State (ConnGuard Nat) Nat),
    Path (step (pooledConnGuard Nat)) started trail last →
      ∀ state ∈ visited trail last, NothingLost state

/-- What `release` needs: the guard has been released before or has its pool. -/
def releasable (guard : ConnGuard Pool) : Prop := guard.released = true ∨ guard.pool.isSome = true

/-- A target of a move assignment holds nothing, and a guard that is released or destroyed
has been released before or has its pool. -/
def keepsConn (state : State (ConnGuard Pool) Pool) : Op Pool → Prop
  | .moveAssign target source =>
      target = source ∨ AtGuard state.objects target fun this => this.owned = none
  | .release id | .destroy id => AtGuard state.objects id releasable
  | .handOut _ | .refuse _ | .moveConstruct _ => True

instance (guard : ConnGuard Pool) : Decidable (releasable guard) := instDecidableOr

instance (state : State (ConnGuard Pool) Pool) : (op : Op Pool) → Decidable (keepsConn state op)
  | .moveAssign _ _ => instDecidableOr
  | .release id | .destroy id => inferInstanceAs (Decidable (AtGuard state.objects id releasable))
  | .handOut _ | .refuse _ | .moveConstruct _ => isTrue True.intro

theorem release_received (guard : ConnGuard Pool) (resource : Nat) :
    owns (pooledConnGuard Pool) resource (PooledConnGuard.release guard).2 +
        received (PooledConnGuard.release guard).1 resource =
      owns (pooledConnGuard Pool) resource guard := by
  unfold PooledConnGuard.release
  split
  · next unreleased =>
      have gone : owns (pooledConnGuard Pool) resource { guard with released := true } = 0 := by
        apply owns_of_none
        rfl
      have held : (pooledConnGuard Pool).owned guard = guard.conn :=
        ConnGuard.owned_unreleased unreleased
      unfold received owns holds at *
      rw [gone, Nat.zero_add, List.countP_singleton, Option.bind_some, held]
      rfl
  · exact Nat.add_zero _

theorem pooled_conserving :
    Conserving (pooledConnGuard Pool) (fun _ => True) ConnGuard.owned := by
  constructor
  · intro pool resource
    exact ⟨True.intro, rfl⟩
  · intro pool
    exact ⟨True.intro, rfl⟩
  · intro guard _
    exact ⟨True.intro, True.intro, fun resource => rfl⟩
  · intro this other _ _
    refine ⟨True.intro, True.intro, fun resource => ?_⟩
    have taken : owns (pooledConnGuard Pool) resource
        ((pooledConnGuard Pool).moveAssign this other).2.1 =
          owns (pooledConnGuard Pool) resource other := rfl
    have left : owns (pooledConnGuard Pool) resource
        ((pooledConnGuard Pool).moveAssign this other).2.2 = 0 := rfl
    have calls : received ((pooledConnGuard Pool).moveAssign this other).1 resource = 0 := rfl
    have overwritten : indicator (decide (this.owned = some resource)) =
        owns (pooledConnGuard Pool) resource this := rfl
    omega
  · intro guard _
    exact ⟨True.intro, release_received guard⟩
  · intro guard _ resource
    have moved := release_received guard resource
    rw [owns_of_none (PooledConnGuard.release_owned guard), Nat.zero_add] at moved
    exact moved
  · exact fun _ _ owned => owned

theorem release_reaches_iff (guard : ConnGuard Pool) :
    (∀ call ∈ (PooledConnGuard.release guard).1, call.pool.isSome = true) ↔ releasable guard := by
  unfold PooledConnGuard.release releasable
  cases released : guard.released with
  | true => simp
  | false => simp

theorem keeps_conn_iff {state after : State (ConnGuard Pool) Pool} {op : Op Pool}
    (move : Move (pooledConnGuard Pool) state op after) :
    (losesNothing ConnGuard.owned state op ∧
        ∀ call ∈ made (pooledConnGuard Pool) state op, call.pool.isSome = true) ↔
      keepsConn state op := by
  cases move with
  | moveAssign target source this other found present different =>
      rw [made_assign found present different]
      exact and_iff_left fun call member => nomatch member
  | selfAssign id guard found =>
      rw [made_self found]
      exact and_iff_left fun call member => nomatch member
  | release id guard found =>
      rw [made_release found]
      apply (and_iff_right True.intro).trans
      exact (release_reaches_iff guard).trans (at_guard_iff found).symm
  | destroy id guard found =>
      rw [made_destroy found]
      apply (and_iff_right True.intro).trans
      exact (release_reaches_iff guard).trans (at_guard_iff found).symm
  | _ => exact iff_of_true ⟨True.intro, fun call member => nomatch member⟩ True.intro

theorem nothing_lost_step_iff {state after : State (ConnGuard Pool) Pool} {op : Op Pool}
    (kept : Kept (pooledConnGuard Pool) (fun _ => True) state) (good : NothingLost state)
    (move : Move (pooledConnGuard Pool) state op after) :
    NothingLost after ↔ keepsConn state op := by
  rw [← keeps_conn_iff move, ← once_move_iff pooled_conserving kept good.once move,
    ← reached_move_iff good.reached move]
  constructor
  · intro still
    exact ⟨still.once, still.reached⟩
  · rintro ⟨once, reached⟩
    exact ⟨once, reached⟩

/-- In every program over guards: nothing is lost at any moment if and only if no move
assignment overwrites a connection and no guard is released or destroyed after a move has
taken its pool. -/
theorem nothing_lost_iff (trail : List (State (ConnGuard Pool) Pool × Op Pool))
    (last : State (ConnGuard Pool) Pool)
    (path : Path (step (pooledConnGuard Pool)) started trail last) :
    (∀ state ∈ visited trail last, NothingLost state) ↔
      ∀ taken ∈ trail, keepsConn taken.1 taken.2 := by
  apply path_property_iff_good (Kept (pooledConnGuard Pool) fun _ => True) NothingLost keepsConn
    kept_started ⟨once_started, reached_started⟩ _ _ path
  · intro state op after kept taken
    exact kept_move pooled_conserving kept (move_of_step taken)
  · intro state op after kept good taken
    exact nothing_lost_step_iff kept good (move_of_step taken)

/-- Two connections and an empty guard; one guard is moved from and lives on. -/
def carefulMoves : List (Op Nat) :=
  [.handOut 0, .handOut 0, .refuse (some 0), .moveConstruct 0, .release 1, .release 1,
    .moveAssign 1 1, .destroy 2, .destroy 1, .destroy 3]

theorem nothing_lost_careful_moves :
    ∃ last, exec (step (pooledConnGuard Nat)) started carefulMoves = some last ∧
      NothingLost last ∧ givenBack last 0 = 1 ∧ givenBack last 1 = 1 := by
  obtain ⟨last, executed, checked⟩ := exec_checked (step (pooledConnGuard Nat)) started
    carefulMoves (fun last => decide (givenBack last 0 = 1 ∧ givenBack last 1 = 1)) (by decide)
  have path := path_of_exec executed
  refine ⟨last, executed, ?_, of_decide_eq_true checked⟩
  exact (nothing_lost_iff _ last path).mpr (by decide) last (by simp [visited])

/-- A guard that still holds a connection is assigned to. -/
theorem move_assignment_loses_connection : ¬NothingLostLaw := by
  intro law
  obtain ⟨last, executed, checked⟩ := exec_checked (step (pooledConnGuard Nat)) started
    [.handOut 0, .handOut 0, .moveAssign 0 1]
    (fun last => decide (accounted (pooledConnGuard Nat) last 0 = 0 ∧ last.handed.length = 2))
    (by decide)
  obtain ⟨lost, handed⟩ := of_decide_eq_true checked
  have good := law _ last (path_of_exec executed) last (by simp [visited])
  have once := good.once 0 (by omega)
  rw [lost] at once
  cases once

end BackendComponents.Guards.Losses
