import BackendComponents.Lib.Guards

/-!
# Guard classes that own linearly

The strongest class of guards: what a guard owns is passed on or given back to its own
pool, a moved-from or released guard owns nothing, and what a guard shows is what it owns.
Then each hand-out is, after every program, with one guard or given back once.
-/

namespace BackendComponents.Lib.LinearGuards

open BackendComponents.Lib.Guards
open BackendComponents.Lib.Ownership
open BackendComponents.Lib.Paths
open BackendComponents.Lib.Threads

set_option autoImplicit false

variable {Guard Pool : Type*}

def givesBack (cls : GuardClass Guard Pool) (guard : Guard) : List (Call Pool) :=
  match cls.owned guard with
  | some resource => [⟨cls.pool guard, some resource⟩]
  | none => []

/-- Guards that meet `sound` pass on what they own or give it back to their pool, are empty
afterwards, and show what they own. -/
structure LinearClass (cls : GuardClass Guard Pool) (sound : Guard → Prop) : Prop where
  constructed : ∀ pool resource, sound (cls.construct (some pool) (some resource)) ∧
    cls.owned (cls.construct (some pool) (some resource)) = some resource ∧
      cls.pool (cls.construct (some pool) (some resource)) = some pool
  refused : ∀ pool, sound (cls.construct pool none) ∧ cls.owned (cls.construct pool none) = none
  moved : ∀ guard, sound guard →
    sound (cls.moveConstruct guard).1 ∧ sound (cls.moveConstruct guard).2 ∧
      cls.owned (cls.moveConstruct guard).1 = cls.owned guard ∧
        cls.pool (cls.moveConstruct guard).1 = cls.pool guard ∧
          cls.owned (cls.moveConstruct guard).2 = none
  assigned : ∀ this other, sound this → sound other →
    sound (cls.moveAssign this other).2.1 ∧ sound (cls.moveAssign this other).2.2 ∧
      cls.owned (cls.moveAssign this other).2.1 = cls.owned other ∧
        cls.pool (cls.moveAssign this other).2.1 = cls.pool other ∧
          cls.owned (cls.moveAssign this other).2.2 = none ∧
            (cls.moveAssign this other).1 = givesBack cls this
  released : ∀ guard, sound guard →
    sound (cls.release guard).2 ∧ cls.owned (cls.release guard).2 = none ∧
      (cls.release guard).1 = givesBack cls guard
  destroyed : ∀ guard, sound guard → cls.destroy guard = givesBack cls guard
  shown : ∀ guard, sound guard →
    cls.get guard = cls.owned guard ∧ cls.toBool guard = (cls.owned guard).isSome

/-- Linear ownership in one state. -/
structure LinearlyOwned (cls : GuardClass Guard Pool) (state : State Guard Pool) : Prop where
  once : Once cls state
  reached : Reached state
  own : ∀ entry ∈ state.calls,
    ∃ resource, entry.2.resource = some resource ∧ state.handed[resource]? = entry.2.pool
  shown : ∀ id, AtGuard state.objects id fun guard =>
    cls.get guard = cls.owned guard ∧ cls.toBool guard = (cls.owned guard).isSome

def vacates : Op Pool → List Nat
  | .moveConstruct source => [source]
  | .moveAssign target source => if target = source then [] else [source]
  | .release id => [id]
  | .handOut _ | .refuse _ | .destroy _ => []

/-- A step gives a resource back only by the guard that owns it, and empties the guards
that it leaves moved-from or released. -/
structure LinearStep (cls : GuardClass Guard Pool) (state : State Guard Pool) (op : Op Pool)
    (after : State Guard Pool) : Prop where
  byOwner : ∀ entry ∈ after.calls.drop state.calls.length,
    ∃ guard, state.objects[entry.1]? = some (some guard) ∧ cls.owned guard = entry.2.resource
  vacated : ∀ id ∈ vacates op, AtGuard after.objects id fun guard =>
    cls.toBool guard = false ∧ cls.get guard = none

section Linear

variable {cls : GuardClass Guard Pool} {sound : Guard → Prop} {state after : State Guard Pool}
  {op : Op Pool}

theorem received_gives_back (guard : Guard) (resource : Nat) :
    received (givesBack cls guard) resource = owns cls resource guard := by
  unfold received givesBack owns holds
  rw [Option.bind_some]
  cases cls.owned guard with
  | none => rfl
  | some own =>
      rw [List.countP_singleton]
      rfl

theorem conserving_of_linear (laws : LinearClass cls sound) :
    Conserving cls sound fun _ => none := by
  constructor
  · intro pool resource
    obtain ⟨kept, owned, _⟩ := laws.constructed pool resource
    exact ⟨kept, owned⟩
  · exact laws.refused
  · intro guard good
    obtain ⟨first, second, owned, _, empty⟩ := laws.moved guard good
    refine ⟨first, second, fun resource => ?_⟩
    rw [owns_of_none empty, owns_congr owned]
    rfl
  · intro this other good also
    obtain ⟨first, second, owned, _, empty, calls⟩ := laws.assigned this other good also
    refine ⟨first, second, fun resource => ?_⟩
    have nothing : indicator (decide ((none : Option Nat) = some resource)) = 0 := rfl
    rw [owns_of_none empty, owns_congr owned, calls, received_gives_back, nothing]
    omega
  · intro guard good
    obtain ⟨kept, empty, calls⟩ := laws.released guard good
    refine ⟨kept, fun resource => ?_⟩
    rw [owns_of_none empty, calls, received_gives_back]
    exact Nat.zero_add _
  · intro guard good resource
    rw [laws.destroyed guard good, received_gives_back]
  · intro guard resource impossible
    cases impossible

def Backed (cls : GuardClass Guard Pool) (state : State Guard Pool) : Prop :=
  ∀ id, AtGuard state.objects id fun guard => ∀ resource, cls.owned guard = some resource →
    state.handed[resource]? = cls.pool guard

/-- The invariant of programs over a linear class. -/
structure LinearState (cls : GuardClass Guard Pool) (sound : Guard → Prop)
    (state : State Guard Pool) : Prop where
  kept : Kept cls sound state
  once : Once cls state
  backed : Backed cls state
  own : ∀ entry ∈ state.calls,
    ∃ resource, entry.2.resource = some resource ∧ resource < state.handed.length ∧
      state.handed[resource]? = entry.2.pool

theorem own_gives_back (linear : LinearState cls sound state) {id : Nat} {guard : Guard}
    (found : state.objects[id]? = some (some guard)) :
    ∀ call ∈ givesBack cls guard, ∃ resource, call.resource = some resource ∧
      cls.owned guard = call.resource ∧ resource < state.handed.length ∧
        state.handed[resource]? = call.pool := by
  intro call member
  unfold givesBack at member
  cases owned : cls.owned guard with
  | none =>
      rw [owned] at member
      cases member
  | some resource =>
      rw [owned] at member
      obtain rfl := List.mem_singleton.mp member
      exact ⟨resource, rfl, rfl, handed_of_owned linear.kept.fresh found owned,
        linear.backed id guard found resource owned⟩

theorem made_by_owner (laws : LinearClass cls sound) (linear : LinearState cls sound state)
    (move : Move cls state op after) :
    ∃ id, after.calls = state.log id (made cls state op) ∧
      ∀ call ∈ made cls state op, ∃ guard, state.objects[id]? = some (some guard) ∧
        ∃ resource, call.resource = some resource ∧ cls.owned guard = call.resource ∧
          resource < state.handed.length ∧ state.handed[resource]? = call.pool := by
  cases move with
  | selfAssign id guard found =>
      rw [made_self found]
      exact ⟨id, (List.append_nil _).symm, fun call member => nomatch member⟩
  | moveAssign target source this other found present different =>
      obtain ⟨_, _, _, _, _, calls⟩ := laws.assigned this other
        (linear.kept.guards target this found) (linear.kept.guards source other present)
      rw [made_assign found present different]
      refine ⟨target, rfl, fun call member => ⟨this, found, ?_⟩⟩
      rw [calls] at member
      exact own_gives_back linear found call member
  | release id guard found =>
      obtain ⟨_, _, calls⟩ := laws.released guard (linear.kept.guards id guard found)
      rw [made_release found]
      refine ⟨id, rfl, fun call member => ⟨guard, found, ?_⟩⟩
      rw [calls] at member
      exact own_gives_back linear found call member
  | destroy id guard found =>
      have calls := laws.destroyed guard (linear.kept.guards id guard found)
      rw [made_destroy found]
      refine ⟨id, rfl, fun call member => ⟨guard, found, ?_⟩⟩
      rw [calls] at member
      exact own_gives_back linear found call member
  | _ => exact ⟨0, (List.append_nil _).symm, fun call member => nomatch member⟩

theorem handed_grows (move : Move cls state op after) {resource : Nat}
    (old : resource < state.handed.length) :
    after.handed[resource]? = state.handed[resource]? := by
  cases move with
  | handOut pool => exact List.getElem?_append_left old
  | _ => rfl

theorem owned_before (laws : LinearClass cls sound) (kept : Kept cls sound state)
    (move : Move cls state op after) {id : Nat} {guard : Guard} {resource : Nat}
    (present : after.objects[id]? = some (some guard)) (owned : cls.owned guard = some resource) :
    (∃ (place : Nat) (seen : Guard), state.objects[place]? = some (some seen) ∧
        cls.owned seen = some resource ∧ cls.pool guard = cls.pool seen) ∨
      (resource = state.handed.length ∧ after.handed[resource]? = cls.pool guard) := by
  have stays : state.objects[id]? = some (some guard) →
      ∃ (place : Nat) (seen : Guard), state.objects[place]? = some (some seen) ∧
        cls.owned seen = some resource ∧ cls.pool guard = cls.pool seen :=
    fun old => ⟨id, guard, old, owned, rfl⟩
  cases move with
  | handOut pool =>
      rcases lookup_new present with old | rfl
      · exact .inl (stays old)
      · obtain ⟨_, own, from_pool⟩ := laws.constructed pool state.handed.length
        rw [own] at owned
        obtain rfl := Option.some.inj owned
        rw [from_pool]
        exact .inr ⟨rfl, List.getElem?_concat_length⟩
  | refuse pool =>
      rcases lookup_new present with old | rfl
      · exact .inl (stays old)
      · rw [(laws.refused pool).2] at owned
        cases owned
  | moveConstruct source other found =>
      obtain ⟨_, _, own, from_pool, empty⟩ := laws.moved other (kept.guards source other found)
      rcases lookup_new present with old | rfl
      · rcases lookup_set old with ⟨_, same⟩ | old
        · obtain rfl := Option.some.inj same
          rw [empty] at owned
          cases owned
        · exact .inl (stays old)
      · rw [own] at owned
        exact .inl ⟨source, other, found, owned, from_pool⟩
  | selfAssign place other found => exact .inl (stays present)
  | moveAssign target source this other found there different =>
      obtain ⟨_, _, own, from_pool, empty, _⟩ := laws.assigned this other
        (kept.guards target this found) (kept.guards source other there)
      rcases lookup_set present with ⟨_, same⟩ | old
      · obtain rfl := Option.some.inj same
        rw [empty] at owned
        cases owned
      · rcases lookup_set old with ⟨_, same⟩ | old
        · obtain rfl := Option.some.inj same
          rw [own] at owned
          exact .inl ⟨source, other, there, owned, from_pool⟩
        · exact .inl (stays old)
  | release place other found =>
      obtain ⟨_, empty, _⟩ := laws.released other (kept.guards place other found)
      rcases lookup_set present with ⟨_, same⟩ | old
      · obtain rfl := Option.some.inj same
        rw [empty] at owned
        cases owned
      · exact .inl (stays old)
  | destroy place other found =>
      rcases lookup_set present with ⟨_, same⟩ | old
      · cases same
      · exact .inl (stays old)

theorem loses_nothing_of_none (state : State Guard Pool) (op : Op Pool) :
    losesNothing (fun _ : Guard => none) state op := by
  cases op with
  | moveAssign target source => exact .inr fun _ _ => rfl
  | _ => exact True.intro

theorem linear_move (laws : LinearClass cls sound) (linear : LinearState cls sound state)
    (move : Move cls state op after) : LinearState cls sound after := by
  have conserving := conserving_of_linear laws
  constructor
  · exact kept_move conserving linear.kept move
  · exact (once_move_iff conserving linear.kept linear.once move).mpr (loses_nothing_of_none _ _)
  · intro id guard present resource owned
    rcases owned_before laws linear.kept move present owned with
      ⟨place, seen, found, own, same⟩ | ⟨_, backed⟩
    · have old := handed_of_owned linear.kept.fresh found own
      rw [handed_grows move old, same]
      exact linear.backed place seen found resource own
    · exact backed
  · intro entry member
    obtain ⟨id, calls, byOwner⟩ := made_by_owner laws linear move
    rw [calls] at member
    have old : ∃ resource, entry.2.resource = some resource ∧
        resource < state.handed.length ∧ state.handed[resource]? = entry.2.pool := by
      rcases List.mem_append.mp member with earlier | new
      · exact linear.own entry earlier
      · obtain ⟨call, inside, rfl⟩ := List.mem_map.mp new
        obtain ⟨_, _, resource, named, _, bound, pool⟩ := byOwner call inside
        exact ⟨resource, named, bound, pool⟩
    obtain ⟨resource, named, bound, pool⟩ := old
    refine ⟨resource, named, (entered_cases move resource).1.mpr (.inl bound), ?_⟩
    rw [handed_grows move bound]
    exact pool

theorem linear_started : LinearState cls sound (started : State Guard Pool) := by
  constructor
  · exact kept_started
  · exact once_started
  · intro id guard found
    cases found
  · intro entry impossible
    cases impossible

theorem linearly_owned_of_linear (laws : LinearClass cls sound)
    (linear : LinearState cls sound state) : LinearlyOwned cls state := by
  constructor
  · exact linear.once
  · intro entry member
    obtain ⟨resource, _, bound, pool⟩ := linear.own entry member
    rw [← pool, List.getElem?_eq_getElem bound]
    rfl
  · intro entry member
    obtain ⟨resource, named, _, pool⟩ := linear.own entry member
    exact ⟨resource, named, pool⟩
  · intro id guard found
    exact laws.shown guard (linear.kept.guards id guard found)

theorem empty_shown (laws : LinearClass cls sound) {guard : Guard} (good : sound guard)
    (empty : cls.owned guard = none) : cls.toBool guard = false ∧ cls.get guard = none := by
  obtain ⟨get, toBool⟩ := laws.shown guard good
  rw [get, toBool, empty]
  exact ⟨rfl, rfl⟩

theorem vacated_move (laws : LinearClass cls sound) (kept : Kept cls sound state)
    (move : Move cls state op after) :
    ∀ id ∈ vacates op, AtGuard after.objects id fun guard =>
      cls.toBool guard = false ∧ cls.get guard = none := by
  intro id member guard present
  cases move with
  | moveConstruct source other found =>
      obtain rfl := List.mem_singleton.mp member
      obtain ⟨_, good, _, _, empty⟩ := laws.moved other (kept.guards id other found)
      rw [List.getElem?_append_left (by rw [List.length_set]; exact lookup_bound found),
        lookup_move_self found] at present
      obtain rfl := Option.some.inj (Option.some.inj present)
      exact empty_shown laws good empty
  | selfAssign place other found =>
      unfold vacates at member
      dsimp only at member
      rw [if_pos rfl] at member
      cases member
  | moveAssign target source this other found there different =>
      unfold vacates at member
      dsimp only at member
      rw [if_neg different] at member
      obtain rfl := List.mem_singleton.mp member
      obtain ⟨_, good, _, _, empty, _⟩ := laws.assigned this other
        (kept.guards target this found) (kept.guards id other there)
      have still : (state.objects.set target (some (cls.moveAssign this other).2.1))[id]? =
          some (some other) := by
        rw [lookup_move_other fun same => different same.symm]
        exact there
      rw [lookup_move_self still] at present
      obtain rfl := Option.some.inj (Option.some.inj present)
      exact empty_shown laws good empty
  | release place other found =>
      obtain rfl := List.mem_singleton.mp member
      obtain ⟨good, empty, _⟩ := laws.released other (kept.guards id other found)
      rw [lookup_move_self found] at present
      obtain rfl := Option.some.inj (Option.some.inj present)
      exact empty_shown laws good empty
  | _ => cases member

theorem linear_step_of_move (laws : LinearClass cls sound) (linear : LinearState cls sound state)
    (move : Move cls state op after) : LinearStep cls state op after := by
  constructor
  · intro entry member
    obtain ⟨id, calls, byOwner⟩ := made_by_owner laws linear move
    rw [calls] at member
    unfold State.log at member
    rw [List.drop_left] at member
    obtain ⟨call, inside, rfl⟩ := List.mem_map.mp member
    obtain ⟨guard, found, _, _, owned, _⟩ := byOwner call inside
    exact ⟨guard, found, owned⟩
  · exact vacated_move laws linear.kept move

theorem linear_reachable (laws : LinearClass cls sound)
    (reached : Reachable (step cls) started state) : LinearState cls sound state :=
  reachable_invariant (LinearState cls sound) linear_started
    (fun _ _ _ linear taken => linear_move laws linear (move_of_step taken)) reached

/-- Linear ownership throughout a program, state by state and step by step. -/
theorem linear_path (laws : LinearClass cls sound) {trail : List (State Guard Pool × Op Pool)}
    {last : State Guard Pool} (path : Path (step cls) started trail last) :
    (∀ state ∈ visited trail last, LinearlyOwned cls state) ∧
      ∀ (state after : State Guard Pool) (op : Op Pool), (state, op) ∈ trail →
        step cls state op = some after → LinearStep cls state op after := by
  constructor
  · intro state member
    exact linearly_owned_of_linear laws (linear_reachable laws (visited_reachable path member))
  · intro state after op member taken
    have passed : state ∈ visited trail last :=
      List.mem_append_left _ (List.mem_map_of_mem (f := Prod.fst) member)
    exact linear_step_of_move laws (linear_reachable laws (visited_reachable path passed))
      (move_of_step taken)

end Linear

end BackendComponents.Lib.LinearGuards
