import BackendComponents.Lib.Ownership
import BackendComponents.Lib.Paths

/-!
# Guards that give a resource back

A class of guards is given by what its operations do to the objects involved and by the
calls they make on the pool. Programs over any number of guards are paths of one step
function. A resource is named by the hand-out that it comes from, so the same object of
the pool counts anew each time it is handed out.

`accounted` is how often a hand-out is owned or given back; each operation shifts it by
what the guards involved own before and after and by the calls. A class whose operations
hand the resource on or give it back keeps it at one.
-/

namespace BackendComponents.Lib.Guards

open BackendComponents.Lib.Ownership
open BackendComponents.Lib.Paths
open BackendComponents.Lib.Threads

set_option autoImplicit false

/-- A call `pool->give_back(resource)`; either pointer may be null. -/
structure Call (Pool : Type*) where
  pool : Option Pool
  resource : Option Nat
  deriving DecidableEq, Repr

/-- `moveConstruct` yields the new guard and the source after it; `moveAssign` takes target
and source, two objects, and yields both after it. -/
structure GuardClass (Guard Pool : Type*) where
  construct : Option Pool → Option Nat → Guard
  moveConstruct : Guard → Guard × Guard
  moveAssign : Guard → Guard → List (Call Pool) × Guard × Guard
  release : Guard → List (Call Pool) × Guard
  destroy : Guard → List (Call Pool)
  owned : Guard → Option Nat
  pool : Guard → Option Pool
  get : Guard → Option Nat
  toBool : Guard → Bool

/-- `handed` lists the hand-outs by the pool they come from, `calls` the calls made with
the guard that made them. A destroyed guard leaves an empty place. -/
structure State (Guard Pool : Type*) where
  objects : List (Option Guard)
  handed : List Pool
  calls : List (Nat × Call Pool)
  deriving DecidableEq, Repr

inductive Op (Pool : Type*)
  | handOut (pool : Pool)
  | refuse (pool : Option Pool)
  | moveConstruct (source : Nat)
  | moveAssign (target source : Nat)
  | release (id : Nat)
  | destroy (id : Nat)
  deriving DecidableEq, Repr

variable {Guard Pool : Type*}

def started : State Guard Pool where
  objects := []
  handed := []
  calls := []

def State.log (state : State Guard Pool) (id : Nat) (calls : List (Call Pool)) :
    List (Nat × Call Pool) :=
  state.calls ++ calls.map fun call => (id, call)

def step (cls : GuardClass Guard Pool) (state : State Guard Pool) :
    Op Pool → Option (State Guard Pool)
  | .handOut pool => some { state with
      objects := state.objects ++ [some (cls.construct (some pool) (some state.handed.length))]
      handed := state.handed ++ [pool] }
  | .refuse pool => some { state with objects := state.objects ++ [some (cls.construct pool none)] }
  | .moveConstruct source =>
      match state.objects[source]? with
      | some (some guard) => some { state with
          objects := state.objects.set source (some (cls.moveConstruct guard).2) ++
            [some (cls.moveConstruct guard).1] }
      | _ => none
  | .moveAssign target source =>
      match state.objects[target]?, state.objects[source]? with
      | some (some this), some (some other) =>
          -- every class tests for `this == &other` first
          if target = source then some state
          else some { state with
            objects := (state.objects.set target (some (cls.moveAssign this other).2.1)).set
              source (some (cls.moveAssign this other).2.2)
            calls := state.log target (cls.moveAssign this other).1 }
      | _, _ => none
  | .release id =>
      match state.objects[id]? with
      | some (some guard) => some { state with
          objects := state.objects.set id (some (cls.release guard).2)
          calls := state.log id (cls.release guard).1 }
      | _ => none
  | .destroy id =>
      match state.objects[id]? with
      | some (some guard) => some { state with
          objects := state.objects.set id none
          calls := state.log id (cls.destroy guard) }
      | _ => none

/-- The guard with this number, if there is one, has the property. -/
def AtGuard (objects : List (Option Guard)) (id : Nat) (property : Guard → Prop) : Prop :=
  ∀ guard, objects[id]? = some (some guard) → property guard

theorem at_guard_iff {objects : List (Option Guard)} {id : Nat} {guard : Guard}
    {property : Guard → Prop} (found : objects[id]? = some (some guard)) :
    AtGuard objects id property ↔ property guard := by
  constructor
  · exact fun all => all guard found
  · intro holds seen present
    rw [found] at present
    obtain rfl := Option.some.inj (Option.some.inj present)
    exact holds

instance (objects : List (Option Guard)) (id : Nat) (property : Guard → Prop)
    [DecidablePred property] : Decidable (AtGuard objects id property) :=
  match found : objects[id]? with
  | some (some guard) => decidable_of_iff (property guard) (at_guard_iff found).symm
  | some none => isTrue fun _ present => nomatch found.symm.trans present
  | none => isTrue fun _ present => nomatch found.symm.trans present

inductive Move (cls : GuardClass Guard Pool) (state : State Guard Pool) :
    Op Pool → State Guard Pool → Prop
  | handOut (pool : Pool) :
      Move cls state (.handOut pool) { state with
        objects := state.objects ++ [some (cls.construct (some pool) (some state.handed.length))]
        handed := state.handed ++ [pool] }
  | refuse (pool : Option Pool) :
      Move cls state (.refuse pool)
        { state with objects := state.objects ++ [some (cls.construct pool none)] }
  | moveConstruct (source : Nat) (guard : Guard)
      (found : state.objects[source]? = some (some guard)) :
      Move cls state (.moveConstruct source) { state with
        objects := state.objects.set source (some (cls.moveConstruct guard).2) ++
          [some (cls.moveConstruct guard).1] }
  | selfAssign (id : Nat) (guard : Guard) (found : state.objects[id]? = some (some guard)) :
      Move cls state (.moveAssign id id) state
  | moveAssign (target source : Nat) (this other : Guard)
      (found : state.objects[target]? = some (some this))
      (present : state.objects[source]? = some (some other)) (different : target ≠ source) :
      Move cls state (.moveAssign target source) { state with
        objects := (state.objects.set target (some (cls.moveAssign this other).2.1)).set
          source (some (cls.moveAssign this other).2.2)
        calls := state.log target (cls.moveAssign this other).1 }
  | release (id : Nat) (guard : Guard) (found : state.objects[id]? = some (some guard)) :
      Move cls state (.release id) { state with
        objects := state.objects.set id (some (cls.release guard).2)
        calls := state.log id (cls.release guard).1 }
  | destroy (id : Nat) (guard : Guard) (found : state.objects[id]? = some (some guard)) :
      Move cls state (.destroy id) { state with
        objects := state.objects.set id none
        calls := state.log id (cls.destroy guard) }

theorem move_of_step {cls : GuardClass Guard Pool} {state after : State Guard Pool} {op : Op Pool}
    (taken : step cls state op = some after) : Move cls state op after := by
  cases op with
  | handOut pool =>
      obtain rfl := Option.some.inj taken
      exact .handOut pool
  | refuse pool =>
      obtain rfl := Option.some.inj taken
      exact .refuse pool
  | moveConstruct source =>
      dsimp only [step] at taken
      split at taken
      · next guard found =>
          obtain rfl := Option.some.inj taken
          exact .moveConstruct source guard found
      · cases taken
  | moveAssign target source =>
      dsimp only [step] at taken
      split at taken
      · next this other found present =>
          split at taken
          · next same =>
              obtain rfl := Option.some.inj taken
              subst same
              exact .selfAssign target this found
          · next different =>
              obtain rfl := Option.some.inj taken
              exact .moveAssign target source this other found present different
      · cases taken
  | release id =>
      dsimp only [step] at taken
      split at taken
      · next guard found =>
          obtain rfl := Option.some.inj taken
          exact .release id guard found
      · cases taken
  | destroy id =>
      dsimp only [step] at taken
      split at taken
      · next guard found =>
          obtain rfl := Option.some.inj taken
          exact .destroy id guard found
      · cases taken

/-! ## Accounting -/

section Accounting

variable (cls : GuardClass Guard Pool)

def owns (resource : Nat) (guard : Guard) : Nat :=
  indicator (holds cls.owned resource (some guard))

def received (calls : List (Call Pool)) (resource : Nat) : Nat :=
  calls.countP fun call => decide (call.resource = some resource)

def givenBack (state : State Guard Pool) (resource : Nat) : Nat :=
  state.calls.countP fun entry => decide (entry.2.resource = some resource)

/-- How many guards own the hand-out, and how often it has been given back. -/
def accounted (state : State Guard Pool) (resource : Nat) : Nat :=
  holders cls.owned state.objects resource + givenBack state resource

/-- Owned by one guard, or given back once. -/
def Once (state : State Guard Pool) : Prop :=
  ∀ resource, resource < state.handed.length → accounted cls state resource = 1

/-- No call has gone through a null pool. -/
def Reached (state : State Guard Pool) : Prop :=
  ∀ entry ∈ state.calls, entry.2.pool.isSome = true

/-- Only what has been handed out is owned or has been given back. -/
def Fresh (state : State Guard Pool) : Prop :=
  ∀ resource, state.handed.length ≤ resource → accounted cls state resource = 0

variable {cls} {state : State Guard Pool}

theorem given_back_log (state : State Guard Pool) (id : Nat) (calls : List (Call Pool))
    (resource : Nat) (objects : List (Option Guard)) :
    givenBack { state with objects := objects, calls := state.log id calls } resource =
      givenBack state resource + received calls resource := by
  unfold givenBack received State.log
  rw [List.countP_append, List.countP_map]
  rfl

theorem accounted_new (cls : GuardClass Guard Pool) (state : State Guard Pool) (guard : Guard)
    (handed : List Pool) (resource : Nat) :
    accounted cls { state with objects := state.objects ++ [some guard], handed := handed }
        resource =
      accounted cls state resource + owns cls resource guard := by
  have counted := holders_append cls.owned state.objects (some guard) resource
  unfold accounted owns
  dsimp only
  rw [counted]
  exact Nat.add_right_comm _ _ _

theorem accounted_move_construct (cls : GuardClass Guard Pool) {source : Nat} {guard : Guard}
    (found : state.objects[source]? = some (some guard)) (resource : Nat) :
    accounted cls { state with
        objects := state.objects.set source (some (cls.moveConstruct guard).2) ++
          [some (cls.moveConstruct guard).1] } resource + owns cls resource guard =
      accounted cls state resource + owns cls resource (cls.moveConstruct guard).1 +
        owns cls resource (cls.moveConstruct guard).2 := by
  have placed := holders_set cls.owned found (some (cls.moveConstruct guard).2) resource
  have added := holders_append cls.owned
    (state.objects.set source (some (cls.moveConstruct guard).2))
    (some (cls.moveConstruct guard).1) resource
  have same : givenBack { state with
      objects := state.objects.set source (some (cls.moveConstruct guard).2) ++
        [some (cls.moveConstruct guard).1] } resource = givenBack state resource := rfl
  unfold accounted owns
  rw [same]
  dsimp only
  omega

theorem accounted_move_assign (cls : GuardClass Guard Pool) {target source : Nat} {this other : Guard}
    (found : state.objects[target]? = some (some this))
    (present : state.objects[source]? = some (some other)) (different : target ≠ source)
    (resource : Nat) :
    accounted cls { state with
        objects := (state.objects.set target (some (cls.moveAssign this other).2.1)).set
          source (some (cls.moveAssign this other).2.2)
        calls := state.log target (cls.moveAssign this other).1 } resource +
        owns cls resource this + owns cls resource other =
      accounted cls state resource + owns cls resource (cls.moveAssign this other).2.1 +
        owns cls resource (cls.moveAssign this other).2.2 +
          received (cls.moveAssign this other).1 resource := by
  have first := holders_set cls.owned found (some (cls.moveAssign this other).2.1) resource
  have still : (state.objects.set target (some (cls.moveAssign this other).2.1))[source]? =
      some (some other) := by
    rw [lookup_move_other fun same => different same.symm]
    exact present
  have second := holders_set cls.owned still (some (cls.moveAssign this other).2.2) resource
  unfold accounted owns
  rw [given_back_log]
  dsimp only
  omega

theorem accounted_release (cls : GuardClass Guard Pool) {id : Nat} {guard : Guard}
    (found : state.objects[id]? = some (some guard)) (resource : Nat) :
    accounted cls { state with
        objects := state.objects.set id (some (cls.release guard).2)
        calls := state.log id (cls.release guard).1 } resource + owns cls resource guard =
      accounted cls state resource + owns cls resource (cls.release guard).2 +
        received (cls.release guard).1 resource := by
  have placed := holders_set cls.owned found (some (cls.release guard).2) resource
  unfold accounted owns
  rw [given_back_log]
  dsimp only
  omega

theorem accounted_destroy (cls : GuardClass Guard Pool) {id : Nat} {guard : Guard}
    (found : state.objects[id]? = some (some guard)) (resource : Nat) :
    accounted cls { state with
        objects := state.objects.set id none
        calls := state.log id (cls.destroy guard) } resource + owns cls resource guard =
      accounted cls state resource + received (cls.destroy guard) resource := by
  have placed := holders_set cls.owned found none resource
  have nobody : indicator (holds cls.owned resource none) = 0 := rfl
  unfold accounted owns
  rw [given_back_log]
  dsimp only
  omega

/-- The calls that a step adds go through a pool if and only if the whole log does. -/
theorem reached_log_iff (reached : Reached state) (id : Nat) (calls : List (Call Pool))
    (objects : List (Option Guard)) :
    Reached { state with objects := objects, calls := state.log id calls } ↔
      ∀ call ∈ calls, call.pool.isSome = true := by
  unfold Reached State.log
  constructor
  · intro all call member
    exact all (id, call) (List.mem_append_right _ (List.mem_map_of_mem member))
  · intro all entry member
    rcases List.mem_append.mp member with old | new
    · exact reached entry old
    · obtain ⟨call, inside, rfl⟩ := List.mem_map.mp new
      exact all call inside

theorem owns_of_none {guard : Guard} (empty : cls.owned guard = none) (resource : Nat) :
    owns cls resource guard = 0 := by
  unfold owns holds
  rw [Option.bind_some, empty]
  rfl

theorem owns_congr {guard other : Guard} (same : cls.owned guard = cls.owned other)
    (resource : Nat) : owns cls resource guard = owns cls resource other := by
  unfold owns holds
  rw [Option.bind_some, Option.bind_some, same]

theorem handed_of_owned (fresh : Fresh cls state) {id : Nat} {guard : Guard} {resource : Nat}
    (found : state.objects[id]? = some (some guard)) (owned : cls.owned guard = some resource) :
    resource < state.handed.length := by
  by_contra late
  have none := fresh resource (Nat.le_of_not_lt late)
  have positive := holders_pos found owned
  unfold accounted at none
  omega

end Accounting

/-! ## Classes that hand on what they own -/

/-- Guards that meet `sound` pass on or give back what they own, except that a move
assignment may lose what `lost` says of its target. -/
structure Conserving (cls : GuardClass Guard Pool) (sound : Guard → Prop)
    (lost : Guard → Option Nat) : Prop where
  constructed : ∀ pool resource, sound (cls.construct (some pool) (some resource)) ∧
    cls.owned (cls.construct (some pool) (some resource)) = some resource
  refused : ∀ pool, sound (cls.construct pool none) ∧ cls.owned (cls.construct pool none) = none
  moved : ∀ guard, sound guard →
    sound (cls.moveConstruct guard).1 ∧ sound (cls.moveConstruct guard).2 ∧
      ∀ resource, owns cls resource (cls.moveConstruct guard).1 +
        owns cls resource (cls.moveConstruct guard).2 = owns cls resource guard
  assigned : ∀ this other, sound this → sound other →
    sound (cls.moveAssign this other).2.1 ∧ sound (cls.moveAssign this other).2.2 ∧
      ∀ resource, owns cls resource (cls.moveAssign this other).2.1 +
        owns cls resource (cls.moveAssign this other).2.2 +
          received (cls.moveAssign this other).1 resource +
            indicator (decide (lost this = some resource)) =
        owns cls resource this + owns cls resource other
  released : ∀ guard, sound guard → sound (cls.release guard).2 ∧
    ∀ resource, owns cls resource (cls.release guard).2 +
      received (cls.release guard).1 resource = owns cls resource guard
  destroyed : ∀ guard, sound guard →
    ∀ resource, received (cls.destroy guard) resource = owns cls resource guard
  lost_owned : ∀ guard resource, lost guard = some resource → cls.owned guard = some resource

/-- What holds after every program. -/
structure Kept (cls : GuardClass Guard Pool) (sound : Guard → Prop) (state : State Guard Pool) :
    Prop where
  guards : ∀ (id : Nat) (guard : Guard), state.objects[id]? = some (some guard) → sound guard
  fresh : Fresh cls state

/-- The operation is no move assignment onto a guard that would lose something. -/
def losesNothing (lost : Guard → Option Nat) (state : State Guard Pool) : Op Pool → Prop
  | .moveAssign target source =>
      target = source ∨ AtGuard state.objects target fun this => lost this = none
  | _ => True

def made (cls : GuardClass Guard Pool) (state : State Guard Pool) : Op Pool → List (Call Pool)
  | .moveAssign target source =>
      match state.objects[target]?, state.objects[source]? with
      | some (some this), some (some other) =>
          if target = source then [] else (cls.moveAssign this other).1
      | _, _ => []
  | .release id =>
      match state.objects[id]? with
      | some (some guard) => (cls.release guard).1
      | _ => []
  | .destroy id =>
      match state.objects[id]? with
      | some (some guard) => cls.destroy guard
      | _ => []
  | .handOut _ | .refuse _ | .moveConstruct _ => []

section Conserving

variable {cls : GuardClass Guard Pool} {sound : Guard → Prop} {lost : Guard → Option Nat}
  {state after : State Guard Pool} {op : Op Pool}

theorem lookup_new {objects : List (Option Guard)} {new guard : Guard} {id : Nat}
    (found : (objects ++ [some new])[id]? = some (some guard)) :
    objects[id]? = some (some guard) ∨ guard = new := by
  rcases lookup_append found with old | ⟨_, same⟩
  · exact .inl old
  · exact .inr (Option.some.inj same)

theorem lookup_set {objects : List (Option Guard)} {place id : Nat} {slot : Option Guard}
    {guard : Guard} (found : (objects.set place slot)[id]? = some (some guard)) :
    (id = place ∧ slot = some guard) ∨ objects[id]? = some (some guard) := by
  rcases lookup_move found with ⟨rfl, same⟩ | ⟨_, old⟩
  · exact .inl ⟨rfl, same.symm⟩
  · exact .inr old

theorem sound_move (laws : Conserving cls sound lost)
    (guards : ∀ (id : Nat) (guard : Guard),
      state.objects[id]? = some (some guard) → sound guard)
    (move : Move cls state op after) :
    ∀ (id : Nat) (guard : Guard), after.objects[id]? = some (some guard) → sound guard := by
  intro id seen present
  cases move with
  | handOut pool =>
      rcases lookup_new present with old | rfl
      · exact guards id seen old
      · exact (laws.constructed pool _).1
  | refuse pool =>
      rcases lookup_new present with old | rfl
      · exact guards id seen old
      · exact (laws.refused pool).1
  | moveConstruct source guard found =>
      have kept := laws.moved guard (guards source guard found)
      rcases lookup_new present with old | rfl
      · rcases lookup_set old with ⟨_, same⟩ | old
        · obtain rfl := Option.some.inj same
          exact kept.2.1
        · exact guards id seen old
      · exact kept.1
  | selfAssign place guard found => exact guards id seen present
  | moveAssign target source this other found there different =>
      have kept := laws.assigned this other (guards target this found) (guards source other there)
      rcases lookup_set present with ⟨_, same⟩ | old
      · obtain rfl := Option.some.inj same
        exact kept.2.1
      · rcases lookup_set old with ⟨_, same⟩ | old
        · obtain rfl := Option.some.inj same
          exact kept.1
        · exact guards id seen old
  | release place guard found =>
      rcases lookup_set present with ⟨_, same⟩ | old
      · obtain rfl := Option.some.inj same
        exact (laws.released guard (guards place guard found)).1
      · exact guards id seen old
  | destroy place guard found =>
      rcases lookup_set present with ⟨_, same⟩ | old
      · cases same
      · exact guards id seen old

/-- What a hand-out adds to the account of a resource, and what a move assignment loses. -/
def entered (state : State Guard Pool) (resource : Nat) : Op Pool → Nat
  | .handOut _ => indicator (decide (state.handed.length = resource))
  | _ => 0

def missing (lost : Guard → Option Nat) (state : State Guard Pool) (resource : Nat) :
    Op Pool → Nat
  | .moveAssign target source =>
      match state.objects[target]? with
      | some (some this) =>
          if target = source then 0 else indicator (decide (lost this = some resource))
      | _ => 0
  | _ => 0

theorem missing_assign {target source : Nat} {this : Guard}
    (found : state.objects[target]? = some (some this)) (different : target ≠ source)
    (resource : Nat) :
    missing lost state resource (.moveAssign target source) =
      indicator (decide (lost this = some resource)) := by
  unfold missing
  dsimp only
  rw [found]
  dsimp only
  rw [if_neg different]

theorem missing_self {id : Nat} {guard : Guard}
    (found : state.objects[id]? = some (some guard)) (resource : Nat) :
    missing lost state resource (.moveAssign id id) = 0 := by
  unfold missing
  dsimp only
  rw [found]
  dsimp only
  rw [if_pos rfl]

theorem missing_of_careful (careful : losesNothing lost state op) (move : Move cls state op after)
    (resource : Nat) : missing lost state resource op = 0 := by
  cases move with
  | moveAssign target source this other found present different =>
      rw [missing_assign found different]
      rcases careful with same | none
      · exact absurd same different
      · rw [(at_guard_iff found).mp none]
        rfl
  | selfAssign id guard found => exact missing_self found resource
  | _ => rfl

theorem accounted_move (laws : Conserving cls sound lost) (kept : Kept cls sound state)
    (move : Move cls state op after) (resource : Nat) :
    accounted cls after resource + missing lost state resource op =
      accounted cls state resource + entered state resource op := by
  cases move with
  | handOut pool =>
      have owned := (laws.constructed pool state.handed.length).2
      rw [accounted_new]
      have here : owns cls resource (cls.construct (some pool) (some state.handed.length)) =
          indicator (decide (state.handed.length = resource)) := by
        unfold owns holds
        rw [Option.bind_some, owned]
        simp only [Option.some.injEq]
      rw [here]
      rfl
  | refuse pool =>
      have nothing := owns_of_none (laws.refused pool).2 resource
      have counted := accounted_new cls state (cls.construct pool none) state.handed resource
      rw [nothing] at counted
      exact counted
  | moveConstruct source guard found =>
      have shift := accounted_move_construct cls found resource
      have same := (laws.moved guard (kept.guards source guard found)).2.2 resource
      unfold missing entered
      dsimp only
      omega
  | selfAssign id guard found =>
      rw [missing_self found]
      rfl
  | moveAssign target source this other found present different =>
      have shift := accounted_move_assign cls found present different resource
      have same := (laws.assigned this other (kept.guards target this found)
        (kept.guards source other present)).2.2 resource
      rw [missing_assign found different]
      unfold entered
      dsimp only
      omega
  | release id guard found =>
      have shift := accounted_release cls found resource
      have same := (laws.released guard (kept.guards id guard found)).2 resource
      unfold missing entered
      dsimp only
      omega
  | destroy id guard found =>
      have shift := accounted_destroy cls found resource
      have same := laws.destroyed guard (kept.guards id guard found) resource
      unfold missing entered
      dsimp only
      omega

theorem entered_cases (move : Move cls state op after) (resource : Nat) :
    (resource < after.handed.length ↔
        resource < state.handed.length ∨ entered state resource op = 1) ∧
      (entered state resource op = 0 ∨
        resource = state.handed.length ∧ entered state resource op = 1) := by
  cases move with
  | handOut pool =>
      unfold entered
      dsimp only
      rw [List.length_append, List.length_singleton]
      by_cases same : state.handed.length = resource
      · rw [decide_eq_true same, indicator_true]
        exact ⟨by omega, .inr ⟨same.symm, rfl⟩⟩
      · rw [decide_eq_false same, indicator_false]
        exact ⟨by omega, .inl rfl⟩
  | _ => exact ⟨⟨.inl, fun either => either.elim id fun impossible => nomatch impossible⟩, .inl rfl⟩

theorem kept_move (laws : Conserving cls sound lost) (kept : Kept cls sound state)
    (move : Move cls state op after) : Kept cls sound after := by
  constructor
  · exact sound_move laws kept.guards move
  · intro resource late
    have shift := accounted_move laws kept move resource
    obtain ⟨bound, either⟩ := entered_cases move resource
    have notYet : ¬resource < after.handed.length := Nat.not_lt.mpr late
    rw [bound] at notYet
    have old := kept.fresh resource (by omega)
    omega

/-- A step keeps every hand-out owned once or given back once exactly if it loses nothing. -/
theorem once_move_iff (laws : Conserving cls sound lost) (kept : Kept cls sound state)
    (once : Once cls state) (move : Move cls state op after) :
    Once cls after ↔ losesNothing lost state op := by
  constructor
  · intro still
    cases move with
    | moveAssign target source this other found present different =>
        right
        rw [at_guard_iff found]
        cases loses : lost this with
        | none => rfl
        | some resource =>
            have owned := laws.lost_owned this resource loses
            have old := handed_of_owned kept.fresh found owned
            have shift := accounted_move laws kept
              (.moveAssign target source this other found present different) resource
            have before := once resource old
            have now := still resource old
            rw [missing_assign found different, loses, decide_eq_true rfl, indicator_true] at shift
            have nothing : entered state resource (.moveAssign target source : Op Pool) = 0 := rfl
            omega
    | selfAssign id guard found => exact .inl rfl
    | _ => exact True.intro
  · intro careful resource bound
    have shift := accounted_move laws kept move resource
    have nothing := missing_of_careful careful move resource
    obtain ⟨known, either⟩ := entered_cases move resource
    rcases either with old | ⟨rfl, new⟩
    · have before := once resource (by omega)
      omega
    · have none := kept.fresh state.handed.length (Nat.le_refl _)
      omega

theorem made_assign {target source : Nat} {this other : Guard}
    (found : state.objects[target]? = some (some this))
    (present : state.objects[source]? = some (some other)) (different : target ≠ source) :
    made cls state (.moveAssign target source) = (cls.moveAssign this other).1 := by
  unfold made
  dsimp only
  rw [found, present]
  dsimp only
  rw [if_neg different]

theorem made_self {id : Nat} {guard : Guard} (found : state.objects[id]? = some (some guard)) :
    made cls state (.moveAssign id id) = [] := by
  unfold made
  dsimp only
  rw [found]
  dsimp only
  rw [if_pos rfl]

theorem made_release {id : Nat} {guard : Guard} (found : state.objects[id]? = some (some guard)) :
    made cls state (.release id) = (cls.release guard).1 := by
  unfold made
  dsimp only
  rw [found]

theorem made_destroy {id : Nat} {guard : Guard} (found : state.objects[id]? = some (some guard)) :
    made cls state (.destroy id) = cls.destroy guard := by
  unfold made
  dsimp only
  rw [found]

theorem reached_move_iff (reached : Reached state) (move : Move cls state op after) :
    Reached after ↔ ∀ call ∈ made cls state op, call.pool.isSome = true := by
  cases move with
  | selfAssign id guard found =>
      rw [made_self found]
      exact iff_of_true reached fun call member => nomatch member
  | moveAssign target source this other found present different =>
      rw [made_assign found present different]
      exact reached_log_iff reached target _ _
  | release id guard found =>
      rw [made_release found]
      exact reached_log_iff reached id _ _
  | destroy id guard found =>
      rw [made_destroy found]
      exact reached_log_iff reached id _ _
  | _ => exact iff_of_true reached fun call member => nomatch member

theorem kept_started : Kept cls sound (started : State Guard Pool) := by
  constructor
  · intro id guard found
    cases found
  · intro resource _
    rfl

theorem once_started : Once cls (started : State Guard Pool) := by
  intro resource impossible
  cases impossible

theorem reached_started : Reached (started : State Guard Pool) := by
  intro entry impossible
  cases impossible

end Conserving

end BackendComponents.Lib.Guards
