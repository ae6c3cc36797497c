import BackendComponents.Lib.Paths
import BackendComponents.Lib.Storage

/-!
# Lifetimes in `Result<T, E>`

Programs over any number of `Result<T, E>` objects, each with its tag `m_ok` and its raw
storage `m_buf`. The move assignment takes over the tag of the source before it destroys
what the target holds, so that it runs the destructor of the new kind on the old object.
-/

namespace BackendComponents.Results.Result

open BackendComponents.Lib.Paths
open BackendComponents.Lib.Storage
open BackendComponents.Lib.Threads

set_option autoImplicit false

inductive Kind
  | value
  | error
  deriving DecidableEq, Repr

/-- The type that the code takes the storage for. -/
def kindOf (ok : Bool) : Kind := if ok then .value else .error

/-- `construct` is any of the four constructors from a value or an error. -/
inductive Op
  | construct (ok : Bool)
  | moveConstruct (source : Nat)
  | moveAssign (target source : Nat)
  | destroy (id : Nat)
  deriving DecidableEq, Repr

def construct (ok : Bool) (state : Tagged Kind) : Tagged Kind where
  memory := state.memory.allocate.construct (kindOf ok) state.memory.cells.length
  tags := state.tags ++ [some ok]

/-- The source has the tag `ok`. -/
def moveConstruct (ok : Bool) (source : Nat) (state : Tagged Kind) : Tagged Kind where
  memory := (state.memory.allocate.readAs (kindOf ok) source).construct (kindOf ok)
    state.memory.cells.length
  tags := state.tags ++ [some ok]

/-- `m_ok = other.m_ok` comes first; the destructor goes by the new tag. -/
def moveAssign (ok : Bool) (target source : Nat) (state : Tagged Kind) : Tagged Kind where
  memory := ((state.memory.destroyAs (kindOf ok) target).readAs (kindOf ok) source).construct
    (kindOf ok) target
  tags := state.tags.set target (some ok)

def destroy (ok : Bool) (id : Nat) (state : Tagged Kind) : Tagged Kind where
  memory := (state.memory.destroyAs (kindOf ok) id).deallocate id
  tags := state.tags.set id none

def step (state : Tagged Kind) : Op → Option (Tagged Kind)
  | .construct ok => some (construct ok state)
  | .moveConstruct source =>
      match state.tags[source]? with
      | some (some ok) => some (moveConstruct ok source state)
      | _ => none
  | .moveAssign target source =>
      match state.tags[target]?, state.tags[source]? with
      | some (some _), some (some ok) =>
          some (if target = source then state else moveAssign ok target source state)
      | _, _ => none
  | .destroy id =>
      match state.tags[id]? with
      | some (some ok) => some (destroy ok id state)
      | _ => none

def started : Tagged Kind := ⟨Memory.empty, []⟩

/-- Nothing undefined has happened, every value and error placed in a storage is there or has
been destroyed once, and none is left where a `Result` was. -/
structure Lifetimes (state : Tagged Kind) : Prop where
  noFault : state.memory.faults = []
  once : ∀ object, object < state.memory.made →
    alive state.memory object + state.memory.destroyed.count object = 1
  ended : ∀ id : Nat, state.tags[id]? = some none → state.memory.kindAt id = none

def LifetimesLaw : Prop :=
  ∀ (trail : List (Tagged Kind × Op)) (last : Tagged Kind), Path step started trail last →
    ∀ state ∈ visited trail last, Lifetimes state

/-- No move assignment between two objects changes the state of its target. -/
def keepsState (state : Tagged Kind) : Op → Prop
  | .moveAssign target source =>
      target = source ∨ state.tags[target]? = state.tags[source]?
  | _ => True

instance (state : Tagged Kind) : (op : Op) → Decidable (keepsState state op)
  | .moveAssign _ _ => instDecidableOr
  | .construct _ | .moveConstruct _ | .destroy _ => isTrue True.intro

def expects (ok : Bool) : Option Kind := some (kindOf ok)

inductive Move (state : Tagged Kind) : Op → Tagged Kind → Prop
  | construct (ok : Bool) : Move state (.construct ok) (construct ok state)
  | moveConstruct (source : Nat) (ok : Bool) (found : state.tags[source]? = some (some ok)) :
      Move state (.moveConstruct source) (moveConstruct ok source state)
  | selfAssign (id : Nat) (ok : Bool) (found : state.tags[id]? = some (some ok)) :
      Move state (.moveAssign id id) state
  | moveAssign (target source : Nat) (was ok : Bool)
      (found : state.tags[target]? = some (some was))
      (present : state.tags[source]? = some (some ok)) (different : target ≠ source) :
      Move state (.moveAssign target source) (moveAssign ok target source state)
  | destroy (id : Nat) (ok : Bool) (found : state.tags[id]? = some (some ok)) :
      Move state (.destroy id) (destroy ok id state)

theorem move_of_step {state after : Tagged Kind} {op : Op} (taken : step state op = some after) :
    Move state op after := by
  cases op with
  | construct ok =>
      obtain rfl := Option.some.inj taken
      exact .construct ok
  | moveConstruct source =>
      dsimp only [step] at taken
      split at taken
      · next ok found =>
          obtain rfl := Option.some.inj taken
          exact .moveConstruct source ok found
      · cases taken
  | moveAssign target source =>
      dsimp only [step] at taken
      split at taken
      · next was ok found present =>
          obtain rfl := Option.some.inj taken
          split
          · next same =>
              subst same
              exact .selfAssign target was found
          · next different => exact .moveAssign target source was ok found present different
      · cases taken
  | destroy id =>
      dsimp only [step] at taken
      split at taken
      · next ok found =>
          obtain rfl := Option.some.inj taken
          exact .destroy id ok found
      · cases taken

theorem kind_of_inj {ok other : Bool} (same : kindOf ok = kindOf other) : ok = other := by
  cases ok <;> cases other <;> first | rfl | cases same

theorem clean_construct {state : Tagged Kind} (clean : state.memory.faults = []) (ok : Bool) :
    (construct ok state).memory.faults = [] :=
  (faults_construct_iff _ _ _).mpr ⟨clean, kind_at_allocate_new state.memory⟩

section Steps

variable {state : Tagged Kind} (kept : Kept expects state)

include kept

theorem kept_construct (ok : Bool) : Kept expects (construct ok state) :=
  kept_new kept (prepared_allocate kept) (fun _ => kind_at_allocate _) fun _ => rfl

theorem kept_move_construct (ok : Bool) (source : Nat) :
    Kept expects (moveConstruct ok source state) := by
  apply kept_new kept (prepared_read (prepared_allocate kept) (kindOf ok) source)
  · intro place old
    rw [kind_at_read]
    exact kind_at_allocate _ old
  · exact fun _ => rfl

theorem kept_move_assign (ok : Bool) {target : Nat} (source : Nat) {slot : Option Bool}
    (found : state.tags[target]? = some slot) :
    Kept expects (moveAssign ok target source state) := by
  have prepared := prepared_destroy (prepared_same kept) (kindOf ok) target
  apply kept_replace kept (prepared_read prepared (kindOf ok) source) found
  · intro other different
    rw [kind_at_read]
    exact kind_at_destroy_other _ _ _ different
  · exact fun _ => rfl

theorem kept_destroy (ok : Bool) (id : Nat) : Kept expects (destroy ok id state) := by
  apply kept_end kept (prepared_destroy (prepared_same kept) (kindOf ok) id)
  exact fun other different => kind_at_destroy_other _ _ _ different

theorem kept_move {after : Tagged Kind} {op : Op} (move : Move state op after) :
    Kept expects after := by
  cases move with
  | construct ok => exact kept_construct kept ok
  | moveConstruct source ok found => exact kept_move_construct kept ok source
  | selfAssign id ok found => exact kept
  | moveAssign target source was ok found present different =>
      exact kept_move_assign kept ok source found
  | destroy id ok found => exact kept_destroy kept ok id

theorem kind_at_object (clean : state.memory.faults = []) {id : Nat} {ok : Bool}
    (found : state.tags[id]? = some (some ok)) : state.memory.kindAt id = some (kindOf ok) :=
  (kept.matched clean).inside id (some ok) found

theorem clean_move_construct (clean : state.memory.faults = []) {source : Nat} {ok : Bool}
    (found : state.tags[source]? = some (some ok)) :
    (moveConstruct ok source state).memory.faults = [] := by
  apply (faults_construct_iff _ _ _).mpr
  constructor
  · apply (faults_read_iff _ _ _).mpr
    refine ⟨clean, ?_⟩
    rw [kind_at_allocate _ (cell_bound kept found)]
    exact kind_at_object kept clean found
  · rw [kind_at_read]
    exact kind_at_allocate_new state.memory

theorem clean_destroy (clean : state.memory.faults = []) {id : Nat} {ok : Bool}
    (found : state.tags[id]? = some (some ok)) : (destroy ok id state).memory.faults = [] := by
  have present := kind_at_object kept clean found
  apply (faults_deallocate_iff _ _).mpr
  exact ⟨(faults_destroy_iff _ _ _).mpr ⟨clean, present⟩, kind_at_destroy _ _ _ present⟩

theorem clean_move_assign_iff (clean : state.memory.faults = []) {target source : Nat}
    {was ok : Bool} (found : state.tags[target]? = some (some was))
    (present : state.tags[source]? = some (some ok)) (different : target ≠ source) :
    (moveAssign ok target source state).memory.faults = [] ↔ was = ok := by
  have old := kind_at_object kept clean found
  have moved := kind_at_object kept clean present
  constructor
  · intro still
    have afterRead := ((faults_construct_iff _ _ _).mp still).1
    have afterDestroy := ((faults_read_iff _ _ _).mp afterRead).1
    have same := ((faults_destroy_iff _ _ _).mp afterDestroy).2
    rw [old] at same
    exact kind_of_inj (Option.some.inj same)
  · rintro rfl
    apply (faults_construct_iff _ _ _).mpr
    constructor
    · apply (faults_read_iff _ _ _).mpr
      refine ⟨(faults_destroy_iff _ _ _).mpr ⟨clean, old⟩, ?_⟩
      rw [kind_at_destroy_other _ _ _ (Ne.symm different)]
      exact moved
    · rw [kind_at_read]
      exact kind_at_destroy _ _ _ old

theorem clean_step_iff (clean : state.memory.faults = []) {after : Tagged Kind} {op : Op}
    (move : Move state op after) : after.memory.faults = [] ↔ keepsState state op := by
  cases move with
  | construct ok => exact iff_of_true (clean_construct clean ok) True.intro
  | moveConstruct source ok found =>
      exact iff_of_true (clean_move_construct kept clean found) True.intro
  | selfAssign id ok found => exact iff_of_true clean (Or.inl rfl)
  | moveAssign target source was ok found present different =>
      rw [clean_move_assign_iff kept clean found present different]
      unfold keepsState
      dsimp only
      rw [found, present, or_iff_right different]
      constructor
      · exact fun same => congrArg (some ∘ some) same
      · exact fun same => Option.some.inj (Option.some.inj same)
  | destroy id ok found => exact iff_of_true (clean_destroy kept clean found) True.intro

theorem lifetimes_iff : Lifetimes state ↔ state.memory.faults = [] := by
  constructor
  · exact Lifetimes.noFault
  · intro clean
    constructor
    · exact clean
    · exact fun object made => accounted_once kept clean made
    · intro id gone
      exact (kept.matched clean).inside id none gone

end Steps

/-- In every program: all lifetimes are right at every moment if and only if no move
assignment turns a value into an error or an error into a value. -/
theorem lifetimes_iff_keeps_state (trail : List (Tagged Kind × Op)) (last : Tagged Kind)
    (path : Path step started trail last) :
    (∀ state ∈ visited trail last, Lifetimes state) ↔
      ∀ taken ∈ trail, keepsState taken.1 taken.2 := by
  apply path_property_iff_good (Kept expects) Lifetimes keepsState kept_started _ _ _ path
  · exact (lifetimes_iff kept_started).mpr rfl
  · intro state op after kept taken
    exact kept_move kept (move_of_step taken)
  · intro state op after kept good taken
    have move := move_of_step taken
    rw [lifetimes_iff (kept_move kept move)]
    exact clean_step_iff kept good.noFault move

/-- Values and errors are assigned to their like and to themselves. -/
def likeToLike : List Op :=
  [.construct true, .construct false, .moveConstruct 0, .moveConstruct 1, .moveAssign 0 2,
    .moveAssign 3 1, .moveAssign 2 2, .destroy 0, .destroy 1, .destroy 2, .destroy 3]

theorem lifetimes_like_to_like :
    ∃ last, exec step started likeToLike = some last ∧ Lifetimes last ∧
      last.memory.made = 6 ∧ last.memory.destroyed.length = 6 := by
  obtain ⟨last, executed, checked⟩ := exec_checked step started likeToLike
    (fun last => decide (last.memory.made = 6 ∧ last.memory.destroyed.length = 6)) (by decide)
  have path := path_of_exec executed
  refine ⟨last, executed, ?_, of_decide_eq_true checked⟩
  exact (lifetimes_iff_keeps_state _ last path).mpr (by decide) last (by simp [visited])

/-- An error is replaced by a value. -/
theorem state_change_breaks_lifetimes : ¬LifetimesLaw := by
  intro law
  obtain ⟨last, executed, checked⟩ := exec_checked step started
    [.construct false, .construct true, .moveAssign 0 1]
    (fun last => decide (last.memory.faults ≠ [])) (by decide)
  have good := law _ last (path_of_exec executed) last (by simp [visited])
  exact of_decide_eq_true checked good.noFault

end BackendComponents.Results.Result
