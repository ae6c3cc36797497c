import BackendComponents.Lib.Paths
import BackendComponents.Lib.Storage

/-!
# Lifetimes in `Result<void, E>`

The specialisation without a value has an `E` in its storage or nothing. Both of its move
operations take an `E` out of the storage of the source and construct one in their own
whatever the two tags are, so that they are right for errors only.
-/

namespace BackendComponents.Results.VoidResult

open BackendComponents.Lib.Paths
open BackendComponents.Lib.Storage
open BackendComponents.Lib.Threads

set_option autoImplicit false

inductive Kind
  | error
  deriving DecidableEq, Repr

/-- `elided` is whether the compiler builds the local variable of `OK` in the result. -/
inductive Op
  | default
  | fromError
  | OK (elided : Bool)
  | moveConstruct (source : Nat)
  | moveAssign (target source : Nat)
  | destroy (id : Nat)
  deriving DecidableEq, Repr

def constructDefault (state : Tagged Kind) : Tagged Kind where
  memory := state.memory.allocate
  tags := state.tags ++ [some true]

def fromError (state : Tagged Kind) : Tagged Kind where
  memory := state.memory.allocate.construct .error state.memory.cells.length
  tags := state.tags ++ [some false]

/-- `ok` is the tag of the source, and is not looked at before the `E` is moved. -/
def moveConstruct (ok : Bool) (source : Nat) (state : Tagged Kind) : Tagged Kind where
  memory := (state.memory.allocate.readAs .error source).construct .error
    state.memory.cells.length
  tags := state.tags ++ [some ok]

def moveAssign (ok : Bool) (target source : Nat) (state : Tagged Kind) : Tagged Kind where
  memory := (state.memory.readAs .error source).construct .error target
  tags := state.tags.set target (some ok)

def destroy (ok : Bool) (id : Nat) (state : Tagged Kind) : Tagged Kind where
  memory := (if ok then state.memory else state.memory.destroyAs .error id).deallocate id
  tags := state.tags.set id none

/-- `OK` sets the tag of its local variable to what it is already. Without elision the
result is move constructed from the variable, which is then destroyed. -/
def OK (elided : Bool) (state : Tagged Kind) : Tagged Kind :=
  if elided then constructDefault state
  else destroy true state.tags.length (moveConstruct true state.tags.length (constructDefault state))

def step (state : Tagged Kind) : Op → Option (Tagged Kind)
  | .default => some (constructDefault state)
  | .fromError => some (fromError state)
  | .OK elided => some (OK elided state)
  | .moveConstruct source =>
      match state.tags[source]? with
      | some (some ok) => some (moveConstruct ok source state)
      | _ => none
  | .moveAssign target source =>
      match state.tags[target]?, state.tags[source]? with
      | some (some _), some (some ok) =>
          some (if target = source then state else moveAssign ok target source state)
      | _, _ => none
  | .destroy id =>
      match state.tags[id]? with
      | some (some ok) => some (destroy ok id state)
      | _ => none

def started : Tagged Kind := ⟨Memory.empty, []⟩

/-- Every object is destroyed once, and the storage of a `Result` has an error exactly if its
tag says so. An error that has been moved from is still one. -/
structure Lifetimes (state : Tagged Kind) : Prop where
  noFault : state.memory.faults = []
  once : ∀ object, object < state.memory.made →
    alive state.memory object + state.memory.destroyed.count object = 1
  errors : ∀ (id : Nat) (ok : Bool), state.tags[id]? = some (some ok) →
    (state.memory.kindAt id = some .error ↔ ok = false)
  ended : ∀ id : Nat, state.tags[id]? = some none → state.memory.kindAt id = none

def LifetimesLaw : Prop :=
  ∀ (trail : List (Tagged Kind × Op)) (last : Tagged Kind), Path step started trail last →
    ∀ state ∈ visited trail last, Lifetimes state

/-- Only errors are moved, an assigned one to a target without an error, and `OK` does not
move at all. -/
def movesErrors (state : Tagged Kind) : Op → Prop
  | .moveConstruct source => state.tags[source]? = some (some false)
  | .moveAssign target source => target = source ∨
      state.tags[target]? = some (some true) ∧ state.tags[source]? = some (some false)
  | .OK elided => elided = true
  | .default | .fromError | .destroy _ => True

instance (state : Tagged Kind) : (op : Op) → Decidable (movesErrors state op)
  | .moveConstruct source => inferInstanceAs (Decidable (state.tags[source]? = some (some false)))
  | .moveAssign _ _ => instDecidableOr
  | .OK elided => inferInstanceAs (Decidable (elided = true))
  | .default | .fromError | .destroy _ => isTrue True.intro

def expects (ok : Bool) : Option Kind := if ok then none else some .error

inductive Move (state : Tagged Kind) : Op → Tagged Kind → Prop
  | default : Move state .default (constructDefault state)
  | fromError : Move state .fromError (fromError state)
  | OK (elided : Bool) : Move state (.OK elided) (OK elided state)
  | moveConstruct (source : Nat) (ok : Bool) (found : state.tags[source]? = some (some ok)) :
      Move state (.moveConstruct source) (moveConstruct ok source state)
  | selfAssign (id : Nat) (ok : Bool) (found : state.tags[id]? = some (some ok)) :
      Move state (.moveAssign id id) state
  | moveAssign (target source : Nat) (was ok : Bool)
      (found : state.tags[target]? = some (some was))
      (present : state.tags[source]? = some (some ok)) (different : target ≠ source) :
      Move state (.moveAssign target source) (moveAssign ok target source state)
  | destroy (id : Nat) (ok : Bool) (found : state.tags[id]? = some (some ok)) :
      Move state (.destroy id) (destroy ok id state)

theorem move_of_step {state after : Tagged Kind} {op : Op} (taken : step state op = some after) :
    Move state op after := by
  cases op with
  | default =>
      obtain rfl := Option.some.inj taken
      exact .default
  | fromError =>
      obtain rfl := Option.some.inj taken
      exact .fromError
  | OK elided =>
      obtain rfl := Option.some.inj taken
      exact .OK elided
  | moveConstruct source =>
      dsimp only [step] at taken
      split at taken
      · next ok found =>
          obtain rfl := Option.some.inj taken
          exact .moveConstruct source ok found
      · cases taken
  | moveAssign target source =>
      dsimp only [step] at taken
      split at taken
      · next was ok found present =>
          obtain rfl := Option.some.inj taken
          split
          · next same =>
              subst same
              exact .selfAssign target was found
          · next different => exact .moveAssign target source was ok found present different
      · cases taken
  | destroy id =>
      dsimp only [step] at taken
      split at taken
      · next ok found =>
          obtain rfl := Option.some.inj taken
          exact .destroy id ok found
      · cases taken

theorem kind_at_object {state : Tagged Kind} (kept : Kept expects state)
    (clean : state.memory.faults = []) {id : Nat} {ok : Bool}
    (found : state.tags[id]? = some (some ok)) : state.memory.kindAt id = expects ok :=
  (kept.matched clean).inside id (some ok) found

theorem expects_error_iff {ok : Bool} : expects ok = some .error ↔ ok = false := by
  cases ok with
  | true =>
      apply iff_of_false
      · exact fun impossible => nomatch impossible
      · exact Bool.noConfusion
  | false => exact iff_of_true rfl rfl

theorem expects_nothing_iff {ok : Bool} : expects ok = none ↔ ok = true := by
  cases ok with
  | true => exact iff_of_true rfl rfl
  | false =>
      apply iff_of_false
      · exact fun impossible => nomatch impossible
      · exact Bool.false_ne_true

theorem default_found (state : Tagged Kind) :
    (constructDefault state).tags[state.tags.length]? = some (some true) :=
  List.getElem?_concat_length

section Invariant

variable {state : Tagged Kind} (kept : Kept expects state)

include kept

theorem kept_default : Kept expects (constructDefault state) := by
  constructor
  · exact healthy_allocate kept.healthy
  · unfold constructDefault
    rw [length_allocate, kept.cells]
    exact (List.length_append : (state.tags ++ [some true]).length = _).symm
  · intro clean
    apply matched_new (kept.matched clean) (length_allocate _)
    · exact fun _ => kind_at_allocate _
    · exact kind_at_allocate_new _

theorem kept_from_error : Kept expects (fromError state) :=
  kept_new kept (prepared_allocate kept) (fun _ => kind_at_allocate _) fun _ => rfl

theorem kept_move_construct {ok : Bool} {source : Nat}
    (found : state.tags[source]? = some (some ok)) :
    Kept expects (moveConstruct ok source state) := by
  apply kept_new kept (prepared_read (prepared_allocate kept) .error source)
  · intro place old
    rw [kind_at_read]
    exact kind_at_allocate _ old
  · intro still
    obtain ⟨clean, read⟩ := (faults_read_iff _ _ _).mp still
    rw [kind_at_allocate _ (cell_bound kept found), kind_at_object kept clean found] at read
    exact read

theorem kept_move_assign {target source : Nat} {was ok : Bool}
    (found : state.tags[target]? = some (some was))
    (present : state.tags[source]? = some (some ok)) :
    Kept expects (moveAssign ok target source state) := by
  apply kept_replace kept (prepared_read (prepared_same kept) .error source) found
  · intro other _
    exact kind_at_read _ _ _ other
  · intro still
    obtain ⟨clean, read⟩ := (faults_read_iff _ _ _).mp still
    rw [kind_at_object kept clean present] at read
    exact read

theorem kept_destroy (ok : Bool) (id : Nat) : Kept expects (destroy ok id state) := by
  cases ok with
  | true => exact kept_end kept (prepared_same kept) id fun _ _ => rfl
  | false =>
      apply kept_end kept (prepared_destroy (prepared_same kept) .error id)
      exact fun other different => kind_at_destroy_other _ _ _ different

theorem kept_OK (elided : Bool) : Kept expects (OK elided state) := by
  unfold OK
  split
  · exact kept_default kept
  · apply kept_destroy
    exact kept_move_construct (kept_default kept) (default_found state)

theorem kept_move {after : Tagged Kind} {op : Op} (move : Move state op after) :
    Kept expects after := by
  cases move with
  | default => exact kept_default kept
  | fromError => exact kept_from_error kept
  | OK elided => exact kept_OK kept elided
  | moveConstruct source ok found => exact kept_move_construct kept found
  | selfAssign id ok found => exact kept
  | moveAssign target source was ok found present different =>
      exact kept_move_assign kept found present
  | destroy id ok found => exact kept_destroy kept ok id

end Invariant

section Steps

variable {state : Tagged Kind} (kept : Kept expects state) (clean : state.memory.faults = [])

include kept clean

theorem clean_move_construct_iff {ok : Bool} {source : Nat}
    (found : state.tags[source]? = some (some ok)) :
    (moveConstruct ok source state).memory.faults = [] ↔ ok = false := by
  have inside : state.memory.allocate.kindAt source = expects ok := by
    rw [kind_at_allocate _ (cell_bound kept found)]
    exact kind_at_object kept clean found
  have new : (state.memory.allocate.readAs .error source).kindAt state.memory.cells.length =
      none := by
    rw [kind_at_read]
    exact kind_at_allocate_new _
  have before : state.memory.allocate.faults = [] := clean
  unfold moveConstruct
  rw [faults_construct_iff, and_iff_left new, faults_read_iff, and_iff_right before, inside,
    expects_error_iff]

theorem clean_move_assign_iff {target source : Nat} {was ok : Bool}
    (found : state.tags[target]? = some (some was))
    (present : state.tags[source]? = some (some ok)) :
    (moveAssign ok target source state).memory.faults = [] ↔ was = true ∧ ok = false := by
  unfold moveAssign
  rw [faults_construct_iff, faults_read_iff, and_iff_right clean, kind_at_read,
    kind_at_object kept clean found, kind_at_object kept clean present, expects_error_iff,
    expects_nothing_iff, and_comm]

theorem clean_destroy {id : Nat} {ok : Bool} (found : state.tags[id]? = some (some ok)) :
    (destroy ok id state).memory.faults = [] := by
  have inside := kind_at_object kept clean found
  cases ok with
  | true => exact (faults_deallocate_iff _ _).mpr ⟨clean, inside⟩
  | false =>
      apply (faults_deallocate_iff _ _).mpr
      exact ⟨(faults_destroy_iff _ _ _).mpr ⟨clean, inside⟩, kind_at_destroy _ _ _ inside⟩

theorem clean_OK_iff (elided : Bool) : (OK elided state).memory.faults = [] ↔ elided = true := by
  cases elided with
  | true => exact iff_of_true clean rfl
  | false =>
      apply iff_of_false _ Bool.false_ne_true
      intro still
      have moved := ((faults_deallocate_iff _ _).mp still).1
      have found := default_found state
      cases (clean_move_construct_iff (kept_default kept) clean found).mp moved

theorem clean_step_iff {after : Tagged Kind} {op : Op} (move : Move state op after) :
    after.memory.faults = [] ↔ movesErrors state op := by
  cases move with
  | default => exact iff_of_true clean True.intro
  | fromError =>
      apply iff_of_true _ True.intro
      exact (faults_construct_iff _ _ _).mpr ⟨clean, kind_at_allocate_new _⟩
  | OK elided => exact clean_OK_iff kept clean elided
  | moveConstruct source ok found =>
      rw [clean_move_construct_iff kept clean found]
      unfold movesErrors
      dsimp only
      rw [found, Option.some_inj, Option.some_inj]
  | selfAssign id ok found => exact iff_of_true clean (Or.inl rfl)
  | moveAssign target source was ok found present different =>
      rw [clean_move_assign_iff kept clean found present]
      unfold movesErrors
      dsimp only
      rw [found, present, or_iff_right different, Option.some_inj, Option.some_inj,
        Option.some_inj, Option.some_inj]
  | destroy id ok found => exact iff_of_true (clean_destroy kept clean found) True.intro

end Steps

theorem lifetimes_iff {state : Tagged Kind} (kept : Kept expects state) :
    Lifetimes state ↔ state.memory.faults = [] := by
  constructor
  · exact Lifetimes.noFault
  · intro clean
    constructor
    · exact clean
    · exact fun object made => accounted_once kept clean made
    · intro id ok found
      rw [kind_at_object kept clean found]
      exact expects_error_iff
    · intro id gone
      exact (kept.matched clean).inside id none gone

/-- In every program: all lifetimes are right at every moment if and only if only errors are
moved, never one over another, and every call of `OK` is elided. -/
theorem lifetimes_iff_moves_errors (trail : List (Tagged Kind × Op)) (last : Tagged Kind)
    (path : Path step started trail last) :
    (∀ state ∈ visited trail last, Lifetimes state) ↔
      ∀ taken ∈ trail, movesErrors taken.1 taken.2 := by
  apply path_property_iff_good (Kept expects) Lifetimes movesErrors kept_started _ _ _ path
  · exact (lifetimes_iff kept_started).mpr rfl
  · intro state op after kept taken
    exact kept_move kept (move_of_step taken)
  · intro state op after kept good taken
    have move := move_of_step taken
    rw [lifetimes_iff (kept_move kept move)]
    exact clean_step_iff kept good.noFault move

def errorsHandedOn : List Op :=
  [.fromError, .OK true, .default, .moveConstruct 0, .moveAssign 1 3, .moveAssign 1 1,
    .destroy 0, .destroy 1, .destroy 2, .destroy 3]

theorem lifetimes_errors_handed_on :
    ∃ last, exec step started errorsHandedOn = some last ∧ Lifetimes last ∧
      last.memory.made = 3 ∧ last.memory.destroyed.length = 3 := by
  obtain ⟨last, executed, checked⟩ := exec_checked step started errorsHandedOn
    (fun last => decide (last.memory.made = 3 ∧ last.memory.destroyed.length = 3)) (by decide)
  have path := path_of_exec executed
  refine ⟨last, executed, ?_, of_decide_eq_true checked⟩
  exact (lifetimes_iff_moves_errors _ last path).mpr (by decide) last (by simp [visited])

/-- A success is moved into a new object. -/
theorem moving_success_reads_nothing : ¬LifetimesLaw := by
  intro law
  obtain ⟨last, executed, checked⟩ := exec_checked step started [.default, .moveConstruct 0]
    (fun last => decide (last.memory.faults ≠ [])) (by decide)
  have good := law _ last (path_of_exec executed) last (by simp [visited])
  exact of_decide_eq_true checked good.noFault

end BackendComponents.Results.VoidResult
