import BackendComponents.Lib.Threads

/-!
# Raw storage and the objects in it

Storage is a list of cells in which objects of some kind are constructed and destroyed by
hand. Objects are numbered in the order of their construction. Whatever the language leaves
undefined is recorded as a fault and changes nothing else: a destructor or a read of a kind
that is not in the cell, a construction over an object, and the end of a cell with an
object in it. As long as there is no fault, every object is in one cell or has been
destroyed once.
-/

namespace BackendComponents.Lib.Storage

open BackendComponents.Lib.Threads

set_option autoImplicit false

inductive Fault (Kind : Type*)
  | wrongDestructor (kind : Kind) (cell : Nat)
  | wrongRead (kind : Kind) (cell : Nat)
  | reused (cell : Nat)
  | leaked (cell : Nat)
  deriving DecidableEq, Repr

structure Memory (Kind : Type*) where
  cells : List (Option (Kind × Nat))
  made : Nat
  destroyed : List Nat
  faults : List (Fault Kind)
  deriving DecidableEq, Repr

variable {Kind : Type*}

namespace Memory

def empty : Memory Kind := ⟨[], 0, [], []⟩

def content (memory : Memory Kind) (cell : Nat) : Option (Kind × Nat) :=
  (memory.cells[cell]?).join

def kindAt (memory : Memory Kind) (cell : Nat) : Option Kind := (memory.content cell).map Prod.fst

def fail (memory : Memory Kind) (fault : Fault Kind) : Memory Kind :=
  { memory with faults := memory.faults ++ [fault] }

def allocate (memory : Memory Kind) : Memory Kind :=
  { memory with cells := memory.cells ++ [none] }

def construct (memory : Memory Kind) (kind : Kind) (cell : Nat) : Memory Kind :=
  let old := if (memory.content cell).isSome then memory.fail (.reused cell) else memory
  { old with cells := old.cells.set cell (some (kind, old.made)), made := old.made + 1 }

def deallocate (memory : Memory Kind) (cell : Nat) : Memory Kind :=
  if (memory.content cell).isSome then memory.fail (.leaked cell) else memory

variable [DecidableEq Kind]

def destroyAs (memory : Memory Kind) (kind : Kind) (cell : Nat) : Memory Kind :=
  match memory.content cell with
  | some (found, object) =>
      if found = kind then
        { memory with
          cells := memory.cells.set cell none, destroyed := memory.destroyed ++ [object] }
      else memory.fail (.wrongDestructor kind cell)
  | none => memory.fail (.wrongDestructor kind cell)

def readAs (memory : Memory Kind) (kind : Kind) (cell : Nat) : Memory Kind :=
  if memory.kindAt cell = some kind then memory else memory.fail (.wrongRead kind cell)

end Memory

section Contents

variable (memory : Memory Kind) (kind : Kind) (cell : Nat)

theorem kind_at_none_iff : memory.kindAt cell = none ↔ memory.content cell = none :=
  Option.map_eq_none_iff

theorem cell_of_content {found : Kind × Nat} (inside : memory.content cell = some found) :
    memory.cells[cell]? = some (some found) :=
  Option.join_eq_some_iff.mp inside

theorem cell_of_empty (bound : cell < memory.cells.length) (empty : memory.kindAt cell = none) :
    memory.cells[cell]? = some none := by
  have none := (kind_at_none_iff memory cell).mp empty
  unfold Memory.content at none
  rw [List.getElem?_eq_getElem bound] at none ⊢
  exact congrArg some none

theorem fail_ne (fault : Fault Kind) : (memory.fail fault).faults ≠ [] := by
  intro none
  exact List.cons_ne_nil _ _ (List.append_eq_nil_iff.mp none).2

@[simp] theorem length_allocate : memory.allocate.cells.length = memory.cells.length + 1 :=
  List.length_append

@[simp] theorem length_construct :
    (memory.construct kind cell).cells.length = memory.cells.length := by
  unfold Memory.construct
  dsimp only
  rw [List.length_set]
  split <;> rfl

@[simp] theorem kind_at_allocate_new : memory.allocate.kindAt memory.cells.length = none := by
  unfold Memory.kindAt Memory.content Memory.allocate
  rw [List.getElem?_concat_length]
  rfl

theorem kind_at_allocate {other : Nat} (old : other < memory.cells.length) :
    memory.allocate.kindAt other = memory.kindAt other := by
  unfold Memory.kindAt Memory.content Memory.allocate
  rw [List.getElem?_append_left old]

theorem construct_of_empty (empty : memory.kindAt cell = none) :
    memory.construct kind cell =
      { memory with
        cells := memory.cells.set cell (some (kind, memory.made)), made := memory.made + 1 } := by
  have none := (kind_at_none_iff memory cell).mp empty
  unfold Memory.construct
  rw [none, Option.isSome_none]
  rfl

theorem faults_construct_iff :
    (memory.construct kind cell).faults = [] ↔ memory.faults = [] ∧ memory.kindAt cell = none := by
  rw [kind_at_none_iff]
  unfold Memory.construct
  cases present : memory.content cell with
  | none => exact ⟨fun none => ⟨none, rfl⟩, And.left⟩
  | some found =>
      apply iff_of_false
      · exact fail_ne memory _
      · rintro ⟨_, impossible⟩
        cases impossible

theorem kind_at_construct (bound : cell < memory.cells.length) :
    (memory.construct kind cell).kindAt cell = some kind := by
  unfold Memory.construct Memory.kindAt
  dsimp only
  unfold Memory.content
  split <;> dsimp only [Memory.fail] <;> rw [List.getElem?_set_self bound] <;> rfl

theorem kind_at_construct_other {other : Nat} (different : other ≠ cell) :
    (memory.construct kind cell).kindAt other = memory.kindAt other := by
  unfold Memory.construct Memory.kindAt
  dsimp only
  unfold Memory.content
  split <;> dsimp only [Memory.fail] <;> rw [lookup_move_other different]

@[simp] theorem length_deallocate :
    (memory.deallocate cell).cells.length = memory.cells.length := by
  unfold Memory.deallocate
  split <;> rfl

theorem faults_deallocate_iff :
    (memory.deallocate cell).faults = [] ↔ memory.faults = [] ∧ memory.kindAt cell = none := by
  rw [kind_at_none_iff]
  unfold Memory.deallocate
  cases memory.content cell with
  | none => exact (and_iff_left rfl).symm
  | some found =>
      apply iff_of_false
      · exact fail_ne memory _
      · rintro ⟨_, impossible⟩
        cases impossible

@[simp] theorem kind_at_deallocate (other : Nat) :
    (memory.deallocate cell).kindAt other = memory.kindAt other := by
  unfold Memory.deallocate
  split <;> rfl

variable [DecidableEq Kind]

@[simp] theorem length_destroy :
    (memory.destroyAs kind cell).cells.length = memory.cells.length := by
  unfold Memory.destroyAs
  split
  · split
    · exact List.length_set
    · rfl
  · rfl

@[simp] theorem length_read : (memory.readAs kind cell).cells.length = memory.cells.length := by
  unfold Memory.readAs
  split <;> rfl

theorem destroy_of_kind (present : memory.kindAt cell = some kind) :
    ∃ object, memory.content cell = some (kind, object) ∧
      memory.destroyAs kind cell =
        { memory with
          cells := memory.cells.set cell none, destroyed := memory.destroyed ++ [object] } := by
  obtain ⟨⟨found, object⟩, inside, rfl⟩ := Option.map_eq_some_iff.mp present
  refine ⟨object, inside, ?_⟩
  unfold Memory.destroyAs
  rw [inside]
  exact if_pos rfl

theorem faults_destroy_iff :
    (memory.destroyAs kind cell).faults = [] ↔
      memory.faults = [] ∧ memory.kindAt cell = some kind := by
  by_cases present : memory.kindAt cell = some kind
  · obtain ⟨object, _, destroyed⟩ := destroy_of_kind memory kind cell present
    rw [destroyed]
    exact ⟨fun none => ⟨none, present⟩, And.left⟩
  · apply iff_of_false _ fun both => present both.2
    unfold Memory.destroyAs
    split
    · next found object inside =>
        split
        · next same =>
            apply absurd _ present
            unfold Memory.kindAt
            rw [inside, ← same]
            rfl
        · exact fail_ne memory _
    · exact fail_ne memory _

theorem kind_at_destroy (present : memory.kindAt cell = some kind) :
    (memory.destroyAs kind cell).kindAt cell = none := by
  obtain ⟨object, inside, destroyed⟩ := destroy_of_kind memory kind cell present
  rw [destroyed]
  unfold Memory.kindAt Memory.content
  dsimp only
  rw [lookup_move_self (cell_of_content memory cell inside)]
  rfl

theorem kind_at_destroy_other {other : Nat} (different : other ≠ cell) :
    (memory.destroyAs kind cell).kindAt other = memory.kindAt other := by
  unfold Memory.destroyAs
  split
  · split
    · unfold Memory.kindAt Memory.content
      dsimp only
      rw [lookup_move_other different]
    · rfl
  · rfl

theorem faults_read_iff :
    (memory.readAs kind cell).faults = [] ↔
      memory.faults = [] ∧ memory.kindAt cell = some kind := by
  unfold Memory.readAs
  split
  · next present => exact (and_iff_left present).symm
  · next absent =>
      exact iff_of_false (fail_ne memory _) fun both => absent both.2

@[simp] theorem kind_at_read (other : Nat) :
    (memory.readAs kind cell).kindAt other = memory.kindAt other := by
  unfold Memory.readAs
  split <;> rfl

end Contents

/-! ## Every object is in one cell or destroyed once -/

section Lifetimes

def alive (memory : Memory Kind) (object : Nat) : Nat :=
  memory.cells.countP fun cell => decide (cell.map Prod.snd = some object)

def Sound (memory : Memory Kind) : Prop :=
  ∀ object, alive memory object + memory.destroyed.count object =
    indicator (decide (object < memory.made))

/-- The invariant of all runs. -/
def Healthy (memory : Memory Kind) : Prop := memory.faults = [] → Sound memory

variable {memory : Memory Kind}

theorem healthy_empty : Healthy (Memory.empty : Memory Kind) := by
  intro _ object
  rfl

theorem alive_set {cell : Nat} {content : Option (Kind × Nat)}
    (found : memory.cells[cell]? = some content) (after : Option (Kind × Nat)) (object : Nat) :
    (memory.cells.set cell after).countP
        (fun cell => decide (cell.map Prod.snd = some object)) +
        indicator (decide (content.map Prod.snd = some object)) =
      alive memory object + indicator (decide (after.map Prod.snd = some object)) :=
  countP_move (fun cell : Option (Kind × Nat) => decide (cell.map Prod.snd = some object)) found

theorem healthy_allocate (healthy : Healthy memory) : Healthy memory.allocate := by
  intro clean object
  have sound := healthy clean object
  have same : alive memory.allocate object = alive memory object := by
    unfold alive Memory.allocate
    dsimp only
    rw [List.countP_append]
    rfl
  rw [same]
  exact sound

theorem healthy_construct (healthy : Healthy memory) (kind : Kind) {cell : Nat}
    (bound : cell < memory.cells.length) : Healthy (memory.construct kind cell) := by
  intro clean object
  obtain ⟨before, empty⟩ := (faults_construct_iff memory kind cell).mp clean
  have counted := alive_set (cell_of_empty memory cell bound empty)
    (some (kind, memory.made)) object
  have sound := healthy before object
  have nothing : indicator (decide ((none : Option (Kind × Nat)).map Prod.snd = some object)) = 0 :=
    rfl
  have new : indicator (decide ((some (kind, memory.made)).map Prod.snd = some object)) +
      indicator (decide (object < memory.made)) =
        indicator (decide (object < memory.made + 1)) := by
    simp only [Option.map_some, Option.some.injEq]
    rcases Nat.lt_trichotomy object memory.made with below | rfl | above
    · have different : memory.made ≠ object := by omega
      have next : object < memory.made + 1 := by omega
      simp [below, different, next]
    · simp
    · have different : memory.made ≠ object := by omega
      have notYet : ¬object < memory.made := by omega
      have notNext : ¬object < memory.made + 1 := by omega
      simp [different, notYet, notNext]
  rw [construct_of_empty memory kind cell empty]
  have whole : alive { memory with
      cells := memory.cells.set cell (some (kind, memory.made)), made := memory.made + 1 } object =
    (memory.cells.set cell (some (kind, memory.made))).countP
      (fun cell => decide (cell.map Prod.snd = some object)) := rfl
  rw [whole]
  dsimp only
  omega

theorem healthy_deallocate (healthy : Healthy memory) (cell : Nat) :
    Healthy (memory.deallocate cell) := by
  intro clean
  obtain ⟨before, empty⟩ := (faults_deallocate_iff memory cell).mp clean
  have none := (kind_at_none_iff memory cell).mp empty
  have same : memory.deallocate cell = memory := by
    unfold Memory.deallocate
    rw [none]
    rfl
  rw [same]
  exact healthy before

variable [DecidableEq Kind]

theorem healthy_destroy (healthy : Healthy memory) (kind : Kind) (cell : Nat) :
    Healthy (memory.destroyAs kind cell) := by
  intro clean other
  obtain ⟨before, present⟩ := (faults_destroy_iff memory kind cell).mp clean
  obtain ⟨object, inside, destroyed⟩ := destroy_of_kind memory kind cell present
  have counted := alive_set (cell_of_content memory cell inside) none other
  have sound := healthy before other
  have gone : (memory.destroyed ++ [object]).count other = memory.destroyed.count other +
      indicator (decide ((some (kind, object)).map Prod.snd = some other)) := by
    rw [List.count_append, List.count_singleton]
    simp only [Option.map_some, Option.some.injEq]
    unfold indicator
    by_cases same : object = other <;> simp [same]
  have nothing : indicator (decide ((none : Option (Kind × Nat)).map Prod.snd = some other)) = 0 :=
    rfl
  rw [destroyed]
  have whole : alive { memory with
      cells := memory.cells.set cell none, destroyed := memory.destroyed ++ [object] } other =
    (memory.cells.set cell none).countP
      (fun cell => decide (cell.map Prod.snd = some other)) := rfl
  rw [whole]
  dsimp only
  omega

theorem healthy_read (healthy : Healthy memory) (kind : Kind) (cell : Nat) :
    Healthy (memory.readAs kind cell) := by
  intro clean
  obtain ⟨before, present⟩ := (faults_read_iff memory kind cell).mp clean
  have same : memory.readAs kind cell = memory := if_pos present
  rw [same]
  exact healthy before

end Lifetimes

/-! ## Tagged objects -/

section Tagged

/-- Objects with a tag and a cell each; the tag of one that has ended is gone. -/
structure Tagged (Kind : Type*) where
  memory : Memory Kind
  tags : List (Option Bool)
  deriving DecidableEq, Repr

/-- Every cell has in it what the tag says. -/
structure Matched (expects : Bool → Option Kind) (state : Tagged Kind) : Prop where
  cells : state.memory.cells.length = state.tags.length
  inside : ∀ (place : Nat) (slot : Option Bool), state.tags[place]? = some slot →
    state.memory.kindAt place = slot.bind expects

/-- The invariant of all runs: without a fault the tags are right. -/
structure Kept (expects : Bool → Option Kind) (state : Tagged Kind) : Prop where
  healthy : Healthy state.memory
  cells : state.memory.cells.length = state.tags.length
  matched : state.memory.faults = [] → Matched expects state

variable {expects : Bool → Option Kind} {state : Tagged Kind}

theorem kept_started : Kept expects ⟨Memory.empty, []⟩ := by
  constructor
  · exact healthy_empty
  · rfl
  · intro _
    constructor
    · rfl
    · intro place slot impossible
      cases impossible

theorem accounted_once (kept : Kept expects state) (clean : state.memory.faults = [])
    {object : Nat} (made : object < state.memory.made) :
    alive state.memory object + state.memory.destroyed.count object = 1 := by
  rw [kept.healthy clean object, decide_eq_true made]
  rfl

theorem matched_new {memory : Memory Kind} {tag : Bool} (matched : Matched expects state)
    (cells : memory.cells.length = state.memory.cells.length + 1)
    (old : ∀ place, place < state.memory.cells.length →
      memory.kindAt place = state.memory.kindAt place)
    (new : memory.kindAt state.memory.cells.length = expects tag) :
    Matched expects ⟨memory, state.tags ++ [some tag]⟩ := by
  constructor
  · rw [cells, matched.cells, List.length_append]
    rfl
  · intro place slot present
    rcases lookup_append present with earlier | ⟨rfl, rfl⟩
    · rw [old place (by rw [matched.cells]; exact lookup_bound earlier)]
      exact matched.inside place slot earlier
    · rw [← matched.cells, new]
      rfl

theorem matched_set {memory : Memory Kind} {id : Nat} {slot : Option Bool}
    (matched : Matched expects state) (cells : memory.cells.length = state.memory.cells.length)
    (others : ∀ other, other ≠ id → memory.kindAt other = state.memory.kindAt other)
    (self : memory.kindAt id = slot.bind expects) :
    Matched expects ⟨memory, state.tags.set id slot⟩ := by
  constructor
  · rw [cells, matched.cells, List.length_set]
  · intro place seen present
    rcases lookup_move present with ⟨rfl, rfl⟩ | ⟨different, old⟩
    · exact self
    · rw [others place different]
      exact matched.inside place seen old

theorem cell_bound (kept : Kept expects state) {id : Nat} {slot : Option Bool}
    (found : state.tags[id]? = some slot) : id < state.memory.cells.length := by
  rw [kept.cells]
  exact lookup_bound found

/-- A memory in which the objects of `state` are what they were, with `added` more cells. -/
structure Prepared (state : Tagged Kind) (memory : Memory Kind) (added : Nat) : Prop where
  healthy : Healthy memory
  cells : memory.cells.length = state.memory.cells.length + added
  clean : memory.faults = [] → state.memory.faults = []

theorem kept_new (kept : Kept expects state) {memory : Memory Kind}
    (prepared : Prepared state memory 1) {kind : Kind} {tag : Bool}
    (old : ∀ place, place < state.memory.cells.length →
      memory.kindAt place = state.memory.kindAt place)
    (expected : memory.faults = [] → expects tag = some kind) :
    Kept expects ⟨memory.construct kind state.memory.cells.length, state.tags ++ [some tag]⟩ := by
  have bound : state.memory.cells.length < memory.cells.length := by
    rw [prepared.cells]
    exact Nat.lt_succ_self _
  constructor
  · exact healthy_construct prepared.healthy kind bound
  · rw [length_construct, prepared.cells, kept.cells]
    exact (List.length_append : (state.tags ++ [some tag]).length = _).symm
  · intro still
    have clean := ((faults_construct_iff _ _ _).mp still).1
    apply matched_new (kept.matched (prepared.clean clean))
    · rw [length_construct, prepared.cells]
    · intro place earlier
      rw [kind_at_construct_other _ _ _ (Nat.ne_of_lt earlier), old place earlier]
    · rw [kind_at_construct _ _ _ bound, expected clean]

theorem kept_replace (kept : Kept expects state) {memory : Memory Kind}
    (prepared : Prepared state memory 0) {kind : Kind} {tag : Bool} {id : Nat}
    {slot : Option Bool} (found : state.tags[id]? = some slot)
    (others : ∀ other, other ≠ id → memory.kindAt other = state.memory.kindAt other)
    (expected : memory.faults = [] → expects tag = some kind) :
    Kept expects ⟨memory.construct kind id, state.tags.set id (some tag)⟩ := by
  have bound : id < memory.cells.length := by
    rw [prepared.cells]
    exact cell_bound kept found
  constructor
  · exact healthy_construct prepared.healthy kind bound
  · rw [length_construct, prepared.cells, kept.cells]
    exact (List.length_set : (state.tags.set id (some tag)).length = _).symm
  · intro still
    have clean := ((faults_construct_iff _ _ _).mp still).1
    apply matched_set (kept.matched (prepared.clean clean))
    · rw [length_construct, prepared.cells]
      rfl
    · intro other different
      rw [kind_at_construct_other _ _ _ different, others other different]
    · rw [kind_at_construct _ _ _ bound]
      exact (expected clean).symm

theorem kept_end (kept : Kept expects state) {memory : Memory Kind}
    (prepared : Prepared state memory 0) (id : Nat)
    (others : ∀ other, other ≠ id → memory.kindAt other = state.memory.kindAt other) :
    Kept expects ⟨memory.deallocate id, state.tags.set id none⟩ := by
  constructor
  · exact healthy_deallocate prepared.healthy id
  · rw [length_deallocate, prepared.cells, kept.cells]
    exact (List.length_set : (state.tags.set id none).length = _).symm
  · intro still
    obtain ⟨clean, empty⟩ := (faults_deallocate_iff _ _).mp still
    apply matched_set (kept.matched (prepared.clean clean))
    · rw [length_deallocate, prepared.cells]
      rfl
    · intro other different
      rw [kind_at_deallocate, others other different]
    · rw [kind_at_deallocate, empty]
      rfl

theorem prepared_allocate (kept : Kept expects state) : Prepared state state.memory.allocate 1 where
  healthy := healthy_allocate kept.healthy
  cells := length_allocate state.memory
  clean := id

theorem prepared_same (kept : Kept expects state) : Prepared state state.memory 0 where
  healthy := kept.healthy
  cells := rfl
  clean := id

theorem prepared_read [DecidableEq Kind] {memory : Memory Kind} {added : Nat}
    (prepared : Prepared state memory added) (kind : Kind) (cell : Nat) :
    Prepared state (memory.readAs kind cell) added where
  healthy := healthy_read prepared.healthy kind cell
  cells := (length_read memory kind cell).trans prepared.cells
  clean := fun still => prepared.clean ((faults_read_iff _ _ _).mp still).1

theorem prepared_destroy [DecidableEq Kind] {memory : Memory Kind} {added : Nat}
    (prepared : Prepared state memory added) (kind : Kind) (cell : Nat) :
    Prepared state (memory.destroyAs kind cell) added where
  healthy := healthy_destroy prepared.healthy kind cell
  cells := (length_destroy memory kind cell).trans prepared.cells
  clean := fun still => prepared.clean ((faults_destroy_iff _ _ _).mp still).1

end Tagged

end BackendComponents.Lib.Storage
