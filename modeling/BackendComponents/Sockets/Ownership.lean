import BackendComponents.Sockets.Model
import Mathlib.Data.List.Perm.Basic

/-!
# Who holds a descriptor

Every number in use is held by one communicator, every communicator that holds a number
holds the descriptor it was given for it, and `close` is called once for each.
-/

namespace BackendComponents.Sockets.Ownership

open BackendComponents.Lib.Paths
open BackendComponents.Lib.Threads
open BackendComponents.Lib.Ownership
open BackendComponents.Sockets.Model

set_option autoImplicit false

def held (self : Communicator) : Option Descriptor :=
  if 0 ≤ self.fd then some (self.fd, self.origin) else none

/-- Open exactly with a strategy. -/
def Valid (self : Communicator) : Prop := 0 ≤ self.fd ↔ self.strategy.isSome = true

/-- What linear ownership means in one state. A descriptor is named by its place in the
kernel's count. -/
structure LinearlyOwned (state : State) : Prop where
  owned : ∀ descriptor ∈ state.kernel.inUse,
    ∃! id : Nat, ∃ self, object state id = some self ∧ held self = some descriptor
  issued : ∀ place, place < state.kernel.issued →
    (place ∈ state.kernel.closed ∧ ∀ number, (number, place) ∉ state.kernel.inUse) ∨
      (place ∉ state.kernel.closed ∧ ∃! number, (number, place) ∈ state.kernel.inUse)
  closedOnce : state.kernel.closed.Nodup
  noFault : state.kernel.faults = []
  valid : ∀ id self, object state id = some self → Valid self

/-- The kernel's side: numbers in use are distinct, and the places of those in use and
those closed are all that have been issued. -/
structure Sound (kernel : Kernel) : Prop where
  distinct : (kernel.inUse.map Prod.fst).Nodup
  numbers : ∀ descriptor ∈ kernel.inUse, 0 ≤ descriptor.1
  places : (kernel.inUse.map Prod.snd ++ kernel.closed).Perm (List.range kernel.issued)
  noFault : kernel.faults = []

def useCount (kernel : Kernel) (descriptor : Descriptor) : Nat :=
  indicator (kernel.inUse.contains descriptor)

/-- The invariant: who holds what agrees with what is in use. -/
structure Owned (state : State) : Prop where
  sound : Sound state.kernel
  counted : ∀ descriptor, holders held state.objects descriptor = useCount state.kernel descriptor
  valid : ∀ self, some self ∈ state.objects → Valid self

theorem sound_issue {kernel : Kernel} {number : Int} (sound : Sound kernel)
    (fresh : kernel.fresh number = true) : Sound (kernel.issue number) := by
  obtain ⟨positive, unused⟩ := of_decide_eq_true fresh
  unfold Kernel.issue
  constructor
  · rw [List.map_append, List.nodup_append]
    refine ⟨sound.distinct, by simp, ?_⟩
    intro used member other added equal
    obtain rfl : other = number := by simpa using added
    rw [equal] at member
    exact unused member
  · intro descriptor member
    rcases List.mem_append.mp member with earlier | added
    · exact sound.numbers descriptor earlier
    · rw [List.mem_singleton.mp added]
      exact positive
  · dsimp only
    rw [List.map_append, List.range_succ, List.append_assoc]
    have swapped : ((List.map Prod.snd [(number, kernel.issued)]) ++ kernel.closed).Perm
        (kernel.closed ++ [kernel.issued]) := List.perm_append_comm
    have shifted := swapped.append_left (kernel.inUse.map Prod.snd)
    rw [← List.append_assoc (kernel.inUse.map Prod.snd) kernel.closed] at shifted
    exact shifted.trans (sound.places.append_right [kernel.issued])
  · exact sound.noFault

theorem check_member {kernel : Kernel} {descriptor : Descriptor}
    (member : descriptor ∈ kernel.inUse) : kernel.check descriptor = kernel :=
  if_pos member

theorem free_perm {used : List Descriptor} (distinct : (used.map Prod.fst).Nodup)
    {descriptor : Descriptor} (member : descriptor ∈ used) :
    used.Perm (descriptor :: used.filter fun other => decide (other.1 ≠ descriptor.1)) := by
  induction used with
  | nil => cases member
  | cons first rest ih =>
      obtain ⟨apart, later⟩ := List.nodup_cons.mp distinct
      rcases List.mem_cons.mp member with rfl | inside
      · have kept : rest.filter (fun other => decide (other.1 ≠ descriptor.1)) = rest := by
          apply List.filter_eq_self.mpr
          intro other found
          apply decide_eq_true
          intro equal
          apply apart
          rw [← equal]
          exact List.mem_map_of_mem found
        rw [List.filter_cons_of_neg (by simp), kept]
      · have different : first.1 ≠ descriptor.1 := by
          intro equal
          apply apart
          rw [equal]
          exact List.mem_map_of_mem inside
        rw [List.filter_cons_of_pos (by simpa using different)]
        exact ((ih later inside).cons first).trans (List.Perm.swap _ _ _)

theorem mem_close_iff {kernel : Kernel} (sound : Sound kernel) {descriptor : Descriptor}
    (member : descriptor ∈ kernel.inUse) (other : Descriptor) :
    other ∈ (kernel.close descriptor).inUse ↔ other ∈ kernel.inUse ∧ other ≠ descriptor := by
  unfold Kernel.close
  rw [check_member member]
  dsimp only
  rw [List.mem_filter]
  constructor
  · rintro ⟨used, different⟩
    refine ⟨used, ?_⟩
    rintro rfl
    exact of_decide_eq_true different rfl
  · rintro ⟨used, different⟩
    refine ⟨used, ?_⟩
    apply decide_eq_true
    intro equal
    exact different (List.inj_on_of_nodup_map sound.distinct used member equal)

theorem sound_close {kernel : Kernel} (sound : Sound kernel) {descriptor : Descriptor}
    (member : descriptor ∈ kernel.inUse) : Sound (kernel.close descriptor) := by
  have perm := free_perm sound.distinct member
  unfold Kernel.close
  rw [check_member member]
  dsimp only
  constructor
  · exact sound.distinct.sublist (List.filter_sublist.map Prod.fst)
  · intro other used
    exact sound.numbers other (List.mem_of_mem_filter used)
  · dsimp only
    apply List.Perm.trans _ sound.places
    have moved := (perm.map Prod.snd).append_right kernel.closed
    apply List.Perm.trans _ moved.symm
    rw [List.map_cons, List.cons_append, ← List.append_assoc]
    exact List.perm_append_comm
  · exact sound.noFault

theorem object_iff {state : State} {id : Nat} {self : Communicator} :
    object state id = some self ↔ state.objects[id]? = some (some self) := by
  unfold object
  exact Option.join_eq_some_iff

theorem held_of_valid {self : Communicator} (opened : 0 ≤ self.fd) :
    held self = some (self.fd, self.origin) :=
  if_pos opened

theorem held_of_closed {self : Communicator} (closed : self.fd < 0) : held self = none :=
  if_neg (by omega)

theorem holds_none {self : Communicator} (empty : held self = none) (descriptor : Descriptor) :
    holds held descriptor (some self) = false := by
  simp [holds, empty]

theorem holds_self {self : Communicator} (opened : 0 ≤ self.fd) (descriptor : Descriptor) :
    holds held descriptor (some self) = decide (descriptor = (self.fd, self.origin)) := by
  simp [holds, held_of_valid opened, eq_comm]

theorem use_count_in {kernel : Kernel} {descriptor : Descriptor}
    (member : descriptor ∈ kernel.inUse) : useCount kernel descriptor = 1 := by
  rw [useCount, List.contains_iff_mem.mpr member, indicator_true]

theorem use_count_out {kernel : Kernel} {descriptor : Descriptor}
    (unused : descriptor ∉ kernel.inUse) : useCount kernel descriptor = 0 := by
  have absent : kernel.inUse.contains descriptor = false := by
    rw [Bool.eq_false_iff]
    exact fun found => unused (List.contains_iff_mem.mp found)
  rw [useCount, absent, indicator_false]

theorem use_count_congr {kernel other : Kernel} {descriptor : Descriptor}
    (same : descriptor ∈ kernel.inUse ↔ descriptor ∈ other.inUse) :
    useCount kernel descriptor = useCount other descriptor := by
  by_cases member : descriptor ∈ other.inUse
  · rw [use_count_in member, use_count_in (same.mpr member)]
  · rw [use_count_out member, use_count_out fun found => member (same.mp found)]

theorem held_in_use {state : State} (owned : Owned state) {id : Nat} {self : Communicator}
    (found : object state id = some self) (opened : 0 ≤ self.fd) :
    (self.fd, self.origin) ∈ state.kernel.inUse := by
  have positive := holders_pos (object_iff.mp found) (held_of_valid opened)
  rw [owned.counted] at positive
  by_contra unused
  rw [use_count_out unused] at positive
  cases positive

/-- What `close` of a living object does to the kernel and to the object. -/
structure Closes (kernel : Kernel) (closing : Communicator) (after : Kernel × Communicator) :
    Prop where
  sound : Sound after.1
  freed : ∀ descriptor, useCount after.1 descriptor +
    indicator (holds held descriptor (some closing)) = useCount kernel descriptor
  empty : after.2.fd < 0
  valid : Valid after.2

theorem close_closes {kernel : Kernel} (sound : Sound kernel) {self : Communicator}
    (inUse : 0 ≤ self.fd → (self.fd, self.origin) ∈ kernel.inUse) :
    Closes kernel self (closeCommunicator kernel self) := by
  unfold closeCommunicator
  by_cases opened : 0 ≤ self.fd
  · rw [if_pos opened]
    have member := inUse opened
    constructor
    · exact sound_close sound member
    · intro descriptor
      rw [holds_self opened]
      have iff := mem_close_iff sound member descriptor
      by_cases same : descriptor = (self.fd, self.origin)
      · subst same
        rw [use_count_in member, use_count_out fun later => (iff.mp later).2 rfl]
        simp
      · rw [use_count_congr (iff.trans (and_iff_left same)), decide_eq_false same]
        rfl
    · exact (by decide : (-1 : Int) < 0)
    · simp [Valid]
  · rw [if_neg opened]
    have closed : self.fd < 0 := by omega
    constructor
    · exact sound
    · intro descriptor
      rw [holds_none (held_of_closed closed)]
      rfl
    · exact closed
    · simp [Valid, opened]

theorem valid_default : Valid defaultCommunicator := by
  simp [Valid, defaultCommunicator]

theorem valid_moved (other : Communicator) : Valid (movedFrom other) := by
  simp [Valid, movedFrom]

theorem held_default : held defaultCommunicator = none := rfl

theorem held_moved (other : Communicator) : held (movedFrom other) = none := rfl

theorem valid_set {objects : List (Option Communicator)} {id : Nat} {after : Option Communicator}
    (all : ∀ self, some self ∈ objects → Valid self)
    (here : ∀ self, after = some self → Valid self) :
    ∀ self, some self ∈ objects.set id after → Valid self := by
  intro self member
  rcases List.mem_or_eq_of_mem_set member with old | new
  · exact all self old
  · exact here self new.symm

theorem valid_append {objects : List (Option Communicator)} {added : Communicator}
    (all : ∀ self, some self ∈ objects → Valid self) (here : Valid added) :
    ∀ self, some self ∈ objects ++ [some added] → Valid self := by
  intro self member
  rcases List.mem_append.mp member with old | new
  · exact all self old
  · obtain rfl : self = added := by simpa using new
    exact here

theorem owned_add {state : State} (owned : Owned state) {kernel : Kernel} (sound : Sound kernel)
    {added : Communicator} (valid : Valid added)
    (issued : ∀ descriptor, useCount kernel descriptor =
      useCount state.kernel descriptor + indicator (holds held descriptor (some added))) :
    Owned (add { state with kernel := kernel } added) := by
  constructor
  · exact sound
  · intro descriptor
    dsimp only [add]
    rw [holders_append, owned.counted, ← issued]
  · exact valid_append owned.valid valid

theorem owned_closed {state : State} (owned : Owned state) {id : Nat} {self : Communicator}
    (found : object state id = some self) {after : Kernel × Communicator}
    (closes : Closes state.kernel self after) {slot : Option Communicator}
    (empty : ∀ descriptor, holds held descriptor slot = false)
    (valid : ∀ other, slot = some other → Valid other) :
    Owned { kernel := after.1, objects := state.objects.set id slot } := by
  constructor
  · exact closes.sound
  · intro descriptor
    have counts := holders_set held (object_iff.mp found) slot descriptor
    have freed := closes.freed descriptor
    have before := owned.counted descriptor
    rw [empty descriptor, indicator_false] at counts
    dsimp only
    omega
  · exact valid_set owned.valid valid

theorem owned_move_construct {state : State} (owned : Owned state) {other : Nat}
    {source : Communicator} (found : object state other = some source) :
    Owned (add (put state other (movedFrom source)) source) := by
  have member : some source ∈ state.objects := List.mem_of_getElem? (object_iff.mp found)
  constructor
  · exact owned.sound
  · intro descriptor
    have counts := holders_set held (object_iff.mp found) (some (movedFrom source)) descriptor
    have before := owned.counted descriptor
    rw [holds_none (held_moved source), indicator_false] at counts
    dsimp only [add, put]
    rw [holders_append]
    omega
  · apply valid_append _ (owned.valid source member)
    apply valid_set owned.valid
    intro self equal
    rw [← Option.some.inj equal]
    exact valid_moved source

theorem owned_move_assign {state : State} (owned : Owned state) {id other : Nat}
    (different : id ≠ other) {self source : Communicator} (found : object state id = some self)
    (moved : object state other = some source) {after : Kernel × Communicator}
    (closes : Closes state.kernel self after) :
    Owned (put (put { state with kernel := after.1 } id source) other (movedFrom source)) := by
  have member : some source ∈ state.objects := List.mem_of_getElem? (object_iff.mp moved)
  constructor
  · exact closes.sound
  · intro descriptor
    have first := holders_set held (object_iff.mp found) (some source) descriptor
    have still : (state.objects.set id (some source))[other]? = some (some source) := by
      rw [lookup_move_other fun equal => different equal.symm]
      exact object_iff.mp moved
    have second := holders_set held still (some (movedFrom source)) descriptor
    have freed := closes.freed descriptor
    have before := owned.counted descriptor
    rw [holds_none (held_moved source), indicator_false] at second
    dsimp only [put]
    omega
  · apply valid_set
    · apply valid_set owned.valid
      intro other equal
      rw [← Option.some.inj equal]
      exact owned.valid source member
    · intro other equal
      rw [← Option.some.inj equal]
      exact valid_moved source

theorem use_count_issue {kernel : Kernel} {number : Int} (fresh : kernel.fresh number = true)
    (descriptor : Descriptor) : useCount (kernel.issue number) descriptor =
      useCount kernel descriptor + indicator (decide (descriptor = (number, kernel.issued))) := by
  obtain ⟨_, unused⟩ := of_decide_eq_true fresh
  have new : (number, kernel.issued) ∉ kernel.inUse := fun member =>
    unused (List.mem_map_of_mem (f := Prod.fst) member)
  by_cases same : descriptor = (number, kernel.issued)
  · subst same
    rw [use_count_out new, use_count_in (by simp [Kernel.issue])]
    simp
  · rw [decide_eq_false same]
    exact use_count_congr (by simp [Kernel.issue, same])

theorem mem_issue_close {kernel : Kernel} (sound : Sound kernel) {number : Int}
    (fresh : kernel.fresh number = true) (descriptor : Descriptor) :
    descriptor ∈ ((kernel.issue number).close (number, kernel.issued)).inUse ↔
      descriptor ∈ kernel.inUse := by
  have member : (number, kernel.issued) ∈ (kernel.issue number).inUse := by
    simp [Kernel.issue]
  rw [mem_close_iff (sound_issue sound fresh) member]
  constructor
  · rintro ⟨used, different⟩
    rcases List.mem_append.mp used with earlier | new
    · exact earlier
    · exact absurd (List.mem_singleton.mp new) different
  · intro earlier
    refine ⟨List.mem_append_left _ earlier, ?_⟩
    rintro rfl
    exact (of_decide_eq_true fresh).2 (List.mem_map_of_mem (f := Prod.fst) earlier)

theorem fresh_of_answer {kernel : Kernel} {answer : Int} (allowed : answers kernel answer = true)
    (succeeded : ¬answer < 0) : kernel.fresh answer = true := by
  unfold answers at allowed
  rcases Bool.or_eq_true_iff.mp allowed with failed | fresh
  · have minus : answer = -1 := of_decide_eq_true failed
    omega
  · exact fresh

theorem owned_assembled {state : State} (owned : Owned state) {answer : Int}
    (fresh : state.kernel.fresh answer = true) (domain type protocol : Int)
    (strategy : ProtocolStrategy) :
    Owned (add { state with kernel := state.kernel.issue answer }
      { fd := answer, domain := domain, type := type, protocol := protocol,
        strategy := some strategy, origin := state.kernel.issued }) := by
  have positive : 0 ≤ answer := (of_decide_eq_true fresh).1
  apply owned_add owned (sound_issue owned.sound fresh)
  · simp [Valid, positive]
  · intro descriptor
    rw [use_count_issue fresh]
    congr 1
    rw [holds_self]
    exact positive

theorem owned_create {state : State} (owned : Owned state) (config : CommunicatorConfig)
    {answer : Int} (allowed : answers state.kernel answer = true) :
    Owned (add { state with kernel := (create state.kernel config answer).1 }
      (create state.kernel config answer).2) := by
  unfold create
  by_cases failed : answer < 0
  · rw [if_pos failed]
    apply owned_add owned owned.sound valid_default
    intro descriptor
    rw [holds_none held_default]
    rfl
  · rw [if_neg failed]
    have fresh := fresh_of_answer allowed failed
    by_cases stream : config.type = sockStream
    · rw [if_pos stream]
      exact owned_assembled owned fresh _ _ _ .tcp
    · rw [if_neg stream]
      by_cases dgram : config.type = sockDgram
      · rw [if_pos dgram]
        exact owned_assembled owned fresh _ _ _ .udp
      · rw [if_neg dgram]
        -- no strategy for this type: the descriptor is closed before anything holds it
        have sound := sound_issue owned.sound fresh
        have member : (answer, state.kernel.issued) ∈ (state.kernel.issue answer).inUse := by
          simp [Kernel.issue]
        apply owned_add owned (sound_close sound member) valid_default
        intro descriptor
        rw [holds_none held_default, indicator_false, Nat.add_zero]
        exact use_count_congr (mem_issue_close owned.sound fresh descriptor)

theorem owned_check {state : State} (owned : Owned state) {id : Nat} {self : Communicator}
    (found : object state id = some self) (opened : 0 ≤ self.fd) :
    state.kernel.check (self.fd, self.origin) = state.kernel :=
  check_member (held_in_use owned found opened)

theorem owned_accept {state : State} (owned : Owned state) {id : Nat} {self : Communicator}
    (found : object state id = some self) {answer : Int}
    (allowed : answers state.kernel answer = true) :
    Owned (match accept state.kernel self answer with
      | (kernel, none) => { state with kernel := kernel }
      | (kernel, some accepted) => add { state with kernel := kernel } accepted) := by
  unfold accept
  by_cases closed : self.fd < 0
  · rw [if_pos closed]
    exact owned
  · rw [if_neg closed]
    cases self.strategy with
    | none => exact owned
    | some strategy =>
        cases strategy with
        | udp => exact owned
        | tcp =>
            dsimp only
            rw [owned_check owned found (by omega)]
            by_cases failed : answer < 0
            · rw [if_pos failed]
              exact owned
            · rw [if_neg failed]
              exact owned_assembled owned (fresh_of_answer allowed failed) _ _ _ .tcp

theorem reaches_open {self : Communicator} {valid : Bool} {method : Method}
    (called : reaches self valid method = true) : 0 ≤ self.fd := by
  cases method <;> simp [reaches] at called <;> omega

theorem owned_step {state after : State} {action : Action} (owned : Owned state)
    (taken : step state action = some after) : Owned after := by
  cases action with
  | construct =>
      obtain rfl := Option.some.inj taken
      apply owned_add owned owned.sound valid_default
      intro descriptor
      rw [holds_none held_default]
      rfl
  | create config answer =>
      dsimp only [step] at taken
      split at taken
      · rename_i allowed
        obtain rfl := Option.some.inj taken
        exact owned_create owned config allowed
      · cases taken
  | accept id answer =>
      dsimp only [step] at taken
      split at taken
      · rename_i allowed
        obtain ⟨self, found, rfl⟩ := Option.map_eq_some_iff.mp taken
        exact owned_accept owned found allowed
      · cases taken
  | moveConstruct other =>
      obtain ⟨source, found, rfl⟩ := Option.map_eq_some_iff.mp taken
      exact owned_move_construct owned found
  | moveAssign id other =>
      obtain ⟨self, found, moved⟩ := Option.bind_eq_some_iff.mp taken
      obtain ⟨source, present, rfl⟩ := Option.map_eq_some_iff.mp moved
      split
      · exact owned
      · rename_i different
        have closes := close_closes owned.sound fun opened => held_in_use owned found opened
        exact owned_move_assign owned different found present closes
  | call id method valid =>
      obtain ⟨self, found, rfl⟩ := Option.map_eq_some_iff.mp taken
      unfold call
      split
      · rename_i called
        rw [owned_check owned found (reaches_open called)]
        exact owned
      · exact owned
  | close id =>
      obtain ⟨self, found, rfl⟩ := Option.map_eq_some_iff.mp taken
      have closes := close_closes owned.sound fun opened => held_in_use owned found opened
      apply owned_closed owned found closes
      · exact holds_none (held_of_closed closes.empty)
      · intro other equal
        rw [← Option.some.inj equal]
        exact closes.valid
  | destroy id =>
      obtain ⟨self, found, rfl⟩ := Option.map_eq_some_iff.mp taken
      have closes := close_closes owned.sound fun opened => held_in_use owned found opened
      apply owned_closed owned found closes
      · intro descriptor
        rfl
      · intro other equal
        cases equal

theorem owned_started : Owned started := by
  constructor
  · constructor
    · exact List.nodup_nil
    · intro descriptor member
      cases member
    · exact List.Perm.refl _
    · rfl
  · intro descriptor
    rfl
  · intro self member
    cases member

theorem owned_reachable {state : State} (reached : Reachable step started state) : Owned state :=
  reachable_invariant Owned owned_started (fun _ _ _ owned taken => owned_step owned taken) reached

theorem linearly_owned_of_owned {state : State} (owned : Owned state) : LinearlyOwned state := by
  have distinct := owned.sound.places.nodup_iff.mpr List.nodup_range
  obtain ⟨usedOnce, closedOnce, apart⟩ := List.nodup_append.mp distinct
  constructor
  · intro descriptor member
    have one : holders held state.objects descriptor = 1 := by
      rw [owned.counted, use_count_in member]
    obtain ⟨id, self, found, holding⟩ := exists_holder (by rw [one]; exact Nat.one_pos)
    refine ⟨id, ⟨self, object_iff.mpr found, holding⟩, ?_⟩
    rintro other ⟨another, present, also⟩
    exact holder_unique (Nat.le_of_eq one) (object_iff.mp present) also found holding
  · intro place below
    have member : place ∈ state.kernel.inUse.map Prod.snd ++ state.kernel.closed := by
      rw [owned.sound.places.mem_iff]
      exact List.mem_range.mpr below
    rcases List.mem_append.mp member with used | closed
    · apply Or.inr
      refine ⟨fun also => apart place used place also rfl, ?_⟩
      obtain ⟨⟨number, _⟩, inside, rfl⟩ := List.mem_map.mp used
      refine ⟨number, inside, ?_⟩
      intro other also
      have equal := List.inj_on_of_nodup_map usedOnce also inside rfl
      exact (Prod.mk.inj equal).1
    · apply Or.inl
      refine ⟨closed, ?_⟩
      intro number inside
      exact apart place (List.mem_map_of_mem (f := Prod.snd) inside) place closed rfl
  · exact closedOnce
  · exact owned.sound.noFault
  · intro id self found
    exact owned.valid self (List.mem_of_getElem? (object_iff.mp found))

/-- Every program over communicators owns its descriptors linearly. -/
theorem linearly_owned {state : State} (reached : Reachable step started state) :
    LinearlyOwned state :=
  linearly_owned_of_owned (owned_reachable reached)

/-- A listening socket is moved, an accepted connection is closed twice while its number
is used again, and the listening socket is assigned over the new object. -/
theorem linearly_owned_reused_number :
    ∃ state, exec step started [.create ⟨2, sockStream, 0⟩ 3, .moveConstruct 0, .accept 1 4,
        .close 2, .create ⟨2, sockDgram, 0⟩ 4, .close 2, .moveAssign 3 1, .call 3 .listen true,
        .moveAssign 3 3, .create ⟨2, 3, 0⟩ 4, .destroy 1] = some state ∧
      LinearlyOwned state ∧ state.kernel.inUse = [(3, 0)] ∧ state.kernel.closed = [1, 2, 3] := by
  obtain ⟨state, executed, checked⟩ := exec_checked step started
    [.create ⟨2, sockStream, 0⟩ 3, .moveConstruct 0, .accept 1 4, .close 2,
      .create ⟨2, sockDgram, 0⟩ 4, .close 2, .moveAssign 3 1, .call 3 .listen true,
      .moveAssign 3 3, .create ⟨2, 3, 0⟩ 4, .destroy 1]
    (fun state => decide (state.kernel.inUse = [(3, 0)] ∧ state.kernel.closed = [1, 2, 3]))
    (by decide)
  exact ⟨state, executed, linearly_owned (reachable_of_exec executed), of_decide_eq_true checked⟩

theorem all_closed {state : State} (reached : Reachable step started state)
    (gone : ∀ id, object state id = none) :
    state.kernel.inUse = [] ∧ state.kernel.closed.Perm (List.range state.kernel.issued) := by
  have owned := linearly_owned_of_owned (owned_reachable reached)
  have empty : state.kernel.inUse = [] := by
    apply List.eq_nil_iff_forall_not_mem.mpr
    intro descriptor member
    obtain ⟨id, ⟨self, found, _⟩, _⟩ := owned.owned descriptor member
    rw [gone id] at found
    cases found
  have places := (owned_reachable reached).sound.places
  rw [empty] at places
  exact ⟨empty, places⟩

end BackendComponents.Sockets.Ownership
