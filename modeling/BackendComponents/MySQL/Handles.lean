import BackendComponents.MySQL.Model

/-!
# Who has the driver's objects

Every object of the driver belongs to one connection until it is deleted. An exception
breaks this in three places: in the constructor once something has been created, in
`prepare_statement` once the old statement is gone, and in `close`, which leaves `m_pre`.
-/

namespace BackendComponents.MySQL.Handles

open BackendComponents.Lib.Ownership
open BackendComponents.Lib.Paths
open BackendComponents.Lib.Threads
open BackendComponents.MySQL.Model

set_option autoImplicit false

def handles (self : MySQLConnection) : List Handle :=
  self.conn.toList ++ self.stmt.toList ++ self.pstmt.toList

def owned (state : State) : List Handle := holdings handles state.objects

/-- With no connections left, `settled` and `once` say that each object created has been
deleted exactly once. -/
structure Sound (state : State) : Prop where
  live : ∀ self, some self ∈ state.objects → ∀ handle ∈ handles self,
    handle < state.driver.created ∧ handle ∉ state.driver.deleted
  prepared : ∀ self, some self ∈ state.objects → self.pre = true → self.pstmt.isSome = true
  unshared : (owned state).Nodup
  once : state.driver.deleted.Nodup ∧
    ∀ handle ∈ state.driver.deleted, handle < state.driver.created
  settled : ∀ handle < state.driver.created,
    handle ∈ owned state ∨ handle ∈ state.driver.deleted

def HandleLaw : Prop := ∀ state, Reachable step started state → Sound state

/-- The calls of the driver that may throw here: `connect`, a `prepareStatement` with no
statement to replace, the `close` of a connection without a prepared statement, and those
that change no handle. -/
def harmless (state : State) : Action → Prop
  | .construct throws => throws = none ∨ throws = some .connect
  | .prepareStatement id throws =>
      throws = true → ∀ self, object state id = some self → self.pstmt = none
  | .close id throws =>
      throws = true → ∀ self, object state id = some self → self.conn.isSome = true →
        self.pre = false
  | _ => True

instance (state : State) : (action : Action) → Decidable (harmless state action)
  | .construct throws => inferInstanceAs (Decidable (throws = none ∨ throws = some .connect))
  | .prepareStatement id throws =>
      inferInstanceAs (Decidable (throws = true → ∀ self ∈ object state id, self.pstmt = none))
  | .close id throws =>
      inferInstanceAs (Decidable (throws = true → ∀ self ∈ object state id,
        self.conn.isSome = true → self.pre = false))
  | .moveConstruct _ | .moveAssign _ _ _ | .destroy _ _ | .begin _ _ | .commit _ _
  | .rollback _ _ | .call _ _ => isTrue True.intro

/-! ## The books -/

def Books (driver : Driver) (objects : List (Option MySQLConnection)) : Prop :=
  Balanced driver.created (holdings handles objects) driver.deleted

def Prepared (self : MySQLConnection) : Prop := self.pre = true → self.pstmt.isSome = true

def AllPrepared (objects : List (Option MySQLConnection)) : Prop :=
  ∀ self, some self ∈ objects → Prepared self

theorem sound_iff (state : State) :
    Sound state ↔ Books state.driver state.objects ∧ AllPrepared state.objects := by
  unfold Books
  rw [balanced_holdings_iff]
  constructor
  · intro sound
    exact ⟨⟨sound.live, ⟨sound.unshared, sound.once⟩, sound.settled⟩, sound.prepared⟩
  · intro both
    have ⟨⟨live, ⟨unshared, once⟩, settled⟩, prepared⟩ := both
    exact ⟨live, prepared, unshared, once, settled⟩

/-- What an operation does that turns the handles `before` of one object into `after`. -/
def Trade (driver : Driver) (before : List Handle) (driverAfter : Driver)
    (after : List Handle) : Prop :=
  ∀ handle, after.count handle + driverAfter.deleted.count handle + known driver.created handle =
    before.count handle + driver.deleted.count handle + known driverAfter.created handle

theorem trade_refl (driver : Driver) (before : List Handle) :
    Trade driver before driver before := fun _ => rfl

theorem count_handles (self : MySQLConnection) (handle : Handle) :
    (handles self).count handle = self.conn.toList.count handle +
      self.stmt.toList.count handle + self.pstmt.toList.count handle := by
  unfold handles
  rw [List.count_append, List.count_append]

theorem count_delete (driver : Driver) (pointer : Option Handle) (handle : Handle) :
    (driver.delete pointer).deleted.count handle =
      driver.deleted.count handle + pointer.toList.count handle :=
  List.count_append

theorem handles_empty : handles emptyConnection = [] := rfl

theorem books_set {driver driverAfter : Driver} {objects : List (Option MySQLConnection)}
    {id : Nat} {slot : Option MySQLConnection} (books : Books driver objects)
    (found : objects[id]? = some slot) {after : Option MySQLConnection}
    (trade : Trade driver (holding handles slot) driverAfter (holding handles after)) :
    Books driverAfter (objects.set id after) :=
  (balanced_set_iff books found after driverAfter.created driverAfter.deleted).mpr trade

theorem books_add {driver driverAfter : Driver} {objects : List (Option MySQLConnection)}
    (books : Books driver objects) {added : MySQLConnection}
    (trade : Trade driver [] driverAfter (handles added)) :
    Books driverAfter (objects ++ [some added]) := by
  intro handle
  have before := books handle
  have traded := trade handle
  rw [holdings_append]
  rw [List.count_nil] at traded
  dsimp only [holding, Option.elim]
  omega

theorem books_driver {driver driverAfter : Driver} {objects : List (Option MySQLConnection)}
    (books : Books driver objects) (booksAfter : Books driverAfter objects) (handle : Handle) :
    driverAfter.deleted.count handle + known driver.created handle =
      driver.deleted.count handle + known driverAfter.created handle := by
  have before := books handle
  have after := booksAfter handle
  omega

theorem prepared_set {objects : List (Option MySQLConnection)} (all : AllPrepared objects)
    (id : Nat) {after : Option MySQLConnection} (here : ∀ self, after = some self → Prepared self) :
    AllPrepared (objects.set id after) := by
  intro self member
  rcases List.mem_or_eq_of_mem_set member with old | new
  · exact all self old
  · exact here self new.symm

theorem prepared_add {objects : List (Option MySQLConnection)} (all : AllPrepared objects)
    {added : MySQLConnection} (here : Prepared added) : AllPrepared (objects ++ [some added]) := by
  intro self member
  rcases List.mem_append.mp member with old | new
  · exact all self old
  · rw [Option.some.inj (List.mem_singleton.mp new)]
    exact here

theorem prepared_empty : Prepared emptyConnection := by
  intro pre
  cases pre

theorem object_found {state : State} {id : Nat} {self : MySQLConnection}
    (found : object state id = some self) : state.objects[id]? = some (some self) :=
  Option.join_eq_some_iff.mp found

theorem object_mem {state : State} {id : Nat} {self : MySQLConnection}
    (found : object state id = some self) : some self ∈ state.objects :=
  List.mem_of_getElem? (object_found found)

/-! ## The functions -/

theorem close_trade (driver : Driver) (self : MySQLConnection) (throws : Bool) :
    Trade driver (handles self) (close driver self throws).driver
      (handles (close driver self throws).self) := by
  intro handle
  unfold close
  dsimp only
  split
  · rw [count_handles, count_handles, count_delete, count_delete]
    dsimp only [Driver.delete, Option.toList]
    rw [List.count_nil]
    omega
  · rw [handles_empty, count_handles, count_delete, count_delete, count_delete, List.count_nil]
    dsimp only [Driver.delete]
    omega

theorem close_returns {driver : Driver} {self : MySQLConnection} {throws : Bool}
    (returned : (close driver self throws).threw = false) :
    (close driver self throws).self = emptyConnection := by
  unfold close at returned ⊢
  dsimp only at returned ⊢
  split at returned
  · cases returned
  · next calm => rw [if_neg calm]

theorem prepare_trade {driver : Driver} {self : MySQLConnection} {outcome : Outcome}
    {throws : Bool} (taken : prepareStatement driver self throws = some outcome)
    (calm : throws = true → self.pstmt = none) :
    Trade driver (handles self) outcome.driver (handles outcome.self) := by
  obtain ⟨conn, _, rfl⟩ := Option.map_eq_some_iff.mp taken
  intro handle
  cases throws with
  | true =>
      dsimp only
      rw [if_pos rfl, count_delete, calm rfl, Option.toList_none, List.count_nil]
      rfl
  | false =>
      dsimp only
      rw [if_neg Bool.false_ne_true, count_handles, count_handles]
      dsimp only [Driver.create, Driver.delete]
      rw [List.count_append, known_succ, Option.toList_some]
      omega

theorem begin_same {self after : MySQLConnection} {throws : Bool}
    (taken : beginTransaction self throws = some after) :
    handles after = handles self ∧ after.pre = self.pre ∧ after.pstmt = self.pstmt := by
  unfold beginTransaction at taken
  split at taken
  · rw [Option.some.inj taken]
    exact ⟨rfl, rfl, rfl⟩
  · obtain ⟨conn, _, rfl⟩ := Option.map_eq_some_iff.mp taken
    cases throws <;> exact ⟨rfl, rfl, rfl⟩

theorem end_same {self after : MySQLConnection} {throws : Bool}
    (taken : endTransaction self throws = some after) :
    handles after = handles self ∧ after.pre = self.pre ∧ after.pstmt = self.pstmt := by
  unfold endTransaction at taken
  split at taken
  · obtain ⟨conn, _, rfl⟩ := Option.map_eq_some_iff.mp taken
    cases throws <;> exact ⟨rfl, rfl, rfl⟩
  · rw [Option.some.inj taken]
    exact ⟨rfl, rfl, rfl⟩

theorem close_prepared {driver : Driver} {self : MySQLConnection} {throws : Bool} :
    Prepared (close driver self throws).self ↔
      (throws = true → self.conn.isSome = true → self.pre = false) := by
  unfold close
  dsimp only
  split
  · next raised =>
      obtain ⟨present, thrown⟩ := Bool.and_eq_true_iff.mp raised
      constructor
      · intro prepared _ _
        apply Bool.eq_false_iff.mpr
        intro pre
        cases prepared pre
      · intro calm pre
        rw [calm thrown present] at pre
        cases pre
  · next calm =>
      apply iff_of_true prepared_empty
      intro thrown present
      exact absurd (Bool.and_eq_true_iff.mpr ⟨present, thrown⟩) calm

/-- The pointer to the deleted statement stays in the object. -/
theorem prepare_raised {state : State} {id : Nat} {self : MySQLConnection} {outcome : Outcome}
    (found : object state id = some self)
    (taken : prepareStatement state.driver self true = some outcome)
    (after : Sound (finish state id outcome)) : self.pstmt = none := by
  obtain ⟨conn, _, rfl⟩ := Option.map_eq_some_iff.mp taken
  cases old : self.pstmt with
  | none => rfl
  | some handle =>
      have member : some self ∈ state.objects.set id (some self) := by
        rw [set_lookup (object_found found)]
        exact object_mem found
      have inside : handle ∈ handles self := by
        unfold handles
        rw [old]
        exact List.mem_append_right _ List.mem_cons_self
      have gone := (after.live self member handle inside).2
      apply absurd _ gone
      dsimp only [finish, put, Driver.delete]
      rw [old]
      exact List.mem_append_right _ List.mem_cons_self

/-! ## The steps -/

section Steps

variable {state : State} (books : Books state.driver state.objects)
  (prepared : AllPrepared state.objects)

include books prepared

theorem sound_same {id : Nat} {self after : MySQLConnection} (found : object state id = some self)
    (same : handles after = handles self ∧ after.pre = self.pre ∧ after.pstmt = self.pstmt) :
    Sound (put state id after) := by
  apply (sound_iff _).mpr
  constructor
  · apply books_set books (object_found found)
    rw [holding, holding]
    dsimp only [Option.elim]
    rw [same.1]
    exact trade_refl state.driver (handles self)
  · apply prepared_set prepared
    intro other equal pre
    rw [← Option.some.inj equal] at pre ⊢
    rw [same.2.1] at pre
    rw [same.2.2]
    exact prepared self (object_mem found) pre

theorem sound_finish {id : Nat} {self : MySQLConnection} {outcome : Outcome}
    (found : object state id = some self)
    (trade : Trade state.driver (handles self) outcome.driver (handles outcome.self))
    (ready : Prepared outcome.self) : Sound (finish state id outcome) := by
  apply (sound_iff _).mpr
  constructor
  · exact books_set books (object_found found) trade
  · apply prepared_set prepared
    intro other equal
    rw [← Option.some.inj equal]
    exact ready

theorem sound_move_construct {other : Nat} {source : MySQLConnection}
    (found : object state other = some source) :
    Sound (add (put state other emptyConnection) source) := by
  apply (sound_iff _).mpr
  constructor
  · intro handle
    have before := books handle
    have moved := holdings_set handles (object_found found) (some emptyConnection) handle
    dsimp only [holding, Option.elim] at moved
    rw [handles_empty, List.count_nil] at moved
    dsimp only [add, put]
    rw [holdings_append]
    dsimp only [holding, Option.elim]
    omega
  · apply prepared_add _ (prepared source (object_mem found))
    apply prepared_set prepared
    intro self equal
    rw [← Option.some.inj equal]
    exact prepared_empty

theorem sound_move_assign {id other : Nat} {self source : MySQLConnection} {throws : Bool}
    (different : id ≠ other) (found : object state id = some self)
    (moved : object state other = some source)
    (returned : (close state.driver self throws).threw = false) :
    Sound (put (put { state with driver := (close state.driver self throws).driver } id source)
      other emptyConnection) := by
  have closed := close_trade state.driver self throws
  rw [close_returns returned] at closed
  apply (sound_iff _).mpr
  constructor
  · intro handle
    have before := books handle
    have traded := closed handle
    have first := holdings_set handles (object_found found) (some source) handle
    have still : (state.objects.set id (some source))[other]? = some (some source) := by
      rw [lookup_move_other fun equal => different equal.symm]
      exact object_found moved
    have second := holdings_set handles still (some emptyConnection) handle
    dsimp only [holding, Option.elim] at first second
    rw [handles_empty, List.count_nil] at traded second
    dsimp only [put]
    omega
  · apply prepared_set
    · apply prepared_set prepared
      intro other equal
      rw [← Option.some.inj equal]
      exact prepared source (object_mem moved)
    · intro other equal
      rw [← Option.some.inj equal]
      exact prepared_empty

theorem sound_destroy {id : Nat} {self : MySQLConnection} {throws : Bool}
    (found : object state id = some self)
    (returned : (close state.driver self throws).threw = false) :
    Sound (State.mk (close state.driver self throws).driver (state.objects.set id none)) := by
  have closed := close_trade state.driver self throws
  rw [close_returns returned] at closed
  apply (sound_iff _).mpr
  constructor
  · exact books_set books (object_found found) closed
  · apply prepared_set prepared
    intro other equal
    cases equal

theorem sound_construct_iff (throws : Option Constructing) :
    Sound ((construct state.driver throws).2.elim
      { state with driver := (construct state.driver throws).1 }
      (add { state with driver := (construct state.driver throws).1 })) ↔
        (throws = none ∨ throws = some .connect) := by
  rw [sound_iff]
  cases throws with
  | none =>
      apply iff_of_true _ (.inl rfl)
      constructor
      · apply books_add books
        intro handle
        rw [count_handles]
        dsimp only [construct, Driver.create, Option.elim, add]
        rw [known_succ, known_succ, Option.toList_some, Option.toList_some, Option.toList_none,
          List.count_nil]
        omega
      · apply prepared_add prepared
        intro pre
        cases pre
  | some call =>
      cases call with
      | connect => exact iff_of_true ⟨books, prepared⟩ (.inr rfl)
      | createStatement =>
          apply iff_of_false
          · rintro ⟨after, _⟩
            have lost := books_driver books after state.driver.created
            dsimp only [construct, Driver.create, Option.elim] at lost
            rw [known_succ, List.count_singleton_self] at lost
            omega
          · rintro (none | connect)
            · cases none
            · cases connect
      | setSchema =>
          apply iff_of_false
          · rintro ⟨after, _⟩
            have lost := books_driver books after state.driver.created
            dsimp only [construct, Driver.create, Option.elim] at lost
            rw [known_succ, known_succ, List.count_singleton_self] at lost
            omega
          · rintro (none | connect)
            · cases none
            · cases connect

end Steps

theorem sound_close_iff {state : State} (sound : Sound state) {id : Nat} {self : MySQLConnection}
    (found : object state id = some self) (throws : Bool) :
    Sound (finish state id (close state.driver self throws)) ↔
      (throws = true → self.conn.isSome = true → self.pre = false) := by
  obtain ⟨books, prepared⟩ := (sound_iff state).mp sound
  constructor
  · intro after
    apply close_prepared.mp
    apply after.prepared
    exact List.mem_of_getElem? (lookup_move_self (object_found found))
  · intro calm
    exact sound_finish books prepared found (close_trade state.driver self throws)
      (close_prepared.mpr calm)

theorem sound_prepare_iff {state : State} (sound : Sound state) {id : Nat}
    {self : MySQLConnection} (found : object state id = some self) {throws : Bool}
    {outcome : Outcome} (taken : prepareStatement state.driver self throws = some outcome) :
    Sound (finish state id outcome) ↔ (throws = true → self.pstmt = none) := by
  obtain ⟨books, prepared⟩ := (sound_iff state).mp sound
  constructor
  · intro after thrown
    rw [thrown] at taken
    exact prepare_raised found taken after
  · intro calm
    apply sound_finish books prepared found (prepare_trade taken calm)
    obtain ⟨conn, _, rfl⟩ := Option.map_eq_some_iff.mp taken
    cases throws with
    | true => exact prepared self (object_mem found)
    | false => exact fun _ => rfl

theorem sound_step_iff {state after : State} {action : Action} (sound : Sound state)
    (taken : step state action = some after) : Sound after ↔ harmless state action := by
  obtain ⟨books, prepared⟩ := (sound_iff state).mp sound
  cases action with
  | construct throws =>
      rw [← Option.some.inj taken]
      exact sound_construct_iff books prepared throws
  | moveConstruct other =>
      obtain ⟨source, found, rfl⟩ := Option.map_eq_some_iff.mp taken
      exact iff_of_true (sound_move_construct books prepared found) True.intro
  | moveAssign id other throws =>
      obtain ⟨self, found, continued⟩ := Option.bind_eq_some_iff.mp taken
      obtain ⟨source, moved, assigned⟩ := Option.bind_eq_some_iff.mp continued
      apply iff_of_true _ True.intro
      split at assigned
      · rw [← Option.some.inj assigned]
        exact sound
      · next different =>
          dsimp only at assigned
          split at assigned
          · cases assigned
          · next returned =>
              rw [← Option.some.inj assigned]
              exact sound_move_assign books prepared different found moved
                (Bool.eq_false_iff.mpr returned)
  | destroy id throws =>
      obtain ⟨self, found, continued⟩ := Option.bind_eq_some_iff.mp taken
      apply iff_of_true _ True.intro
      dsimp only at continued
      split at continued
      · cases continued
      · next returned =>
          rw [← Option.some.inj continued]
          exact sound_destroy books prepared found (Bool.eq_false_iff.mpr returned)
  | close id throws =>
      obtain ⟨self, found, rfl⟩ := Option.map_eq_some_iff.mp taken
      rw [sound_close_iff sound found throws]
      dsimp only [harmless]
      rw [found]
      simp
  | prepareStatement id throws =>
      obtain ⟨self, found, continued⟩ := Option.bind_eq_some_iff.mp taken
      obtain ⟨outcome, ended, rfl⟩ := Option.map_eq_some_iff.mp continued
      rw [sound_prepare_iff sound found ended]
      dsimp only [harmless]
      rw [found]
      simp
  | begin id throws =>
      obtain ⟨self, found, continued⟩ := Option.bind_eq_some_iff.mp taken
      obtain ⟨begun, ended, rfl⟩ := Option.map_eq_some_iff.mp continued
      exact iff_of_true (sound_same books prepared found (begin_same ended)) True.intro
  | commit id throws | rollback id throws =>
      obtain ⟨self, found, continued⟩ := Option.bind_eq_some_iff.mp taken
      obtain ⟨closed, ended, rfl⟩ := Option.map_eq_some_iff.mp continued
      exact iff_of_true (sound_same books prepared found (end_same ended)) True.intro
  | call id method =>
      obtain ⟨self, found, continued⟩ := Option.bind_eq_some_iff.mp taken
      split at continued
      · rw [← Option.some.inj continued]
        exact iff_of_true sound True.intro
      · cases continued

theorem sound_started : Sound started := by
  apply (sound_iff started).mpr
  constructor
  · intro handle
    rfl
  · intro self member
    cases member

/-- In every run: the driver's objects are in order in every state if and only if every
call of the driver that throws is harmless where it does. -/
theorem sound_iff_harmless {trail : List (State × Action)} {last : State}
    (path : Path step started trail last) :
    (∀ state ∈ visited trail last, Sound state) ↔
      ∀ taken ∈ trail, harmless taken.1 taken.2 := by
  apply path_property_iff_good (fun _ => True) Sound harmless True.intro sound_started _ _ path
  · exact fun _ _ _ _ _ => True.intro
  · exact fun _ _ _ _ sound taken => sound_step_iff sound taken

/-! ## Runs -/

/-- Two connections, a statement that is replaced and one that is moved away, and a `close`
that throws. -/
def careful : List Action :=
  [.construct (some .connect), .construct none, .prepareStatement 0 true,
    .prepareStatement 0 false, .prepareStatement 0 false, .call 0 .setInt,
    .call 0 .executePreparedUpdate, .begin 0 false, .commit 0 true, .moveConstruct 0,
    .construct none, .close 2 true, .moveAssign 2 1 false, .close 2 false, .destroy 0 true,
    .destroy 1 false, .destroy 2 true]

theorem sound_careful :
    ∃ last, exec step started careful = some last ∧ Sound last ∧
      last.driver.deleted = [2, 5, 4, 3, 1, 0] := by
  obtain ⟨last, executed, checked⟩ := exec_checked step started careful
    (fun last => decide (last.driver.deleted = [2, 5, 4, 3, 1, 0])) (by decide)
  have sound := (sound_iff_harmless (path_of_exec executed)).mpr (by decide)
  exact ⟨last, executed, sound last (List.mem_append_right _ List.mem_cons_self),
    of_decide_eq_true checked⟩

/-- A statement is prepared, and the next `prepareStatement` throws: the pointer to the
deleted statement stays, and `m_pre` says that it may be used. -/
theorem failed_prepare_dangles : ¬HandleLaw := by
  intro law
  obtain ⟨last, executed, checked⟩ := exec_checked step started
    [.construct none, .prepareStatement 0 false, .prepareStatement 0 true]
    (fun last => decide (last.driver.deleted = [2] ∧
      last.objects = [some ⟨some 0, some 1, some 2, true, false⟩])) (by decide)
  obtain ⟨deleted, objects⟩ := of_decide_eq_true checked
  have sound := law last (reachable_of_exec executed)
  have member : some (MySQLConnection.mk (some 0) (some 1) (some 2) true false) ∈ last.objects := by
    rw [objects]
    exact List.mem_cons_self
  have live := (sound.live _ member 2 (by decide)).2
  rw [deleted] at live
  exact live List.mem_cons_self

end BackendComponents.MySQL.Handles
