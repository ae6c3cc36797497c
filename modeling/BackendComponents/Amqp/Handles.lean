import BackendComponents.Amqp.Connections
import BackendComponents.Lib.Ownership

/-!
# Who has the handle of a connection

Every handle belongs to one `Connection` until it is destroyed, except in three places where a
connection has a handle that is not initialised or is assigned to: `init` and the move
assignment overwrite it, and the destructor leaves it. A channel gives the handle of its
connection to `rabbitmq-c`; without an initialised connection it gives a null pointer, and
only `open` and `close` look at it first.
-/

namespace BackendComponents.Amqp.Handles

open BackendComponents.Lib.Ownership
open BackendComponents.Lib.Paths
open BackendComponents.Amqp.Channels (Operation Reply)
open BackendComponents.Amqp.Connections

set_option autoImplicit false

def held (connection : Connection) : List Handle := connection.conn.toList

def owned (state : State) : List Handle := holdings held state.connections

/-- With no connections left, `once` and `settled` say that each handle created has been
destroyed exactly once. -/
structure Sound (state : State) : Prop where
  live : ∀ connection, some connection ∈ state.connections → ∀ handle ∈ held connection,
    handle < state.library.created ∧ handle ∉ state.library.destroyed
  unshared : (owned state).Nodup
  once : state.library.destroyed.Nodup ∧
    ∀ handle ∈ state.library.destroyed, handle < state.library.created
  settled : ∀ handle < state.library.created,
    handle ∈ owned state ∨ handle ∈ state.library.destroyed
  valid : state.library.invalid = []

def HandleLaw : Prop := ∀ state, Reachable step started state → Sound state

/-- Whether the call handles a connection that is not initialised as it should be. -/
def harmless (state : State) : Action → Prop
  | .init id _ => ∀ connection ∈ connectionAt state id,
      connection.init = true ∨ connection.conn = none
  | .moveAssign target source => target ≠ source →
      (connectionAt state source).isSome = true → ∀ connection ∈ connectionAt state target,
        connection.conn = none
  | .destroy id => ∀ connection ∈ connectionAt state id,
      connection.init = true ∨ connection.conn = none
  | .operate id _ => ∀ found ∈ channelAt state id, found.2.init = true
  | .setRpcTimeout id timeoutMs => 0 ≤ timeoutMs →
      ∀ found ∈ channelAt state id, found.2.init = true
  | .destroyChannel id _ => ∀ found ∈ channelAt state id, found.2.init = true
  | _ => True

instance (state : State) : (action : Action) → Decidable (harmless state action)
  | .init id _ => inferInstanceAs (Decidable (∀ connection ∈ connectionAt state id,
      connection.init = true ∨ connection.conn = none))
  | .moveAssign target source => inferInstanceAs (Decidable (target ≠ source →
      (connectionAt state source).isSome = true → ∀ connection ∈ connectionAt state target,
        connection.conn = none))
  | .destroy id => inferInstanceAs (Decidable (∀ connection ∈ connectionAt state id,
      connection.init = true ∨ connection.conn = none))
  | .operate id _ => inferInstanceAs (Decidable (∀ found ∈ channelAt state id,
      found.2.init = true))
  | .setRpcTimeout id timeoutMs => inferInstanceAs (Decidable (0 ≤ timeoutMs →
      ∀ found ∈ channelAt state id, found.2.init = true))
  | .destroyChannel id _ => inferInstanceAs (Decidable (∀ found ∈ channelAt state id,
      found.2.init = true))
  | .construct | .reconnect _ _ | .moveConstruct _ | .newChannel _ | .openChannel _ _
  | .closeChannel _ _ | .moveConstructChannel _ | .moveAssignChannel _ _ _ =>
      isTrue True.intro

/-! ## The books -/

def Books (library : Library) (connections : List (Option Connection)) : Prop :=
  Balanced library.created (holdings held connections) library.destroyed

theorem sound_iff (state : State) :
    Sound state ↔ Books state.library state.connections ∧ state.library.invalid = [] := by
  unfold Books
  rw [balanced_holdings_iff]
  constructor
  · intro sound
    exact ⟨⟨sound.live, ⟨sound.unshared, sound.once⟩, sound.settled⟩, sound.valid⟩
  · intro both
    have ⟨⟨live, ⟨unshared, once⟩, settled⟩, valid⟩ := both
    exact ⟨live, unshared, once, settled, valid⟩

/-- A handle that is not yet created has not been destroyed. -/
def Fresh (library : Library) : Prop := ∀ handle ∈ library.destroyed, handle < library.created

theorem books_fresh {library : Library} {connections : List (Option Connection)}
    (books : Books library connections) : Fresh library :=
  (balanced_holdings_iff.mp books).2.1.2.2

theorem books_live {library : Library} {connections : List (Option Connection)}
    (books : Books library connections) {connection : Connection}
    (member : some connection ∈ connections) {handle : Handle}
    (has : connection.conn = some handle) : library.isLive (some handle) = true := by
  have inside : handle ∈ held connection := by
    unfold held
    rw [has]
    exact List.mem_singleton_self handle
  exact decide_eq_true ((balanced_holdings_iff.mp books).1 connection member handle inside)

theorem call_live {library : Library} {handle : Option Handle}
    (live : library.isLive handle = true) : library.call handle = library := if_pos live

theorem call_valid_iff {library : Library} (valid : library.invalid = [])
    (handle : Option Handle) :
    (library.call handle).invalid = [] ↔ library.isLive handle = true := by
  unfold Library.call
  cases library.isLive handle with
  | true => exact iff_of_true valid rfl
  | false =>
      apply iff_of_false
      · rw [if_neg Bool.false_ne_true, valid]
        exact List.cons_ne_nil _ _
      · exact Bool.false_ne_true

/-! ## The connect sequence -/

theorem create_live {library : Library} (fresh : Fresh library) :
    library.create.isLive (some library.created) = true := by
  apply decide_eq_true
  constructor
  · exact Nat.lt_succ_self _
  · intro destroyed
    exact Nat.lt_irrefl _ (fresh _ destroyed)

theorem connect_eq {library : Library} (fresh : Fresh library) (failure : Option Failure) :
    connect library failure =
      match failure with
      | some .newConnection => (library, unconnected)
      | some _ => (library.create, ⟨some library.created, false⟩)
      | none => (library.create, ⟨some library.created, true⟩) := by
  have live := call_live (create_live fresh)
  unfold connect
  cases failure with
  | none =>
      dsimp only
      rw [live, live]
  | some failed =>
      cases failed with
      | newConnection => rfl
      | tcpSocketNew =>
          dsimp only
          rw [live]
      | socketOpen =>
          dsimp only
          rw [live]
      | login =>
          dsimp only
          rw [live, live]

structure Connected (library : Library) (result : Library × Connection) : Prop where
  trade : Trade library.created [] library.destroyed result.1.created (held result.2)
    result.1.destroyed
  invalid : result.1.invalid = library.invalid
  ready : result.2.init = true → result.2.conn.isSome = true

theorem connected {library : Library} (fresh : Fresh library) (failure : Option Failure) :
    Connected library (connect library failure) := by
  rw [connect_eq fresh]
  cases failure with
  | none => exact ⟨trade_issue [], rfl, fun _ => rfl⟩
  | some failed =>
      cases failed with
      | newConnection => exact ⟨trade_refl [], rfl, nofun⟩
      | tcpSocketNew => exact ⟨trade_issue [], rfl, nofun⟩
      | socketOpen => exact ⟨trade_issue [], rfl, nofun⟩
      | login => exact ⟨trade_issue [], rfl, nofun⟩

/-- An initialised connection has a handle. -/
def Ready (state : State) : Prop :=
  ∀ connection, some connection ∈ state.connections → connection.init = true →
    connection.conn.isSome = true

theorem connection_found {state : State} {id : Nat} {connection : Connection}
    (found : connectionAt state id = some connection) :
    state.connections[id]? = some (some connection) :=
  Option.join_eq_some_iff.mp found

theorem connection_mem {state : State} {id : Nat} {connection : Connection}
    (found : connectionAt state id = some connection) : some connection ∈ state.connections :=
  List.mem_of_getElem? (connection_found found)

theorem channel_connection {state : State} {id : Nat} {found : Channel × Connection}
    (present : channelAt state id = some found) : some found.2 ∈ state.connections := by
  have ⟨channel, _, rest⟩ := Option.bind_eq_some_iff.mp present
  have ⟨connection, at_id, same⟩ := Option.map_eq_some_iff.mp rest
  rw [← same]
  exact connection_mem at_id

theorem handle_live_iff {state : State} (ready : Ready state)
    (books : Books state.library state.connections) {connection : Connection}
    (member : some connection ∈ state.connections) :
    state.library.isLive (handleOf connection) = true ↔ connection.init = true := by
  unfold handleOf
  cases initialised : connection.init with
  | false => exact iff_of_false Bool.false_ne_true Bool.false_ne_true
  | true =>
      apply iff_of_true _ rfl
      have ⟨handle, has⟩ := Option.isSome_iff_exists.mp (ready connection member initialised)
      rw [if_pos rfl, has]
      exact books_live books member has

theorem handle_live {state : State} (ready : Ready state)
    (books : Books state.library state.connections) {connection : Connection}
    (member : some connection ∈ state.connections) {handle : Handle}
    (has : handleOf connection = some handle) :
    state.library.isLive (some handle) = true := by
  have initialised : connection.init = true := by
    by_contra off
    unfold handleOf at has
    rw [if_neg off] at has
    cases has
  have live := (handle_live_iff ready books member).mpr initialised
  rw [has] at live
  exact live

/-! ## Steps of a connection -/

theorem sound_put_iff {state : State} (books : Books state.library state.connections) {id : Nat}
    {connection : Connection} (found : connectionAt state id = some connection)
    (result : Library × Connection) (valid : result.1.invalid = []) :
    Sound (putConnection state id result) ↔ Trade state.library.created (held connection)
      state.library.destroyed result.1.created (held result.2) result.1.destroyed := by
  rw [sound_iff]
  have exact_trade := balanced_set_iff books (connection_found found) (some result.2)
    result.1.created result.1.destroyed
  constructor
  · intro both
    exact exact_trade.mp both.1
  · intro trade
    exact ⟨exact_trade.mpr trade, valid⟩

theorem held_empty_iff (connection : Connection) :
    held connection = [] ↔ connection.conn = none := Option.toList_eq_nil_iff

theorem init_sound_iff {state : State} (sound : Sound state) {id : Nat}
    {connection : Connection} (found : connectionAt state id = some connection)
    (failure : Option Failure) :
    Sound (putConnection state id (init state.library connection failure)) ↔
      (connection.init = true ∨ connection.conn = none) := by
  have ⟨books, valid⟩ := (sound_iff state).mp sound
  unfold init
  cases initialised : connection.init with
  | true =>
      rw [if_pos rfl, sound_put_iff books found _ valid]
      exact iff_of_true (trade_refl (held connection)) (Or.inl rfl)
  | false =>
      have result := connected (books_fresh books) failure
      rw [if_neg Bool.false_ne_true,
        sound_put_iff books found _ (result.invalid.trans valid), trade_over_iff result.trade,
        held_empty_iff]
      constructor
      · exact Or.inr
      · intro either
        exact either.resolve_left Bool.false_ne_true

theorem reconnect_eq {library : Library} {connection : Connection}
    (live : ∀ handle, connection.conn = some handle → library.isLive (some handle) = true)
    (failure : Option Failure) : reconnect library connection failure =
      connect { library with destroyed := library.destroyed ++ held connection } failure := by
  unfold reconnect held
  cases has : connection.conn with
  | none =>
      dsimp only
      rw [Option.toList_none, List.append_nil]
  | some handle =>
      have alive := call_live (live handle has)
      dsimp only
      rw [alive, ite_self]
      unfold Library.destroy
      rw [alive]

theorem reconnect_sound {state : State} (sound : Sound state) {id : Nat}
    {connection : Connection} (found : connectionAt state id = some connection)
    (failure : Option Failure) :
    Sound (putConnection state id (reconnect state.library connection failure)) := by
  have ⟨books, valid⟩ := (sound_iff state).mp sound
  have member := connection_mem found
  have fresh : Fresh
      { state.library with destroyed := state.library.destroyed ++ held connection } := by
    intro handle destroyed
    rcases List.mem_append.mp destroyed with before | now
    · exact books_fresh books handle before
    · exact (sound.live connection member handle now).1
  have result := connected fresh failure
  rw [reconnect_eq fun handle has => books_live books member has,
    sound_put_iff books found _ (result.invalid.trans valid)]
  exact trade_trans (trade_release (held connection)) result.trade

theorem move_construct_sound {state : State} (sound : Sound state) {source : Nat}
    {connection : Connection} (found : connectionAt state source = some connection) :
    Sound { state with
      connections := state.connections.set source (some unconnected) ++ [some connection] } := by
  have ⟨books, valid⟩ := (sound_iff state).mp sound
  apply (sound_iff _).mpr
  refine ⟨?_, valid⟩
  intro handle
  have before := books handle
  have moved := holdings_set held (connection_found found) (some unconnected) handle
  have emptied : holding held (some unconnected) = [] := rfl
  rw [emptied, List.count_nil] at moved
  dsimp only
  rw [holdings_append]
  omega

theorem move_assign_sound_iff {state : State} (sound : Sound state) {target source : Nat}
    {connection other : Connection} (found : connectionAt state target = some connection)
    (present : connectionAt state source = some other) (different : target ≠ source) :
    Sound { state with
      connections := (state.connections.set target (some other)).set source (some unconnected) } ↔
        connection.conn = none := by
  have ⟨books, valid⟩ := (sound_iff state).mp sound
  have emptied : holding held (some unconnected) = [] := rfl
  have exact_trade : Balanced state.library.created
      (holdings held ((state.connections.set target (some other)).set source (some unconnected)))
      state.library.destroyed ↔ held connection = [] :=
    balanced_assign_iff books (connection_found found) (connection_found present) different rfl
      emptied
  rw [sound_iff, ← held_empty_iff]
  constructor
  · intro both
    exact exact_trade.mp both.1
  · intro empty
    exact ⟨exact_trade.mpr empty, valid⟩

theorem destroy_sound_iff {state : State} (ready : Ready state) (sound : Sound state) {id : Nat}
    {connection : Connection} (found : connectionAt state id = some connection) :
    Sound { state with
      library := destroy state.library connection
      connections := state.connections.set id none } ↔
        (connection.init = true ∨ connection.conn = none) := by
  have ⟨books, valid⟩ := (sound_iff state).mp sound
  have member := connection_mem found
  have exact_trade := balanced_set_iff books (connection_found found) none
  unfold destroy
  cases initialised : connection.init with
  | true =>
      have ⟨handle, has⟩ := Option.isSome_iff_exists.mp (ready connection member initialised)
      have alive := call_live (books_live books member has)
      apply iff_of_true _ (Or.inl rfl)
      apply (sound_iff _).mpr
      rw [has, Option.isSome_some, Bool.and_true, if_pos rfl]
      unfold Library.destroy
      rw [alive, alive]
      refine ⟨?_, valid⟩
      apply (exact_trade _ _).mpr
      have whole : Trade state.library.created (held connection) state.library.destroyed
          state.library.created [] (state.library.destroyed ++ held connection) :=
        trade_release (held connection)
      have same : held connection = (some handle).toList := congrArg Option.toList has
      rw [← same]
      exact whole
  | false =>
      rw [Bool.and_false, if_neg Bool.false_ne_true, sound_iff]
      have lost : Trade state.library.created (held connection) state.library.destroyed
          state.library.created [] state.library.destroyed ↔ held connection = [] :=
        trade_over_iff (trade_refl [])
      constructor
      · intro both
        exact Or.inr ((held_empty_iff connection).mp (lost.mp ((exact_trade _ _).mp both.1)))
      · intro either
        have empty := (held_empty_iff connection).mpr (either.resolve_left Bool.false_ne_true)
        exact ⟨(exact_trade _ _).mpr (lost.mpr empty), valid⟩

/-! ## Steps of a channel -/

theorem channel_sound_iff {state : State} (sound : Sound state) {library : Library}
    (same : ∃ invalid, library = { state.library with invalid := invalid })
    (channels : List (Option Channel)) :
    Sound { state with library := library, channels := channels } ↔ library.invalid = [] := by
  have ⟨books, _⟩ := (sound_iff state).mp sound
  have ⟨invalid, shape⟩ := same
  rw [sound_iff]
  constructor
  · exact fun both => both.2
  · intro valid
    refine ⟨?_, valid⟩
    rw [shape]
    exact books

theorem channels_sound {state : State} (sound : Sound state)
    (channels : List (Option Channel)) : Sound { state with channels := channels } := by
  have unchanged : ∃ invalid, state.library = { state.library with invalid := invalid } :=
    ⟨state.library.invalid, rfl⟩
  exact (channel_sound_iff sound unchanged channels).mpr sound.valid

theorem call_shape (library : Library) (handle : Option Handle) :
    ∃ invalid, library.call handle = { library with invalid := invalid } := by
  unfold Library.call
  split
  · exact ⟨library.invalid, rfl⟩
  · exact ⟨_, rfl⟩

theorem calls_shape (library : Library) (handles : List (Option Handle)) :
    ∃ invalid, handles.foldl Library.call library = { library with invalid := invalid } := by
  induction handles generalizing library with
  | nil => exact ⟨library.invalid, rfl⟩
  | cons handle rest ih =>
      have ⟨invalid, first⟩ := call_shape library handle
      have ⟨last, whole⟩ := ih (library.call handle)
      refine ⟨last, ?_⟩
      rw [List.foldl_cons, whole, first]

theorem calls_live {library : Library} {handle : Option Handle}
    (live : library.isLive handle = true) (count : Nat) :
    (List.replicate count handle).foldl Library.call library = library := by
  induction count with
  | zero => rfl
  | succ count ih =>
      rw [List.replicate_succ, List.foldl_cons, call_live live]
      exact ih

theorem calls_grow {library : Library} (recorded : library.invalid ≠ [])
    (handles : List (Option Handle)) :
    (handles.foldl Library.call library).invalid ≠ [] := by
  induction handles generalizing library with
  | nil => exact recorded
  | cons handle rest ih =>
      apply ih
      unfold Library.call
      split
      · exact recorded
      · intro empty
        exact recorded (List.append_eq_nil_iff.mp empty).1

theorem calls_valid_iff {library : Library} (valid : library.invalid = [])
    (handle : Option Handle) (count : Nat) :
    ((List.replicate (count + 1) handle).foldl Library.call library).invalid = [] ↔
      library.isLive handle = true := by
  constructor
  · intro all
    rw [List.replicate_succ, List.foldl_cons] at all
    apply (call_valid_iff valid handle).mp
    by_contra recorded
    exact calls_grow recorded _ all
  · intro live
    rw [calls_live live]
    exact valid

theorem open_library {state : State} (ready : Ready state)
    (books : Books state.library state.connections) {connection : Connection}
    (member : some connection ∈ state.connections) (reply : Reply) (channel : Channel) :
    (openChannel state.library connection reply channel).1 = state.library := by
  unfold openChannel
  split
  · rfl
  · next handle has =>
      have alive := call_live (handle_live ready books member has)
      dsimp only
      rw [alive, alive]

theorem close_library {state : State} (ready : Ready state)
    (books : Books state.library state.connections) {connection : Connection}
    (member : some connection ∈ state.connections) (reply : Reply) (channel : Channel) :
    (closeChannel state.library connection reply channel).1 = state.library := by
  unfold closeChannel
  split
  · split
    · rfl
    · next handle has =>
        have alive := call_live (handle_live ready books member has)
        dsimp only
        rw [alive, alive]
  · rfl

theorem destroy_channel_eq {state : State} (ready : Ready state)
    (books : Books state.library state.connections) {connection : Connection}
    (member : some connection ∈ state.connections) (reply : Reply) (channel : Channel) :
    destroyChannel state.library connection reply channel =
      (List.replicate 2 (handleOf connection)).foldl Library.call state.library := by
  have timeout (library : Library) (timeoutMs : Int) (positive : 0 ≤ timeoutMs) :
      setRpcTimeout library connection timeoutMs = library.call (handleOf connection) :=
    if_neg (Int.not_lt.mpr positive)
  unfold destroyChannel
  dsimp only
  rw [timeout _ _ (by decide), timeout _ _ (by decide)]
  have closed : (closeChannel (state.library.call (handleOf connection)) connection reply
      channel).1 = state.library.call (handleOf connection) := by
    cases has : handleOf connection with
    | none =>
        unfold closeChannel
        rw [has]
        exact congrArg Prod.fst (ite_self _)
    | some handle =>
        rw [call_live (handle_live ready books member has)]
        exact close_library ready books member reply channel
  rw [closed]
  rfl

theorem calls_positive (operation : Operation) : ∃ more, calls operation = more + 1 := by
  cases operation with
  | basicPublish => exact ⟨0, rfl⟩
  | basicAck => exact ⟨0, rfl⟩
  | basicNack => exact ⟨0, rfl⟩
  | _ => exact ⟨1, rfl⟩

section Calls

variable {state : State} (ready : Ready state) (sound : Sound state) {id : Nat}
  {found : Channel × Connection} (present : channelAt state id = some found)

include ready sound present

theorem calls_sound_iff (count : Nat) (channels : List (Option Channel)) :
    Sound { state with
      library := (List.replicate (count + 1) (handleOf found.2)).foldl Library.call state.library
      channels := channels } ↔ found.2.init = true := by
  have ⟨books, valid⟩ := (sound_iff state).mp sound
  rw [channel_sound_iff sound (calls_shape state.library _) channels]
  rw [calls_valid_iff valid, handle_live_iff ready books (channel_connection present)]

theorem open_sound (reply : Reply) :
    Sound (putChannel state id (openChannel state.library found.2 reply found.1)) := by
  have books := ((sound_iff state).mp sound).1
  unfold putChannel
  rw [open_library ready books (channel_connection present) reply found.1]
  exact channels_sound sound _

theorem close_sound (reply : Reply) (channel : Channel) (channels : List (Option Channel)) :
    Sound { putChannel state id
        ((closeChannel state.library found.2 reply found.1).1, channel) with
      channels := channels } := by
  have books := ((sound_iff state).mp sound).1
  unfold putChannel
  rw [close_library ready books (channel_connection present) reply found.1]
  exact channels_sound sound channels

theorem operate_sound_iff (operation : Operation) :
    Sound { state with library := operate state.library found.2 operation } ↔
      found.2.init = true := by
  have ⟨more, count⟩ := calls_positive operation
  unfold operate
  rw [count]
  exact calls_sound_iff ready sound present more state.channels

theorem timeout_sound_iff (timeoutMs : Int) :
    Sound { state with library := setRpcTimeout state.library found.2 timeoutMs } ↔
      (0 ≤ timeoutMs → found.2.init = true) := by
  unfold setRpcTimeout
  by_cases negative : timeoutMs < 0
  · rw [if_pos negative]
    apply iff_of_true (channels_sound sound state.channels)
    intro positive
    omega
  · rw [if_neg negative, forall_prop_of_true (Int.not_lt.mp negative)]
    exact calls_sound_iff ready sound present 0 state.channels

theorem destroy_channel_sound_iff (reply : Reply) :
    Sound { state with
      library := destroyChannel state.library found.2 reply found.1
      channels := state.channels.set id none } ↔ found.2.init = true := by
  have books := ((sound_iff state).mp sound).1
  rw [destroy_channel_eq ready books (channel_connection present) reply found.1]
  exact calls_sound_iff ready sound present 1 (state.channels.set id none)

end Calls

/-! ## Runs -/

theorem connect_ready (library : Library) (failure : Option Failure) :
    (connect library failure).2.init = true → (connect library failure).2.conn.isSome = true := by
  cases failure with
  | none => exact fun _ => rfl
  | some failed =>
      cases failed with
      | newConnection => exact nofun
      | tcpSocketNew => exact nofun
      | socketOpen => exact nofun
      | login => exact nofun

theorem init_ready (library : Library) {connection : Connection}
    (ready : connection.init = true → connection.conn.isSome = true) (failure : Option Failure) :
    (init library connection failure).2.init = true →
      (init library connection failure).2.conn.isSome = true := by
  unfold init
  split
  · exact ready
  · exact connect_ready library failure

theorem reconnect_ready (library : Library) (connection : Connection)
    (failure : Option Failure) : (reconnect library connection failure).2.init = true →
      (reconnect library connection failure).2.conn.isSome = true := by
  unfold reconnect
  split
  · exact connect_ready _ failure
  · exact connect_ready _ failure

def AllReady (connections : List (Option Connection)) : Prop :=
  ∀ connection, some connection ∈ connections → connection.init = true →
    connection.conn.isSome = true

theorem ready_set {connections : List (Option Connection)} (ready : AllReady connections)
    (id : Nat) {slot : Option Connection} (here : ∀ connection, slot = some connection →
      connection.init = true → connection.conn.isSome = true) :
    AllReady (connections.set id slot) := by
  intro connection member
  rcases List.mem_or_eq_of_mem_set member with old | new
  · exact ready connection old
  · exact here connection new.symm

theorem ready_append {connections : List (Option Connection)} (ready : AllReady connections)
    {added : Connection} (here : added.init = true → added.conn.isSome = true) :
    AllReady (connections ++ [some added]) := by
  intro connection member
  rcases List.mem_append.mp member with old | new
  · exact ready connection old
  · rw [Option.some.inj (List.mem_singleton.mp new)]
    exact here

theorem ready_put {connections : List (Option Connection)} (ready : AllReady connections)
    (id : Nat) {added : Connection} (here : added.init = true → added.conn.isSome = true) :
    AllReady (connections.set id (some added)) := by
  apply ready_set ready
  intro connection same
  rw [← Option.some.inj same]
  exact here

theorem ready_step {state after : State} {action : Action} (ready : Ready state)
    (taken : step state action = some after) : Ready after := by
  have empty : unconnected.init = true → unconnected.conn.isSome = true := nofun
  cases action with
  | construct =>
      rw [← Option.some.inj taken]
      exact ready_append ready empty
  | init id failure =>
      have ⟨connection, found, same⟩ := Option.map_eq_some_iff.mp taken
      rw [← same]
      exact ready_put ready id (init_ready _ (ready connection (connection_mem found)) failure)
  | reconnect id failure =>
      have ⟨connection, found, same⟩ := Option.map_eq_some_iff.mp taken
      rw [← same]
      exact ready_put ready id (reconnect_ready _ connection failure)
  | moveConstruct source =>
      have ⟨connection, found, same⟩ := Option.map_eq_some_iff.mp taken
      rw [← same]
      exact ready_append (ready_put ready source empty) (ready connection (connection_mem found))
  | moveAssign target source =>
      have ⟨connection, found, rest⟩ := Option.bind_eq_some_iff.mp taken
      have ⟨other, present, same⟩ := Option.map_eq_some_iff.mp rest
      rw [← same]
      split
      · exact ready
      · exact ready_put (ready_put ready target (ready other (connection_mem present))) source empty
  | destroy id =>
      have ⟨connection, found, same⟩ := Option.map_eq_some_iff.mp taken
      rw [← same]
      apply ready_set ready
      intro connection impossible
      cases impossible
  | newChannel connection =>
      have ⟨_, _, same⟩ := Option.map_eq_some_iff.mp taken
      rw [← same]
      exact ready
  | openChannel id reply =>
      have ⟨_, _, same⟩ := Option.map_eq_some_iff.mp taken
      rw [← same]
      exact ready
  | closeChannel id reply =>
      have ⟨_, _, same⟩ := Option.map_eq_some_iff.mp taken
      rw [← same]
      exact ready
  | operate id operation =>
      have ⟨_, _, same⟩ := Option.map_eq_some_iff.mp taken
      rw [← same]
      exact ready
  | setRpcTimeout id timeoutMs =>
      have ⟨_, _, same⟩ := Option.map_eq_some_iff.mp taken
      rw [← same]
      exact ready
  | moveConstructChannel source =>
      have ⟨_, _, same⟩ := Option.map_eq_some_iff.mp taken
      rw [← same]
      exact ready
  | moveAssignChannel target source reply =>
      have ⟨_, _, rest⟩ := Option.bind_eq_some_iff.mp taken
      have ⟨_, _, same⟩ := Option.map_eq_some_iff.mp rest
      rw [← same]
      split
      · exact ready
      · exact ready
  | destroyChannel id reply =>
      have ⟨_, _, same⟩ := Option.map_eq_some_iff.mp taken
      rw [← same]
      exact ready

theorem forall_found {Item : Type*} {objects : Option Item} {item : Item}
    {property : Item → Prop} (found : objects = some item) :
    (∀ other ∈ objects, property other) ↔ property item := by
  rw [found]
  constructor
  · intro all
    exact all item rfl
  · intro holds other same
    rw [← Option.some.inj same]
    exact holds

theorem sound_step_iff {state after : State} {action : Action} (ready : Ready state)
    (sound : Sound state) (taken : step state action = some after) :
    Sound after ↔ harmless state action := by
  have ⟨books, valid⟩ := (sound_iff state).mp sound
  cases action with
  | construct =>
      rw [← Option.some.inj taken]
      apply iff_of_true _ True.intro
      apply (sound_iff _).mpr
      refine ⟨?_, valid⟩
      intro handle
      have before := books handle
      dsimp only
      rw [holdings_append]
      exact before
  | init id failure =>
      have ⟨connection, found, same⟩ := Option.map_eq_some_iff.mp taken
      unfold harmless
      dsimp only
      rw [← same, init_sound_iff sound found, forall_found found]
  | reconnect id failure =>
      have ⟨connection, found, same⟩ := Option.map_eq_some_iff.mp taken
      rw [← same]
      exact iff_of_true (reconnect_sound sound found failure) True.intro
  | moveConstruct source =>
      have ⟨connection, found, same⟩ := Option.map_eq_some_iff.mp taken
      rw [← same]
      exact iff_of_true (move_construct_sound sound found) True.intro
  | moveAssign target source =>
      have ⟨connection, found, rest⟩ := Option.bind_eq_some_iff.mp taken
      have ⟨other, present, same⟩ := Option.map_eq_some_iff.mp rest
      unfold harmless
      dsimp only
      rw [← same, forall_found found]
      split
      · next self => exact iff_of_true sound fun different => absurd self different
      · next different =>
          rw [move_assign_sound_iff sound found present different]
          constructor
          · exact fun empty _ _ => empty
          · intro all
            exact all different (by rw [present]; rfl)
  | destroy id =>
      have ⟨connection, found, same⟩ := Option.map_eq_some_iff.mp taken
      unfold harmless
      dsimp only
      rw [← same, destroy_sound_iff ready sound found, forall_found found]
  | newChannel connection =>
      have ⟨_, _, same⟩ := Option.map_eq_some_iff.mp taken
      rw [← same]
      exact iff_of_true (channels_sound sound _) True.intro
  | openChannel id reply =>
      have ⟨found, present, same⟩ := Option.map_eq_some_iff.mp taken
      rw [← same]
      exact iff_of_true (open_sound ready sound present reply) True.intro
  | closeChannel id reply =>
      have ⟨found, present, same⟩ := Option.map_eq_some_iff.mp taken
      rw [← same]
      exact iff_of_true (close_sound ready sound present reply found.1 _) True.intro
  | operate id operation =>
      have ⟨found, present, same⟩ := Option.map_eq_some_iff.mp taken
      unfold harmless
      dsimp only
      rw [← same, forall_found present]
      exact operate_sound_iff ready sound present operation
  | setRpcTimeout id timeoutMs =>
      have ⟨found, present, same⟩ := Option.map_eq_some_iff.mp taken
      unfold harmless
      dsimp only
      rw [← same, forall_found present]
      exact timeout_sound_iff ready sound present timeoutMs
  | moveConstructChannel source =>
      have ⟨_, _, same⟩ := Option.map_eq_some_iff.mp taken
      rw [← same]
      exact iff_of_true (channels_sound sound _) True.intro
  | moveAssignChannel target source reply =>
      have ⟨found, present, rest⟩ := Option.bind_eq_some_iff.mp taken
      have ⟨other, _, same⟩ := Option.map_eq_some_iff.mp rest
      rw [← same]
      split
      · exact iff_of_true sound True.intro
      · exact iff_of_true (close_sound ready sound present reply other _) True.intro
  | destroyChannel id reply =>
      have ⟨found, present, same⟩ := Option.map_eq_some_iff.mp taken
      unfold harmless
      dsimp only
      rw [← same, forall_found present]
      exact destroy_channel_sound_iff ready sound present reply

theorem sound_started : Sound started := by
  apply (sound_iff started).mpr
  refine ⟨?_, rfl⟩
  intro handle
  rfl

/-- In every run the handles are in order exactly if every call is harmless. -/
theorem handles_sound_iff_harmless {trail : List (State × Action)} {last : State}
    (path : Path step started trail last) :
    (∀ state ∈ visited trail last, Sound state) ↔
      ∀ taken ∈ trail, harmless taken.1 taken.2 := by
  apply path_property_iff_good Ready Sound harmless _ sound_started _ _ path
  · intro connection impossible
    cases impossible
  · intro state action after ready taken
    exact ready_step ready taken
  · intro state action after ready sound taken
    exact sound_step_iff ready sound taken

/-! ## Two runs -/

/-- A server that comes up at the third attempt, a channel, and a connection that is moved. -/
def recovered : List Action :=
  [.construct, .init 0 (some .socketOpen), .reconnect 0 (some .login), .reconnect 0 none,
    .newChannel 0, .openChannel 0 .normal, .operate 0 .basicPublish, .operate 0 .queueDeclare,
    .closeChannel 0 .serverException, .destroyChannel 0 .normal, .moveConstruct 0, .construct,
    .moveAssign 2 1, .destroy 0, .destroy 1, .destroy 2]

theorem sound_recovered :
    ∃ trail last, Path step started trail last ∧ (∀ state ∈ visited trail last, Sound state) ∧
      last.library = ⟨3, [0, 1, 2], []⟩ := by
  have ⟨last, executed, checked⟩ := exec_checked step started recovered
    (fun last => decide (last.library = ⟨3, [0, 1, 2], []⟩)) (by decide)
  have path := path_of_exec executed
  refine ⟨_, last, path, ?_, of_decide_eq_true checked⟩
  exact (handles_sound_iff_harmless path).mpr (by decide)

/-- `init` succeeds after it has failed once: the first handle is never destroyed. -/
theorem repeated_init_loses_handle : ¬HandleLaw := by
  intro law
  have ⟨last, executed, checked⟩ := exec_checked step started
    [.construct, .init 0 (some .socketOpen), .init 0 none, .destroy 0]
    (fun last => decide (last = ⟨⟨2, [1], []⟩, [none], []⟩)) (by decide)
  have sound := law last (reachable_of_exec executed)
  rw [of_decide_eq_true checked] at sound
  exact absurd (sound.settled 0 (by decide)) (by decide)

end BackendComponents.Amqp.Handles
