import BackendComponents.Guards.Classes
import Mathlib.Logic.Function.Basic

/-!
# How many channels a pool has

`channelPool.cpp` with the guards of `channelGuard.cpp` as objects that are moved and
destroyed. A channel is its number. A section under `m_mutex` is one step, and a channel
that a guard is giving back is the guard's until it is in the queue. A wait may end at any
time, so notifications are left out.

What the constructor could open is in the queue or with a guard, once. `size()` is what it
was asked for.
-/

namespace BackendComponents.Amqp.Conservation

open BackendComponents.Lib.Guards hiding State step
open BackendComponents.Lib.Ownership
open BackendComponents.Lib.Paths
open BackendComponents.Guards.Classes

set_option autoImplicit false

/-- `timed` in `wait_for` of `try_acquire`, else in `wait` of `acquire`. -/
structure Waiter (Pool : Type*) where
  thread : Nat
  pool : Pool
  timed : Bool
  deriving DecidableEq, Repr

structure PoolState where
  channelMax : Int32
  channels : List Nat
  deriving DecidableEq, Repr

structure State (Pool : Type*) where
  pools : Pool → PoolState
  guards : List (Option (ChannelGuard Pool))
  waiting : List (Waiter Pool)

/-- What is asked for, and which channels `open()` opens. -/
structure Setup where
  channelMax : Int32
  opens : Nat → Bool

/-- The rounds of `for (int i = 1; i < m_channel_max + 1; i++)`; the largest `int` has no
successor. -/
def rounds (channelMax : Int32) : Nat := ((channelMax + 1).toInt - 1).toNat

def openFrom (opens : Nat → Bool) (next : Nat) : Nat → List Nat
  | 0 => []
  | count + 1 =>
      if opens next then next :: openFrom opens (next + 1) count
      else openFrom opens (next + 1) count

def opened (setup : Setup) : List Nat := openFrom setup.opens 1 (rounds setup.channelMax)

variable {Pool : Type*}

def constructed (setups : Pool → Setup) : State Pool where
  pools pool := ⟨(setups pool).channelMax, opened (setups pool)⟩
  guards := []
  waiting := []

def available (state : State Pool) (pool : Pool) : Nat := (state.pools pool).channels.length

/-- The conversion to `size_t` of a `channel_max` that is not negative. -/
def size (state : State Pool) (pool : Pool) : Nat := (state.pools pool).channelMax.toNatClampNeg

inductive Action (Pool : Type*)
  | acquire (thread : Nat) (pool : Pool)
  | tryAcquire (thread : Nat) (pool : Pool)
  | wake (thread : Nat) (pool : Pool)
  | expire (thread : Nat) (pool : Pool)
  | moveConstruct (source : Nat)
  | moveAssign (target source : Nat)
  | release (id : Nat)
  | destroy (id : Nat)
  deriving DecidableEq, Repr

variable [DecidableEq Pool]

def push (pools : Pool → PoolState) (call : Call Pool) : Pool → PoolState :=
  match call.pool, call.resource with
  | some pool, some id =>
      Function.update pools pool { pools pool with channels := (pools pool).channels ++ [id] }
  | _, _ => pools

def giveBack (pools : Pool → PoolState) (calls : List (Call Pool)) : Pool → PoolState :=
  calls.foldl push pools

/-- The end of `acquire` and `try_acquire`: the front channel, or `otherwise`. -/
def takeFront (pool : Pool) (otherwise state : State Pool) : State Pool :=
  match (state.pools pool).channels with
  | [] => otherwise
  | id :: rest => { state with
      pools := Function.update state.pools pool { state.pools pool with channels := rest }
      guards := state.guards ++ [some (ChannelGuard.construct (some pool) (some id))] }

def block (waiter : Waiter Pool) (state : State Pool) : State Pool :=
  { state with waiting := state.waiting ++ [waiter] }

def unblock (waiter : Waiter Pool) (state : State Pool) : State Pool :=
  { state with waiting := state.waiting.filter fun other => other ≠ waiter }

def step (state : State Pool) : Action Pool → Option (State Pool)
  | .acquire thread pool =>
      if ∀ waiter ∈ state.waiting, waiter.thread ≠ thread then
        some (takeFront pool (block ⟨thread, pool, false⟩ state) state)
      else none
  | .tryAcquire thread pool =>
      if ∀ waiter ∈ state.waiting, waiter.thread ≠ thread then
        some (takeFront pool (block ⟨thread, pool, true⟩ state) state)
      else none
  | .wake thread pool =>
      if ⟨thread, pool, false⟩ ∈ state.waiting then
        some (takeFront pool state (unblock ⟨thread, pool, false⟩ state))
      else none
  | .expire thread pool =>
      if ⟨thread, pool, true⟩ ∈ state.waiting then
        let awake := unblock ⟨thread, pool, true⟩ state
        some (takeFront pool
          { awake with guards := awake.guards ++ [some (ChannelGuard.construct none none)] } awake)
      else none
  | .moveConstruct source =>
      match state.guards[source]? with
      | some (some guard) => some { state with
          guards := state.guards.set source (some (ChannelGuard.moveConstruct guard).2) ++
            [some (ChannelGuard.moveConstruct guard).1] }
      | _ => none
  | .moveAssign target source =>
      match state.guards[target]?, state.guards[source]? with
      | some (some this), some (some other) =>
          if target = source then some state
          else some { state with
            pools := giveBack state.pools (ChannelGuard.moveAssign this other).1
            guards := (state.guards.set target (some (ChannelGuard.moveAssign this other).2.1)).set
              source (some (ChannelGuard.moveAssign this other).2.2) }
      | _, _ => none
  | .release id =>
      match state.guards[id]? with
      | some (some guard) => some { state with
          pools := giveBack state.pools (ChannelGuard.release guard).1
          guards := state.guards.set id (some (ChannelGuard.release guard).2) }
      | _ => none
  | .destroy id =>
      match state.guards[id]? with
      | some (some guard) => some { state with
          pools := giveBack state.pools (ChannelGuard.destroy guard)
          guards := state.guards.set id none }
      | _ => none

def heldBy (pool : Pool) (guard : ChannelGuard Pool) : List Nat :=
  if guard.pool = some pool then guard.channel.toList else []

def inHand (pool : Pool) : Option (ChannelGuard Pool) → Bool
  | some guard => decide (guard.pool = some pool) && guard.channel.isSome
  | none => false

def inUse (state : State Pool) (pool : Pool) : Nat := state.guards.countP (inHand pool)

/-- Nothing of a pool is lost or in two hands, and whoever waits finds all of it in use. -/
structure Conserved (state : State Pool) : Prop where
  total : ∀ pool, available state pool + inUse state pool = size state pool
  apart : ∀ pool, ((state.pools pool).channels ++ holdings (heldBy pool) state.guards).Nodup
  blocking : ∀ thread pool action after, action = .acquire thread pool ∨ action = .wake thread pool →
    step state action = some after → ⟨thread, pool, false⟩ ∈ after.waiting →
      inUse state pool = size state pool

def ConservationLaw (Pool : Type) [DecidableEq Pool] : Prop :=
  ∀ (setups : Pool → Setup) (trail : List (State Pool × Action Pool)) (last : State Pool),
    (∀ pool, 0 ≤ (setups pool).channelMax.toInt) → Path step (constructed setups) trail last →
      ∀ state ∈ visited trail last, Conserved state

def allOpen (setup : Setup) : Prop :=
  setup.channelMax ≠ Int32.maxValue ∧
    ∀ id, 1 ≤ id → id ≤ setup.channelMax.toNatClampNeg → setup.opens id = true

/-! ## What the constructor opens -/

theorem open_from_succ (opens : Nat → Bool) (next count : Nat) :
    openFrom opens next (count + 1) =
      if opens next then next :: openFrom opens (next + 1) count
      else openFrom opens (next + 1) count :=
  rfl

theorem open_from_bounds {opens : Nat → Bool} {next count id : Nat}
    (member : id ∈ openFrom opens next count) : next ≤ id ∧ id < next + count := by
  induction count generalizing next with
  | zero => cases member
  | succ count ih =>
      rw [open_from_succ] at member
      split at member
      · rcases List.mem_cons.mp member with first | later
        · omega
        · have bounds := ih later
          omega
      · have bounds := ih member
        omega

theorem open_from_nodup (opens : Nat → Bool) (next count : Nat) :
    (openFrom opens next count).Nodup := by
  induction count generalizing next with
  | zero => exact List.nodup_nil
  | succ count ih =>
      rw [open_from_succ]
      split
      · apply List.nodup_cons.mpr
        constructor
        · intro again
          have bounds := open_from_bounds again
          omega
        · exact ih (next + 1)
      · exact ih (next + 1)

theorem open_from_length_le (opens : Nat → Bool) (next count : Nat) :
    (openFrom opens next count).length ≤ count := by
  induction count generalizing next with
  | zero => exact Nat.le_refl 0
  | succ count ih =>
      have later := ih (next + 1)
      rw [open_from_succ]
      split
      · rw [List.length_cons]
        omega
      · omega

theorem open_from_length_iff (opens : Nat → Bool) (next count : Nat) :
    (openFrom opens next count).length = count ↔
      ∀ id, next ≤ id → id < next + count → opens id = true := by
  induction count generalizing next with
  | zero =>
      apply iff_of_true rfl
      intro id from_next before
      omega
  | succ count ih =>
      have split_first : (∀ id, next ≤ id → id < next + (count + 1) → opens id = true) ↔
          opens next = true ∧ ∀ id, next + 1 ≤ id → id < next + 1 + count → opens id = true := by
        constructor
        · intro all
          exact ⟨all next (Nat.le_refl next) (by omega), fun id from_next before =>
            all id (by omega) (by omega)⟩
        · intro both id from_next before
          by_cases first : id = next
          · rw [first]
            exact both.1
          · exact both.2 id (by omega) (by omega)
      rw [split_first, ← ih (next + 1)]
      have few := open_from_length_le opens (next + 1) count
      rw [open_from_succ]
      cases opens next with
      | true =>
          rw [if_pos rfl, List.length_cons]
          simp only [true_and]
          omega
      | false =>
          rw [if_neg Bool.false_ne_true]
          simp only [Bool.false_eq_true, false_and, iff_false]
          omega

theorem rounds_eq {channelMax : Int32} (requested : 0 ≤ channelMax.toInt)
    (small : channelMax ≠ Int32.maxValue) : rounds channelMax = channelMax.toNatClampNeg := by
  have below := channelMax.toInt_lt
  have other : channelMax.toInt ≠ Int32.maxValue.toInt := fun same => small (Int32.toInt.inj same)
  rw [Int32.toInt_maxValue] at other
  have successor : (channelMax + 1).toInt = channelMax.toInt + 1 := by
    rw [Int32.toInt_add, Int32.toInt_one]
    apply Int.bmod_eq_of_le
    · omega
    · omega
  unfold rounds
  rw [successor, Int.add_sub_cancel, Int32.toNat_toInt]

theorem opened_length_iff {setup : Setup} (requested : 0 ≤ setup.channelMax.toInt) :
    (opened setup).length = setup.channelMax.toNatClampNeg ↔ allOpen setup := by
  unfold opened allOpen
  by_cases small : setup.channelMax = Int32.maxValue
  · have nothing : rounds setup.channelMax = 0 := by
      rw [small]
      rfl
    rw [nothing]
    apply iff_of_false
    · rw [small]
      intro equal
      cases equal
    · exact fun both => both.1 small
  · rw [rounds_eq requested small, open_from_length_iff]
    constructor
    · intro all
      exact ⟨small, fun id first bound => all id first (by omega)⟩
    · intro both id first bound
      exact both.2 id first (by omega)

/-! ## Guards -/

/-- A guard with a channel can give it back. -/
def Sound (guard : ChannelGuard Pool) : Prop :=
  guard.channel.isSome = true → guard.released = false ∧ guard.pool.isSome = true

theorem held_none {guard : ChannelGuard Pool} (empty : guard.channel = none) (pool : Pool) :
    heldBy pool guard = [] := by
  unfold heldBy
  rw [empty]
  exact ite_self []

theorem push_keeps (pools : Pool → PoolState) (call : Call Pool) (pool : Pool) :
    (push pools call pool).channelMax = (pools pool).channelMax := by
  have ⟨owner, resource⟩ := call
  cases owner with
  | none => rfl
  | some target =>
      cases resource with
      | none => rfl
      | some id =>
          unfold push
          dsimp only
          by_cases same : pool = target
          · rw [same, Function.update_self]
          · rw [Function.update_of_ne same]

theorem give_back_keeps (pools : Pool → PoolState) (calls : List (Call Pool)) (pool : Pool) :
    (giveBack pools calls pool).channelMax = (pools pool).channelMax := by
  induction calls generalizing pools with
  | nil => rfl
  | cons call rest ih => exact (ih (push pools call)).trans (push_keeps pools call pool)

theorem push_count (pools : Pool → PoolState) (target pool : Pool) (channel id : Nat) :
    (push pools ⟨some target, some channel⟩ pool).channels.count id =
      (pools pool).channels.count id + (heldBy pool ⟨some target, some channel, false⟩).count id := by
  unfold push heldBy
  dsimp only
  by_cases same : pool = target
  · rw [same, Function.update_self, if_pos rfl, List.count_append]
    rfl
  · rw [Function.update_of_ne same, if_neg fun equal => same (Option.some.inj equal).symm,
      List.count_nil, Nat.add_zero]

theorem release_gives {guard : ChannelGuard Pool} (sound : Sound guard) :
    (ChannelGuard.release guard).2.channel = none ∧
      ∀ (pools : Pool → PoolState) (pool : Pool) (id : Nat),
        (giveBack pools (ChannelGuard.release guard).1 pool).channels.count id =
          (pools pool).channels.count id + (heldBy pool guard).count id := by
  have ⟨target, channel, released⟩ := guard
  cases channel with
  | none =>
      have nothing : ChannelGuard.release ⟨target, none, released⟩ =
          ([], ⟨target, none, released⟩) := if_neg fun all => Bool.false_ne_true all.2.1
      rw [nothing]
      constructor
      · rfl
      · intro pools pool id
        rw [held_none rfl, List.count_nil]
        rfl
  | some held =>
      have ⟨unreleased, present⟩ := sound rfl
      have ⟨owner, same⟩ := Option.isSome_iff_exists.mp present
      dsimp only at unreleased same
      rw [unreleased, same]
      exact ⟨rfl, fun pools pool id => push_count pools owner pool held id⟩

theorem holding_length (pool : Pool) (slot : Option (ChannelGuard Pool)) :
    (holding (heldBy pool) slot).length = if inHand pool slot then 1 else 0 := by
  cases slot with
  | none => rfl
  | some guard =>
      by_cases same : guard.pool = some pool
      · have mine : inHand pool (some guard) = guard.channel.isSome := by
          simp only [inHand, same, decide_true, Bool.true_and]
        have held : holding (heldBy pool) (some guard) = guard.channel.toList := if_pos same
        rw [mine, held]
        cases guard.channel with
        | none => rfl
        | some channel => rfl
      · have other : inHand pool (some guard) = false := by
          simp only [inHand, same, decide_false, Bool.false_and]
        have held : holding (heldBy pool) (some guard) = [] := if_neg same
        rw [other, held]
        rfl

theorem in_use_eq (state : State Pool) (pool : Pool) :
    inUse state pool = (holdings (heldBy pool) state.guards).length := by
  unfold inUse holdings
  induction state.guards with
  | nil => rfl
  | cons slot rest ih =>
      rw [List.countP_cons, List.flatMap_cons, List.length_append, ih, holding_length]
      exact Nat.add_comm _ _

/-! ## Runs -/

/-- Each channel of `initial` is in the queue of its pool or with one guard. -/
structure Placed (setups : Pool → Setup) (state : State Pool) : Prop where
  sound : ∀ guard, some guard ∈ state.guards → Sound guard
  placed : ∀ pool id, (state.pools pool).channels.count id +
    (holdings (heldBy pool) state.guards).count id = (opened (setups pool)).count id
  asked : ∀ pool, (state.pools pool).channelMax = (setups pool).channelMax

theorem placed_constructed (setups : Pool → Setup) : Placed setups (constructed setups) := by
  constructor
  · intro guard impossible
    cases impossible
  · intro pool id
    exact Nat.add_zero _
  · intro pool
    rfl

omit [DecidableEq Pool] in
theorem sound_append {guards : List (Option (ChannelGuard Pool))} {guard : ChannelGuard Pool}
    (sound : ∀ guard, some guard ∈ guards → Sound guard) (new : Sound guard) :
    ∀ other, some other ∈ guards ++ [some guard] → Sound other := by
  intro other member
  rcases List.mem_append.mp member with old | last
  · exact sound other old
  · rw [Option.some.inj (List.mem_singleton.mp last)]
    exact new

omit [DecidableEq Pool] in
theorem sound_set {guards : List (Option (ChannelGuard Pool))} {slot : Option (ChannelGuard Pool)}
    (sound : ∀ guard, some guard ∈ guards → Sound guard) (id : Nat)
    (new : ∀ guard, slot = some guard → Sound guard) :
    ∀ other, some other ∈ guards.set id slot → Sound other := by
  intro other member
  rcases List.mem_or_eq_of_mem_set member with old | same
  · exact sound other old
  · exact new other same.symm

theorem placed_waiting {setups : Pool → Setup} {state : State Pool} (placed : Placed setups state)
    (waiting : List (Waiter Pool)) : Placed setups { state with waiting := waiting } :=
  ⟨placed.sound, placed.placed, placed.asked⟩

theorem placed_refuse {setups : Pool → Setup} {state : State Pool}
    (placed : Placed setups state) : Placed setups
      { state with guards := state.guards ++ [some (ChannelGuard.construct none none)] } := by
  constructor
  · apply sound_append placed.sound
    intro impossible
    cases impossible
  · intro pool id
    rw [holdings_append]
    exact placed.placed pool id
  · exact placed.asked

theorem placed_take {setups : Pool → Setup} {otherwise state : State Pool}
    (placed : Placed setups state) (refused : Placed setups otherwise) (pool : Pool) :
    Placed setups (takeFront pool otherwise state) := by
  unfold takeFront
  cases front : (state.pools pool).channels with
  | nil => exact refused
  | cons channel rest =>
      constructor
      · apply sound_append placed.sound
        intro _
        exact ⟨rfl, rfl⟩
      · intro other id
        have before := placed.placed other id
        have mine : holding (heldBy other)
            (some (ChannelGuard.construct (some pool) (some channel))) =
              if some pool = some other then [channel] else [] := rfl
        dsimp only
        rw [holdings_append, mine]
        by_cases same : other = pool
        · rw [same] at before ⊢
          rw [front, List.count_cons] at before
          rw [Function.update_self, if_pos rfl, List.count_singleton]
          dsimp only
          omega
        · rw [Function.update_of_ne same, if_neg fun equal => same (Option.some.inj equal).symm]
          exact before
      · intro other
        by_cases same : other = pool
        · rw [same]
          dsimp only
          rw [Function.update_self]
          exact placed.asked pool
        · dsimp only
          rw [Function.update_of_ne same]
          exact placed.asked other

theorem placed_move_construct {setups : Pool → Setup} {state : State Pool}
    (placed : Placed setups state) {source : Nat} {guard : ChannelGuard Pool}
    (found : state.guards[source]? = some (some guard)) :
    Placed setups { state with
      guards := state.guards.set source (some (ChannelGuard.moveConstruct guard).2) ++
        [some (ChannelGuard.moveConstruct guard).1] } := by
  constructor
  · apply sound_append
    · apply sound_set placed.sound
      intro emptied same
      rw [← Option.some.inj same]
      intro impossible
      cases impossible
    · exact placed.sound guard (List.mem_of_getElem? found)
  · intro pool id
    have moved := holdings_set (heldBy pool) found (some (ChannelGuard.moveConstruct guard).2) id
    have emptied : holding (heldBy pool) (some (ChannelGuard.moveConstruct guard).2) = [] := rfl
    have taken : holding (heldBy pool) (some (ChannelGuard.moveConstruct guard).1) =
        holding (heldBy pool) (some guard) := rfl
    have before := placed.placed pool id
    rw [emptied, List.count_nil] at moved
    dsimp only
    rw [holdings_append, taken]
    omega
  · exact placed.asked

theorem placed_give {setups : Pool → Setup} {state : State Pool} (placed : Placed setups state)
    {id : Nat} {guard : ChannelGuard Pool} (found : state.guards[id]? = some (some guard))
    {slot : Option (ChannelGuard Pool)} (empty : ∀ guard, slot = some guard → guard.channel = none) :
    Placed setups { state with
      pools := giveBack state.pools (ChannelGuard.release guard).1
      guards := state.guards.set id slot } := by
  have gives := (release_gives (placed.sound guard (List.mem_of_getElem? found))).2 state.pools
  constructor
  · apply sound_set placed.sound
    intro other same impossible
    rw [empty other same] at impossible
    cases impossible
  · intro pool channel
    have given := gives pool channel
    have moved := holdings_set (heldBy pool) found slot channel
    have nothing : holding (heldBy pool) slot = [] := by
      cases slot with
      | none => rfl
      | some other => exact held_none (empty other rfl) pool
    have had : holding (heldBy pool) (some guard) = heldBy pool guard := rfl
    have before := placed.placed pool channel
    rw [nothing, List.count_nil, had] at moved
    dsimp only
    omega
  · intro pool
    exact (give_back_keeps _ _ pool).trans (placed.asked pool)

theorem placed_assign {setups : Pool → Setup} {state : State Pool} (placed : Placed setups state)
    {target source : Nat} {this other : ChannelGuard Pool}
    (found : state.guards[target]? = some (some this)) (empty : this.channel = none)
    (present : state.guards[source]? = some (some other)) (different : target ≠ source) :
    Placed setups { state with
      guards := (state.guards.set target (some (ChannelGuard.moveAssign this other).2.1)).set
        source (some (ChannelGuard.moveAssign this other).2.2) } := by
  have still : (state.guards.set target (some (ChannelGuard.moveAssign this other).2.1))[source]? =
      some (some other) := by
    rw [List.getElem?_set_ne different]
    exact present
  constructor
  · apply sound_set
    · apply sound_set placed.sound
      intro assigned same
      rw [← Option.some.inj same]
      exact placed.sound other (List.mem_of_getElem? present)
    · intro emptied same
      rw [← Option.some.inj same]
      intro impossible
      cases impossible
  · intro pool id
    have first := holdings_set (heldBy pool) found
      (some (ChannelGuard.moveAssign this other).2.1) id
    have second := holdings_set (heldBy pool) still
      (some (ChannelGuard.moveAssign this other).2.2) id
    have nothing : holding (heldBy pool) (some this) = [] := held_none empty pool
    have emptied : holding (heldBy pool) (some (ChannelGuard.moveAssign this other).2.2) = [] := rfl
    have taken : holding (heldBy pool) (some (ChannelGuard.moveAssign this other).2.1) =
        holding (heldBy pool) (some other) := rfl
    have before := placed.placed pool id
    rw [nothing, List.count_nil, taken] at first
    rw [emptied, List.count_nil] at second
    dsimp only
    omega
  · exact placed.asked

theorem placed_move_assign {setups : Pool → Setup} {state : State Pool}
    (placed : Placed setups state) {target source : Nat} {this other : ChannelGuard Pool}
    (found : state.guards[target]? = some (some this))
    (present : state.guards[source]? = some (some other)) (different : target ≠ source) :
    Placed setups { state with
      pools := giveBack state.pools (ChannelGuard.moveAssign this other).1
      guards := (state.guards.set target (some (ChannelGuard.moveAssign this other).2.1)).set
        source (some (ChannelGuard.moveAssign this other).2.2) } := by
  have bound : target < state.guards.length := (List.getElem?_eq_some_iff.mp found).1
  have empty := (release_gives (placed.sound this (List.mem_of_getElem? found))).1
  have released : Placed setups { state with
      pools := giveBack state.pools (ChannelGuard.release this).1
      guards := state.guards.set target (some (ChannelGuard.release this).2) } := by
    apply placed_give placed found
    intro guard same
    rw [← Option.some.inj same]
    exact empty
  have whole := placed_assign released (List.getElem?_set_self bound) empty
    ((List.getElem?_set_ne different).trans present) different
  dsimp only at whole
  rw [List.set_set] at whole
  exact whole

theorem placed_step {setups : Pool → Setup} {state after : State Pool} {action : Action Pool}
    (placed : Placed setups state) (taken : step state action = some after) :
    Placed setups after := by
  cases action with
  | acquire thread pool =>
      unfold step at taken
      dsimp only at taken
      split at taken
      · rw [← Option.some.inj taken]
        exact placed_take placed (placed_waiting placed _) pool
      · cases taken
  | tryAcquire thread pool =>
      unfold step at taken
      dsimp only at taken
      split at taken
      · rw [← Option.some.inj taken]
        exact placed_take placed (placed_waiting placed _) pool
      · cases taken
  | wake thread pool =>
      unfold step at taken
      dsimp only at taken
      split at taken
      · rw [← Option.some.inj taken]
        exact placed_take (placed_waiting placed _) placed pool
      · cases taken
  | expire thread pool =>
      unfold step at taken
      dsimp only at taken
      split at taken
      · rw [← Option.some.inj taken]
        have awake := placed_waiting placed
          (unblock ⟨thread, pool, true⟩ state).waiting
        exact placed_take awake (placed_refuse awake) pool
      · cases taken
  | moveConstruct source =>
      unfold step at taken
      dsimp only at taken
      split at taken
      · next guard found =>
          rw [← Option.some.inj taken]
          exact placed_move_construct placed found
      · cases taken
  | moveAssign target source =>
      unfold step at taken
      dsimp only at taken
      split at taken
      · next this other found present =>
          split at taken
          · rw [← Option.some.inj taken]
            exact placed
          · next different =>
              rw [← Option.some.inj taken]
              exact placed_move_assign placed found present different
      · cases taken
  | release id =>
      unfold step at taken
      dsimp only at taken
      split at taken
      · next guard found =>
          rw [← Option.some.inj taken]
          apply placed_give placed found
          intro other same
          rw [← Option.some.inj same]
          exact (release_gives (placed.sound guard (List.mem_of_getElem? found))).1
      · cases taken
  | destroy id =>
      unfold step at taken
      dsimp only at taken
      split at taken
      · next guard found =>
          rw [← Option.some.inj taken]
          apply placed_give placed found
          intro other impossible
          cases impossible
      · cases taken

theorem placed_perm {setups : Pool → Setup} {state : State Pool} (placed : Placed setups state)
    (pool : Pool) : ((state.pools pool).channels ++ holdings (heldBy pool) state.guards).Perm
      (opened (setups pool)) := by
  apply List.perm_iff_count.mpr
  intro id
  rw [List.count_append]
  exact placed.placed pool id

theorem placed_total {setups : Pool → Setup} {state : State Pool} (placed : Placed setups state)
    (pool : Pool) : available state pool + inUse state pool = (opened (setups pool)).length := by
  have lengths := (placed_perm placed pool).length_eq
  rw [List.length_append] at lengths
  rw [in_use_eq]
  exact lengths

theorem blocked_empty {state after : State Pool} {thread : Nat} {pool : Pool}
    {action : Action Pool} (waits : action = .acquire thread pool ∨ action = .wake thread pool)
    (taken : step state action = some after) (blocked : ⟨thread, pool, false⟩ ∈ after.waiting) :
    available state pool = 0 := by
  unfold available
  rcases waits with rfl | rfl
  · unfold step at taken
    dsimp only at taken
    split at taken
    · next free =>
        rw [← Option.some.inj taken] at blocked
        unfold takeFront at blocked
        split at blocked
        · next empty => rw [empty, List.length_nil]
        · exact absurd rfl (free _ blocked)
    · cases taken
  · unfold step at taken
    dsimp only at taken
    split at taken
    · rw [← Option.some.inj taken] at blocked
      unfold takeFront at blocked
      split at blocked
      · next empty =>
          have same : (state.pools pool).channels = [] := empty
          rw [same, List.length_nil]
      · exact absurd rfl (of_decide_eq_true (List.mem_filter.mp blocked).2)
    · cases taken

theorem conserved_iff {setups : Pool → Setup} {state : State Pool} (placed : Placed setups state)
    (requested : ∀ pool, 0 ≤ (setups pool).channelMax.toInt) :
    Conserved state ↔ ∀ pool, allOpen (setups pool) := by
  have sized (pool : Pool) : size state pool = (setups pool).channelMax.toNatClampNeg := by
    unfold size
    rw [placed.asked]
  constructor
  · intro conserved pool
    apply (opened_length_iff (requested pool)).mp
    rw [← placed_total placed pool, conserved.total pool, sized]
  · intro all
    have total (pool : Pool) : available state pool + inUse state pool = size state pool := by
      rw [placed_total placed pool, sized]
      exact (opened_length_iff (requested pool)).mpr (all pool)
    constructor
    · exact total
    · intro pool
      exact (placed_perm placed pool).nodup_iff.mpr (open_from_nodup _ _ _)
    · intro thread pool action after waits taken blocked
      have sum := total pool
      rw [blocked_empty waits taken blocked, Nat.zero_add] at sum
      exact sum

/-- The pools are conserved in every state of a run exactly if every channel asked for was
opened. -/
theorem conserved_iff_all_open {setups : Pool → Setup}
    (requested : ∀ pool, 0 ≤ (setups pool).channelMax.toInt)
    {trail : List (State Pool × Action Pool)} {last : State Pool}
    (path : Path step (constructed setups) trail last) :
    (∀ state ∈ visited trail last, Conserved state) ↔ ∀ pool, allOpen (setups pool) := by
  have placed (state : State Pool) (member : state ∈ visited trail last) : Placed setups state :=
    reachable_invariant (Placed setups) (placed_constructed setups)
      (fun _ _ _ placed taken => placed_step placed taken) (visited_reachable path member)
  constructor
  · intro conserved
    have ended : last ∈ visited trail last := by simp [visited]
    exact (conserved_iff (placed last ended) requested).mp (conserved last ended)
  · intro all state member
    exact (conserved_iff (placed state member) requested).mpr all

/-! ## Two pools -/

/-- Two channels are asked for, and those up to `last` are opened. -/
def twoChannels (last : Nat) : Setup := ⟨2, fun id => decide (id ≤ last)⟩

/-- Both channels are in use, one of them by a guard that has taken over another one. -/
theorem conserved_two_in_use :
    ∃ trail last, Path step (constructed fun _ : Unit => twoChannels 2) trail last ∧
      (∀ state ∈ visited trail last, Conserved state) ∧ inUse last () = 2 ∧
      last.waiting = [⟨0, (), false⟩] := by
  have ⟨last, executed, checked⟩ := exec_checked step (constructed fun _ : Unit => twoChannels 2)
    [.acquire 0 (), .acquire 1 (), .moveAssign 0 1, .tryAcquire 2 (), .acquire 0 ()]
    (fun last => decide (inUse last () = 2 ∧ last.waiting = [⟨0, (), false⟩])) (by decide)
  have path := path_of_exec executed
  refine ⟨_, last, path, ?_, of_decide_eq_true checked⟩
  apply (conserved_iff_all_open (fun _ => by decide) path).mpr
  intro _
  exact ⟨by decide, fun id _ bound => decide_eq_true bound⟩

/-- The second channel cannot be opened: `acquire` blocks with one channel in use. -/
theorem unopened_channel_missed : ¬ConservationLaw Unit := by
  intro law
  have ⟨last, executed, checked⟩ := exec_checked step (constructed fun _ : Unit => twoChannels 1)
    [.acquire 0 (), .acquire 1 ()]
    (fun last => decide (last.waiting = [⟨1, (), false⟩] ∧
      available last () + inUse last () ≠ size last ())) (by decide)
  have conserved := law (fun _ => twoChannels 1) _ last (fun _ => by decide)
    (path_of_exec executed) last (by simp [visited])
  exact (of_decide_eq_true checked).2 (conserved.total ())

end BackendComponents.Amqp.Conservation
