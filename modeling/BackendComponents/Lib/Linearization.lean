import BackendComponents.Lib.Paths
import BackendComponents.Lib.Threads

/-!
# Atomic objects and linearization

An object whose operations take effect at one instant between their call and their
return. A history lists the calls and the returns. A run of the atomic machine leaves the
turns in the order in which the object served them, and a system whose steps are matched
by runs with the same history behaves, to its callers, like the atomic machine.
-/

namespace BackendComponents.Lib.Linearization

open BackendComponents.Lib.Paths
open BackendComponents.Lib.Threads

set_option autoImplicit false

variable {Object Op Reply Result : Type*}

inductive Status (Op Result : Type*)
  | called (op : Op)
  | served (result : Result)
  | returned (result : Result)

inductive Event (Op Result : Type*)
  | invoked (place : Nat) (op : Op)
  | responded (place : Nat) (result : Result)

structure Turn (Op Reply Result : Type*) where
  place : Nat
  op : Op
  reply : Reply
  result : Result

structure Machine (Object Op Reply Result : Type*) where
  object : Object
  statuses : List (Status Op Result)
  order : List (Turn Op Reply Result)

inductive Move (Op Reply : Type*)
  | call (op : Op)
  | serve (place : Nat) (reply : Reply)
  | leave (place : Nat)

section Machines

variable (serves : Object → Op → Reply → Option (Object × Result))

def serveAt (machine : Machine Object Op Reply Result) (place : Nat) (op : Op) (reply : Reply) :
    Option (Machine Object Op Reply Result) :=
  (serves machine.object op reply).map fun served =>
    { object := served.1
      statuses := machine.statuses.set place (.served served.2)
      order := machine.order ++ [⟨place, op, reply, served.2⟩] }

def machineStep (machine : Machine Object Op Reply Result) :
    Move Op Reply → Option (Machine Object Op Reply Result)
  | .call op => some { machine with statuses := machine.statuses ++ [.called op] }
  | .serve place reply =>
      match machine.statuses[place]? with
      | some (.called op) => serveAt serves machine place op reply
      | _ => none
  | .leave place =>
      match machine.statuses[place]? with
      | some (.served result) =>
          some { machine with statuses := machine.statuses.set place (.returned result) }
      | _ => none

def machineLabel (machine : Machine Object Op Reply Result) : Move Op Reply → Option (Event Op Result)
  | .call op => some (.invoked machine.statuses.length op)
  | .serve _ _ => none
  | .leave place =>
      match machine.statuses[place]? with
      | some (.served result) => some (.responded place result)
      | _ => none

def fresh (object : Object) : Machine Object Op Reply Result where
  object := object
  statuses := []
  order := []

/-- The object goes from one value to the other when it serves the turns one by one. -/
inductive Sequential (initial : Object) : List (Turn Op Reply Result) → Object → Prop
  | none : Sequential initial [] initial
  | next {order : List (Turn Op Reply Result)} {middle final : Object}
      {turn : Turn Op Reply Result} :
      Sequential initial order middle →
        serves middle turn.op turn.reply = some (final, turn.result) →
          Sequential initial (order ++ [turn]) final

end Machines

def history {State Action Label : Type*} (label : State → Action → Option Label)
    (trail : List (State × Action)) : List Label :=
  trail.filterMap fun taken => label taken.1 taken.2

theorem history_append {State Action Label : Type*} (label : State → Action → Option Label)
    (front back : List (State × Action)) :
    history label (front ++ back) = history label front ++ history label back := by
  simp [history]

theorem history_step {State Action Label : Type*} (label : State → Action → Option Label)
    (state : State) (action : Action) :
    history label [(state, action)] = (label state action).toList := by
  cases seen : label state action <;> simp [history, seen]

/-- `order` explains the history: served in that order one by one, the operations give the
results that were returned, each one is served once and after its call, and an operation
that was called after another one had returned is served after it. -/
structure Linearizes (serves : Object → Op → Reply → Option (Object × Result))
    (initial final : Object) (events : List (Event Op Result))
    (order : List (Turn Op Reply Result)) : Prop where
  sequential : Sequential serves initial order final
  once : (order.map Turn.place).Nodup
  invoked : ∀ turn ∈ order, .invoked turn.place turn.op ∈ events
  responded : ∀ place result, .responded place result ∈ events →
    ∃ turn ∈ order, turn.place = place ∧ turn.result = result
  realTime : ∀ place result later op,
    [Event.responded place result, .invoked later op].Sublist events →
      ∀ turn ∈ order, turn.place = later →
        ∃ earlier, earlier.place = place ∧ [earlier, turn].Sublist order

/-- What the statuses say of the order and the history. -/
structure Tracks (machine : Machine Object Op Reply Result) (events : List (Event Op Result)) :
    Prop where
  known : ∀ turn ∈ machine.order, turn.place < machine.statuses.length
  waiting : ∀ place op, machine.statuses[place]? = some (.called op) →
    .invoked place op ∈ events ∧ ∀ turn ∈ machine.order, turn.place ≠ place
  served : ∀ place result, machine.statuses[place]? = some (.served result) →
    ∃ turn ∈ machine.order, turn.place = place ∧ turn.result = result

section Runs

variable {serves : Object → Op → Reply → Option (Object × Result)}

inductive MachineMove (serves : Object → Op → Reply → Option (Object × Result))
    (machine : Machine Object Op Reply Result) :
    Move Op Reply → Machine Object Op Reply Result → Prop
  | calls (op : Op) :
      MachineMove serves machine (.call op)
        { machine with statuses := machine.statuses ++ [.called op] }
  | serves {place : Nat} {op : Op} {reply : Reply} {object : Object} {result : Result} :
      machine.statuses[place]? = some (.called op) →
        serves machine.object op reply = some (object, result) →
          MachineMove serves machine (.serve place reply)
            { object := object
              statuses := machine.statuses.set place (.served result)
              order := machine.order ++ [⟨place, op, reply, result⟩] }
  | leaves {place : Nat} {result : Result} :
      machine.statuses[place]? = some (.served result) →
        MachineMove serves machine (.leave place)
          { machine with statuses := machine.statuses.set place (.returned result) }

theorem machine_step_cases {machine after : Machine Object Op Reply Result} {move : Move Op Reply}
    (taken : machineStep serves machine move = some after) : MachineMove serves machine move after := by
  cases move with
  | call op =>
      obtain rfl := Option.some.inj taken
      exact .calls op
  | serve place reply =>
      dsimp only [machineStep] at taken
      split at taken
      · next op found =>
          obtain ⟨⟨object, result⟩, served, rfl⟩ := Option.map_eq_some_iff.mp taken
          exact .serves found served
      · cases taken
  | leave place =>
      dsimp only [machineStep] at taken
      split at taken
      · next result found =>
          obtain rfl := Option.some.inj taken
          exact .leaves found
      · cases taken

theorem serve_taken {machine : Machine Object Op Reply Result} {place : Nat} {op : Op}
    {reply : Reply} {object : Object} {result : Result}
    (found : machine.statuses[place]? = some (.called op))
    (served : serves machine.object op reply = some (object, result)) :
    machineStep serves machine (.serve place reply) =
      some { object := object
             statuses := machine.statuses.set place (.served result)
             order := machine.order ++ [⟨place, op, reply, result⟩] } := by
  simp only [machineStep, found, serveAt, served, Option.map_some]

theorem leave_taken {machine : Machine Object Op Reply Result} {place : Nat} {result : Result}
    (found : machine.statuses[place]? = some (.served result)) :
    machineStep serves machine (.leave place) =
      some { machine with statuses := machine.statuses.set place (.returned result) } := by
  simp only [machineStep, found]

theorem pair_sublist_snoc {Item : Type*} {first second last : Item} {items : List Item}
    (pair : [first, second].Sublist (items ++ [last])) :
    [first, second].Sublist items ∨ (first ∈ items ∧ second = last) := by
  obtain ⟨front, back, split, inFront, inBack⟩ := List.sublist_append_iff.mp pair
  cases back with
  | nil =>
      rw [List.append_nil] at split
      exact .inl (split ▸ inFront)
  | cons head rest =>
      have only := List.sublist_singleton.mp inBack
      simp only [List.cons_ne_nil, List.cons.injEq, false_or] at only
      obtain ⟨rfl, rfl⟩ := only
      have both : [first] = front ∧ second = head := by
        have shape : [first] ++ [second] = front ++ [head] := split
        obtain ⟨same, tail⟩ := List.append_inj' shape rfl
        exact ⟨same, List.singleton_inj.mp tail⟩
      obtain ⟨rfl, rfl⟩ := both
      exact .inr ⟨List.singleton_sublist.mp inFront, rfl⟩

theorem linearizes_call {initial : Object} {machine : Machine Object Op Reply Result}
    {events : List (Event Op Result)} (op : Op) (tracks : Tracks machine events)
    (explained : Linearizes serves initial machine.object events machine.order) :
    Linearizes serves initial machine.object
      (events ++ [.invoked machine.statuses.length op]) machine.order := by
  refine ⟨explained.sequential, explained.once, ?_, ?_, ?_⟩
  · intro turn member
    exact List.mem_append_left _ (explained.invoked turn member)
  · intro place result member
    rcases List.mem_append.mp member with old | new
    · exact explained.responded place result old
    · cases List.mem_singleton.mp new
  · intro place result later called pair turn member same
    rcases pair_sublist_snoc pair with old | ⟨_, last⟩
    · exact explained.realTime place result later called old turn member same
    · -- the operation that has just been called has not been served
      cases last
      have bound := tracks.known turn member
      omega

theorem tracks_call {machine : Machine Object Op Reply Result}
    {events : List (Event Op Result)} (op : Op) (tracks : Tracks machine events) :
    Tracks { machine with statuses := machine.statuses ++ [.called op] }
      (events ++ [.invoked machine.statuses.length op]) := by
  constructor
  · intro turn member
    have bound := tracks.known turn member
    rw [List.length_append]
    exact Nat.lt_add_right _ bound
  · intro place seen found
    rcases lookup_append found with old | ⟨rfl, same⟩
    · obtain ⟨there, free⟩ := tracks.waiting place seen old
      exact ⟨List.mem_append_left _ there, free⟩
    · cases same
      refine ⟨List.mem_append_right _ List.mem_cons_self, ?_⟩
      intro turn member equal
      have bound := tracks.known turn member
      omega
  · intro place result found
    rcases lookup_append found with old | ⟨_, same⟩
    · exact tracks.served place result old
    · cases same

theorem linearizes_serve {initial object : Object} {machine : Machine Object Op Reply Result}
    {events : List (Event Op Result)} {place : Nat} {op : Op} {reply : Reply} {result : Result}
    (waiting : Event.invoked place op ∈ events ∧ ∀ turn ∈ machine.order, turn.place ≠ place)
    (served : serves machine.object op reply = some (object, result))
    (explained : Linearizes serves initial machine.object events machine.order) :
    Linearizes serves initial object events (machine.order ++ [⟨place, op, reply, result⟩]) := by
  refine ⟨.next explained.sequential served, ?_, ?_, ?_, ?_⟩
  · rw [List.map_append]
    apply List.Nodup.append explained.once (List.nodup_singleton _)
    intro earlier member same
    obtain ⟨turn, there, equal⟩ := List.mem_map.mp member
    exact waiting.2 turn there (equal.trans (List.mem_singleton.mp same))
  · intro turn member
    rcases List.mem_append.mp member with old | new
    · exact explained.invoked turn old
    · rw [List.mem_singleton.mp new]
      exact waiting.1
  · intro other value member
    obtain ⟨turn, there, same⟩ := explained.responded other value member
    exact ⟨turn, List.mem_append_left _ there, same⟩
  · intro other value later called pair turn member same
    rcases List.mem_append.mp member with old | new
    · obtain ⟨earlier, equal, ordered⟩ :=
        explained.realTime other value later called pair turn old same
      exact ⟨earlier, equal, ordered.trans (List.sublist_append_left _ _)⟩
    · -- what has been returned has been served before
      have before := pair.subset List.mem_cons_self
      obtain ⟨earlier, there, equal, _⟩ := explained.responded other value before
      refine ⟨earlier, equal, ?_⟩
      rw [List.mem_singleton.mp new]
      exact (List.singleton_sublist.mpr there).append_right [_]

theorem tracks_serve {machine : Machine Object Op Reply Result} {events : List (Event Op Result)}
    {object : Object} {place : Nat} {op : Op} {reply : Reply} {result : Result}
    (found : machine.statuses[place]? = some (.called op)) (tracks : Tracks machine events) :
    Tracks
      { object := object
        statuses := machine.statuses.set place (.served result)
        order := machine.order ++ [⟨place, op, reply, result⟩] } events := by
  constructor
  · intro turn member
    rw [List.length_set]
    rcases List.mem_append.mp member with old | new
    · exact tracks.known turn old
    · rw [List.mem_singleton.mp new]
      exact lookup_bound found
  · intro other seen looked
    rcases lookup_move looked with ⟨_, same⟩ | ⟨different, old⟩
    · cases same
    · obtain ⟨there, free⟩ := tracks.waiting other seen old
      refine ⟨there, ?_⟩
      intro turn member
      rcases List.mem_append.mp member with earlier | new
      · exact free turn earlier
      · rw [List.mem_singleton.mp new]
        exact different.symm
  · intro other seen looked
    rcases lookup_move looked with ⟨rfl, same⟩ | ⟨_, old⟩
    · cases same
      exact ⟨_, List.mem_append_right _ List.mem_cons_self, rfl, rfl⟩
    · obtain ⟨turn, there, same⟩ := tracks.served other seen old
      exact ⟨turn, List.mem_append_left _ there, same⟩

theorem linearizes_leave {initial final : Object} {events : List (Event Op Result)}
    {order : List (Turn Op Reply Result)} {place : Nat} {result : Result}
    (served : ∃ turn ∈ order, turn.place = place ∧ turn.result = result)
    (explained : Linearizes serves initial final events order) :
    Linearizes serves initial final (events ++ [.responded place result]) order := by
  refine ⟨explained.sequential, explained.once, ?_, ?_, ?_⟩
  · intro turn member
    exact List.mem_append_left _ (explained.invoked turn member)
  · intro other value member
    rcases List.mem_append.mp member with old | new
    · exact explained.responded other value old
    · cases List.mem_singleton.mp new
      exact served
  · intro other value later called pair turn member same
    rcases pair_sublist_snoc pair with old | ⟨_, last⟩
    · exact explained.realTime other value later called old turn member same
    · cases last

theorem tracks_leave {machine : Machine Object Op Reply Result} {events : List (Event Op Result)}
    {place : Nat} {result : Result} (tracks : Tracks machine events) :
    Tracks { machine with statuses := machine.statuses.set place (.returned result) }
      (events ++ [.responded place result]) := by
  constructor
  · intro turn member
    rw [List.length_set]
    exact tracks.known turn member
  · intro other seen looked
    rcases lookup_move looked with ⟨_, same⟩ | ⟨_, old⟩
    · cases same
    · obtain ⟨there, free⟩ := tracks.waiting other seen old
      exact ⟨List.mem_append_left _ there, free⟩
  · intro other seen looked
    rcases lookup_move looked with ⟨_, same⟩ | ⟨_, old⟩
    · cases same
    · exact tracks.served other seen old

/-- The order in which the atomic machine serves explains its history. -/
theorem machine_linearizes {object : Object}
    {trail : List (Machine Object Op Reply Result × Move Op Reply)}
    {last : Machine Object Op Reply Result}
    (path : Path (machineStep serves) (fresh object) trail last) :
    Linearizes serves object last.object (history machineLabel trail) last.order := by
  have both : Linearizes serves object last.object (history machineLabel trail) last.order ∧
      Tracks last (history machineLabel trail) := by
    induction path with
    | here =>
        constructor
        · exact ⟨.none, List.nodup_nil, by simp [fresh], by simp [history], by simp [fresh]⟩
        · exact ⟨by simp [fresh], by simp [fresh], by simp [fresh]⟩
    | @next trail machine after move path taken ih =>
        obtain ⟨explained, tracks⟩ := ih
        rw [history_append, history_step]
        cases machine_step_cases taken with
        | calls op => exact ⟨linearizes_call op tracks explained, tracks_call op tracks⟩
        | @serves place op reply _ result found served =>
            have waiting := tracks.waiting place op found
            simp only [machineLabel, Option.toList_none, List.append_nil]
            exact ⟨linearizes_serve waiting served explained, tracks_serve found tracks⟩
        | @leaves place result found =>
            have served := tracks.served place result found
            simp only [machineLabel, found, Option.toList_some]
            exact ⟨linearizes_leave served explained, tracks_leave tracks⟩
  exact both.1

end Runs

section Simulations

variable {StateA ActionA StateB ActionB Label : Type*}

/-- A good step of the first system is matched by a run of the second one with the same
history. -/
structure HistorySimulation (stepA : StateA → ActionA → Option StateA)
    (stepB : StateB → ActionB → Option StateB) (labelA : StateA → ActionA → Option Label)
    (labelB : StateB → ActionB → Option Label) (good : StateA → ActionA → Prop)
    (related : StateA → StateB → Prop) : Prop where
  simulate : ∀ a b action after, related a b → good a action → stepA a action = some after →
    ∃ trail last, Path stepB b trail last ∧ related after last ∧
      history labelB trail = (labelA a action).toList

theorem matched_path {stepA : StateA → ActionA → Option StateA}
    {stepB : StateB → ActionB → Option StateB} {labelA : StateA → ActionA → Option Label}
    {labelB : StateB → ActionB → Option Label} {good : StateA → ActionA → Prop}
    {related : StateA → StateB → Prop}
    (simulation : HistorySimulation stepA stepB labelA labelB good related)
    {startA lastA : StateA} {startB : StateB} {trailA : List (StateA × ActionA)}
    (initial : related startA startB) (path : Path stepA startA trailA lastA)
    (guard : ∀ taken ∈ trailA, good taken.1 taken.2) :
    ∃ trailB lastB, Path stepB startB trailB lastB ∧ related lastA lastB ∧
      history labelB trailB = history labelA trailA := by
  induction path with
  | here => exact ⟨[], startB, .here, initial, rfl⟩
  | @next trail before after action path taken ih =>
      obtain ⟨front, middle, pathB, relatedB, same⟩ :=
        ih fun entry member => guard entry (List.mem_append_left _ member)
      have careful := guard (before, action) (List.mem_append_right _ List.mem_cons_self)
      obtain ⟨back, last, more, arrived, seen⟩ :=
        simulation.simulate before middle action after relatedB careful taken
      refine ⟨front ++ back, last, path_trans pathB more, arrived, ?_⟩
      rw [history_append, history_append, history_step, same, seen]

end Simulations

end BackendComponents.Lib.Linearization
