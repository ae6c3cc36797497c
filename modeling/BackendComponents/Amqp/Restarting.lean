import BackendComponents.Amqp.ConsumerMoves
import BackendComponents.Lib.Paths
import BackendComponents.Lib.Threads

/-!
# Starting a consumer again

`start`, `stop`, `join` and the destructor of `consumer.cpp`, called by one thread, beside
the loops that `start` has begun. `m_running` says nothing about `m_thread`: after a stop,
or after a loop that has ended by itself, the flag is false and the thread is not joined.
To assign to such an `m_thread` terminates the process. A thread can always be created.
-/

namespace BackendComponents.Amqp.Restarting

open BackendComponents.Lib.Paths
open BackendComponents.Lib.Threads
open BackendComponents.Amqp.Channels (Reply)
open BackendComponents.Amqp.Consumers (Connection Consumer ConsumerPc consumeLoop)
open BackendComponents.Amqp.ConsumerMoves hiding Move move_of_step

set_option autoImplicit false

/-- Where `consume_loop` is; `failed` is before the error handler. -/
inductive LoopPoint
  | acquire
  | consume
  | failed
  | testRunning
  | receive
  | cancel
  | releaseGuard
  | ended
  deriving DecidableEq, Repr

/-- One step of the loop, with `m_running` before and after it. `answer` is whether the
guard is not empty, or whether `basic_consume` succeeds. -/
def loopStep (answer running : Bool) : LoopPoint → Option (Bool × LoopPoint)
  | .acquire => some (running, if answer then .consume else .failed)
  | .consume => some (running, if answer then .testRunning else .failed)
  | .failed => some (false, .releaseGuard)
  | .testRunning => some (running, if running then .receive else .cancel)
  | .receive => some (running, .testRunning)
  | .cancel => some (running, .releaseGuard)
  | .releaseGuard => some (running, .ended)
  | .ended => none

/-- Where the controlling thread is: in `start` behind its tests, before the assignment to
`m_thread`, or waiting in `join`. -/
inductive Point
  | idle
  | storing
  | assigning
  | joining (destroying : Bool)
  | destroyed
  deriving DecidableEq, Repr

/-- `thread` is the loop that `m_thread` is joinable with; `loops` are all that have been
begun. -/
structure State where
  queue : String
  running : Bool
  thread : Option Nat
  loops : List LoopPoint
  point : Point
  terminated : Bool
  deriving DecidableEq, Repr

def constructed : State where
  queue := ""
  running := false
  thread := none
  loops := []
  point := .idle
  terminated := false

inductive Action
  | setQueue (queue : String)
  | start
  | store
  | assign
  | stop
  | join
  | joined
  | isRunning
  | destroy
  | loop (id : Nat) (answer : Bool)
  deriving DecidableEq, Repr

def control (state : State) : Point → Action → Option State
  | .idle, .setQueue queue => some { state with queue := queue }
  | .idle, .start =>
      if state.running = true ∨ state.queue = "" then some state
      else some { state with point := .storing }
  | .storing, .store => some { state with running := true, point := .assigning }
  | .assigning, .assign =>
      let begun := { state with loops := state.loops ++ [LoopPoint.acquire], point := .idle }
      some (match state.thread with
        | some _ => { begun with terminated := true }
        | none => { begun with thread := some state.loops.length })
  | .idle, .stop => some { state with running := false }
  | .idle, .join =>
      match state.thread with
      | some _ => some { state with point := .joining false }
      | none => some state
  | .joining destroying, .joined =>
      if state.thread.bind (fun id => state.loops[id]?) = some .ended then
        some { state with thread := none, point := if destroying then .destroyed else .idle }
      else none
  | .idle, .isRunning => some state
  | .idle, .destroy =>
      match state.thread with
      | some _ => some { state with running := false, point := .joining true }
      | none => some { state with running := false, point := .destroyed }
  | _, _ => none

def step (state : State) (action : Action) : Option State :=
  if state.terminated then none
  else
    match action with
    | .loop id answer =>
        state.loops[id]?.bind fun point =>
          (loopStep answer state.running point).map fun result =>
            { state with running := result.1, loops := state.loops.set id result.2 }
    | other => control state state.point other

def isAlive (point : LoopPoint) : Bool := decide (point ≠ .ended)

def alive (state : State) : Nat := state.loops.countP isAlive

def joins : Action → Bool
  | .join | .joined | .destroy => true
  | _ => false

/-- There is one loop at most, and none after a `join`; what `is_running` returns is seen
between two calls. -/
structure Orderly (_ : State) (action : Action) (after : State) : Prop where
  assigned : after.terminated = false
  single : alive after ≤ 1
  joined : joins action = true → after.point = .idle ∨ after.point = .destroyed → alive after = 0
  stopped : after.point = .idle → alive after = 0 → after.running = false

def RestartLaw : Prop :=
  ∀ (trail : List (State × Action)) (last : State), Path step constructed trail last →
    Obeyed step Orderly trail

def joinedBefore (state : State) : Action → Prop
  | .assign => state.thread = none
  | _ => True

instance (state : State) (action : Action) : Decidable (joinedBefore state action) :=
  match action with
  | .assign => inferInstanceAs (Decidable (state.thread = none))
  | .setQueue _ | .start | .store | .stop | .join | .joined | .isRunning | .destroy
  | .loop _ _ => inferInstanceAs (Decidable True)

/-! ## The loop -/

def pointOf : ConsumerPc → LoopPoint
  | .acquire => .acquire
  | .lockQos _ | .lockConsume _ => .consume
  | .testRunning _ => .testRunning
  | .lockReceive _ | .receiving _ | .handling _ _ | .lockAck _ _ => .receive
  | .lockCancel _ => .cancel
  | .releaseGuard _ => .releaseGuard
  | .ended => .ended

def loopRun (here : Bool × LoopPoint) (answer : Bool) : Option (Bool × LoopPoint) :=
  loopStep answer here.1 here.2

theorem loop_once {here after : Bool × LoopPoint} (answer : Bool)
    (taken : loopRun here answer = some after) : ∃ trail, Path loopRun here trail after :=
  ⟨_, path_step taken⟩

theorem consume_loop_runs {id : Nat} {reply : Reply} {connection : Connection}
    {consumer : Consumer} {result : Connection × Consumer}
    (moved : consumeLoop id reply connection consumer = some result) :
    ∃ trail, Path loopRun (consumer.running, pointOf consumer.pc) trail
      (result.2.running, pointOf result.2.pc) := by
  have move := (consumer_move_of_loop moved).2
  generalize consumer.running = running, consumer.pc = pc, result.1 = after,
    result.2.running = runningAfter, result.2.pc = pcAfter at move
  cases move with
  | acquires taken =>
      split
      · exact loop_once true rfl
      · exact loop_once true rfl
  | setsQos free => exact ⟨[], .here⟩
  | subscribes free answered => exact loop_once true rfl
  | @isRefused running channel free failed =>
      have failing : loopRun (running, .consume) false = some (running, .failed) := rfl
      have leaving : loopRun (running, .failed) false = some (false, .releaseGuard) := rfl
      exact ⟨_, .next (path_step failing) leaving⟩
  | continues => exact loop_once true rfl
  | leavesLoop => exact loop_once true rfl
  | enters free => exact ⟨[], .here⟩
  | receives answered front => exact ⟨[], .here⟩
  | receivesNothing failed bounded => exact loop_once false rfl
  | returnsAuto auto => exact loop_once true rfl
  | returnsManual manual => exact ⟨[], .here⟩
  | acknowledges free => exact loop_once true rfl
  | cancels free => exact loop_once true rfl
  | givesBack => exact loop_once true rfl

/-- A loop that is past its test or has failed leaves the flag false. -/
def serving (point : LoopPoint) : Bool :=
  match point with
  | .acquire | .consume | .failed | .testRunning | .receive => true
  | .cancel | .releaseGuard | .ended => false

theorem loop_serving {answer running runningAfter : Bool} {point after : LoopPoint}
    (stepped : loopStep answer running point = some (runningAfter, after))
    (set : runningAfter = true) : running = true ∧ (serving point = true → serving after = true) := by
  rw [set] at stepped
  cases point with
  | acquire =>
      have ⟨same, here⟩ := Prod.mk.inj (Option.some.inj stepped)
      rw [← here]
      refine ⟨same, fun _ => ?_⟩
      split
      · rfl
      · rfl
  | consume =>
      have ⟨same, here⟩ := Prod.mk.inj (Option.some.inj stepped)
      rw [← here]
      refine ⟨same, fun _ => ?_⟩
      split
      · rfl
      · rfl
  | failed => cases stepped
  | testRunning =>
      have ⟨same, here⟩ := Prod.mk.inj (Option.some.inj stepped)
      rw [← here, same]
      exact ⟨rfl, fun _ => rfl⟩
  | receive =>
      have ⟨same, here⟩ := Prod.mk.inj (Option.some.inj stepped)
      rw [← here]
      exact ⟨same, fun _ => rfl⟩
  | cancel =>
      have ⟨same, _⟩ := Prod.mk.inj (Option.some.inj stepped)
      exact ⟨same, nofun⟩
  | releaseGuard =>
      have ⟨same, _⟩ := Prod.mk.inj (Option.some.inj stepped)
      exact ⟨same, nofun⟩
  | ended => cases stepped

theorem alive_of_serving {point : LoopPoint} (serves : serving point = true) :
    isAlive point = true := by
  cases point with
  | ended => cases serves
  | _ => rfl

/-! ## Runs -/

/-- What holds until the process is terminated. -/
structure Sound (state : State) : Prop where
  free : state.thread = none → alive state = 0
  held : ∀ id, state.thread = some id → ∃ point, state.loops[id]? = some point ∧
    alive state = indicator (isAlive point)
  served : state.running = true → state.point = .assigning ∨
    ∃ id point, state.thread = some id ∧ state.loops[id]? = some point ∧ serving point = true
  gone : state.point = .destroyed → state.thread = none

theorem sound_constructed : Sound constructed :=
  ⟨fun _ => rfl, nofun, nofun, nofun⟩

theorem alive_le_one {state : State} (sound : Sound state) : alive state ≤ 1 := by
  cases joinable : state.thread with
  | none =>
      rw [sound.free joinable]
      exact Nat.zero_le 1
  | some id =>
      have ⟨point, _, count⟩ := sound.held id joinable
      rw [count]
      cases isAlive point with
      | true => exact Nat.le_refl 1
      | false => exact Nat.zero_le 1

theorem not_running {state : State} (sound : Sound state) (between : state.point ≠ .assigning)
    (empty : alive state = 0) : state.running = false := by
  cases set : state.running with
  | false => rfl
  | true =>
      rcases sound.served set with assigning | ⟨id, point, joinable, found, serves⟩
      · exact absurd assigning between
      · have ⟨seen, present, count⟩ := sound.held id joinable
        rw [found] at present
        rw [← Option.some.inj present, alive_of_serving serves, empty] at count
        cases count

theorem thread_of_alive {state : State} (sound : Sound state) {id : Nat} {point : LoopPoint}
    (found : state.loops[id]? = some point) (lives : isAlive point = true) :
    state.thread = some id := by
  have positive : 0 < alive state :=
    List.countP_pos_iff.mpr ⟨point, List.mem_of_getElem? found, lives⟩
  cases joinable : state.thread with
  | none =>
      rw [sound.free joinable] at positive
      cases positive
  | some other =>
      have ⟨seen, present, count⟩ := sound.held other joinable
      have also : isAlive seen = true := by
        cases alive' : isAlive seen with
        | true => rfl
        | false =>
            rw [count, alive'] at positive
            cases positive
      rw [lookup_unique (alive_le_one sound) found lives present also]

theorem sound_loop {state : State} (sound : Sound state) {id : Nat} {answer : Bool}
    {point after : LoopPoint} {running : Bool} (found : state.loops[id]? = some point)
    (stepped : loopStep answer state.running point = some (running, after)) :
    Sound { state with running := running, loops := state.loops.set id after } := by
  have lives : isAlive point = true := by
    cases point with
    | ended => cases stepped
    | _ => rfl
  have joinable := thread_of_alive sound found lives
  have moved : (state.loops.set id after).countP isAlive + indicator (isAlive point) =
      state.loops.countP isAlive + indicator (isAlive after) := countP_move isAlive found
  have ⟨seen, present, count⟩ := sound.held id joinable
  rw [found] at present
  rw [← Option.some.inj present] at count
  have counted : (state.loops.set id after).countP isAlive = indicator (isAlive after) := by
    unfold alive at count
    omega
  constructor
  · intro free
    cases joinable.symm.trans free
  · intro other same
    rw [← Option.some.inj (joinable.symm.trans same)]
    exact ⟨after, lookup_move_self found, counted⟩
  · intro set
    have ⟨before, kept⟩ := loop_serving stepped set
    rcases sound.served before with assigning | ⟨other, held, same, there, serves⟩
    · exact Or.inl assigning
    · have mine := Option.some.inj (joinable.symm.trans same)
      rw [← mine, found] at there
      rw [← Option.some.inj there] at serves
      exact Or.inr ⟨id, after, joinable, lookup_move_self found, kept serves⟩
  · exact sound.gone

theorem sound_quiet {state : State} (sound : Sound state) {point : Point} (queue : String)
    (gone : point = .destroyed → state.thread = none) :
    Sound { state with queue := queue, running := false, point := point } :=
  ⟨sound.free, sound.held, nofun, gone⟩

theorem sound_waits {state : State} (sound : Sound state) {point : Point} (queue : String)
    (between : state.point ≠ .assigning) (gone : point = .destroyed → state.thread = none) :
    Sound { state with queue := queue, point := point } := by
  constructor
  · exact sound.free
  · exact sound.held
  · intro set
    rcases sound.served set with assigning | serving
    · exact absurd assigning between
    · exact Or.inr serving
  · exact gone

theorem sound_assign {state : State} (sound : Sound state) (joined : state.thread = none) :
    Sound { state with
      loops := state.loops ++ [LoopPoint.acquire], point := .idle
      thread := some state.loops.length } := by
  have found : (state.loops ++ [LoopPoint.acquire])[state.loops.length]? =
      some LoopPoint.acquire := List.getElem?_concat_length
  have count : (state.loops ++ [LoopPoint.acquire]).countP isAlive = 1 := by
    have before := sound.free joined
    unfold alive at before
    rw [List.countP_append, before]
    rfl
  constructor
  · intro impossible
    cases impossible
  · intro id same
    rw [← Option.some.inj same]
    exact ⟨.acquire, found, count⟩
  · intro _
    exact Or.inr ⟨state.loops.length, .acquire, rfl, found, rfl⟩
  · intro impossible
    cases impossible

theorem sound_joined {state : State} (sound : Sound state) (between : state.point ≠ .assigning)
    {id : Nat} (joinable : state.thread = some id) (ended : state.loops[id]? = some .ended)
    (point : Point) : Sound { state with thread := none, point := point } := by
  have ⟨seen, present, count⟩ := sound.held id joinable
  rw [ended] at present
  rw [← Option.some.inj present] at count
  constructor
  · intro _
    exact count
  · intro other impossible
    cases impossible
  · intro set
    cases (not_running sound between count).symm.trans set
  · intro _
    rfl

/-- A call that returns from a join leaves `m_thread` empty. -/
structure Controlled (action : Action) (after : State) : Prop where
  sound : Sound after
  assigned : after.terminated = false
  joined : joins action = true → after.point = .idle ∨ after.point = .destroyed →
    after.thread = none

theorem joining_inside (destroying : Bool) :
    ¬(Point.joining destroying = .idle ∨ Point.joining destroying = .destroyed) := by
  intro returned
  rcases returned with impossible | impossible
  · cases impossible
  · cases impossible

theorem controlled_idle {state after : State} {action : Action} (sound : Sound state)
    (runs : state.terminated = false) (place : state.point = .idle)
    (taken : control state .idle action = some after) : Controlled action after := by
  have between : state.point ≠ .assigning := by
    rw [place]
    exact Point.noConfusion
  cases action with
  | setQueue queue =>
      rw [← Option.some.inj taken]
      have kept := sound_waits sound queue between sound.gone
      exact ⟨kept, runs, nofun⟩
  | start =>
      unfold control at taken
      dsimp only at taken
      split at taken
      · rw [← Option.some.inj taken]
        exact ⟨sound, runs, nofun⟩
      · rw [← Option.some.inj taken]
        have kept := @sound_waits state sound .storing state.queue between nofun
        exact ⟨kept, runs, nofun⟩
  | stop =>
      rw [← Option.some.inj taken]
      have kept := @sound_quiet state sound state.point state.queue sound.gone
      exact ⟨kept, runs, nofun⟩
  | join =>
      unfold control at taken
      dsimp only at taken
      split at taken
      · rw [← Option.some.inj taken]
        have kept := @sound_waits state sound (.joining false) state.queue between nofun
        exact ⟨kept, runs, fun _ returned => absurd returned (joining_inside false)⟩
      · next empty =>
          rw [← Option.some.inj taken]
          exact ⟨sound, runs, fun _ _ => empty⟩
  | isRunning =>
      rw [← Option.some.inj taken]
      exact ⟨sound, runs, nofun⟩
  | destroy =>
      unfold control at taken
      dsimp only at taken
      split at taken
      · rw [← Option.some.inj taken]
        have kept := @sound_quiet state sound (.joining true) state.queue nofun
        exact ⟨kept, runs, fun _ returned => absurd returned (joining_inside true)⟩
      · next empty =>
          rw [← Option.some.inj taken]
          have kept := @sound_quiet state sound .destroyed state.queue fun _ => empty
          exact ⟨kept, runs, fun _ _ => empty⟩
  | store => cases taken
  | assign => cases taken
  | joined => cases taken
  | loop id answer => cases taken

theorem controlled {state after : State} {action : Action} (sound : Sound state)
    (runs : state.terminated = false) (good : joinedBefore state action)
    (taken : control state state.point action = some after) : Controlled action after := by
  cases place : state.point with
  | idle =>
      rw [place] at taken
      exact controlled_idle sound runs place taken
  | storing =>
      rw [place] at taken
      cases action with
      | store =>
          rw [← Option.some.inj taken]
          exact ⟨⟨sound.free, sound.held, fun _ => Or.inl rfl, nofun⟩, runs, nofun⟩
      | _ => cases taken
  | assigning =>
      rw [place] at taken
      cases action with
      | assign =>
          have joined : state.thread = none := good
          unfold control at taken
          dsimp only at taken
          rw [joined] at taken
          rw [← Option.some.inj taken]
          exact ⟨sound_assign sound joined, runs, nofun⟩
      | _ => cases taken
  | joining destroying =>
      have between : state.point ≠ .assigning := by
        rw [place]
        exact Point.noConfusion
      rw [place] at taken
      cases action with
      | joined =>
          unfold control at taken
          dsimp only at taken
          split at taken
          · next ended =>
              have ⟨id, joinable, found⟩ := Option.bind_eq_some_iff.mp ended
              rw [← Option.some.inj taken]
              exact ⟨sound_joined sound between joinable found _, runs, fun _ _ => rfl⟩
          · cases taken
      | _ => cases taken
  | destroyed =>
      rw [place] at taken
      cases action with
      | _ => cases taken

theorem step_running {state after : State} {action : Action}
    (taken : step state action = some after) : state.terminated = false := by
  unfold step at taken
  split at taken
  · cases taken
  · next runs => exact Bool.not_eq_true _ ▸ runs

theorem controlled_step {state after : State} {action : Action} (sound : Sound state)
    (good : joinedBefore state action) (taken : step state action = some after) :
    Controlled action after := by
  have runs := step_running taken
  unfold step at taken
  rw [if_neg (by rw [runs]; exact Bool.false_ne_true)] at taken
  cases action with
  | loop id answer =>
      have ⟨point, found, rest⟩ := Option.bind_eq_some_iff.mp taken
      have ⟨result, stepped, same⟩ := Option.map_eq_some_iff.mp rest
      rw [← same]
      exact ⟨sound_loop sound found stepped, runs, nofun⟩
  | _ => exact controlled sound runs good taken

/-- Until the process is terminated, a step is orderly exactly if it does not assign to a
thread that has not been joined. -/
theorem orderly_step_iff {state after : State} {action : Action} (sound : Sound state)
    (taken : step state action = some after) :
    Orderly state action after ↔ joinedBefore state action := by
  constructor
  · intro orderly
    have runs := step_running taken
    cases action with
    | assign =>
        unfold step at taken
        rw [if_neg (by rw [runs]; exact Bool.false_ne_true)] at taken
        cases joinable : state.thread with
        | none => exact joinable
        | some id =>
            have fine := orderly.assigned
            cases place : state.point with
            | assigning =>
                dsimp only at taken
                rw [place] at taken
                unfold control at taken
                dsimp only at taken
                rw [joinable] at taken
                rw [← Option.some.inj taken] at fine
                cases fine
            | _ =>
                dsimp only at taken
                rw [place] at taken
                cases taken
    | _ => exact True.intro
  · intro good
    have done := controlled_step sound good taken
    constructor
    · exact done.assigned
    · exact alive_le_one done.sound
    · intro joining returned
      exact done.sound.free (done.joined joining returned)
    · intro between empty
      apply not_running done.sound _ empty
      rw [between]
      exact Point.noConfusion

/-- The life of a consumer is orderly exactly if every `start` that gets past its tests
comes after a `join`, or is the first one. -/
theorem orderly_iff_joined {trail : List (State × Action)} {last : State}
    (path : Path step constructed trail last) :
    Obeyed step Orderly trail ↔ ∀ taken ∈ trail, joinedBefore taken.1 taken.2 := by
  apply path_obeyed_iff_good (fun _ => True) Sound Orderly joinedBefore True.intro
    sound_constructed _ _ _ path
  · intro _ _ _ _ _
    exact True.intro
  · intro state action after _ sound good taken
    exact (controlled_step sound good taken).sound
  · intro state action after _ sound taken
    exact orderly_step_iff sound taken

/-! ## Two lives -/

/-- A subscription that fails, with a join before the second start. -/
theorem orderly_joined :
    ∃ trail last, Path step constructed trail last ∧ Obeyed step Orderly trail ∧
      last.point = .destroyed ∧ last.loops = [.ended, .ended] := by
  have ⟨last, executed, checked⟩ := exec_checked step constructed
    [.setQueue "orders", .start, .store, .assign, .loop 0 true, .loop 0 false, .loop 0 false,
      .loop 0 false, .join, .joined, .start, .store, .assign, .loop 1 true, .loop 1 true,
      .destroy, .loop 1 true, .loop 1 true, .loop 1 true, .joined]
    (fun last => decide (last.point = .destroyed ∧ last.loops = [.ended, .ended])) (by decide)
  have path := path_of_exec executed
  refine ⟨_, last, path, ?_, of_decide_eq_true checked⟩
  exact (orderly_iff_joined path).mpr (by decide)

/-- The same without the join. -/
theorem failed_subscription_restarted : ¬RestartLaw := by
  intro law
  have ⟨here, executed, checked⟩ := exec_checked step constructed
    [.setQueue "orders", .start, .store, .assign, .loop 0 true, .loop 0 false, .loop 0 false,
      .loop 0 false, .isRunning, .start, .store]
    (fun here => (step here .assign).any fun after => after.terminated) (by decide)
  have ⟨after, taken, dead⟩ := (Option.any_eq_true _ _).mp checked
  have obeyed := law _ after (Path.next (path_of_exec executed) taken)
  have orderly := obeyed (here, .assign) (by simp) after taken
  cases orderly.assigned.symm.trans dead

end BackendComponents.Amqp.Restarting
