import BackendComponents.Log.Counting

/-!
# Rotation with several threads

`log` tests the number of lines and rotates before it takes the mutex. Between the test and
the rotation, and between the test and the line, other threads can rotate or add lines. While
every test still has its outcome when it is acted on, files are rotated when they are full.
-/

namespace BackendComponents.Log.Concurrent

open BackendComponents.Lib.Paths
open BackendComponents.Log.Model hiding Action step
open BackendComponents.Log.Bounds
open BackendComponents.Log.Rotation
open BackendComponents.Log.Durability
open BackendComponents.Log.Shutdown
open BackendComponents.Log.Counting

set_option autoImplicit false

/-- Where a thread is in `log`: outside, before `rotate()`, or before the mutex. -/
inductive Point
  | idle
  | rotating (level : LogLevel)
  | appending (level : LogLevel)
  deriving DecidableEq, Repr

/-- A line whose text has no line end. -/
structure Message where
  formatted : Formatted
  plain : '\n' ∉ written formatted

structure Shared (Thread : Type*) where
  logger : State
  points : Thread → Point

inductive Action (Thread : Type*)
  | check (thread : Thread) (level : LogLevel)
  | rotate (thread : Thread) (answers : Answers)
  | append (thread : Thread) (message : Message)
  | wait (seconds : Nat)

variable {Thread : Type*} [DecidableEq Thread] (strftime : Nat → Text)

/-- The level filter with the test of `m_cur_lines`, the rotation, or the section under the
mutex. -/
def step (shared : Shared Thread) : Action Thread → Option (Shared Thread)
  | .check thread level =>
      if shared.points thread = .idle then
        if level.toInt < shared.logger.config.level.toInt then some shared
        else some { shared with
          points := Function.update shared.points thread
            (if rotates shared.logger then .rotating level else .appending level) }
      else none
  | .rotate thread answers =>
      match shared.points thread with
      | .rotating level => some {
          logger := rotate strftime answers shared.logger
          points := Function.update shared.points thread (.appending level) }
      | _ => none
  | .append thread message =>
      match shared.points thread with
      | .appending level => some {
          logger := appendLine level message.formatted.line shared.logger
          points := Function.update shared.points thread .idle }
      | _ => none
  | .wait seconds => some { shared with
      logger := { shared.logger with clock := shared.logger.clock + seconds } }

def idle (logger : State) : Shared Thread := ⟨logger, fun _ => .idle⟩

/-- A rotation finds the file full, and the live file is never more than full. -/
structure Threshold (here : Shared Thread) (action : Action Thread) (after : Shared Thread) :
    Prop where
  renamed : ∀ thread answers, action = .rotate thread answers →
    (here.logger.files here.logger.fileName).isSome = true →
      newlines here.logger = here.logger.config.maxLines
  live : newlines after.logger ≤ after.logger.config.maxLines

/-- Every step keeps to the threshold, from an `init` with a file of at most `max_lines`
lines that can be opened. -/
def ThresholdLaw (Thread : Type) [DecidableEq Thread] : Prop :=
  ∀ (strftime : Nat → Text) (config : LogConfig) (before : State)
    (trail : List (Shared Thread × Action Thread)) (last : Shared Thread),
    config.fileName ≠ [] → 1 ≤ config.maxLines →
      newlines (init config true before) ≤ config.maxLines →
        Path (step strftime) (idle (init config true before)) trail last →
          Obeyed (step strftime) Threshold trail

/-- While the file is open, the test that the call has made still has the same outcome. -/
def current (shared : Shared Thread) : Action Thread → Prop
  | .rotate _ _ => shared.logger.isOpen = true → rotates shared.logger = true
  | .append _ _ => shared.logger.isOpen = true → rotates shared.logger = false
  | .check _ _ | .wait _ => True

instance (shared : Shared Thread) (action : Action Thread) : Decidable (current shared action) :=
  match action with
  | .rotate _ _ => inferInstanceAs (Decidable (_ → _))
  | .append _ _ => inferInstanceAs (Decidable (_ → _))
  | .check _ _ | .wait _ => inferInstanceAs (Decidable True)

/-! ## The file stays where it is -/

theorem flush_present {state : State} {name : Text} (present : (state.files name).isSome = true) :
    ((flushBuffer state).files name).isSome = true := by
  unfold flushBuffer
  split
  · exact present
  · split
    · exact present
    · unfold writeOut Files.write
      split
      · exact present
      · dsimp only
        split
        · rfl
        · exact present

theorem emptied_present {state : State} {name : Text}
    (present : (state.files name).isSome = true) (line : Text) :
    ((emptied line state).files name).isSome = true := by
  unfold emptied
  split
  · exact flush_present present
  · exact present

theorem append_present {state : State} {name : Text} (present : (state.files name).isSome = true)
    (level : LogLevel) (line : Text) :
    ((appendLine level line state).files name).isSome = true := by
  have ⟨_, printed⟩ := print_shape line state
  have still : ((printLine line state).files name).isSome = true := by
    rw [printed]
    exact present
  unfold appendLine
  dsimp only
  split
  · rw [store_copies]
    split
    · exact flush_present (emptied_present still line)
    · exact emptied_present still line
  · exact still

/-! ## The counter -/

structure Counted (maxLines : Nat) (state : State) : Prop where
  named : state.fileName ≠ []
  limit : state.config.maxLines = maxLines
  stream : state.isOpen = true → Open state
  present : state.isOpen = true → (state.files state.fileName).isSome = true
  counted : state.isOpen = true → state.curLines = newlines state
  absent : state.isOpen = false → state.files state.fileName = none
  drained : state.isOpen = false → state.buffer = []

theorem counted_open {maxLines : Nat} {state : State} (stream : Open state)
    (limit : state.config.maxLines = maxLines)
    (present : (state.files state.fileName).isSome = true)
    (counted : state.curLines = newlines state) : Counted maxLines state := by
  have isOpen := is_open stream
  constructor
  · exact stream.named
  · exact limit
  · intro _
    exact stream
  · intro _
    exact present
  · intro _
    exact counted
  · intro closed
    cases isOpen.symm.trans closed
  · intro closed
    cases isOpen.symm.trans closed

theorem counted_closed {maxLines : Nat} {state : State} (closed : state.isOpen = false)
    (named : state.fileName ≠ []) (limit : state.config.maxLines = maxLines)
    (absent : state.files state.fileName = none) (drained : state.buffer = []) :
    Counted maxLines state := by
  constructor
  · exact named
  · exact limit
  · intro isOpen
    cases isOpen.symm.trans closed
  · intro isOpen
    cases isOpen.symm.trans closed
  · intro isOpen
    cases isOpen.symm.trans closed
  · intro _
    exact absent
  · intro _
    exact drained

theorem counted_empty {maxLines : Nat} {state : State} (counted : Counted maxLines state)
    (closed : state.isOpen = false) : newlines state = 0 := by
  unfold newlines content
  rw [counted.absent closed, counted.drained closed]
  rfl

theorem fout_none {state : State} (closed : state.isOpen = false) : state.fout = none := by
  apply Option.not_isSome_iff_eq_none.mp
  unfold State.isOpen at closed
  rw [closed]
  exact Bool.false_ne_true

theorem flush_drained {maxLines : Nat} {state : State} (counted : Counted maxLines state) :
    (flushBuffer state).buffer = [] := by
  cases isOpen : state.isOpen with
  | true => exact flush_empties isOpen
  | false =>
      rw [flush_closed (fout_none isOpen)]
      exact counted.drained isOpen

theorem rotated_counted {maxLines : Nat} {state : State} (counted : Counted maxLines state)
    (answers : Answers) : Counted maxLines (rotate strftime answers state) := by
  have ⟨files, backups, stderr, shape, result⟩ := rotate_result strftime counted.named answers
  rw [shape, flush_drained counted]
  cases opens : answers.opens with
  | true =>
      rw [opens, if_pos rfl] at result
      apply counted_open
      · exact ⟨counted.named, rfl, rfl⟩
      · exact counted.limit
      · dsimp only
        rw [result]
        rfl
      · unfold newlines content
        dsimp only
        rw [result]
        rfl
  | false =>
      rw [opens, if_neg Bool.false_ne_true] at result
      exact counted_closed rfl counted.named counted.limit result rfl

theorem rotated_newlines {maxLines : Nat} {state : State} (counted : Counted maxLines state)
    (answers : Answers) : newlines (rotate strftime answers state) = 0 := by
  have after := rotated_counted strftime counted answers
  cases isOpen : (rotate strftime answers state).isOpen with
  | true =>
      rw [← after.counted isOpen]
      exact rotate_counts strftime counted.named answers
  | false => exact counted_empty after isOpen

theorem append_unopened {state : State} (closed : state.isOpen = false) (level : LogLevel)
    (line : Text) : ∃ stdout, appendLine level line state = { state with
      stdout := stdout, curLines := state.curLines + 1, logged := state.logged ++ [line] } := by
  have ⟨stdout, printed⟩ := print_shape line state
  refine ⟨stdout, ?_⟩
  unfold appendLine State.isOpen
  rw [printed, fout_none closed]
  rfl

theorem appended_counted {maxLines : Nat} {state : State} (counted : Counted maxLines state)
    (level : LogLevel) (message : Message) :
    Counted maxLines (appendLine level message.formatted.line state) := by
  cases isOpen : state.isOpen with
  | true =>
      have stream := counted.stream isOpen
      have present := append_present (counted.present isOpen) level message.formatted.line
      have lines := newlines_append stream level message.formatted.line
      rw [(count_one_iff message.formatted).mpr message.plain] at lines
      have count := append_counts level message.formatted.line state
      have ⟨files, buffer, stdout, shape⟩ := append_shape level message.formatted.line state
      rw [shape] at present lines count ⊢
      apply counted_open
      · exact ⟨stream.named, stream.file, stream.sound⟩
      · exact counted.limit
      · exact present
      · rw [lines, ← counted.counted isOpen]
  | false =>
      have ⟨stdout, shape⟩ := append_unopened isOpen level message.formatted.line
      rw [shape]
      apply counted_closed
      · exact isOpen
      · exact counted.named
      · exact counted.limit
      · exact counted.absent isOpen
      · exact counted.drained isOpen

theorem init_counted {config : LogConfig} (named : config.fileName ≠ []) {before : State}
    (opened : (init config true before).failbit = false) :
    Counted config.maxLines (init config true before) := by
  have ⟨file, _, config_same, name_same⟩ := init_file named opened
  apply counted_open
  · exact (streaming_init named opened).stream (init_initialized config true before)
  · rw [config_same]
  · rw [name_same, file]
    rfl
  · exact (agrees_init named opened).counted

/-! ## Steps and runs -/

theorem step_cases {here after : Shared Thread} {action : Action Thread}
    (taken : step strftime here action = some after) :
    (∃ thread level, action = .check thread level ∧ after.logger = here.logger) ∨
      (∃ thread answers, action = .rotate thread answers ∧
        after.logger = rotate strftime answers here.logger) ∨
      (∃ thread message level, action = .append thread message ∧
        after.logger = appendLine level message.formatted.line here.logger) ∨
      ∃ seconds, action = .wait seconds ∧
        after.logger = { here.logger with clock := here.logger.clock + seconds } := by
  cases action with
  | check thread level =>
      unfold step at taken
      dsimp only at taken
      split at taken
      · split at taken
        · exact Or.inl ⟨thread, level, rfl, by rw [← Option.some.inj taken]⟩
        · exact Or.inl ⟨thread, level, rfl, by rw [← Option.some.inj taken]⟩
      · cases taken
  | rotate thread answers =>
      unfold step at taken
      dsimp only at taken
      split at taken
      · exact Or.inr (Or.inl ⟨thread, answers, rfl, by rw [← Option.some.inj taken]⟩)
      · cases taken
  | append thread message =>
      unfold step at taken
      dsimp only at taken
      split at taken
      · next level _ =>
          exact Or.inr (Or.inr (Or.inl ⟨thread, message, level, rfl,
            by rw [← Option.some.inj taken]⟩))
      · cases taken
  | wait seconds =>
      exact Or.inr (Or.inr (Or.inr ⟨seconds, rfl, by rw [← Option.some.inj taken]⟩))

theorem counted_step {maxLines : Nat} {here after : Shared Thread} {action : Action Thread}
    (counted : Counted maxLines here.logger) (taken : step strftime here action = some after) :
    Counted maxLines after.logger := by
  rcases step_cases strftime taken with ⟨_, _, _, same⟩ | ⟨_, answers, _, rotated⟩ |
    ⟨_, message, level, _, appended⟩ | ⟨_, _, waited⟩
  · rw [same]
    exact counted
  · rw [rotated]
    exact rotated_counted strftime counted answers
  · rw [appended]
    exact appended_counted counted level message
  · rw [waited]
    exact ⟨counted.named, counted.limit,
      fun isOpen => ⟨counted.named, (counted.stream isOpen).file, (counted.stream isOpen).sound⟩,
      counted.present, counted.counted, counted.absent, counted.drained⟩

theorem rotates_iff {maxLines : Nat} (positive : 1 ≤ maxLines) {state : State}
    (counted : Counted maxLines state) (isOpen : state.isOpen = true) :
    rotates state = true ↔ maxLines ≤ newlines state := by
  unfold rotates
  rw [decide_eq_true_iff, counted.limit, counted.counted isOpen]
  omega

theorem threshold_step_iff {maxLines : Nat} (positive : 1 ≤ maxLines)
    {here after : Shared Thread} {action : Action Thread} (counted : Counted maxLines here.logger)
    (bounded : newlines here.logger ≤ maxLines)
    (taken : step strftime here action = some after) :
    Threshold here action after ↔ current here action := by
  have next := counted_step strftime counted taken
  have unrotated (other : ∀ thread answers, action ≠ .rotate thread answers) :
      Threshold here action after ↔ newlines after.logger ≤ maxLines := by
    constructor
    · intro threshold
      rw [← next.limit]
      exact threshold.live
    · intro live
      constructor
      · intro thread answers same
        exact absurd same (other thread answers)
      · rw [next.limit]
        exact live
  rcases step_cases strftime taken with ⟨_, _, rfl, same⟩ | ⟨thread, answers, rfl, rotated⟩ |
    ⟨_, message, level, rfl, appended⟩ | ⟨_, rfl, waited⟩
  · rw [unrotated (fun _ _ impossible => by cases impossible), same]
    exact iff_of_true bounded True.intro
  · have emptied : newlines after.logger = 0 := by
      rw [rotated]
      exact rotated_newlines strftime counted answers
    unfold current
    dsimp only
    constructor
    · intro threshold isOpen
      have full := threshold.renamed thread answers rfl (counted.present isOpen)
      rw [counted.limit] at full
      exact (rotates_iff positive counted isOpen).mpr (Nat.le_of_eq full.symm)
    · intro due
      constructor
      · intro _ _ _ present
        cases isOpen : here.logger.isOpen with
        | true =>
            have full := (rotates_iff positive counted isOpen).mp (due isOpen)
            rw [counted.limit]
            exact Nat.le_antisymm bounded full
        | false =>
            rw [counted.absent isOpen] at present
            cases present
      · rw [emptied]
        exact Nat.zero_le _
  · rw [unrotated (fun _ _ impossible => by cases impossible)]
    unfold current
    dsimp only
    cases isOpen : here.logger.isOpen with
    | true =>
        have lines := newlines_append (counted.stream isOpen) level message.formatted.line
        rw [(count_one_iff message.formatted).mpr message.plain, ← appended] at lines
        rw [lines, forall_prop_of_true rfl, ← Bool.not_eq_true,
          rotates_iff positive counted isOpen]
        omega
    | false =>
        have ⟨_, shape⟩ := append_unopened isOpen level message.formatted.line
        have still : after.logger.isOpen = false := by
          rw [appended, shape]
          exact isOpen
        rw [counted_empty next still]
        apply iff_of_true (Nat.zero_le _)
        intro impossible
        cases impossible
  · rw [unrotated (fun _ _ impossible => by cases impossible), waited]
    exact iff_of_true bounded True.intro

def letterMessage : Message where
  formatted := letterLine 'm'
  plain := by decide

end BackendComponents.Log.Concurrent
