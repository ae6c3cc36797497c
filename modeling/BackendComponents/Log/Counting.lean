import BackendComponents.Log.Shutdown

/-!
# The two ways of counting lines

`init` counts the line ends in the file, `log` counts its calls. They agree while every line
has no line end but the one at its end.
-/

namespace BackendComponents.Log.Counting

open BackendComponents.Lib.Paths
open BackendComponents.Log.Model
open BackendComponents.Log.Formatting
open BackendComponents.Log.Lines
open BackendComponents.Log.Bounds
open BackendComponents.Log.Rotation
open BackendComponents.Log.Durability
open BackendComponents.Log.Shutdown

set_option autoImplicit false

variable (strftime : Nat → Text)

/-- The line ends in the live file and in `m_buffer[0..m_buf_offset)`. -/
def newlines (state : State) : Nat :=
  (content state.files state.fileName).count '\n' + state.buffer.count '\n'

/-- The counter is right, and it is the same after a restart. -/
structure Agrees (state : State) : Prop where
  counted : state.curLines = newlines state
  again : ∀ config : LogConfig, config.fileName = state.fileName →
    (init config true (shutdown state)).curLines = state.curLines

/-- The counts agree throughout, from an `init` whose file can be opened. -/
def CountLaw : Prop :=
  ∀ (strftime : Nat → Text) (config : LogConfig) (before : State)
    (trail : List (State × Action)) (last : State), config.fileName ≠ [] →
      Path (runStep strftime) (init config true before) trail last →
        ∀ state ∈ visited trail last, Agrees state

def written (formatted : Formatted) : Text :=
  formatted.stackBuf.take (min formatted.offset (stackBufSize - 2))

def oneLineEnd (state : State) : Action → Prop
  | .log level formatted _ => state.config.level.toInt ≤ level.toInt → '\n' ∉ written formatted
  | _ => True

instance (state : State) (action : Action) : Decidable (oneLineEnd state action) :=
  match action with
  | .log level formatted _ => inferInstanceAs (Decidable
      (state.config.level.toInt ≤ level.toInt → '\n' ∉ written formatted))
  | .init _ _ | .setLevel _ | .setConsole _ | .setMaxLines _ | .wait _ | .shutdown =>
      inferInstanceAs (Decidable True)

/-! ## Lines -/

theorem line_written (formatted : Formatted) : formatted.line = written formatted ++ ['\n'] := by
  unfold Formatted.line written
  split
  · next short => rw [Nat.min_eq_left (Nat.le_of_lt short)]
  · next long => rw [Nat.min_eq_right (Nat.not_lt.mp long)]

theorem line_count (formatted : Formatted) :
    formatted.line.count '\n' = (written formatted).count '\n' + 1 := by
  rw [line_written, List.count_append, List.count_singleton_self]

theorem count_one_iff (formatted : Formatted) :
    formatted.line.count '\n' = 1 ↔ '\n' ∉ written formatted := by
  rw [line_count, ← List.count_eq_zero]
  omega

/-! ## What each part of a call does to the line ends -/

theorem newlines_flush {state : State} (stream : Open state) :
    newlines (flushBuffer state) = newlines state := by
  have ⟨files, shape⟩ := flush_open stream
  have bytes := flushed_written stream.file
  rw [flushed_open stream] at bytes
  unfold newlines
  rw [shape] at bytes ⊢
  dsimp only at bytes ⊢
  rw [bytes, List.count_append, List.count_nil, Nat.add_zero]

theorem newlines_copy (line : Text) (state : State) :
    newlines (copyLine line state) = newlines state + line.count '\n' := by
  unfold newlines copyLine
  rw [List.count_append, Nat.add_assoc]

theorem newlines_store {state : State} (stream : Open state) (level : LogLevel) (line : Text) :
    newlines (storeLine level line state) = newlines state + line.count '\n' := by
  have ⟨files, shape⟩ := copied_open stream line
  have copied : Open (copyLine line (emptied line state)) := by
    rw [shape]
    exact ⟨stream.named, stream.file, stream.sound⟩
  have room : newlines (emptied line state) = newlines state := by
    unfold emptied
    split
    · exact newlines_flush stream
    · rfl
  have both := newlines_copy line (emptied line state)
  rw [room] at both
  rw [store_copies]
  split
  · rw [newlines_flush copied]
    exact both
  · exact both

theorem newlines_append {state : State} (stream : Open state) (level : LogLevel) (line : Text) :
    newlines (appendLine level line state) = newlines state + line.count '\n' := by
  have ⟨stdout, printed⟩ := print_shape line state
  have printing : Open (printLine line state) := by
    rw [printed]
    exact ⟨stream.named, stream.file, stream.sound⟩
  have stored := newlines_store printing level line
  have same : newlines (printLine line state) = newlines state := by
    rw [printed]
    rfl
  rw [same] at stored
  unfold appendLine
  dsimp only
  rw [if_pos (is_open printing)]
  exact stored

theorem rotate_result {state : State} (named : state.fileName ≠ []) (answers : Answers) :
    ∃ files backups stderr, rotate strftime answers state = { state with
      files := files, backups := backups, stderr := stderr, curLines := 0
      buffer := (flushBuffer state).buffer
      fout := if answers.opens then some state.fileName else none
      failbit := !answers.opens } ∧
      files state.fileName = if answers.opens then some [] else none := by
  have ⟨written, buffer, flushed⟩ := flush_shape state
  have removed := rename_removes answers.renames
    (backupName (strftime state.clock) state.fileName) (close (flushBuffer state))
  have ⟨files, backups, stderr, renamed⟩ := rename_shape answers.renames
    (backupName (strftime state.clock) state.fileName) (close (flushBuffer state))
  rw [renamed, flushed] at removed
  unfold close at removed
  dsimp only at removed
  unfold rotate
  dsimp only
  rw [if_neg named, renamed, flushed]
  unfold openAppend close State.isOpen
  cases answers.opens with
  | true =>
      have empty : content files state.fileName = [] := by
        unfold content
        rw [removed]
        rfl
      have created : files.write state.fileName (content files state.fileName) state.fileName =
          some [] := by
        rw [empty]
        exact if_pos rfl
      exact ⟨_, backups, stderr, rfl, created⟩
  | false => exact ⟨files, backups, _, rfl, removed⟩

theorem newlines_rotate {state : State} (stream : Open state) {answers : Answers}
    (opens : answers.opens = true) : newlines (rotate strftime answers state) = 0 := by
  have ⟨files, backups, stderr, shape, empty⟩ := rotate_result strftime stream.named answers
  rw [opens, if_pos rfl] at empty
  unfold newlines
  rw [shape, flush_empties (is_open stream)]
  unfold content
  dsimp only
  rw [empty]
  rfl

theorem append_counts (level : LogLevel) (line : Text) (state : State) :
    (appendLine level line state).curLines = state.curLines + 1 := by
  have ⟨_, _, _, shape⟩ := append_shape level line state
  rw [shape]

theorem rotate_counts {state : State} (named : state.fileName ≠ []) (answers : Answers) :
    (rotate strftime answers state).curLines = 0 := by
  have ⟨_, _, _, shape, _⟩ := rotate_result strftime named answers
  rw [shape]

theorem ready_counts {state : State} (stream : Open state) {answers : Answers}
    (opens : answers.opens = true) (counted : state.curLines = newlines state) :
    (ready strftime answers state).curLines = newlines (ready strftime answers state) := by
  unfold ready
  split
  · rw [rotate_counts strftime stream.named, newlines_rotate strftime stream opens]
  · exact counted

/-! ## Sessions -/

structure Streaming (state : State) : Prop where
  named : state.fileName ≠ []
  stream : state.initialized = true → Open state
  drained : state.initialized = false → state.buffer = []

theorem init_lines {config : LogConfig} (named : config.fileName ≠ []) (opens : Bool)
    (before : State) :
    (init config opens before).curLines = (content (if before.initialized then
      close (flushBuffer before) else before).files config.fileName).count '\n' := by
  unfold init
  dsimp only
  rw [if_neg named]
  generalize (if before.initialized then close (flushBuffer before) else before) = closed
  have ⟨_, _, _, _, shape⟩ := open_shape opens "[Logger] ERROR: Failed to open log file: ".toList
    { closed with
      config := config, fileName := config.fileName, buffer := [], initialized := true
      curLines := (content closed.files config.fileName).count '\n' }
  rw [shape]

theorem again_lines {state : State} (streaming : Streaming state) {config : LogConfig}
    (same : config.fileName = state.fileName) :
    (init config true (shutdown state)).curLines = newlines state := by
  have named : config.fileName ≠ [] := by
    rw [same]
    exact streaming.named
  rw [init_lines named, same]
  unfold shutdown newlines
  cases initialized : state.initialized with
  | false =>
      rw [if_neg Bool.false_ne_true, initialized, if_neg Bool.false_ne_true,
        streaming.drained initialized, List.count_nil, Nat.add_zero]
  | true =>
      have stream := streaming.stream initialized
      have bytes := flushed_written stream.file
      rw [flushed_open stream] at bytes
      rw [if_pos rfl]
      unfold close
      dsimp only
      rw [if_neg Bool.false_ne_true, bytes, List.count_append]

theorem agrees_iff {state : State} (streaming : Streaming state) :
    Agrees state ↔ state.curLines = newlines state := by
  constructor
  · exact Agrees.counted
  · intro counted
    constructor
    · exact counted
    · intro config same
      rw [again_lines streaming same, counted]

theorem streaming_init {config : LogConfig} (named : config.fileName ≠ []) {before : State}
    (opened : (init config true before).failbit = false) :
    Streaming (init config true before) := by
  have initialized := init_initialized config true before
  have stream := (accounted_init named opened).stream initialized
  constructor
  · exact stream.named
  · intro _
    exact stream
  · intro off
    cases initialized.symm.trans off

theorem init_file {config : LogConfig} (named : config.fileName ≠ []) {before : State}
    (opened : (init config true before).failbit = false) :
    (init config true before).files config.fileName = some (content (if before.initialized then
        close (flushBuffer before) else before).files config.fileName) ∧
      (init config true before).buffer = [] ∧ (init config true before).config = config ∧
      (init config true before).fileName = config.fileName := by
  unfold init at *
  dsimp only at *
  rw [if_neg named] at *
  generalize (if before.initialized then close (flushBuffer before) else before) = closed
    at opened ⊢
  unfold openAppend State.isOpen at *
  dsimp only at *
  cases file : closed.fout with
  | some name =>
      rw [file] at opened
      cases opened
  | none => exact ⟨if_pos rfl, rfl, rfl, rfl⟩

theorem agrees_init {config : LogConfig} (named : config.fileName ≠ []) {before : State}
    (opened : (init config true before).failbit = false) :
    Agrees (init config true before) := by
  have ⟨file, buffer, _, name⟩ := init_file named opened
  apply (agrees_iff (streaming_init named opened)).mpr
  rw [init_lines named]
  unfold newlines
  rw [buffer, name, List.count_nil, Nat.add_zero]
  conv_rhs => unfold content
  rw [file]
  rfl

theorem run_step_cases {state after : State} {action : Action}
    (taken : runStep strftime state action = some after) :
    state.initialized = true ∧ openable action = true ∧ after = step strftime state action := by
  unfold runStep at taken
  split at taken
  · next enabled => exact ⟨enabled.1, enabled.2, (Option.some.inj taken).symm⟩
  · cases taken

theorem newlines_shutdown {state : State} (stream : Open state) :
    newlines (shutdown state) = newlines state := by
  have flushed := newlines_flush stream
  unfold shutdown
  split
  · exact flushed
  · rfl

theorem streaming_step {state after : State} {action : Action} (streaming : Streaming state)
    (taken : runStep strftime state action = some after) : Streaming after := by
  have ⟨initialized, allowed, same⟩ := run_step_cases strftime taken
  have stream := streaming.stream initialized
  have settled (config : LogConfig) (clock : Nat) :
      Streaming { state with config := config, clock := clock } :=
    ⟨streaming.named, fun _ => ⟨stream.named, stream.file, stream.sound⟩, streaming.drained⟩
  rw [same]
  cases action with
  | init config opens => cases allowed
  | log level formatted answers =>
      by_cases filtered : level.toInt < state.config.level.toInt
      · have idle : step strftime state (.log level formatted answers) = state := if_pos filtered
        rw [idle]
        exact streaming
      · have ⟨_, _, _, _, _, shape⟩ := log_open strftime stream allowed formatted
          (Int.not_lt.mp filtered)
        show Streaming (log strftime level formatted answers state)
        rw [shape]
        refine ⟨stream.named, fun _ => ⟨stream.named, stream.file, stream.sound⟩, ?_⟩
        intro off
        cases initialized.symm.trans off
  | setLevel level => exact settled _ _
  | setConsole enable => exact settled _ _
  | setMaxLines maxLines => exact settled _ _
  | wait seconds => exact settled _ _
  | shutdown =>
      show Streaming (shutdown state)
      have ⟨_, shape⟩ := flush_open stream
      unfold shutdown close
      rw [if_pos initialized, shape]
      refine ⟨streaming.named, ?_, fun _ => rfl⟩
      intro impossible
      cases impossible

theorem log_counts_iff {state : State} (stream : Open state) {level : LogLevel}
    (formatted : Formatted) {answers : Answers} (opens : answers.opens = true)
    (passed : state.config.level.toInt ≤ level.toInt) (counted : state.curLines = newlines state) :
    (log strftime level formatted answers state).curLines =
        newlines (log strftime level formatted answers state) ↔
      '\n' ∉ written formatted := by
  have split : log strftime level formatted answers state =
      appendLine level formatted.line (ready strftime answers state) :=
    if_neg (Int.not_lt.mpr passed)
  have prepared : Open (ready strftime answers state) := by
    have ⟨_, _, _, _, shape⟩ := ready_open strftime stream opens
    rw [shape]
    exact ⟨stream.named, stream.file, stream.sound⟩
  rw [split, append_counts, newlines_append prepared, ready_counts strftime stream opens counted,
    ← count_one_iff]
  omega

theorem agrees_step_iff {state after : State} {action : Action} (streaming : Streaming state)
    (agrees : Agrees state) (taken : runStep strftime state action = some after) :
    Agrees after ↔ oneLineEnd state action := by
  have next := streaming_step strftime streaming taken
  have ⟨initialized, allowed, same⟩ := run_step_cases strftime taken
  have stream := streaming.stream initialized
  have counted := agrees.counted
  rw [agrees_iff next, same]
  cases action with
  | init config opens => cases allowed
  | log level formatted answers =>
      by_cases filtered : level.toInt < state.config.level.toInt
      · have idle : step strftime state (.log level formatted answers) = state := if_pos filtered
        rw [idle]
        apply iff_of_true counted
        intro passed
        omega
      · have passed := Int.not_lt.mp filtered
        have exact_call := log_counts_iff strftime stream formatted allowed passed counted
        unfold oneLineEnd
        dsimp only
        rw [forall_prop_of_true passed]
        exact exact_call
  | setLevel level => exact iff_of_true counted True.intro
  | setConsole enable => exact iff_of_true counted True.intro
  | setMaxLines maxLines => exact iff_of_true counted True.intro
  | wait seconds => exact iff_of_true counted True.intro
  | shutdown =>
      apply iff_of_true _ True.intro
      have kept : (shutdown state).curLines = state.curLines := by
        have ⟨_, _, shape⟩ := flush_shape state
        unfold shutdown close
        rw [if_pos initialized, shape]
      show (shutdown state).curLines = newlines (shutdown state)
      rw [kept, newlines_shutdown stream]
      exact counted

def twoLines : Call :=
  ⟨.error, "main.cpp".toList, 12, [.chars "x\ny".toList], [], rfl⟩

end BackendComponents.Log.Counting
