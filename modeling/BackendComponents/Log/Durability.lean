import BackendComponents.Lib.Histories
import BackendComponents.Log.Bounds
import BackendComponents.Log.Rotation

/-!
# Which lines have reached the file

The bytes that `flush_buffer` has written and the buffer are the logged lines in their order.
After a line the buffer is empty if the line was an error or made half of the buffer full. A
warning has no flush of its own.
-/

namespace BackendComponents.Log.Durability

open BackendComponents.Lib.Paths
open BackendComponents.Lib.Histories
open BackendComponents.Log.Model
open BackendComponents.Log.Bounds
open BackendComponents.Log.Rotation

set_option autoImplicit false

variable (strftime : Nat → Text)

/-- The calls between `init` and `shutdown`, and that `shutdown`; the file can be opened. -/
def openable : Action → Bool
  | .init _ _ => false
  | .log _ _ answers => answers.opens
  | .setLevel _ | .setConsole _ | .setMaxLines _ | .wait _ | .shutdown => true

def runStep (state : State) (action : Action) : Option State :=
  if state.initialized ∧ openable action = true then some (step strftime state action) else none

def flushed (state : State) : Text :=
  match state.fout with
  | none => []
  | some _ => if state.failbit then [] else state.buffer

def storeFlushes (level : LogLevel) (line : Text) (state : State) : List State :=
  (if state.buffer.length + line.length > stackBufSize then [state] else []) ++
    if level.toInt ≥ LogLevel.error.toInt ∨
        (copyLine line (emptied line state)).buffer.length ≥ stackBufSize / 2 then
      [copyLine line (emptied line state)]
    else []

def flushes (state : State) : Action → List State
  | .log level formatted answers =>
      if level.toInt < state.config.level.toInt then []
      else
        let printed := printLine formatted.line (ready strftime answers state)
        (if rotates state ∧ state.fileName ≠ [] then [state] else []) ++
          if printed.isOpen then storeFlushes level formatted.line printed else []
  | .shutdown => if state.initialized then [state] else []
  | .init _ _ => if state.initialized then [state] else []
  | .setLevel _ | .setConsole _ | .setMaxLines _ | .wait _ => []

def noted (text : Text) (state : State) (action : Action) : Text :=
  text ++ (flushes strftime state action).flatMap flushed

/-- What a call of at least `WARNING` has written when it returns, and what a lower one may
leave behind. `start` are the lines logged before `init`. -/
def durable (start : List Text) (here : State × Text) (action : Action)
    (after : State × Text) : Prop :=
  match action with
  | .log level _ _ =>
      if level.toInt < LogLevel.warning.toInt then after.1.buffer.length < stackBufSize / 2
      else here.1.config.level.toInt ≤ level.toInt →
        after.1.buffer = [] ∧ start.flatten ++ after.2 = after.1.logged.flatten
  | _ => True

/-- Every call is durable, from an `init` whose file can be opened. -/
def DurabilityLaw : Prop :=
  ∀ (strftime : Nat → Text) (config : LogConfig) (before : State)
    (trail : List ((State × Text) × Action)) (last : State × Text), config.fileName ≠ [] →
      Path (watched (runStep strftime) (noted strftime)) (init config true before, []) trail last →
        Obeyed (watched (runStep strftime) (noted strftime)) (durable before.logged) trail

/-- A warning that passes the filter makes half of the buffer full. -/
def fillsHalf (state : State) : Action → Prop
  | .log level formatted _ =>
      level = .warning → state.config.level.toInt ≤ level.toInt →
        stackBufSize / 2 ≤
          (if rotates state then 0 else state.buffer.length) + formatted.line.length
  | _ => True

instance (state : State) (action : Action) : Decidable (fillsHalf state action) :=
  match action with
  | .log level formatted _ => inferInstanceAs (Decidable (level = .warning →
      state.config.level.toInt ≤ level.toInt → stackBufSize / 2 ≤
        (if rotates state then 0 else state.buffer.length) + formatted.line.length))
  | .init _ _ | .setLevel _ | .setConsole _ | .setMaxLines _ | .wait _ | .shutdown =>
      inferInstanceAs (Decidable True)

/-! ## Parts of a call -/

/-- The stream that `init` has opened. -/
structure Open (state : State) : Prop where
  named : state.fileName ≠ []
  file : state.fout = some state.fileName
  sound : state.failbit = false

theorem is_open {state : State} (stream : Open state) : state.isOpen = true := by
  unfold State.isOpen
  rw [stream.file]
  rfl

theorem flushed_open {state : State} (stream : Open state) : flushed state = state.buffer := by
  unfold flushed
  rw [stream.file, stream.sound]
  rfl

theorem flushed_written {state : State} {name : Text} (file : state.fout = some name) :
    content (flushBuffer state).files name = content state.files name ++ flushed state := by
  unfold flushBuffer flushed
  rw [file]
  dsimp only
  by_cases empty : state.buffer = []
  · rw [if_pos empty, empty, ite_self, List.append_nil]
  · rw [if_neg empty]
    unfold writeOut
    cases state.failbit with
    | true => exact (List.append_nil _).symm
    | false => exact content_write_self _ _ _

theorem flush_shape (state : State) :
    ∃ files buffer, flushBuffer state = { state with files := files, buffer := buffer } := by
  unfold flushBuffer
  split
  · exact ⟨state.files, state.buffer, rfl⟩
  · split
    · exact ⟨state.files, state.buffer, rfl⟩
    · unfold writeOut
      split
      · exact ⟨state.files, [], rfl⟩
      · exact ⟨_, [], rfl⟩

theorem flush_open {state : State} (stream : Open state) :
    ∃ files, flushBuffer state = { state with files := files, buffer := [] } := by
  unfold flushBuffer
  rw [stream.file]
  dsimp only
  by_cases empty : state.buffer = []
  · refine ⟨state.files, ?_⟩
    rw [if_pos empty, ← empty, ← stream.file]
  · refine ⟨state.files.write state.fileName
      (content state.files state.fileName ++ state.buffer), ?_⟩
    rw [if_neg empty]
    unfold writeOut
    rw [if_neg (by rw [stream.sound]; exact Bool.false_ne_true), ← stream.file]

theorem rename_shape (renames : Bool) (backup : Text) (state : State) :
    ∃ files backups stderr, renameFile renames backup state =
      { state with files := files, backups := backups, stderr := stderr } := by
  unfold renameFile
  split
  · exact ⟨_, _, _, rfl⟩
  · exact ⟨_, state.backups, _, rfl⟩

theorem rotate_open {state : State} (stream : Open state) {answers : Answers}
    (opens : answers.opens = true) :
    ∃ files backups stderr, rotate strftime answers state = { state with
      files := files, backups := backups, stderr := stderr, buffer := [], curLines := 0 } := by
  have ⟨written, drained⟩ := flush_open stream
  have ⟨files, backups, stderr, renamed⟩ := rename_shape answers.renames
    (backupName (strftime state.clock) state.fileName) (close (flushBuffer state))
  refine ⟨files.write state.fileName (content files state.fileName), backups, stderr, ?_⟩
  unfold rotate
  dsimp only
  rw [if_neg stream.named, renamed, opens, drained, open_append_closed rfl]
  unfold close
  dsimp only
  rw [← stream.file, ← stream.sound]

def kept (line buffer : Text) : Text :=
  if buffer.length + line.length > stackBufSize then [] else buffer

/-- What it holds when the line is in and the buffer may have been flushed. -/
def left (level : LogLevel) (line buffer : Text) : Text :=
  if level.toInt ≥ LogLevel.error.toInt ∨
      (kept line buffer).length + line.length ≥ stackBufSize / 2 then []
  else kept line buffer ++ line

theorem emptied_open {state : State} (stream : Open state) (line : Text) :
    ∃ files, emptied line state =
      { state with files := files, buffer := kept line state.buffer } := by
  unfold emptied kept
  split
  · exact flush_open stream
  · exact ⟨state.files, rfl⟩

theorem copied_open {state : State} (stream : Open state) (line : Text) :
    ∃ files, copyLine line (emptied line state) =
      { state with files := files, buffer := kept line state.buffer ++ line } := by
  have ⟨files, shape⟩ := emptied_open stream line
  rw [shape]
  exact ⟨files, rfl⟩

theorem store_open {state : State} (stream : Open state) (level : LogLevel) (line : Text) :
    ∃ files, storeLine level line state =
      { state with files := files, buffer := left level line state.buffer } := by
  have ⟨files, shape⟩ := copied_open stream line
  rw [store_copies, shape]
  unfold left
  rw [List.length_append]
  split
  · exact flush_open ⟨stream.named, stream.file, stream.sound⟩
  · exact ⟨files, rfl⟩

theorem store_bytes {state : State} (stream : Open state) (level : LogLevel) (line : Text) :
    (storeFlushes level line state).flatMap flushed ++ left level line state.buffer =
      state.buffer ++ line := by
  have ⟨files, shape⟩ := copied_open stream line
  have room : (if state.buffer.length + line.length > stackBufSize then [state]
      else []).flatMap flushed ++ kept line state.buffer = state.buffer := by
    unfold kept
    split
    · rw [List.flatMap_singleton, flushed_open stream, List.append_nil]
    · rfl
  have copied : Open (copyLine line (emptied line state)) := by
    rw [shape]
    exact ⟨stream.named, stream.file, stream.sound⟩
  unfold storeFlushes left
  rw [List.flatMap_append, List.append_assoc]
  conv => rhs; rw [← room]
  rw [List.append_assoc]
  congr 1
  split
  · next full =>
      rw [shape, List.length_append] at full
      rw [if_pos full, List.flatMap_singleton, flushed_open copied, shape, List.append_nil]
  · next short =>
      rw [shape, List.length_append] at short
      rw [if_neg short]
      rfl

theorem print_shape (line : Text) (state : State) :
    ∃ stdout, printLine line state = { state with stdout := stdout } := by
  unfold printLine
  split
  · exact ⟨_, rfl⟩
  · exact ⟨state.stdout, rfl⟩

/-- What the buffer holds when a call that passes the filter starts with its line. -/
def started (state : State) : Text := if rotates state then [] else state.buffer

theorem ready_open {state : State} (stream : Open state) {answers : Answers}
    (opens : answers.opens = true) :
    ∃ files backups stderr curLines, ready strftime answers state = { state with
      files := files, backups := backups, stderr := stderr, curLines := curLines
      buffer := started state } := by
  unfold ready started
  split
  · have ⟨files, backups, stderr, shape⟩ := rotate_open strftime stream opens
    exact ⟨files, backups, stderr, 0, shape⟩
  · exact ⟨state.files, state.backups, state.stderr, state.curLines, rfl⟩

theorem printed_open {state : State} (stream : Open state) {answers : Answers}
    (opens : answers.opens = true) (line : Text) :
    ∃ files backups stderr stdout curLines,
      printLine line (ready strftime answers state) = { state with
        files := files, backups := backups, stderr := stderr, stdout := stdout
        curLines := curLines, buffer := started state } := by
  have ⟨files, backups, stderr, curLines, shape⟩ := ready_open strftime stream opens
  have ⟨stdout, printed⟩ := print_shape line (ready strftime answers state)
  rw [printed, shape]
  exact ⟨files, backups, stderr, stdout, curLines, rfl⟩

theorem printed_stream {state : State} (stream : Open state) {answers : Answers}
    (opens : answers.opens = true) (line : Text) :
    Open (printLine line (ready strftime answers state)) := by
  have ⟨_, _, _, _, _, shape⟩ := printed_open strftime stream opens line
  rw [shape]
  exact ⟨stream.named, stream.file, stream.sound⟩

theorem log_open {state : State} (stream : Open state) {answers : Answers}
    (opens : answers.opens = true) {level : LogLevel} (formatted : Formatted)
    (passed : state.config.level.toInt ≤ level.toInt) :
    ∃ files backups stderr stdout curLines,
      log strftime level formatted answers state = { state with
        files := files, backups := backups, stderr := stderr, stdout := stdout
        curLines := curLines, buffer := left level formatted.line (started state)
        logged := state.logged ++ [formatted.line] } := by
  have ⟨_, backups, stderr, stdout, curLines, shape⟩ :=
    printed_open strftime stream opens formatted.line
  have printed := printed_stream strftime stream opens formatted.line
  have ⟨files, stored⟩ := store_open printed level formatted.line
  have split : log strftime level formatted answers state =
      appendLine level formatted.line (ready strftime answers state) :=
    if_neg (Int.not_lt.mpr passed)
  refine ⟨files, backups, stderr, stdout, curLines + 1, ?_⟩
  rw [split]
  unfold appendLine
  dsimp only
  rw [if_pos (is_open printed), stored, shape]

theorem log_bytes {state : State} (stream : Open state) {answers : Answers}
    (opens : answers.opens = true) {level : LogLevel} (formatted : Formatted)
    (passed : state.config.level.toInt ≤ level.toInt) :
    (flushes strftime state (.log level formatted answers)).flatMap flushed ++
      left level formatted.line (started state) = state.buffer ++ formatted.line := by
  have ⟨_, _, _, _, _, shape⟩ := printed_open strftime stream opens formatted.line
  have printed := printed_stream strftime stream opens formatted.line
  have rotated : (if rotates state ∧ state.fileName ≠ [] then [state]
      else []).flatMap flushed ++ started state = state.buffer := by
    unfold started
    by_cases full : rotates state = true
    · rw [if_pos ⟨full, stream.named⟩, if_pos full, List.flatMap_singleton, flushed_open stream,
        List.append_nil]
    · rw [if_neg fun both => full both.1, if_neg full]
      rfl
  have stored := store_bytes printed level formatted.line
  have buffer : (printLine formatted.line (ready strftime answers state)).buffer =
      started state := by
    rw [shape]
  rw [buffer] at stored
  unfold flushes
  dsimp only
  rw [if_neg (Int.not_lt.mpr passed), if_pos (is_open printed), List.flatMap_append,
    List.append_assoc, stored, ← List.append_assoc, rotated]

/-! ## How much is left -/

theorem line_positive (formatted : Formatted) : 0 < formatted.line.length := by
  unfold Formatted.line
  split
  · rw [List.length_append, List.length_singleton]
    omega
  · rw [List.length_append, List.length_singleton]
    omega

theorem left_bounded (level : LogLevel) (line buffer : Text) :
    (left level line buffer).length < stackBufSize / 2 := by
  unfold left
  split
  · exact (by decide : 0 < stackBufSize / 2)
  · next short =>
      rw [not_or] at short
      rw [List.length_append]
      exact Nat.not_le.mp short.2

theorem left_empty_iff {level : LogLevel} {line buffer : Text} (nonempty : 0 < line.length)
    (bounded : buffer.length < stackBufSize / 2) :
    left level line buffer = [] ↔
      LogLevel.error.toInt ≤ level.toInt ∨ stackBufSize / 2 ≤ buffer.length + line.length := by
  have half : 2 * (stackBufSize / 2) = stackBufSize := by decide
  have room : (kept line buffer).length + line.length ≥ stackBufSize / 2 ↔
      stackBufSize / 2 ≤ buffer.length + line.length := by
    unfold kept
    split
    · rw [List.length_nil]
      omega
    · exact Iff.rfl
  unfold left
  rw [← room]
  constructor
  · intro empty
    by_contra neither
    rw [if_neg neither] at empty
    have lengths := congrArg List.length empty
    rw [List.length_append, List.length_nil] at lengths
    omega
  · intro either
    exact if_pos either

/-! ## Runs -/

/-- What holds in a session, whatever is logged. -/
structure Accounted (start : List Text) (here : State × Text) : Prop where
  stream : here.1.initialized = true → Open here.1
  bounded : here.1.buffer.length < stackBufSize / 2
  bytes : start.flatten ++ here.2 ++ here.1.buffer = here.1.logged.flatten

theorem started_bounded {state : State} (bounded : state.buffer.length < stackBufSize / 2) :
    (started state).length < stackBufSize / 2 := by
  unfold started
  split
  · exact (by decide : 0 < stackBufSize / 2)
  · exact bounded

theorem started_length (state : State) :
    (started state).length = if rotates state then 0 else state.buffer.length := by
  unfold started
  split
  · rfl
  · rfl

theorem accounted_init {config : LogConfig} {before : State} (named : config.fileName ≠ [])
    (opened : (init config true before).failbit = false) :
    Accounted before.logged (init config true before, []) := by
  have logged : (if before.initialized then close (flushBuffer before) else before).logged =
      before.logged := by
    have ⟨files, buffer, shape⟩ := flush_shape before
    split
    · unfold close
      rw [shape]
    · rfl
  unfold init at opened ⊢
  dsimp only at opened ⊢
  rw [if_neg named] at opened ⊢
  generalize (if before.initialized then close (flushBuffer before) else before) = closed
    at opened logged ⊢
  unfold openAppend State.isOpen at opened ⊢
  dsimp only at opened ⊢
  cases file : closed.fout with
  | some name =>
      rw [file] at opened
      cases opened
  | none =>
      constructor
      · intro _
        exact ⟨named, rfl, rfl⟩
      · exact (by decide : 0 < stackBufSize / 2)
      · show before.logged.flatten ++ [] ++ [] = closed.logged.flatten
        rw [logged, List.append_nil, List.append_nil]

theorem accounted_settings {start : List Text} {here : State × Text}
    (accounted : Accounted start here) (config : LogConfig) (clock : Nat) :
    Accounted start ({ here.1 with config := config, clock := clock }, here.2 ++ []) := by
  constructor
  · intro initialized
    have stream := accounted.stream initialized
    exact ⟨stream.named, stream.file, stream.sound⟩
  · exact accounted.bounded
  · rw [List.append_nil]
    exact accounted.bytes

theorem accounted_shutdown {start : List Text} {here : State × Text}
    (accounted : Accounted start here) (initialized : here.1.initialized = true) :
    Accounted start (shutdown here.1, noted strftime here.2 here.1 .shutdown) := by
  have stream := accounted.stream initialized
  have ⟨files, shape⟩ := flush_open stream
  unfold shutdown close noted flushes
  rw [if_pos initialized, if_pos initialized, shape, List.flatMap_singleton, flushed_open stream]
  constructor
  · intro impossible
    cases impossible
  · exact (by decide : 0 < stackBufSize / 2)
  · dsimp only
    rw [List.append_nil, ← List.append_assoc]
    exact accounted.bytes

theorem accounted_log {start : List Text} {here : State × Text}
    (accounted : Accounted start here) (initialized : here.1.initialized = true)
    (level : LogLevel) (formatted : Formatted) {answers : Answers}
    (opens : answers.opens = true) :
    Accounted start (log strftime level formatted answers here.1,
      noted strftime here.2 here.1 (.log level formatted answers)) := by
  have stream := accounted.stream initialized
  by_cases filtered : level.toInt < here.1.config.level.toInt
  · unfold log noted flushes
    dsimp only
    rw [if_pos filtered, if_pos filtered, List.flatMap_nil, List.append_nil]
    exact accounted
  · have passed := Int.not_lt.mp filtered
    have ⟨files, backups, stderr, stdout, curLines, shape⟩ :=
      log_open strftime stream opens formatted passed
    have written := log_bytes strftime stream opens formatted passed
    constructor
    · intro _
      dsimp only
      rw [shape]
      exact ⟨stream.named, stream.file, stream.sound⟩
    · dsimp only
      rw [shape]
      exact left_bounded _ _ _
    · unfold noted
      dsimp only
      rw [shape]
      dsimp only
      rw [List.append_assoc, List.append_assoc, written, ← List.append_assoc, ← List.append_assoc,
        accounted.bytes, List.flatten_append, List.flatten_singleton]

theorem run_cases {here after : State × Text} {action : Action}
    (taken : watched (runStep strftime) (noted strftime) here action = some after) :
    here.1.initialized = true ∧ openable action = true ∧
      after = (step strftime here.1 action, noted strftime here.2 here.1 action) := by
  have ⟨moved, note⟩ := watched_cases taken
  unfold runStep at moved
  split at moved
  · next enabled =>
      have same := Option.some.inj moved
      refine ⟨enabled.1, enabled.2, ?_⟩
      rw [same, ← note]
  · cases moved

theorem accounted_step {start : List Text} {here after : State × Text} {action : Action}
    (accounted : Accounted start here)
    (taken : watched (runStep strftime) (noted strftime) here action = some after) :
    Accounted start after := by
  have ⟨initialized, allowed, same⟩ := run_cases strftime taken
  rw [same]
  cases action with
  | init config opens => cases allowed
  | log level formatted answers =>
      exact accounted_log strftime accounted initialized level formatted allowed
  | setLevel level => exact accounted_settings accounted _ _
  | setConsole enable => exact accounted_settings accounted _ _
  | setMaxLines maxLines => exact accounted_settings accounted _ _
  | wait seconds => exact accounted_settings accounted _ _
  | shutdown => exact accounted_shutdown strftime accounted initialized

theorem warning_or_error {level : LogLevel} (high : ¬level.toInt < LogLevel.warning.toInt) :
    level = .warning ∨ LogLevel.error.toInt ≤ level.toInt := by
  cases level with
  | debug => exact absurd (by decide) high
  | info => exact absurd (by decide) high
  | warning => exact Or.inl rfl
  | error => exact Or.inr (by decide)
  | fatal => exact Or.inr (by decide)

theorem durable_step_iff {start : List Text} {here after : State × Text} {action : Action}
    (accounted : Accounted start here)
    (taken : watched (runStep strftime) (noted strftime) here action = some after) :
    durable start here action after ↔ fillsHalf here.1 action := by
  have ⟨initialized, allowed, same⟩ := run_cases strftime taken
  have next := accounted_step strftime accounted taken
  cases action with
  | init _ _ | setLevel _ | setConsole _ | setMaxLines _ | wait _ | shutdown =>
      exact iff_of_true True.intro True.intro
  | log level formatted answers =>
      have stream := accounted.stream initialized
      unfold durable fillsHalf
      dsimp only
      by_cases low : level.toInt < LogLevel.warning.toInt
      · rw [if_pos low]
        apply iff_of_true next.bounded
        intro warning
        rw [warning] at low
        exact absurd low (by decide)
      · rw [if_neg low]
        by_cases filtered : level.toInt < here.1.config.level.toInt
        · apply iff_of_true
          · intro passed
            omega
          · intro _ passed
            omega
        · have ⟨_, _, _, _, _, shape⟩ :=
            log_open strftime stream allowed formatted (Int.not_lt.mp filtered)
          have buffer : after.1.buffer = left level formatted.line (started here.1) := by
            rw [same]
            exact congrArg State.buffer shape
          have empty_iff := @left_empty_iff level formatted.line _ (line_positive formatted)
            (started_bounded accounted.bounded)
          rw [started_length, ← buffer] at empty_iff
          constructor
          · intro durable warning passed
            have either := empty_iff.mp (durable passed).1
            rw [warning] at either
            exact either.resolve_left (by decide)
          · intro fills passed
            have empty : after.1.buffer = [] := empty_iff.mpr
              ((warning_or_error low).symm.imp_right fun warning => fills warning passed)
            have bytes := next.bytes
            rw [empty, List.append_nil] at bytes
            exact ⟨empty, bytes⟩

def logAt (level : LogLevel) (letter : Char) : Action :=
  .log level (letterLine letter) ⟨false, true⟩

def halfLine : Formatted where
  stackBuf := List.replicate stackBufSize 'h'
  offset := 2047
  full := List.length_replicate

end BackendComponents.Log.Durability
