import BackendComponents.Log.Durability

/-!
# What a log call does after `shutdown`

`log` does not ask whether the logger is initialised. It finds the file closed and writes
nothing, but it counts its lines, and the rotation that is due after enough of them opens the
file again.
-/

namespace BackendComponents.Log.Shutdown

open BackendComponents.Lib.Paths
open BackendComponents.Lib.Histories
open BackendComponents.Log.Model
open BackendComponents.Log.Bounds
open BackendComponents.Log.Rotation
open BackendComponents.Log.Durability

set_option autoImplicit false

variable (strftime : Nat → Text)

def shut (before : Bool) (_ : State) : Action → Bool
  | .shutdown => true
  | .init _ _ => false
  | .log _ _ _ | .setLevel _ | .setConsole _ | .setMaxLines _ | .wait _ => before

/-- After `shutdown` a call leaves the file closed and every file as it is; the flags are
those of `shut`. -/
structure Final (here : State × Bool) (_ : Action) (after : State × Bool) : Prop where
  closed : after.2 = true → after.1.fout = none
  files : here.2 = true → after.2 = true → after.1.files = here.1.files
  backups : here.2 = true → after.2 = true → after.1.backups = here.1.backups

def ShutdownLaw : Prop :=
  ∀ (strftime : Nat → Text) (files : Files) (clock : Nat)
    (trail : List ((State × Bool) × Action)) (last : State × Bool),
    Path (watched (loggerStep strftime) shut) (constructed files clock, false) trail last →
      Obeyed (watched (loggerStep strftime) shut) Final trail

/-- Without `init`, no rotation is due, or there is no file to rotate and none to open. -/
def leavesClosed (state : State) : Action → Prop
  | .log level _ answers =>
      state.initialized = false → state.config.level.toInt ≤ level.toInt →
        rotates state = true → state.fileName ≠ [] →
          state.files state.fileName = none ∧ answers.opens = false
  | _ => True

/-! ## What a log call leaves alone -/

theorem emptied_shape (line : Text) (state : State) :
    ∃ files buffer, emptied line state = { state with files := files, buffer := buffer } := by
  unfold emptied
  split
  · exact flush_shape state
  · exact ⟨state.files, state.buffer, rfl⟩

theorem store_shape (level : LogLevel) (line : Text) (state : State) :
    ∃ files buffer, storeLine level line state =
      { state with files := files, buffer := buffer } := by
  have ⟨files, buffer, shape⟩ := emptied_shape line state
  have ⟨written, rest, last⟩ := flush_shape (copyLine line (emptied line state))
  rw [store_copies]
  split
  · rw [last, shape]
    exact ⟨written, rest, rfl⟩
  · rw [shape]
    exact ⟨files, buffer ++ line, rfl⟩

theorem append_shape (level : LogLevel) (line : Text) (state : State) :
    ∃ files buffer stdout, appendLine level line state = { state with
      files := files, buffer := buffer, stdout := stdout
      curLines := state.curLines + 1, logged := state.logged ++ [line] } := by
  have ⟨stdout, printed⟩ := print_shape line state
  have ⟨files, buffer, stored⟩ := store_shape level line (printLine line state)
  unfold appendLine
  dsimp only
  split
  · rw [stored, printed]
    exact ⟨files, buffer, stdout, rfl⟩
  · rw [printed]
    exact ⟨state.files, state.buffer, stdout, rfl⟩

theorem open_shape (opens : Bool) (message : Text) (state : State) :
    ∃ files fout failbit stderr, openAppend opens message state = { state with
      files := files, fout := fout, failbit := failbit, stderr := stderr } := by
  unfold openAppend
  split
  · exact ⟨state.files, state.fout, true, state.stderr, rfl⟩
  · split
    · exact ⟨_, _, _, state.stderr, rfl⟩
    · exact ⟨state.files, state.fout, true, _, rfl⟩

theorem rotate_names (answers : Answers) (state : State) :
    (rotate strftime answers state).fileName = state.fileName ∧
      (rotate strftime answers state).initialized = state.initialized := by
  have ⟨_, _, flushed⟩ := flush_shape state
  unfold rotate
  dsimp only
  split
  · exact ⟨rfl, rfl⟩
  · have ⟨_, _, _, renamed⟩ := rename_shape answers.renames
      (backupName (strftime state.clock) state.fileName) (close (flushBuffer state))
    have ⟨_, _, _, _, opened⟩ := open_shape answers.opens
      "[Logger] ERROR: rotate open failed: ".toList
      { renameFile answers.renames (backupName (strftime state.clock) state.fileName)
          (close (flushBuffer state)) with curLines := 0 }
    rw [opened, renamed]
    unfold close
    rw [flushed]
    exact ⟨rfl, rfl⟩

theorem log_names (level : LogLevel) (formatted : Formatted) (answers : Answers) (state : State) :
    (log strftime level formatted answers state).fileName = state.fileName ∧
      (log strftime level formatted answers state).initialized = state.initialized := by
  have rotated := rotate_names strftime answers state
  unfold log
  split
  · exact ⟨rfl, rfl⟩
  · dsimp only
    split
    · have ⟨_, _, _, shape⟩ := append_shape level formatted.line (rotate strftime answers state)
      rw [shape]
      exact rotated
    · have ⟨_, _, _, shape⟩ := append_shape level formatted.line state
      rw [shape]
      exact ⟨rfl, rfl⟩

/-! ## Calls on a closed file -/

theorem flush_closed {state : State} (closed : state.fout = none) :
    flushBuffer state = state := by
  unfold flushBuffer
  rw [closed]

theorem close_closed {state : State} (closed : state.fout = none) : close state = state := by
  unfold close
  rw [← closed]

theorem append_closed {state : State} (closed : state.fout = none) (level : LogLevel)
    (line : Text) :
    (appendLine level line state).files = state.files ∧
      (appendLine level line state).backups = state.backups ∧
        (appendLine level line state).fout = none := by
  have ⟨_, printed⟩ := print_shape line state
  unfold appendLine State.isOpen
  rw [printed]
  dsimp only
  rw [closed]
  exact ⟨rfl, rfl, rfl⟩

theorem rotate_closed {state : State} (closed : state.fout = none) (named : state.fileName ≠ [])
    (answers : Answers) :
    rotate strftime answers state =
      openAppend answers.opens "[Logger] ERROR: rotate open failed: ".toList
        { renameFile answers.renames (backupName (strftime state.clock) state.fileName) state with
          curLines := 0 } := by
  unfold rotate
  dsimp only
  rw [if_neg named, flush_closed closed, close_closed closed]

theorem rename_removes (renames : Bool) (backup : Text) (state : State) :
    (renameFile renames backup state).files state.fileName = none := by
  unfold renameFile
  split
  · exact if_pos rfl
  · exact if_pos rfl

theorem rename_absent {state : State} (absent : state.files state.fileName = none)
    (renames : Bool) (backup : Text) :
    (renameFile renames backup state).files = state.files ∧
      (renameFile renames backup state).backups = state.backups := by
  have nothing : (if renames then state.files state.fileName else none) = none := by
    rw [absent, ite_self]
  unfold renameFile
  rw [nothing]
  constructor
  · funext other
    show (if other = state.fileName then none else state.files other) = state.files other
    split
    · next same => rw [same, absent]
    · rfl
  · rfl

theorem rotate_reopens {state : State} (closed : state.fout = none) (named : state.fileName ≠ [])
    {answers : Answers} (opens : answers.opens = true) :
    (rotate strftime answers state).fout = some state.fileName := by
  have ⟨_, _, _, renamed⟩ := rename_shape answers.renames
    (backupName (strftime state.clock) state.fileName) state
  rw [rotate_closed strftime closed named, opens, renamed]
  unfold openAppend State.isOpen
  dsimp only
  rw [closed]
  rfl

theorem rotate_unopened {state : State} (closed : state.fout = none)
    (named : state.fileName ≠ []) {answers : Answers} (opens : answers.opens = false) :
    (rotate strftime answers state).fout = none ∧
      (rotate strftime answers state).files =
        (renameFile answers.renames (backupName (strftime state.clock) state.fileName)
          state).files ∧
      (rotate strftime answers state).backups =
        (renameFile answers.renames (backupName (strftime state.clock) state.fileName)
          state).backups := by
  have ⟨_, _, _, renamed⟩ := rename_shape answers.renames
    (backupName (strftime state.clock) state.fileName) state
  rw [rotate_closed strftime closed named, opens, renamed]
  unfold openAppend State.isOpen
  dsimp only
  rw [closed]
  exact ⟨rfl, rfl, rfl⟩

theorem ready_undue {state : State} (undue : ¬(rotates state = true ∧ state.fileName ≠ []))
    (answers : Answers) : ready strftime answers state = state := by
  unfold ready rotate
  by_cases full : rotates state = true
  · have unnamed : state.fileName = [] := by
      by_contra other
      exact undue ⟨full, other⟩
    rw [if_pos full, if_pos unnamed]
  · rw [if_neg full]

theorem reopened_not_final {state : State} (closed : state.fout = none)
    (named : state.fileName ≠ []) (level : LogLevel) (formatted : Formatted) {answers : Answers}
    (opens : answers.opens = true) :
    ¬Final (state, true) (.log level formatted answers)
      (appendLine level formatted.line (rotate strftime answers state), true) := by
  intro final
  have ⟨_, _, _, shape⟩ := append_shape level formatted.line (rotate strftime answers state)
  have still := final.closed rfl
  dsimp only at still
  rw [shape] at still
  dsimp only at still
  rw [rotate_reopens strftime closed named opens] at still
  cases still

theorem unopened_final_iff {state : State} (closed : state.fout = none)
    (named : state.fileName ≠ []) (level : LogLevel) (formatted : Formatted) {answers : Answers}
    (opens : answers.opens = false) :
    Final (state, true) (.log level formatted answers)
        (appendLine level formatted.line (rotate strftime answers state), true) ↔
      state.files state.fileName = none := by
  have ⟨still, files, backups⟩ := rotate_unopened strftime closed named opens
  have ⟨lined, kept, after⟩ := append_closed still level formatted.line
  constructor
  · intro final
    have same := final.files rfl rfl
    dsimp only at same
    rw [lined, files] at same
    rw [← same]
    exact rename_removes _ _ _
  · intro absent
    have renamed := rename_absent absent answers.renames
      (backupName (strftime state.clock) state.fileName)
    constructor
    · intro _
      exact after
    · intro _ _
      dsimp only
      rw [lined, files, renamed.1]
    · intro _ _
      dsimp only
      rw [kept, backups, renamed.2]

/-- After `shutdown` a call that passes the filter touches a file exactly if it rotates one. -/
theorem log_final_iff {state : State} (initialized : state.initialized = false)
    (closed : state.fout = none) (level : LogLevel) (formatted : Formatted) (answers : Answers) :
    Final (state, true) (.log level formatted answers)
        (log strftime level formatted answers state, true) ↔
      leavesClosed state (.log level formatted answers) := by
  have filtered (low : level.toInt < state.config.level.toInt) :
      log strftime level formatted answers state = state := if_pos low
  by_cases low : level.toInt < state.config.level.toInt
  · rw [filtered low]
    apply iff_of_true
    · exact ⟨fun _ => closed, fun _ _ => rfl, fun _ _ => rfl⟩
    · intro _ passed
      omega
  · have split : log strftime level formatted answers state =
        appendLine level formatted.line (ready strftime answers state) := if_neg low
    rw [split]
    by_cases due : rotates state = true ∧ state.fileName ≠ []
    · have rotated : ready strftime answers state = rotate strftime answers state := if_pos due.1
      rw [rotated]
      cases opens : answers.opens with
      | true =>
          apply iff_of_false (reopened_not_final strftime closed due.2 level formatted opens)
          intro leaves
          have unopened := (leaves initialized (Int.not_lt.mp low) due.1 due.2).2
          rw [opens] at unopened
          cases unopened
      | false =>
          rw [unopened_final_iff strftime closed due.2 level formatted opens]
          constructor
          · intro absent _ _ _ _
            exact ⟨absent, opens⟩
          · intro leaves
            exact (leaves initialized (Int.not_lt.mp low) due.1 due.2).1
    · have ⟨files, backups, still⟩ := append_closed closed level formatted.line
      rw [ready_undue strftime due answers]
      apply iff_of_true
      · exact ⟨fun _ => still, fun _ _ => files, fun _ _ => backups⟩
      · intro _ _ full named
        exact absurd ⟨full, named⟩ due

/-! ## Runs -/

theorem init_initialized (config : LogConfig) (opens : Bool) (state : State) :
    (init config opens state).initialized = true := by
  unfold init
  dsimp only
  split
  · rfl
  · generalize (if state.initialized then close (flushBuffer state) else state) = closed
    have ⟨_, _, _, _, shape⟩ := open_shape opens "[Logger] ERROR: Failed to open log file: ".toList
      { closed with
        config := config, fileName := config.fileName, buffer := [], initialized := true
        curLines := (content closed.files config.fileName).count '\n' }
    rw [shape]

theorem shutdown_closes {state : State} (off : state.initialized = false → state.fout = none) :
    (shutdown state).fout = none := by
  unfold shutdown
  split
  · rfl
  · next other => exact off (eq_false_of_ne_true other)

/-- A logger without `init` has no file name, or `shutdown` has been called. -/
structure Named (here : State × Bool) : Prop where
  off : here.2 = true → here.1.initialized = false
  unnamed : here.1.initialized = false → here.2 = false → here.1.fileName = []

theorem run_eq {here after : State × Bool} {action : Action}
    (taken : watched (loggerStep strftime) shut here action = some after) :
    after = (step strftime here.1 action, shut here.2 here.1 action) :=
  (Option.some.inj taken).symm

theorem named_step {here after : State × Bool} {action : Action} (named : Named here)
    (taken : watched (loggerStep strftime) shut here action = some after) : Named after := by
  rw [run_eq strftime taken]
  cases action with
  | init config opens =>
      constructor
      · intro impossible
        cases impossible
      · intro off
        cases (init_initialized config opens here.1).symm.trans off
  | log level formatted answers =>
      have ⟨fileName, initialized⟩ := log_names strftime level formatted answers here.1
      constructor
      · intro shut
        exact initialized.trans (named.off shut)
      · intro off open'
        exact fileName.trans (named.unnamed (initialized.symm.trans off) open')
  | setLevel level => exact ⟨named.off, named.unnamed⟩
  | setConsole enable => exact ⟨named.off, named.unnamed⟩
  | setMaxLines maxLines => exact ⟨named.off, named.unnamed⟩
  | wait seconds => exact ⟨named.off, named.unnamed⟩
  | shutdown =>
      constructor
      · intro _
        show (shutdown here.1).initialized = false
        unfold shutdown
        split
        · rfl
        · next other => exact eq_false_of_ne_true other
      · intro _ impossible
        cases impossible

theorem closed_step {here after : State × Bool} {action : Action}
    (closed : here.1.initialized = false → here.1.fout = none)
    (leaves : leavesClosed here.1 action)
    (taken : watched (loggerStep strftime) shut here action = some after) :
    after.1.initialized = false → after.1.fout = none := by
  rw [run_eq strftime taken]
  intro off
  cases action with
  | init config opens =>
      cases (init_initialized config opens here.1).symm.trans off
  | log level formatted answers =>
      have before := (log_names strftime level formatted answers here.1).2.symm.trans off
      have final :=
        (log_final_iff strftime before (closed before) level formatted answers).mpr leaves
      exact final.closed rfl
  | setLevel level => exact closed off
  | setConsole enable => exact closed off
  | setMaxLines maxLines => exact closed off
  | wait seconds => exact closed off
  | shutdown => exact shutdown_closes closed

theorem final_settings {here : State × Bool} (named : Named here)
    (closed : here.1.initialized = false → here.1.fout = none) (action : Action)
    (config : LogConfig) (clock : Nat) :
    Final here action ({ here.1 with config := config, clock := clock }, here.2) :=
  ⟨fun shut => closed (named.off shut), fun _ _ => rfl, fun _ _ => rfl⟩

theorem final_step_iff {here after : State × Bool} {action : Action} (named : Named here)
    (closed : here.1.initialized = false → here.1.fout = none)
    (taken : watched (loggerStep strftime) shut here action = some after) :
    Final here action after ↔ leavesClosed here.1 action := by
  rw [run_eq strftime taken]
  cases action with
  | init config opens =>
      apply iff_of_true _ True.intro
      constructor
      · intro impossible
        cases impossible
      · intro _ impossible
        cases impossible
      · intro _ impossible
        cases impossible
  | log level formatted answers =>
      cases here with
      | mk state shut =>
          cases shut with
          | true =>
              have off := named.off rfl
              exact log_final_iff strftime off (closed off) level formatted answers
          | false =>
              apply iff_of_true
              · constructor
                · intro impossible
                  cases impossible
                · intro impossible
                  cases impossible
                · intro impossible
                  cases impossible
              · intro off _ _ filed
                exact absurd (named.unnamed off rfl) filed
  | setLevel level => exact iff_of_true (final_settings named closed _ _ _) True.intro
  | setConsole enable => exact iff_of_true (final_settings named closed _ _ _) True.intro
  | setMaxLines maxLines => exact iff_of_true (final_settings named closed _ _ _) True.intro
  | wait seconds => exact iff_of_true (final_settings named closed _ _ _) True.intro
  | shutdown =>
      apply iff_of_true _ True.intro
      have again (shut : here.2 = true) : shutdown here.1 = here.1 := by
        unfold shutdown
        rw [named.off shut]
        rfl
      constructor
      · intro _
        exact shutdown_closes closed
      · intro shut _
        exact congrArg State.files (again shut)
      · intro shut _
        exact congrArg State.backups (again shut)

instance (state : State) (action : Action) : Decidable (leavesClosed state action) :=
  match action with
  | .log level _ answers => inferInstanceAs (Decidable (state.initialized = false →
      state.config.level.toInt ≤ level.toInt → rotates state = true → state.fileName ≠ [] →
        state.files state.fileName = none ∧ answers.opens = false))
  | .init _ _ | .setLevel _ | .setConsole _ | .setMaxLines _ | .wait _ | .shutdown =>
      inferInstanceAs (Decidable True)

end BackendComponents.Log.Shutdown
