import BackendComponents.Lib.Paths

/-!
# The logger

A transcription of `log.h` and `log.cpp` for one thread. A character is a byte. What the
formatting of a call leaves in its local array is an input of the call, and so are the
answers of the file system; the clock counts the seconds that `time_t` counts, and
`strftime` turns them into local time.

`logged` and `backups` are not members: they record the lines that passed the level
filter and the names that `rotate` has renamed the file to, in order.
-/

namespace BackendComponents.Log.Model

set_option autoImplicit false

abbrev Text := List Char

inductive LogLevel
  | debug
  | info
  | warning
  | error
  | fatal
  deriving DecidableEq, Repr

def LogLevel.toInt : LogLevel → Int
  | .debug => 0
  | .info => 1
  | .warning => 2
  | .error => 3
  | .fatal => 4

/-- With the defaults of the source; an empty file name means no file. -/
structure LogConfig where
  fileName : Text := []
  level : LogLevel := .info
  console : Bool := true
  maxLines : Nat := 500
  deriving DecidableEq, Repr

def stackBufSize : Nat := 4096

/-- The local array `stack_buf` with `offset` after the prefix and the arguments. -/
structure Formatted where
  stackBuf : Text
  offset : Nat
  full : stackBuf.length = stackBufSize

/-- The bytes below `offset` after the line end has been written. -/
def Formatted.line (formatted : Formatted) : Text :=
  if formatted.offset < stackBufSize - 2 then
    formatted.stackBuf.take formatted.offset ++ ['\n']
  else formatted.stackBuf.take (stackBufSize - 2) ++ ['\n']

theorem line_length_le (formatted : Formatted) : formatted.line.length ≤ 4095 := by
  unfold Formatted.line stackBufSize
  split
  · rw [List.length_append, List.length_take]
    have bound := Nat.min_le_left formatted.offset formatted.stackBuf.length
    simp only [List.length_singleton]
    omega
  · rw [List.length_append, List.length_take]
    have bound := Nat.min_le_left (4096 - 2) formatted.stackBuf.length
    simp only [List.length_singleton]
    omega

abbrev Files := Text → Option Text

def Files.write (files : Files) (name content : Text) : Files :=
  fun other => if other = name then some content else files other

def Files.remove (files : Files) (name : Text) : Files :=
  fun other => if other = name then none else files other

def content (files : Files) (name : Text) : Text := (files name).getD []

/-- The members, the files and the streams. `fout` is the file that `m_fout` has open,
`failbit` its error state and `buffer` the bytes `m_buffer[0..m_buf_offset)`. -/
structure State where
  config : LogConfig
  fileName : Text
  fout : Option Text
  failbit : Bool
  buffer : Text
  curLines : Nat
  initialized : Bool
  files : Files
  clock : Nat
  stdout : Text
  stderr : List Text
  logged : List Text
  backups : List Text

def State.isOpen (state : State) : Bool := state.fout.isSome

/-- A stream in its error state drops what is written to it. -/
def writeOut (name text : Text) (state : State) : State :=
  if state.failbit then state
  else { state with files := state.files.write name (content state.files name ++ text) }

def flushBuffer (state : State) : State :=
  match state.fout with
  | none => state
  | some name =>
      if state.buffer = [] then state
      else { writeOut name state.buffer state with buffer := [] }

def close (state : State) : State := { state with fout := none }

/-- `m_fout.open(m_file_name, std::ios::app)` with the message for a failure. A stream
that is open already keeps its file and enters its error state. -/
def openAppend (opens : Bool) (message : Text) (state : State) : State :=
  if state.isOpen then { state with failbit := true }
  else if opens then
    { state with
      files := state.files.write state.fileName (content state.files state.fileName)
      fout := some state.fileName
      failbit := false }
  else
    { state with
      failbit := true
      stderr := state.stderr ++ [message ++ state.fileName ++ ['\n']] }

def backupName (stamp fileName : Text) : Text := fileName ++ ['_'] ++ stamp ++ ".log".toList

/-- `std::rename`, or `std::remove` and the message if that fails. -/
def renameFile (renames : Bool) (backup : Text) (state : State) : State :=
  match if renames then state.files state.fileName else none with
  | some text =>
      { state with
        files := (state.files.write backup text).remove state.fileName
        backups := state.backups ++ [backup] }
  | none =>
      { state with
        files := state.files.remove state.fileName
        stderr := state.stderr ++ ["[Logger] WARNING: rotate rename failed, removed: ".toList ++
          state.fileName ++ ['\n']] }

/-- Whether the two calls of the file system in `rotate` succeed. -/
structure Answers where
  renames : Bool
  opens : Bool
  deriving DecidableEq, Repr

variable (strftime : Nat → Text)

def rotate (answers : Answers) (state : State) : State :=
  if state.fileName = [] then state
  else
    let closed := close (flushBuffer state)
    let backup := backupName (strftime state.clock) state.fileName
    let renamed := renameFile answers.renames backup closed
    openAppend answers.opens "[Logger] ERROR: rotate open failed: ".toList
      { renamed with curLines := 0 }

def printLine (line : Text) (state : State) : State :=
  if state.config.console then { state with stdout := state.stdout ++ line } else state

/-- `std::memcpy(m_buffer + m_buf_offset, …)` -/
def copyLine (line : Text) (state : State) : State :=
  { state with buffer := state.buffer ++ line }

/-- What `log` does with a line while `m_fout` is open. -/
def storeLine (level : LogLevel) (line : Text) (state : State) : State :=
  let emptied :=
    if state.buffer.length + line.length > stackBufSize then flushBuffer state else state
  let copied := copyLine line emptied
  if level.toInt ≥ LogLevel.error.toInt ∨ copied.buffer.length ≥ stackBufSize / 2 then
    flushBuffer copied
  else copied

/-- The section of `log` under the mutex. -/
def appendLine (level : LogLevel) (line : Text) (state : State) : State :=
  let printed := printLine line state
  let stored := if printed.isOpen then storeLine level line printed else printed
  { stored with curLines := stored.curLines + 1, logged := stored.logged ++ [line] }

def rotates (state : State) : Bool :=
  decide (0 < state.config.maxLines ∧ state.config.maxLines ≤ state.curLines)

def log (level : LogLevel) (formatted : Formatted) (answers : Answers) (state : State) : State :=
  if level.toInt < state.config.level.toInt then state
  else
    let ready := if rotates state then rotate strftime answers state else state
    appendLine level formatted.line ready

def init (config : LogConfig) (opens : Bool) (state : State) : State :=
  let closed := if state.initialized then close (flushBuffer state) else state
  let fresh := { closed with
    config := config, fileName := config.fileName, curLines := 0, buffer := [],
    initialized := true }
  if config.fileName = [] then fresh
  else
    let counted := { fresh with
      curLines := (content fresh.files config.fileName).count '\n' }
    openAppend opens "[Logger] ERROR: Failed to open log file: ".toList counted

def shutdown (state : State) : State :=
  if state.initialized then { close (flushBuffer state) with initialized := false } else state

inductive Action
  | init (config : LogConfig) (opens : Bool)
  | log (level : LogLevel) (formatted : Formatted) (answers : Answers)
  | setLevel (level : LogLevel)
  | setConsole (enable : Bool)
  | setMaxLines (maxLines : Nat)
  | wait (seconds : Nat)
  | shutdown

def step (state : State) : Action → State
  | .init config opens => init config opens state
  | .log level formatted answers => log strftime level formatted answers state
  | .setLevel level => { state with config := { state.config with level := level } }
  | .setConsole enable => { state with config := { state.config with console := enable } }
  | .setMaxLines maxLines => { state with config := { state.config with maxLines := maxLines } }
  | .wait seconds => { state with clock := state.clock + seconds }
  | .shutdown => shutdown state

/-- Every call returns. -/
def loggerStep (state : State) (action : Action) : Option State := some (step strftime state action)

def constructed (files : Files) (clock : Nat) : State where
  config := {}
  fileName := []
  fout := none
  failbit := false
  buffer := []
  curLines := 0
  initialized := false
  files := files
  clock := clock
  stdout := []
  stderr := []
  logged := []
  backups := []

end BackendComponents.Log.Model
