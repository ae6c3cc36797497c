import BackendComponents.Log.Model

/-!
# What rotation keeps

The name of a backup is the second in which the rotation happens. While these names
differ, the backups in the order of their rotations, the live file and the buffer hold
the initial content and every logged line. A second rotation under the same name
replaces the earlier backup.
-/

namespace BackendComponents.Log.Rotation

open BackendComponents.Lib.Paths
open BackendComponents.Log.Model

set_option autoImplicit false

variable (strftime : Nat → Text)

def inSession : Action → Bool
  | .init _ _ => false
  | .log _ _ answers => answers.renames && answers.opens
  | .setLevel _ | .setConsole _ | .setMaxLines _ | .wait _ | .shutdown => true

def sessionStep (state : State) (action : Action) : Option State :=
  if state.initialized ∧ inSession action = true then some (step strftime state action) else none

/-- `init` finds `m_fout` closed or closes it first. A stream that is open is not opened
again. -/
def findsClosed (before : State) : Bool := before.initialized || !before.isOpen

/-- The state after an `init` that opens its file. What is recorded begins there. -/
def opened (config : LogConfig) (before : State) : State :=
  { init config true before with logged := [], backups := [] }

/-- The backups in the order of the rotations, the live file and the buffer. -/
def recorded (state : State) : Text :=
  state.backups.flatMap (content state.files) ++ content state.files state.fileName ++ state.buffer

structure Intact (initial : Text) (state : State) : Prop where
  kept : initial ++ state.logged.flatten = recorded state
  distinct : state.backups.Nodup
  drained : state.initialized = false → state.buffer = []

def RotationLaw : Prop :=
  ∀ (strftime : Nat → Text) (config : LogConfig) (before : State)
    (trail : List (State × Action)) (last : State), config.fileName ≠ [] →
    findsClosed before = true → Path (sessionStep strftime) (opened config before) trail last →
      ∀ state ∈ visited trail last,
        Intact (content (opened config before).files config.fileName) state

/-- If this call rotates, no earlier rotation of the session had the same name. -/
def fresh (state : State) : Action → Prop
  | .log level _ _ =>
      state.config.level.toInt ≤ level.toInt → rotates state = true →
        backupName (strftime state.clock) state.fileName ∉ state.backups
  | _ => True

instance (state : State) (action : Action) : Decidable (fresh strftime state action) :=
  match action with
  | .log level _ _ => inferInstanceAs (Decidable (state.config.level.toInt ≤ level.toInt →
      rotates state = true → backupName (strftime state.clock) state.fileName ∉ state.backups))
  | .init _ _ | .setLevel _ | .setConsole _ | .setMaxLines _ | .wait _ | .shutdown =>
      inferInstanceAs (Decidable True)

/-- What holds in every state of a session, whatever the names are. -/
structure Session (state : State) : Prop where
  named : state.fileName ≠ []
  opened : state.initialized = true → state.fout = some state.fileName
  sound : state.failbit = false
  present : (state.files state.fileName).isSome = true
  apart : state.fileName ∉ state.backups

theorem content_write_self (files : Files) (name text : Text) :
    content (files.write name text) name = text := by
  simp [content, Files.write]

theorem content_write_other (files : Files) {name other : Text} (text : Text)
    (different : other ≠ name) : content (files.write name text) other = content files other := by
  simp [content, Files.write, different]

theorem content_remove_self (files : Files) (name : Text) :
    content (files.remove name) name = [] := by
  simp [content, Files.remove]

theorem backup_name_ne (stamp fileName : Text) : backupName stamp fileName ≠ fileName := by
  intro equal
  have lengths := congrArg List.length equal
  simp [backupName] at lengths

theorem backups_write {files : Files} {name : Text} {names : List Text} (text : Text)
    (apart : name ∉ names) :
    names.flatMap (content (files.write name text)) = names.flatMap (content files) := by
  apply List.flatMap_congr
  intro other member
  apply content_write_other
  intro equal
  rw [equal] at member
  exact apart member

theorem write_content {files : Files} {name : Text} (present : (files name).isSome = true) :
    files.write name (content files name) = files := by
  funext other
  by_cases same : other = name
  · obtain ⟨text, found⟩ := Option.isSome_iff_exists.mp present
    simp [Files.write, content, same, found]
  · simp [Files.write, same]

theorem flush_eq {state : State} (session : Session state)
    (isOpen : state.fout = some state.fileName) :
    flushBuffer state = { state with
      files := state.files.write state.fileName
        (content state.files state.fileName ++ state.buffer)
      buffer := [] } := by
  unfold flushBuffer
  rw [isOpen]
  dsimp only
  by_cases empty : state.buffer = []
  · rw [if_pos empty, empty, List.append_nil, write_content session.present, ← empty, ← isOpen]
  · rw [if_neg empty]
    unfold writeOut
    rw [session.sound]
    simp [isOpen]

theorem session_flush {state : State} (session : Session state)
    (isOpen : state.fout = some state.fileName) : Session (flushBuffer state) := by
  rw [flush_eq session isOpen]
  constructor
  · exact session.named
  · intro _
    exact isOpen
  · exact session.sound
  · simp [Files.write]
  · exact session.apart

theorem recorded_flush {state : State} (session : Session state)
    (isOpen : state.fout = some state.fileName) :
    recorded (flushBuffer state) = recorded state := by
  rw [flush_eq session isOpen]
  unfold recorded
  dsimp only
  rw [backups_write _ session.apart, content_write_self]
  simp

theorem open_append_closed {state : State} (closed : state.fout = none) (message : Text) :
    openAppend true message state = { state with
      files := state.files.write state.fileName (content state.files state.fileName)
      fout := some state.fileName
      failbit := false } := by
  unfold openAppend State.isOpen
  rw [closed]
  rfl

theorem rename_present {state : State} {text : Text}
    (present : state.files state.fileName = some text) (backup : Text) :
    renameFile true backup state = { state with
      files := (state.files.write backup text).remove state.fileName
      backups := state.backups ++ [backup] } := by
  unfold renameFile
  rw [if_pos rfl, present]

theorem rotate_eq {state : State} (session : Session state)
    (isOpen : state.fout = some state.fileName) :
    rotate strftime ⟨true, true⟩ state = { state with
      files := (state.files.write (backupName (strftime state.clock) state.fileName)
        (content state.files state.fileName ++ state.buffer)).write state.fileName []
      buffer := []
      curLines := 0
      failbit := false
      fout := some state.fileName
      backups := state.backups ++ [backupName (strftime state.clock) state.fileName] } := by
  unfold rotate close
  rw [if_neg session.named, flush_eq session isOpen]
  dsimp only
  rw [@rename_present _ (content state.files state.fileName ++ state.buffer)
    (by simp [Files.write]), open_append_closed rfl]
  dsimp only
  rw [content_remove_self]
  congr 1
  funext other
  by_cases live : other = state.fileName <;> simp [Files.write, Files.remove, live]

theorem session_rotate {state : State} (session : Session state)
    (isOpen : state.fout = some state.fileName) :
    Session (rotate strftime ⟨true, true⟩ state) := by
  rw [rotate_eq strftime session isOpen]
  constructor
  · exact session.named
  · intro _
    rfl
  · rfl
  · simp [Files.write]
  · intro member
    rcases List.mem_append.mp member with earlier | now
    · exact session.apart earlier
    · exact backup_name_ne _ _ (List.mem_singleton.mp now).symm

theorem recorded_rotate {state : State} (session : Session state)
    (isOpen : state.fout = some state.fileName)
    (new : backupName (strftime state.clock) state.fileName ∉ state.backups) :
    recorded (rotate strftime ⟨true, true⟩ state) = recorded state := by
  have different := backup_name_ne (strftime state.clock) state.fileName
  rw [rotate_eq strftime session isOpen]
  unfold recorded
  dsimp only
  rw [List.flatMap_append, backups_write _ session.apart, backups_write _ new,
    content_write_self, List.flatMap_singleton, content_write_other _ _ different,
    content_write_self, List.append_nil, List.append_nil, List.append_assoc]

/-- Part of a call that puts these bytes at the end of what is recorded and logs nothing. -/
structure Carries (added : Text) (state after : State) : Prop where
  session : Session after
  isOpen : after.fout = some after.fileName
  recorded : recorded after = recorded state ++ added
  logged : after.logged = state.logged
  backups : after.backups = state.backups
  initialized : after.initialized = state.initialized

theorem carries_trans {first second : Text} {state middle after : State}
    (before : Carries first state middle) (later : Carries second middle after) :
    Carries (first ++ second) state after := by
  constructor
  · exact later.session
  · exact later.isOpen
  · rw [later.recorded, before.recorded, List.append_assoc]
  · rw [later.logged, before.logged]
  · rw [later.backups, before.backups]
  · rw [later.initialized, before.initialized]

theorem carries_flush {state : State} (session : Session state)
    (isOpen : state.fout = some state.fileName) : Carries [] state (flushBuffer state) := by
  have same := flush_eq session isOpen
  constructor
  · exact session_flush session isOpen
  · rw [same]
    exact isOpen
  · rw [recorded_flush session isOpen, List.append_nil]
  · rw [same]
  · rw [same]
  · rw [same]

theorem carries_flush_if (condition : Prop) [Decidable condition] {state : State}
    (session : Session state) (isOpen : state.fout = some state.fileName) :
    Carries [] state (if condition then flushBuffer state else state) := by
  by_cases holds : condition
  · rw [if_pos holds]
    exact carries_flush session isOpen
  · rw [if_neg holds]
    exact ⟨session, isOpen, (List.append_nil _).symm, rfl, rfl, rfl⟩

theorem carries_copy {state : State} (session : Session state)
    (isOpen : state.fout = some state.fileName) (line : Text) :
    Carries line state (copyLine line state) := by
  constructor
  · exact ⟨session.named, session.opened, session.sound, session.present, session.apart⟩
  · exact isOpen
  · exact (List.append_assoc _ _ _).symm
  · rfl
  · rfl
  · rfl

theorem carries_print {state : State} (session : Session state)
    (isOpen : state.fout = some state.fileName) (line : Text) :
    Carries [] state (printLine line state) := by
  unfold printLine
  split
  · exact ⟨⟨session.named, session.opened, session.sound, session.present, session.apart⟩,
      isOpen, (List.append_nil _).symm, rfl, rfl, rfl⟩
  · exact ⟨session, isOpen, (List.append_nil _).symm, rfl, rfl, rfl⟩

theorem carries_store {state : State} (session : Session state)
    (isOpen : state.fout = some state.fileName) (level : LogLevel) (line : Text) :
    Carries line state (storeLine level line state) := by
  unfold storeLine
  dsimp only
  have room := carries_flush_if (state.buffer.length + line.length > stackBufSize) session isOpen
  generalize (if state.buffer.length + line.length > stackBufSize then flushBuffer state
    else state) = emptied at room ⊢
  have copy := carries_copy room.session room.isOpen line
  generalize copyLine line emptied = copied at copy ⊢
  have stored := carries_flush_if
    (level.toInt ≥ LogLevel.error.toInt ∨ copied.buffer.length ≥ stackBufSize / 2)
    copy.session copy.isOpen
  have whole := carries_trans (carries_trans room copy) stored
  rw [List.nil_append, List.append_nil] at whole
  exact whole

/-- What the section of `log` under the mutex adds. -/
structure Appended (line : Text) (state after : State) : Prop where
  session : Session after
  recorded : recorded after = recorded state ++ line
  logged : after.logged = state.logged ++ [line]
  backups : after.backups = state.backups
  initialized : after.initialized = state.initialized

theorem append_line_appended {state : State} (session : Session state)
    (isOpen : state.fout = some state.fileName) (level : LogLevel) (line : Text) :
    Appended line state (appendLine level line state) := by
  unfold appendLine
  dsimp only
  have print := carries_print session isOpen line
  rw [if_pos (by simp [State.isOpen, print.isOpen])]
  have whole := carries_trans print (carries_store print.session print.isOpen level line)
  generalize storeLine level line (printLine line state) = stored at whole ⊢
  constructor
  · exact ⟨whole.session.named, whole.session.opened, whole.session.sound,
      whole.session.present, whole.session.apart⟩
  · exact whole.recorded
  · exact congrArg (fun lines => lines ++ [line]) whole.logged
  · exact whole.backups
  · exact whole.initialized

theorem session_settings {state : State} (session : Session state) (config : LogConfig)
    (clock : Nat) : Session { state with config := config, clock := clock } :=
  ⟨session.named, session.opened, session.sound, session.present, session.apart⟩

theorem intact_settings {initial : Text} {state : State} (intact : Intact initial state)
    (config : LogConfig) (clock : Nat) :
    Intact initial { state with config := config, clock := clock } :=
  ⟨intact.kept, intact.distinct, intact.drained⟩

theorem session_shutdown {state : State} (session : Session state)
    (initialized : state.initialized = true) : Session (shutdown state) := by
  have isOpen := session.opened initialized
  have flushed := session_flush session isOpen
  unfold shutdown close
  rw [if_pos initialized]
  constructor
  · exact flushed.named
  · intro impossible
    cases impossible
  · exact flushed.sound
  · exact flushed.present
  · exact flushed.apart

theorem intact_shutdown {initial : Text} {state : State} (session : Session state)
    (intact : Intact initial state) (initialized : state.initialized = true) :
    Intact initial (shutdown state) := by
  have isOpen := session.opened initialized
  have flushed := carries_flush session isOpen
  unfold shutdown close
  rw [if_pos initialized]
  constructor
  · have bytes := flushed.recorded
    rw [List.append_nil] at bytes
    dsimp only
    rw [flushed.logged, intact.kept, ← bytes]
    rfl
  · dsimp only
    rw [flushed.backups]
    exact intact.distinct
  · intro _
    rw [flush_eq session isOpen]

theorem log_passed {state : State} {level : LogLevel} (formatted : Formatted)
    (passed : state.config.level.toInt ≤ level.toInt) :
    log strftime level formatted ⟨true, true⟩ state = appendLine level formatted.line
      (if rotates state then rotate strftime ⟨true, true⟩ state else state) := by
  unfold log
  rw [if_neg (by omega)]

theorem session_log {state : State} (session : Session state)
    (initialized : state.initialized = true) (level : LogLevel) (formatted : Formatted) :
    Session (log strftime level formatted ⟨true, true⟩ state) := by
  have isOpen := session.opened initialized
  by_cases filtered : level.toInt < state.config.level.toInt
  · unfold log
    rw [if_pos filtered]
    exact session
  · rw [log_passed strftime formatted (by omega)]
    split
    · have rotated := session_rotate strftime session isOpen
      apply (append_line_appended rotated _ level formatted.line).session
      rw [rotate_eq strftime session isOpen]
    · exact (append_line_appended session isOpen level formatted.line).session

theorem intact_append {initial : Text} {state : State} (session : Session state)
    (initialized : state.initialized = true) (intact : Intact initial state) (level : LogLevel)
    (line : Text) : Intact initial (appendLine level line state) := by
  have appended := append_line_appended session (session.opened initialized) level line
  constructor
  · rw [appended.logged, appended.recorded, ← intact.kept]
    simp
  · rw [appended.backups]
    exact intact.distinct
  · rw [appended.initialized, initialized]
    intro impossible
    cases impossible

theorem intact_rotate {initial : Text} {state : State} (session : Session state)
    (initialized : state.initialized = true) (intact : Intact initial state)
    (new : backupName (strftime state.clock) state.fileName ∉ state.backups) :
    Intact initial (rotate strftime ⟨true, true⟩ state) := by
  have isOpen := session.opened initialized
  have bytes := recorded_rotate strftime session isOpen new
  constructor
  · rw [bytes, ← intact.kept, rotate_eq strftime session isOpen]
  · rw [rotate_eq strftime session isOpen]
    apply List.nodup_append.mpr
    refine ⟨intact.distinct, by simp, ?_⟩
    intro earlier member last now equal
    rw [List.mem_singleton.mp now] at equal
    rw [equal] at member
    exact new member
  · intro _
    rw [rotate_eq strftime session isOpen]

/-- A call keeps everything exactly if it does not rotate to a name that is in use. -/
theorem log_intact_iff {initial : Text} {state : State} (session : Session state)
    (intact : Intact initial state) (initialized : state.initialized = true)
    (level : LogLevel) (formatted : Formatted) :
    Intact initial (log strftime level formatted ⟨true, true⟩ state) ↔
      fresh strftime state (.log level formatted ⟨true, true⟩) := by
  by_cases filtered : level.toInt < state.config.level.toInt
  · have unchanged : log strftime level formatted ⟨true, true⟩ state = state := by
      unfold log
      rw [if_pos filtered]
    rw [unchanged]
    constructor
    · intro _ passed
      omega
    · intro _
      exact intact
  · have passed : state.config.level.toInt ≤ level.toInt := by omega
    rw [log_passed strftime formatted passed]
    have isOpen := session.opened initialized
    cases full : rotates state with
    | false =>
        constructor
        · intro _ _ impossible
          rw [full] at impossible
          cases impossible
        · intro _
          exact intact_append session initialized intact level formatted.line
    | true =>
        have rotated := session_rotate strftime session isOpen
        have eq := rotate_eq strftime session isOpen
        have still : (rotate strftime ⟨true, true⟩ state).initialized = true := by
          rw [eq]
          exact initialized
        constructor
        · intro after _ _ used
          have appended := append_line_appended rotated (rotated.opened still) level formatted.line
          have distinct := after.distinct
          rw [if_pos rfl, appended.backups, eq] at distinct
          have apart := (List.nodup_append.mp distinct).2.2
          exact apart _ used _ (List.mem_singleton.mpr rfl) rfl
        · intro new
          apply intact_append rotated still _ level formatted.line
          exact intact_rotate strftime session initialized intact (new passed full)

theorem session_cases {state after : State} {action : Action}
    (taken : sessionStep strftime state action = some after) :
    state.initialized = true ∧ inSession action = true ∧ after = step strftime state action := by
  unfold sessionStep at taken
  split at taken
  · next enabled => exact ⟨enabled.1, enabled.2, (Option.some.inj taken).symm⟩
  · cases taken

theorem session_step {state after : State} {action : Action} (session : Session state)
    (taken : sessionStep strftime state action = some after) : Session after := by
  obtain ⟨initialized, allowed, rfl⟩ := session_cases strftime taken
  cases action with
  | init config opens => cases allowed
  | log level formatted answers =>
      obtain ⟨renames, opens⟩ := answers
      obtain ⟨rfl, rfl⟩ : renames = true ∧ opens = true := by simpa [inSession] using allowed
      exact session_log strftime session initialized level formatted
  | setLevel level => exact session_settings session _ _
  | setConsole enable => exact session_settings session _ _
  | setMaxLines maxLines => exact session_settings session _ _
  | wait seconds => exact session_settings session _ _
  | shutdown => exact session_shutdown session initialized

theorem intact_step_iff {initial : Text} {state after : State} {action : Action}
    (session : Session state) (intact : Intact initial state)
    (taken : sessionStep strftime state action = some after) :
    Intact initial after ↔ fresh strftime state action := by
  obtain ⟨initialized, allowed, rfl⟩ := session_cases strftime taken
  cases action with
  | init config opens => cases allowed
  | log level formatted answers =>
      obtain ⟨renames, opens⟩ := answers
      obtain ⟨rfl, rfl⟩ : renames = true ∧ opens = true := by simpa [inSession] using allowed
      exact log_intact_iff strftime session intact initialized level formatted
  | setLevel level => exact iff_of_true (intact_settings intact _ _) trivial
  | setConsole enable => exact iff_of_true (intact_settings intact _ _) trivial
  | setMaxLines maxLines => exact iff_of_true (intact_settings intact _ _) trivial
  | wait seconds => exact iff_of_true (intact_settings intact _ _) trivial
  | shutdown => exact iff_of_true (intact_shutdown session intact initialized) trivial

theorem finds_closed {before : State} (closed : findsClosed before = true) :
    (if before.initialized then close (flushBuffer before) else before).fout = none := by
  unfold findsClosed State.isOpen at closed
  split
  · rfl
  · next first => simpa [first] using closed

theorem init_eq {config : LogConfig} (named : config.fileName ≠ []) {before : State}
    (closed : findsClosed before = true) :
    ∃ ended : State, init config true before = { ended with
      config := config
      fileName := config.fileName
      fout := some config.fileName
      failbit := false
      buffer := []
      curLines := (content ended.files config.fileName).count '\n'
      initialized := true
      files := ended.files.write config.fileName (content ended.files config.fileName) } := by
  have stream := finds_closed closed
  unfold init
  generalize (if before.initialized then close (flushBuffer before) else before) = ended
    at stream ⊢
  dsimp only
  rw [if_neg named]
  refine ⟨ended, ?_⟩
  apply open_append_closed
  exact stream

theorem init_sound {config : LogConfig} (named : config.fileName ≠ []) {before : State}
    (closed : findsClosed before = true) : (init config true before).failbit = false := by
  have ⟨_, same⟩ := init_eq named closed
  rw [same]

theorem session_opened {config : LogConfig} (named : config.fileName ≠ []) {before : State}
    (closed : findsClosed before = true) : Session (opened config before) := by
  have ⟨_, same⟩ := init_eq named closed
  unfold opened
  rw [same]
  constructor
  · exact named
  · intro _
    rfl
  · rfl
  · simp [Files.write]
  · exact List.not_mem_nil

theorem intact_opened {config : LogConfig} (named : config.fileName ≠ []) {before : State}
    (closed : findsClosed before = true) :
    Intact (content (opened config before).files config.fileName) (opened config before) := by
  have ⟨_, same⟩ := init_eq named closed
  unfold opened
  rw [same]
  constructor
  · simp [recorded]
  · exact List.nodup_nil
  · intro impossible
    cases impossible

def letterLine (letter : Char) : Formatted where
  stackBuf := List.replicate stackBufSize letter
  offset := 1
  full := List.length_replicate

def logLetter (letter : Char) : Action := .log .error (letterLine letter) ⟨true, true⟩

def oneLine : LogConfig := { fileName := "app".toList, maxLines := 1 }

def stampOf (clock : Nat) : Text := "19700101_00000".toList ++ [Char.ofNat (48 + clock)]

/-- A session with a line in its buffer, before the next `init`. -/
def unended : State := log stampOf .info (letterLine 'z') ⟨true, true⟩
  (init oneLine true (constructed (fun _ => none) 0))

end BackendComponents.Log.Rotation
