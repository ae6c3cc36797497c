import BackendComponents.Errors.Values
import BackendComponents.Lib.Decimal
import Mathlib.Data.List.Basic

/-!
# Reports of errors

`LookupError` over the tables of `error_kind.h` and the registered one, and `to_string` with
its lines for the causes. A report of plain texts is as good as the chain of records it was
printed from: it can be read again.
-/

namespace BackendComponents.Errors.Reports

open BackendComponents.Lib
open BackendComponents.Lib.CStrings
open BackendComponents.Lib.Paths
open BackendComponents.Lib.Histories
open BackendComponents.Errors.Model
open BackendComponents.Errors.Values

set_option autoImplicit false

inductive ErrorLevel
  | avoid
  | cbc
  | warning
  | fatal
  deriving DecidableEq, Repr

def errorLevelText : ErrorLevel → List Char
  | .avoid => "Avoid".toList
  | .cbc => "Case By Case".toList
  | .warning => "Warning".toList
  | .fatal => "Fatal".toList

structure ErrorInfo where
  code : Int
  name : List Char
  message : List Char
  level : ErrorLevel
  deriving DecidableEq, Repr

def kUnknown : Int := 1

def kBuiltinErrorTable : List ErrorInfo :=
  [⟨1, "Unknown".toList, "Unknown error".toList, .avoid⟩,
    ⟨2, "InvalidArg".toList, "Invalid argument".toList, .avoid⟩,
    ⟨3, "NotSupported".toList, "Operation not supported".toList, .warning⟩,
    ⟨4, "NotFound".toList, "Resource not found".toList, .warning⟩,
    ⟨5, "AlreadyExists".toList, "Resource already exists".toList, .warning⟩,
    ⟨6, "Timeout".toList, "Operation timed out".toList, .warning⟩,
    ⟨7, "InvalidFormat".toList, "Invalid format".toList, .warning⟩,
    ⟨8, "Overflow".toList, "Buffer overflow".toList, .fatal⟩,
    ⟨9, "OutOfRange".toList, "Index out of range".toList, .fatal⟩,
    ⟨10, "Empty".toList, "Container is empty".toList, .warning⟩]

/-- `DEMO_ERRORS`, the table that the inventory system registers. -/
def demoErrorTable : List ErrorInfo :=
  [⟨1001, "StockInsufficient".toList, "库存不足".toList, .avoid⟩,
    ⟨1002, "RedisKeyNotFound".toList, "Redis Key 不存在".toList, .cbc⟩,
    ⟨1003, "MySQLUpdateFailed".toList, "MySQL 更新失败".toList, .fatal⟩,
    ⟨1004, "RedisUnavailable".toList, "Redis 不可用".toList, .warning⟩,
    ⟨1005, "MySQLUnavailable".toList, "MySQL 不可用".toList, .fatal⟩,
    ⟨1006, "InitFailed".toList, "初始化失败".toList, .fatal⟩,
    ⟨1007, "ConfigInvalid".toList, "配置无效".toList, .fatal⟩,
    ⟨1008, "LuaScriptFailed".toList, "Lua 脚本执行失败".toList, .fatal⟩,
    ⟨1009, "CompensationFailed".toList, "Redis 补偿回滚失败".toList, .fatal⟩,
    ⟨1010, "ConcurrencyTestFailed".toList, "并发测试异常".toList, .warning⟩]

def lookupInTable (table : List ErrorInfo) (code : Int) : Option ErrorInfo :=
  table.find? fun info => info.code == code

/-- `LookupError`; the registered function is asked after the table of the framework. -/
def lookupError (external : Int → Option ErrorInfo) (code : Int) : Option ErrorInfo :=
  ((lookupInTable kBuiltinErrorTable code).or (external code)).or
    (lookupInTable kBuiltinErrorTable kUnknown)

theorem lookup_error_found (external : Int → Option ErrorInfo) (code : Int) :
    (lookupError external code).isSome := by
  unfold lookupError
  rw [Option.isSome_or, Bool.or_eq_true]
  right
  rfl

/-- What the pointer that `LookupError` returns points to. -/
def infoOf (external : Int → Option ErrorInfo) (code : Int) : ErrorInfo :=
  (lookupError external code).get (lookup_error_found external code)

def causedByMark : List Char := "  caused by : ".toList

def format (external : Int → Option ErrorInfo) (dept : Nat) (self : Fields) :
    List Fields → List Char
  | [] => formatOne dept
  | cause :: rest => formatOne dept ++ format external (dept + 1) cause rest
where
  formatOne (dept : Nat) : List Char :=
    let info := infoOf external self.code
    (if dept > 0 then '\n' :: causedByMark else []) ++
      (['['] ++ errorLevelText info.level ++ [']']) ++ info.name ++ [' '] ++
      self.location.file ++ [':'] ++ Decimal.text self.location.line ++ [' '] ++
      (if message self = [] then info.message else message self)

def toString (external : Int → Option ErrorInfo) (error : Error) : List Char :=
  format external 0 error.self error.causes

/-- What a report says of one error. -/
structure Entry where
  level : List Char
  name : List Char
  file : List Char
  line : Int
  text : List Char
  deriving DecidableEq

def entryOf (external : Int → Option ErrorInfo) (record : Record) : Entry :=
  let info := infoOf external record.code
  { level := errorLevelText info.level
    name := info.name
    file := record.location.file
    line := record.location.line
    text := if record.text = [] then info.message else record.text }

def cutAt (letter : Char) : List Char → Option (List Char × List Char)
  | [] => none
  | first :: rest =>
      if first = letter then some ([], rest)
      else (cutAt letter rest).map fun parts => (first :: parts.1, parts.2)

def readEntry (line : List Char) : Option Entry := do
  let (level, rest) ← cutAt ']' (line.drop 1)
  let (name, rest) ← cutAt ' ' rest
  let (file, rest) ← cutAt ':' rest
  let (number, text) ← cutAt ' ' rest
  let line ← Decimal.readExact number
  some { level, name, file, line, text }

def readCause (line : List Char) : Option Entry :=
  if line.take causedByMark.length = causedByMark then readEntry (line.drop causedByMark.length)
  else none

def readReport (report : List Char) : Option (List Entry) :=
  match report.splitOn '\n' with
  | [] => none
  | first :: causes => do
      let entry ← readEntry first
      let rest ← causes.mapM readCause
      some (entry :: rest)

theorem cut_at_append {letter : Char} {front : List Char} (outside : letter ∉ front)
    (back : List Char) : cutAt letter (front ++ letter :: back) = some (front, back) := by
  induction front with
  | nil => exact if_pos rfl
  | cons first rest ih =>
      have different : first ≠ letter := by
        rintro rfl
        exact outside List.mem_cons_self
      rw [List.cons_append, cutAt, if_neg different,
        ih fun member => outside (List.mem_cons_of_mem _ member)]
      rfl

def entryText (entry : Entry) : List Char :=
  ['['] ++ entry.level ++ [']'] ++ entry.name ++ [' '] ++ entry.file ++ [':'] ++
    Decimal.text entry.line ++ [' '] ++ entry.text

/-- An entry whose parts can be told apart. -/
structure PlainEntry (entry : Entry) : Prop where
  level : ']' ∉ entry.level
  name : ' ' ∉ entry.name
  file : ':' ∉ entry.file
  oneLine : '\n' ∉ entryText entry

theorem text_no_letter {value : Int} {letter : Char} (sign : letter ≠ '-')
    (other : letter.isDigit = false) : letter ∉ Decimal.text value := by
  intro inside
  rcases Decimal.text_plain inside with equal | digit
  · exact sign equal
  · rw [other] at digit
    cases digit

theorem read_entry_text {entry : Entry} (plain : PlainEntry entry) :
    readEntry (entryText entry) = some entry := by
  have shape : (entryText entry).drop 1 = entry.level ++ ']' :: (entry.name ++ ' ' ::
      (entry.file ++ ':' :: (Decimal.text entry.line ++ ' ' :: entry.text))) := by
    simp [entryText]
  unfold readEntry
  rw [shape, cut_at_append plain.level]
  dsimp only [Option.bind_eq_bind, Option.bind_some]
  rw [cut_at_append plain.name]
  dsimp only [Option.bind_some]
  rw [cut_at_append plain.file]
  dsimp only [Option.bind_some]
  rw [cut_at_append (text_no_letter (by decide) (by decide))]
  dsimp only [Option.bind_some]
  rw [Decimal.read_exact_text]
  rfl

def reportLines : List Entry → List (List Char)
  | [] => []
  | first :: causes =>
      entryText first :: causes.map fun entry => causedByMark ++ entryText entry

theorem intercalate_line (first : List Char) (rest : List (List Char)) :
    ['\n'].intercalate (first :: rest) = first ++ rest.flatMap fun line => '\n' :: line := by
  induction rest generalizing first with
  | nil => simp [List.intercalate]
  | cons second rest ih =>
      have split : ['\n'].intercalate (first :: second :: rest) =
          first ++ '\n' :: ['\n'].intercalate (second :: rest) := by
        simp [List.intercalate]
      rw [split, ih]
      rfl

def shown (external : Int → Option ErrorInfo) (fields : Fields) : Entry :=
  entryOf external ⟨fields.code, fields.location, message fields⟩

theorem format_one (external : Int → Option ErrorInfo) (fields : Fields) (dept : Nat) :
    format.formatOne external fields dept =
      (if dept > 0 then '\n' :: causedByMark else []) ++ entryText (shown external fields) := by
  simp [format.formatOne, entryText, shown, entryOf]

theorem format_causes (external : Int → Option ErrorInfo) (dept : Nat) (self : Fields)
    (causes : List Fields) : format external (dept + 1) self causes =
      (self :: causes).flatMap fun fields =>
        '\n' :: (causedByMark ++ entryText (shown external fields)) := by
  induction causes generalizing dept self with
  | nil =>
      unfold format
      rw [format_one]
      simp
  | cons cause rest ih =>
      unfold format
      rw [ih, format_one]
      simp

theorem to_string_lines (external : Int → Option ErrorInfo) (error : Error) :
    toString external error = ['\n'].intercalate
      (reportLines ((error.self :: error.causes).map (shown external))) := by
  obtain ⟨self, causes⟩ := error
  unfold toString reportLines
  rw [List.map_cons, intercalate_line]
  cases causes with
  | nil =>
      unfold format
      rw [format_one]
      simp
  | cons cause rest =>
      unfold format
      rw [format_one, format_causes]
      simp [List.flatMap_map]

theorem mark_one_line : '\n' ∉ causedByMark := by decide

theorem read_cause_line {entry : Entry} (plain : PlainEntry entry) :
    readCause (causedByMark ++ entryText entry) = some entry := by
  unfold readCause
  rw [List.take_left, if_pos rfl, List.drop_left, read_entry_text plain]

theorem read_causes {entries : List Entry} (plain : ∀ entry ∈ entries, PlainEntry entry) :
    (entries.map fun entry => causedByMark ++ entryText entry).mapM readCause = some entries := by
  induction entries with
  | nil => rfl
  | cons entry rest ih =>
      rw [List.map_cons, List.mapM_cons, read_cause_line (plain entry List.mem_cons_self),
        ih fun other member => plain other (List.mem_cons_of_mem _ member)]
      rfl

theorem read_lines {first : Entry} {causes : List Entry} (plain : PlainEntry first)
    (plainCauses : ∀ entry ∈ causes, PlainEntry entry) :
    readReport (['\n'].intercalate (reportLines (first :: causes))) = some (first :: causes) := by
  have lines : (['\n'].intercalate (reportLines (first :: causes))).splitOn '\n' =
      reportLines (first :: causes) := by
    apply List.splitOn_intercalate
    · intro line member
      rcases List.mem_cons.mp member with rfl | later
      · exact plain.oneLine
      · obtain ⟨entry, inside, rfl⟩ := List.mem_map.mp later
        intro found
        rcases List.mem_append.mp found with mark | text
        · exact mark_one_line mark
        · exact (plainCauses entry inside).oneLine text
    · exact List.cons_ne_nil _ _
  unfold readReport
  rw [lines]
  unfold reportLines
  dsimp only
  rw [read_entry_text plain, read_causes plainCauses]
  rfl

structure PlainInfo (info : ErrorInfo) : Prop where
  oneWord : ' ' ∉ info.name ∧ '\n' ∉ info.name
  oneLine : '\n' ∉ info.message

instance (info : ErrorInfo) : Decidable (PlainInfo info) :=
  decidable_of_iff ((' ' ∉ info.name ∧ '\n' ∉ info.name) ∧ '\n' ∉ info.message)
    ⟨fun ⟨word, line⟩ => ⟨word, line⟩, fun plain => ⟨plain.oneWord, plain.oneLine⟩⟩

structure Readable (record : Record) : Prop where
  file : ':' ∉ record.location.file ∧ '\n' ∉ record.location.file
  text : '\n' ∉ record.text

theorem builtin_plain : ∀ info ∈ kBuiltinErrorTable, PlainInfo info := by
  decide

theorem demo_plain : ∀ info ∈ demoErrorTable, PlainInfo info := by
  decide

theorem found_in_table {table : List ErrorInfo} {code : Int} {info : ErrorInfo}
    (found : lookupInTable table code = some info) : info ∈ table ∧ info.code = code := by
  constructor
  · exact List.mem_of_find?_eq_some found
  · have same := List.find?_some found
    exact beq_iff_eq.mp same

theorem info_plain {external : Int → Option ErrorInfo}
    (plain : ∀ code info, external code = some info → PlainInfo info) (code : Int) :
    PlainInfo (infoOf external code) := by
  have found : lookupError external code = some (infoOf external code) :=
    (Option.some_get (lookup_error_found external code)).symm
  unfold lookupError at found
  rcases Option.or_eq_some_iff.mp found with first | ⟨_, last⟩
  · rcases Option.or_eq_some_iff.mp first with builtin | ⟨_, registered⟩
    · exact builtin_plain _ (found_in_table builtin).1
    · exact plain code _ registered
  · exact builtin_plain _ (found_in_table last).1

theorem level_plain (level : ErrorLevel) :
    ']' ∉ errorLevelText level ∧ '\n' ∉ errorLevelText level := by
  cases level <;> decide

theorem plain_entry_of {external : Int → Option ErrorInfo} {record : Record}
    (info : PlainInfo (infoOf external record.code)) (readable : Readable record) :
    PlainEntry (entryOf external record) := by
  have text : '\n' ∉ (entryOf external record).text := by
    unfold entryOf
    dsimp only
    split
    · exact info.oneLine
    · exact readable.text
  constructor
  · exact (level_plain _).1
  · exact info.oneWord.1
  · exact readable.file.1
  · have number : '\n' ∉ Decimal.text (entryOf external record).line :=
      text_no_letter (by decide) (by decide)
    have level : '\n' ∉ (entryOf external record).level := (level_plain _).2
    have name : '\n' ∉ (entryOf external record).name := info.oneWord.2
    have file : '\n' ∉ (entryOf external record).file := readable.file.2
    simp [entryText, number, level, name, file, text]

/-! ## Runs -/

/-- The records of a chain, if nothing in it has been moved from. -/
def records : Value → Option (List Record)
  | .unspecified => none
  | .error record => some [record]
  | .chained record cause => (records cause).map fun rest => record :: rest

def plainTexts : Action → Prop
  | .construct code location text => Readable ⟨code, location, text.chars⟩
  | .constructPlain code location => Readable ⟨code, location, []⟩
  | _ => True

def ReadableValue : Value → Prop
  | .unspecified => True
  | .error record => Readable record
  | .chained record cause => Readable record ∧ ReadableValue cause

def ReadableValues (values : List Value) : Prop := ∀ value ∈ values, ReadableValue value

theorem readable_value_of {values : List Value} (readable : ReadableValues values) (id : Nat) :
    ReadableValue (valueOf values id) := by
  unfold valueOf
  cases found : values[id]? with
  | none => exact True.intro
  | some value => exact readable value (List.mem_of_getElem? found)

theorem readable_descend {value : Value} (readable : ReadableValue value) (depth : Nat) :
    ReadableValue (value.descend depth) := by
  induction depth generalizing value with
  | zero => exact readable
  | succ depth ih =>
      cases value with
      | unspecified => exact True.intro
      | error record => exact True.intro
      | chained record cause => exact ih readable.2

theorem readable_with_cause {value cause : Value} (readable : ReadableValue value)
    (later : ReadableValue cause) : ReadableValue (value.withCause cause) := by
  cases value with
  | unspecified => exact True.intro
  | error record => exact ⟨readable, later⟩
  | chained record old => exact ⟨readable.1, later⟩

theorem readable_add {values : List Value} (readable : ReadableValues values) {value : Value}
    (new : ReadableValue value) : ReadableValues (values ++ [value]) := by
  intro other member
  rcases List.mem_append.mp member with old | last
  · exact readable other old
  · rw [List.mem_singleton.mp last]
    exact new

theorem readable_set {values : List Value} (readable : ReadableValues values) (id : Nat)
    {value : Value} (new : ReadableValue value) : ReadableValues (values.set id value) := by
  intro other member
  rcases List.mem_or_eq_of_mem_set member with old | rfl
  · exact readable other old
  · exact new

theorem readable_step {values : List Value} (readable : ReadableValues values) {action : Action}
    (plain : plainTexts action) : ReadableValues (valueStep values action) := by
  have emptied : ∀ other, ReadableValues (values.set other .unspecified) := fun other =>
    readable_set readable other True.intro
  cases action with
  | construct code location text => exact readable_add readable plain
  | constructPlain code location => exact readable_add readable plain
  | copyConstruct other depth =>
      exact readable_add readable (readable_descend (readable_value_of readable other) depth)
  | copyAssign id other depth =>
      dsimp only [valueStep]
      split
      · exact readable
      · exact readable_set readable id (readable_descend (readable_value_of readable other) depth)
  | moveConstruct other leftover =>
      exact readable_add (emptied other) (readable_value_of readable other)
  | moveAssign id other leftover =>
      dsimp only [valueStep]
      split
      · exact readable
      · exact readable_set (emptied other) id (readable_value_of readable other)
  | causedBy id other leftover =>
      apply readable_set (emptied other) id
      apply readable_with_cause
      · exact readable_value_of (emptied other) id
      · exact readable_value_of readable other

theorem agrees_shown (external : Int → Option ErrorInfo) {value : Value} {error : Error}
    {chain : List Record} (agrees : Agrees error value) (whole : records value = some chain) :
    (error.self :: error.causes).map (shown external) = chain.map (entryOf external) := by
  have one : ∀ {fields : Fields} {record : Record}, Shows fields record →
      shown external fields = entryOf external record := by
    intro fields record shows'
    unfold shown
    rw [shows'.code, shows'.location, shows'.text]
  induction value generalizing error chain with
  | unspecified => cases whole
  | error record =>
      rw [← Option.some.inj whole, agrees.2, List.map_cons, one agrees.1]
      rfl
  | chained record cause ih =>
      obtain ⟨rest, later, rfl⟩ := Option.map_eq_some_iff.mp whole
      obtain ⟨here, next, more, causes, below⟩ := agrees
      have tail := ih below later
      rw [causes, List.map_cons, one here, tail]
      rfl

theorem readable_records {value : Value} {chain : List Record} (readable : ReadableValue value)
    (whole : records value = some chain) :
    chain ≠ [] ∧ ∀ record ∈ chain, Readable record := by
  induction value generalizing chain with
  | unspecified => cases whole
  | error record =>
      rw [← Option.some.inj whole]
      exact ⟨List.cons_ne_nil _ _, List.forall_mem_singleton.mpr readable⟩
  | chained record cause ih =>
      obtain ⟨rest, later, rfl⟩ := Option.map_eq_some_iff.mp whole
      exact ⟨List.cons_ne_nil _ _, List.forall_mem_cons.mpr ⟨readable.1, (ih readable.2 later).2⟩⟩

theorem transparent_and_readable {trail : List (State × Action)} {last : State}
    (path : Path step [] trail last) (shorts : ∀ taken ∈ trail, short taken.2)
    (plain : ∀ taken ∈ trail, plainTexts taken.2) :
    Transparent last (recollect remember [] trail) ∧
      ReadableValues (recollect remember [] trail) := by
  induction path with
  | here => exact ⟨transparent_started, nofun⟩
  | @next trail state after action path taken ih =>
      obtain ⟨transparent, readable⟩ := ih
        (fun entry member => shorts entry (List.mem_append_left _ member))
        (fun entry member => plain entry (List.mem_append_left _ member))
      rw [recollect_append]
      constructor
      · exact (transparent_step_iff transparent taken).mpr (shorts (state, action) (by simp))
      · exact readable_step readable (plain (state, action) (by simp))

/-- In every run: the report of an object, read again, is the chain of records that the
object stands for, with the level and the name of each code. -/
theorem report_is_chain {external : Int → Option ErrorInfo}
    (infos : ∀ code info, external code = some info → PlainInfo info)
    {trail : List (State × Action)} {last : State} (path : Path step [] trail last)
    (shorts : ∀ taken ∈ trail, short taken.2) (plain : ∀ taken ∈ trail, plainTexts taken.2)
    {id : Nat} {chain : List Record}
    (whole : records (valueOf (recollect remember [] trail) id) = some chain) :
    ∃ error, object last id = some error ∧
      readReport (toString external error) = some (chain.map (entryOf external)) := by
  obtain ⟨transparent, readable⟩ := transparent_and_readable path shorts plain
  have value : ∃ value, (recollect remember [] trail)[id]? = some value ∧
      valueOf (recollect remember [] trail) id = value := by
    unfold valueOf at whole ⊢
    cases found : (recollect remember [] trail)[id]? with
    | none =>
        rw [found] at whole
        cases whole
    | some value => exact ⟨value, rfl, rfl⟩
  obtain ⟨value, found, same⟩ := value
  obtain ⟨error, present, agrees⟩ := transparent.agrees id value found
  have readableValue := readable value (List.mem_of_getElem? found)
  rw [same] at whole
  obtain ⟨nonempty, texts⟩ := readable_records readableValue whole
  have entries : ∀ entry ∈ chain.map (entryOf external), PlainEntry entry := by
    intro entry member
    obtain ⟨record, inside, rfl⟩ := List.mem_map.mp member
    exact plain_entry_of (info_plain infos record.code) (texts record inside)
  obtain ⟨first, rest, rfl⟩ := List.exists_cons_of_ne_nil nonempty
  refine ⟨error, present, ?_⟩
  rw [to_string_lines, agrees_shown external agrees whole, List.map_cons]
  rw [List.map_cons] at entries
  exact read_lines (entries _ List.mem_cons_self) fun entry member =>
    entries entry (List.mem_cons_of_mem _ member)

def demoLookup (code : Int) : Option ErrorInfo := lookupInTable demoErrorTable code

def thrownAt (line : Int) : SourceLocation where
  file := "inventory_service.cpp".toList
  line := line
  function := []

def failedUpdate : List Action :=
  [.constructPlain 1003 (thrownAt 130), .constructPlain 6 (thrownAt 52), .causedBy 0 1 []]

theorem failed_update_reported :
    ∃ error, object ((exec step [] failedUpdate).getD []) 0 = some error ∧
      readReport (toString demoLookup error) =
        some [⟨"Fatal".toList, "MySQLUpdateFailed".toList, "inventory_service.cpp".toList, 130,
            "MySQL 更新失败".toList⟩,
          ⟨"Warning".toList, "Timeout".toList, "inventory_service.cpp".toList, 52,
            "Operation timed out".toList⟩] := by
  have executed : exec step [] failedUpdate = some ((exec step [] failedUpdate).getD []) := rfl
  have location : ∀ line code, Readable ⟨code, thrownAt line, []⟩ := by
    intro line code
    have file : ':' ∉ (thrownAt 0).file ∧ '\n' ∉ (thrownAt 0).file := by decide
    exact ⟨file, List.not_mem_nil⟩
  have infos : ∀ code info, demoLookup code = some info → PlainInfo info := fun code info found =>
    demo_plain info (found_in_table found).1
  have shorts : ∀ taken ∈ trailOf step [] failedUpdate, short taken.2 := by
    decide
  have plain : ∀ taken ∈ trailOf step [] failedUpdate, plainTexts taken.2 := by
    intro taken member
    have action := trail_action_mem member
    simp only [failedUpdate, List.mem_cons, List.not_mem_nil, or_false] at action
    rcases action with equal | equal | equal <;> rw [equal]
    · exact location 130 1003
    · exact location 52 6
    · exact True.intro
  exact @report_is_chain demoLookup infos _ _ (path_of_exec executed) shorts plain 0
    [⟨1003, thrownAt 130, []⟩, ⟨6, thrownAt 52, []⟩] rfl

end BackendComponents.Errors.Reports
