import BackendComponents.Ini.RoundTrip
import BackendComponents.Ini.Layout
import BackendComponents.Lib.Decimal
import Mathlib.Algebra.Ring.Int.Defs

/-!
# Loading the configuration

The conversions of `value.cpp` and `App::load_config`. The one `IniFile` of the process
keeps its map from call to call, and reading a key that is missing enters it with an empty
value. An integer out of range is undefined in C; it may become anything.
-/

namespace BackendComponents.App.Configuration

open BackendComponents.Lib
open BackendComponents.Ini.Model
open BackendComponents.Ini.Lines
open BackendComponents.Ini.RoundTrip
open BackendComponents.Ini.Layout

set_option autoImplicit false

/-- `Value(bool)` -/
def ofBool (val : Bool) : Value := if val then "true".toList else "false".toList

/-- `Value(int)` -/
def ofInt (val : Int) : Value := Decimal.text val

/-- `operator bool` -/
def toBool (value : Value) : Bool := decide (value = "true".toList)

def IsInt (val : Int) : Prop := -2 ^ 31 ≤ val ∧ val < 2 ^ 31

instance (val : Int) : Decidable (IsInt val) := inferInstanceAs (Decidable (_ ∧ _))

/-- `operator int`; `outside` is what `atoi` makes of a number that is no `int`. -/
def toInt (outside : Text → Int) (value : Value) : Int :=
  if IsInt (Decimal.readLeading value) then Decimal.readLeading value else outside value

structure AppConfig where
  serverPort : Int := 8080
  threadPoolSize : Int := 4
  redisHost : Text := "127.0.0.1".toList
  redisPort : Int := 6379
  redisPassword : Text := []
  redisDb : Int := 0
  redisConnectTimeout : Int := 1000
  redisSocketTimeout : Int := 1000
  redisMinSize : Int := 5
  redisMaxSize : Int := 50
  redisMaxIdleTime : Int := 300
  redisTimeout : Int := 5000
  redisOpNum : Int := 4
  mysqlHost : Text := "127.0.0.1".toList
  mysqlPort : Int := 3306
  mysqlUser : Text := "root".toList
  mysqlPassword : Text := "password".toList
  mysqlDatabase : Text := "inventory_db".toList
  mysqlMinSize : Int := 5
  mysqlMaxSize : Int := 20
  mysqlMaxIdleTime : Int := 180
  mysqlTimeout : Int := 10000
  mysqlOpNum : Int := 4
  stockKeyPrefix : Text := "stock:".toList
  defaultTimeout : Int := 5
  retryTimes : Int := 3
  logFileName : Text := "logs/demo1.log".toList
  logLevel : Text := "INFO".toList
  logConsole : Bool := true
  logMaxLines : Int := 500
  deriving DecidableEq

/-- The non-const `operator[]` of `IniFile`, with the text of its exception. -/
def sectionAt (ini : Sections) (name : Text) : Except Text Section :=
  match ini name with
  | some content => .ok content
  | none => .error ("Section not found: ".toList ++ name)

/-- The sections that `load_config` looks up before it reads anything, in order. -/
def sectionNames : List Text :=
  ["server".toList, "redis".toList, "redis_pool".toList, "mysql".toList, "business".toList,
    "log".toList]

def lookUp (ini : Sections) : List Text → Except Text Unit
  | [] => .ok ()
  | name :: rest => do
      let _ ← sectionAt ini name
      lookUp ini rest

/-- `section[key]` of a section that is found: a missing key is entered. -/
def index (name key : Text) : StateM Sections Value := fun ini =>
  match entry ini name key with
  | some value => (value, ini)
  | none => ([], ini.assign name (((ini name).getD Dict.empty).assign key []))

def intAt (outside : Text → Int) (name key : String) : StateM Sections Int :=
  toInt outside <$> index name.toList key.toList

def textAt (name key : String) : StateM Sections Text := index name.toList key.toList

def boolAt (name key : String) : StateM Sections Bool := toBool <$> index name.toList key.toList

/-- The assignments to `m_config`, which set every field. -/
def readFields (outside : Text → Int) : StateM Sections AppConfig := do
  let serverPort ← intAt outside "server" "port"
  let threadPoolSize ← intAt outside "server" "thread_pool_size"
  let redisHost ← textAt "redis" "host"
  let redisPort ← intAt outside "redis" "port"
  let redisPassword ← textAt "redis" "password"
  let redisDb ← intAt outside "redis" "database"
  let redisConnectTimeout ← intAt outside "redis" "connect_timeout"
  let redisSocketTimeout ← intAt outside "redis" "socket_timeout"
  let redisMinSize ← intAt outside "redis_pool" "max_idle"
  let redisMaxSize ← intAt outside "redis_pool" "max_active"
  let redisMaxIdleTime ← intAt outside "redis_pool" "idle_timeout"
  let redisOpNum ← intAt outside "redis_pool" "op_num"
  let mysqlHost ← textAt "mysql" "host"
  let mysqlPort ← intAt outside "mysql" "port"
  let mysqlUser ← textAt "mysql" "user"
  let mysqlPassword ← textAt "mysql" "password"
  let mysqlDatabase ← textAt "mysql" "database"
  let mysqlMinSize ← intAt outside "mysql" "max_idle_conns"
  let mysqlMaxSize ← intAt outside "mysql" "max_open_conns"
  let mysqlMaxIdleTime ← intAt outside "mysql" "conn_max_lifetime"
  let mysqlOpNum ← intAt outside "mysql" "op_num"
  let stockKeyPrefix ← textAt "business" "stock_key_prefix"
  let defaultTimeout ← intAt outside "business" "default_timeout"
  let retryTimes ← intAt outside "business" "retry_times"
  let logFileName ← textAt "log" "file_name"
  let logLevel ← textAt "log" "level"
  let logConsole ← boolAt "log" "console"
  let logMaxLines ← intAt outside "log" "max_lines"
  return { serverPort, threadPoolSize, redisHost, redisPort, redisPassword, redisDb,
           redisConnectTimeout, redisSocketTimeout, redisMinSize, redisMaxSize,
           redisMaxIdleTime, redisTimeout := 5000, redisOpNum, mysqlHost, mysqlPort, mysqlUser,
           mysqlPassword, mysqlDatabase, mysqlMinSize, mysqlMaxSize, mysqlMaxIdleTime,
           mysqlTimeout := 10000, mysqlOpNum, stockKeyPrefix, defaultTimeout, retryTimes,
           logFileName, logLevel, logConsole, logMaxLines }

structure AppState where
  ini : Sections
  config : AppConfig

/-- What `load_config` returns and what it writes to `std::cout` and `std::cerr`. -/
structure Outcome where
  returned : Bool
  printed : Text
  reported : Text
  deriving DecidableEq

def loadConfig (outside : Text → Int) (files : Text → Option Text) (app : AppState)
    (configPath : Text) : Outcome × AppState :=
  let (ini, printed) := load files app.ini configPath
  match lookUp ini sectionNames with
  | .error what =>
      ({ returned := false, printed,
         reported := "[FATAL] Failed to load config: ".toList ++ what ++ ['\n'] },
        { ini, config := app.config })
  | .ok () =>
      let (config, ini) := readFields outside ini
      ({ returned := true, printed, reported := [] }, { ini, config })

theorem look_up_eq (ini : Sections) (names : List Text) :
    lookUp ini names = match names.find? (fun name => (ini name).isNone) with
      | some name => .error ("Section not found: ".toList ++ name)
      | none => .ok () := by
  induction names with
  | nil => rfl
  | cons name rest ih =>
      unfold lookUp sectionAt
      cases found : ini name with
      | none =>
          rw [List.find?_cons_of_pos (by simp [found])]
          rfl
      | some content =>
          rw [List.find?_cons_of_neg (by simp [found]), ← ih]
          rfl

/-! The values a map shows to a reader that takes a missing key for an empty value. -/

def seen (ini : Sections) (name key : Text) : Value := (entry ini name key).getD []

def configOf (outside : Text → Int) (values : Text → Text → Value) : AppConfig :=
  let int (name key : String) := toInt outside (values name.toList key.toList)
  let text (name key : String) := values name.toList key.toList
  { serverPort := int "server" "port"
    threadPoolSize := int "server" "thread_pool_size"
    redisHost := text "redis" "host"
    redisPort := int "redis" "port"
    redisPassword := text "redis" "password"
    redisDb := int "redis" "database"
    redisConnectTimeout := int "redis" "connect_timeout"
    redisSocketTimeout := int "redis" "socket_timeout"
    redisMinSize := int "redis_pool" "max_idle"
    redisMaxSize := int "redis_pool" "max_active"
    redisMaxIdleTime := int "redis_pool" "idle_timeout"
    redisTimeout := 5000
    redisOpNum := int "redis_pool" "op_num"
    mysqlHost := text "mysql" "host"
    mysqlPort := int "mysql" "port"
    mysqlUser := text "mysql" "user"
    mysqlPassword := text "mysql" "password"
    mysqlDatabase := text "mysql" "database"
    mysqlMinSize := int "mysql" "max_idle_conns"
    mysqlMaxSize := int "mysql" "max_open_conns"
    mysqlMaxIdleTime := int "mysql" "conn_max_lifetime"
    mysqlTimeout := 10000
    mysqlOpNum := int "mysql" "op_num"
    stockKeyPrefix := text "business" "stock_key_prefix"
    defaultTimeout := int "business" "default_timeout"
    retryTimes := int "business" "retry_times"
    logFileName := text "log" "file_name"
    logLevel := text "log" "level"
    logConsole := toBool (text "log" "console")
    logMaxLines := int "log" "max_lines" }

/-- The map has the six sections and shows these values. -/
structure Shows (values : Text → Text → Value) (ini : Sections) : Prop where
  present : ∀ name ∈ sectionNames, ini name ≠ none
  shown : seen ini = values

/-- A step reads `out` off the values and leaves them as they are. -/
def Reads {Out : Type} (values : Text → Text → Value) (step : StateM Sections Out)
    (out : Out) : Prop :=
  ∀ ini, Shows values ini → (step ini).1 = out ∧ Shows values (step ini).2

theorem reads_pure {Out : Type} (values : Text → Text → Value) (out : Out) :
    Reads values (pure out) out := by
  intro ini shows'
  exact ⟨rfl, shows'⟩

theorem reads_bind {First Out : Type} {values : Text → Text → Value}
    {step : StateM Sections First} {next : First → StateM Sections Out} {first : First}
    {out : Out} (reads : Reads values step first) (later : Reads values (next first) out) :
    Reads values (step >>= next) out := by
  intro ini before
  obtain ⟨read, after⟩ := reads ini before
  have rest := later (step ini).2 after
  rw [← read] at rest
  exact rest

theorem reads_map {First Out : Type} {values : Text → Text → Value}
    {step : StateM Sections First} {first : First} (convert : First → Out)
    (reads : Reads values step first) : Reads values (convert <$> step) (convert first) := by
  intro ini before
  obtain ⟨read, after⟩ := reads ini before
  rw [← read]
  exact ⟨rfl, after⟩

theorem reads_index (values : Text → Text → Value) (name key : Text) :
    Reads values (index name key) (values name key) := by
  intro ini before
  obtain ⟨present, rfl⟩ := before
  unfold index
  cases found : entry ini name key with
  | some value =>
      dsimp only
      constructor
      · unfold seen
        rw [found]
        rfl
      · exact ⟨present, rfl⟩
  | none =>
      dsimp only
      constructor
      · unfold seen
        rw [found]
        rfl
      · constructor
        · intro other member
          unfold Dict.assign
          split
          · exact Option.some_ne_none _
          · exact present other member
        · funext other wanted
          unfold seen entry at *
          by_cases same : other = name
          · subst same
            rw [Dict.assign_self]
            by_cases equal : wanted = key
            · subst equal
              rw [found, Option.bind_some, Dict.assign_self]
              rfl
            · rw [Option.bind_some, Dict.assign_other _ _ equal]
              cases ini other <;> rfl
          · rw [Dict.assign_other _ _ same]

theorem reads_fields (outside : Text → Int) (values : Text → Text → Value) :
    Reads values (readFields outside) (configOf outside values) := by
  unfold readFields intAt textAt boolAt
  repeat
    first
      | apply reads_bind (reads_map _ (reads_index _ _ _))
      | apply reads_bind (reads_index _ _ _)
  exact reads_pure _ _

end BackendComponents.App.Configuration
