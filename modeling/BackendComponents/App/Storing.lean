import BackendComponents.App.Configuration
import Mathlib.Data.List.Forall2

/-!
# Storing and loading a configuration

A configuration that is put into the map as typed values and printed with `show`, in any
order and then laid out anew, is what `load_config` reads from the file.
-/

namespace BackendComponents.App.Storing

open BackendComponents.Lib
open BackendComponents.Ini.Model
open BackendComponents.Ini.Lines
open BackendComponents.Ini.RoundTrip
open BackendComponents.Ini.Layout
open BackendComponents.App.Configuration

set_option autoImplicit false

def stored (config : AppConfig) : Listing :=
  [("server".toList,
      [("port".toList, ofInt config.serverPort),
       ("thread_pool_size".toList, ofInt config.threadPoolSize)]),
   ("redis".toList,
      [("host".toList, config.redisHost),
       ("port".toList, ofInt config.redisPort),
       ("password".toList, config.redisPassword),
       ("database".toList, ofInt config.redisDb),
       ("connect_timeout".toList, ofInt config.redisConnectTimeout),
       ("socket_timeout".toList, ofInt config.redisSocketTimeout)]),
   ("redis_pool".toList,
      [("max_active".toList, ofInt config.redisMaxSize),
       ("max_idle".toList, ofInt config.redisMinSize),
       ("idle_timeout".toList, ofInt config.redisMaxIdleTime),
       ("op_num".toList, ofInt config.redisOpNum)]),
   ("mysql".toList,
      [("host".toList, config.mysqlHost),
       ("port".toList, ofInt config.mysqlPort),
       ("user".toList, config.mysqlUser),
       ("password".toList, config.mysqlPassword),
       ("database".toList, config.mysqlDatabase),
       ("max_open_conns".toList, ofInt config.mysqlMaxSize),
       ("max_idle_conns".toList, ofInt config.mysqlMinSize),
       ("conn_max_lifetime".toList, ofInt config.mysqlMaxIdleTime),
       ("op_num".toList, ofInt config.mysqlOpNum)]),
   ("business".toList,
      [("stock_key_prefix".toList, config.stockKeyPrefix),
       ("default_timeout".toList, ofInt config.defaultTimeout),
       ("retry_times".toList, ofInt config.retryTimes)]),
   ("log".toList,
      [("file_name".toList, config.logFileName),
       ("level".toList, config.logLevel),
       ("console".toList, ofBool config.logConsole),
       ("max_lines".toList, ofInt config.logMaxLines)])]

def written (config : AppConfig) : Sections :=
  ofPairs ((stored config).map fun named => (named.1, ofPairs named.2))

def textsOf (config : AppConfig) : List Text :=
  [config.redisHost, config.redisPassword, config.mysqlHost, config.mysqlUser,
    config.mysqlPassword, config.mysqlDatabase, config.stockKeyPrefix, config.logFileName,
    config.logLevel]

def numbersOf (config : AppConfig) : List Int :=
  [config.serverPort, config.threadPoolSize, config.redisPort, config.redisDb,
    config.redisConnectTimeout, config.redisSocketTimeout, config.redisMinSize,
    config.redisMaxSize, config.redisMaxIdleTime, config.redisOpNum, config.mysqlPort,
    config.mysqlMinSize, config.mysqlMaxSize, config.mysqlMaxIdleTime, config.mysqlOpNum,
    config.defaultTimeout, config.retryTimes, config.logMaxLines]

/-- A configuration that a file can hold: no text with blanks at its ends or a line end,
and the two timeouts that are not read from the file. -/
structure Storable (config : AppConfig) : Prop where
  texts : ∀ str ∈ textsOf config, PlainName str
  numbers : ∀ number ∈ numbersOf config, IsInt number
  redisTimeout : config.redisTimeout = 5000
  mysqlTimeout : config.mysqlTimeout = 10000

theorem to_int_of_int (outside : Text → Int) {val : Int} (inside : IsInt val) :
    toInt outside (ofInt val) = val := by
  unfold toInt ofInt
  rw [Decimal.read_text, if_pos inside]

theorem to_bool_of_bool (val : Bool) : toBool (ofBool val) = val := by
  cases val <;> decide

def Word (str : Text) : Prop := str ≠ [] ∧ str.all fun char => char.isAlpha || char == '_'

instance (str : Text) : Decidable (Word str) := inferInstanceAs (Decidable (_ ∧ _))

theorem plain_of_members {str : Text} (solid : ∀ char ∈ str, isBlank char = false) :
    PlainName str := by
  constructor
  · constructor
    · intro char found
      exact solid char (List.mem_of_mem_head? found)
    · intro char found
      exact solid char (List.mem_of_mem_getLast? found)
  · intro member
    exact absurd (solid _ member) (by decide)

theorem plain_of_solid {str : Text} (solid : (str.all fun char => !isBlank char) = true) :
    PlainName str := by
  apply plain_of_members
  intro char member
  simpa using List.all_eq_true.mp solid char member

theorem word_member {str : Text} (word : Word str) {char : Char} (member : char ∈ str) :
    char.isAlpha = true ∨ char = '_' := by
  have letter := List.all_eq_true.mp word.2 char member
  simpa using letter

theorem word_letter {str : Text} (word : Word str) {char : Char} (member : char ∈ str)
    {other : Char} (special : other.isAlpha = false) (different : other ≠ '_') :
    char ≠ other := by
  rintro rfl
  rcases word_member word member with letter | underscore
  · rw [special] at letter
    cases letter
  · exact different underscore

theorem plain_word {str : Text} (word : Word str) : PlainName str := by
  apply plain_of_members
  intro char member
  have space := @word_letter str word char member ' ' (by decide) (by decide)
  have tab := @word_letter str word char member '\t' (by decide) (by decide)
  have carriage := @word_letter str word char member '\r' (by decide) (by decide)
  have lineEnd := @word_letter str word char member '\n' (by decide) (by decide)
  simp [isBlank, space, tab, carriage, lineEnd]

theorem plain_entry_word {key : Text} {value : Value} (word : Word key)
    (plain : PlainName value) : PlainEntry key value := by
  have head : ∀ {other : Char}, other.isAlpha = false → other ≠ '_' →
      key.head? ≠ some other := by
    intro other special different found
    exact word_letter word (List.mem_of_mem_head? found) special different rfl
  constructor
  · exact plain_word word
  · exact plain
  · intro member
    exact word_letter word member (by decide) (by decide) rfl
  · exact ⟨head (by decide) (by decide), head (by decide) (by decide)⟩
  · intro found
    exact absurd found (head (by decide) (by decide))

theorem plain_int (val : Int) : PlainName (ofInt val) := by
  apply plain_of_members
  intro char member
  have solid := Decimal.text_not_space member
  cases blank : isBlank char with
  | false => rfl
  | true =>
      unfold isBlank at blank
      simp only [Bool.or_eq_true, beq_iff_eq] at blank
      rcases blank with ((rfl | rfl) | rfl) | rfl <;> exact absurd solid (by decide)

theorem plain_bool (val : Bool) : PlainName (ofBool val) := by
  cases val <;> exact plain_word (by decide)

def schema : List (Text × List Text) :=
  (stored {}).map fun named => (named.1, named.2.map Prod.fst)

theorem stored_schema (config : AppConfig) :
    (stored config).map (fun named => (named.1, named.2.map Prod.fst)) = schema := rfl

theorem schema_words : ∀ named ∈ schema, Word named.1 ∧ ∀ key ∈ named.2, Word key := by
  decide

theorem schema_once : (schema.map Prod.fst).Nodup ∧ ∀ named ∈ schema, named.2.Nodup := by
  decide

theorem stored_once (config : AppConfig) : ((stored config).map Prod.fst).Nodup := by
  have once := schema_once.1
  rw [← stored_schema config, List.map_map] at once
  exact once

theorem stored_keys {config : AppConfig} {named : Text × List (Text × Value)}
    (member : named ∈ stored config) : (named.1, named.2.map Prod.fst) ∈ schema := by
  rw [← stored_schema config]
  exact List.mem_map_of_mem member

theorem stored_plain {config : AppConfig} (storable : Storable config) :
    ∀ named ∈ stored config, ∀ pair ∈ named.2, PlainName pair.2 := by
  have texts := storable.texts
  simp only [textsOf, List.forall_mem_cons] at texts
  simp only [stored, List.forall_mem_cons, plain_int, plain_bool, texts, true_and]
  simp

theorem stored_lists (config : AppConfig) :
    Lists ((stored config).map fun named => (named.1, ofPairs named.2)) (written config) := by
  apply lists_of_pairs
  rw [List.map_map]
  exact stored_once config

theorem written_section {config : AppConfig} {named : Text × List (Text × Value)}
    (member : named ∈ stored config) : written config named.1 = some (ofPairs named.2) :=
  ((stored_lists config).mem_iff _ _).mp (List.mem_map_of_mem member)

theorem written_entry {config : AppConfig} {named : Text × List (Text × Value)}
    (member : named ∈ stored config) {pair : Text × Value} (inside : pair ∈ named.2) :
    entry (written config) named.1 pair.1 = some pair.2 := by
  have once := schema_once.2 _ (stored_keys member)
  unfold entry
  rw [written_section member, Option.bind_some]
  exact (of_pairs_iff named.2 once pair.1 pair.2).mpr inside

theorem written_only {config : AppConfig} {name : Text} {content : Section}
    (present : written config name = some content) :
    ∃ pairs, (name, pairs) ∈ stored config ∧ content = ofPairs pairs := by
  have listed := ((stored_lists config).mem_iff name content).mpr present
  obtain ⟨named, member, equal⟩ := List.mem_map.mp listed
  obtain ⟨rfl, rfl⟩ := Prod.mk.inj equal
  exact ⟨named.2, member, rfl⟩

theorem printable_written {config : AppConfig} (storable : Storable config) :
    Printable { ini := written config, currentSection := [] } := by
  constructor
  · exact plain_nil
  · intro name content present
    obtain ⟨pairs, member, _⟩ := written_only present
    exact plain_word (schema_words _ (stored_keys member)).1
  · intro name key value found
    obtain ⟨content, present, inside⟩ := Option.bind_eq_some_iff.mp found
    obtain ⟨pairs, member, rfl⟩ := written_only present
    have words := schema_words _ (stored_keys member)
    have once := schema_once.2 _ (stored_keys member)
    have pair := (of_pairs_iff pairs once key value).mp inside
    constructor
    · exact words.1.1
    · apply plain_entry_word (words.2 key (List.mem_map_of_mem pair))
      exact stored_plain storable _ member _ pair

theorem loaded_written {config : AppConfig} (storable : Storable config) {listing : Listing}
    (orders : Orders listing (written config)) : loaded (showIni listing) = written config := by
  have plain := listing_of_printable (printable_written storable) orders
  obtain ⟨sections, lists, ordered⟩ := orders
  have content := run_listing start fun named member pair inside =>
    (plain.entries named member pair inside).1
  rw [listed_content ordered] at content
  rw [loaded_eq, lines_of_show plain]
  exact content.trans (of_pairs_eq lists)

theorem seen_written {config : AppConfig} :
    ∀ named ∈ stored config, ∀ pair ∈ named.2,
      seen (written config) named.1 pair.1 = pair.2 := by
  intro named member pair inside
  unfold seen
  rw [written_entry member inside]
  rfl

theorem config_of_written (outside : Text → Int) {config : AppConfig}
    (storable : Storable config) : configOf outside (seen (written config)) = config := by
  have values := @seen_written config
  have numbers := storable.numbers
  simp only [stored, List.forall_mem_cons] at values
  simp only [numbersOf, List.forall_mem_cons] at numbers
  simp only [configOf, values, numbers, to_int_of_int, to_bool_of_bool]
  rw [← storable.redisTimeout, ← storable.mysqlTimeout]

theorem written_present (config : AppConfig) : ∀ name ∈ sectionNames, written config name ≠ none := by
  intro name member
  have found : ∃ named ∈ stored config, named.1 = name := by
    have names : sectionNames = (stored config).map Prod.fst := rfl
    rw [names] at member
    exact List.mem_map.mp member
  obtain ⟨named, inside, rfl⟩ := found
  rw [written_section inside]
  exact Option.some_ne_none _

theorem look_up_written (config : AppConfig) : lookUp (written config) sectionNames = .ok () := by
  rw [look_up_eq]
  cases absent : sectionNames.find? (fun name => (written config name).isNone) with
  | none => rfl
  | some name =>
      have gone := List.find?_some absent
      have present := written_present config name (List.mem_of_find?_eq_some absent)
      exact absurd (Option.isNone_iff_eq_none.mp gone) present

/-- A configuration comes back from the file it is stored in: printed in any order, laid out
anew in any way, and loaded into any process. -/
theorem stored_is_loaded (outside : Text → Int) {config : AppConfig} (storable : Storable config)
    {listing : Listing} (orders : Orders listing (written config)) {text : Text}
    (relaid : Relaid (showIni listing) text) {files : Text → Option Text} {path : Text}
    (opened : files path = some text) (app : AppState) :
    (loadConfig outside files app path).1 =
        { returned := true, printed := [], reported := [] } ∧
      (loadConfig outside files app path).2.config = config := by
  have content : loaded text = written config := by
    rw [loaded_significant, ← significant_relaid relaid, ← loaded_significant]
    exact loaded_written storable orders
  obtain ⟨read, _⟩ := reads_fields outside (seen (written config)) (written config)
    ⟨written_present config, rfl⟩
  rw [config_of_written outside storable] at read
  unfold loadConfig
  rw [load_clears opened, content]
  dsimp only
  rw [look_up_written config]
  exact ⟨rfl, read⟩

theorem orders_stored (config : AppConfig) : Orders (stored config) (written config) := by
  refine ⟨_, stored_lists config, ?_⟩
  rw [List.forall₂_map_right_iff]
  apply List.forall₂_same.mpr
  intro named member
  exact ⟨rfl, lists_of_pairs (schema_once.2 _ (stored_keys member))⟩

theorem storable_default : Storable {} := by
  constructor
  · simp only [textsOf, List.forall_mem_cons]
    refine ⟨?_, ?_, ?_, ?_, ?_, ?_, ?_, ?_, ?_, nofun⟩ <;>
      exact plain_of_solid (by decide)
  · decide
  · rfl
  · rfl

/-- The defaults, printed and given a comment at the top. -/
theorem defaults_are_loaded :
    (loadConfig (fun _ => 0)
        (fun _ => some ([] ++ "# defaults".toList ++ '\n' :: showIni (stored {})))
        { ini := Dict.empty, config := { serverPort := 1 } } []).2.config = {} := by
  have relaid : Relaid (showIni (stored {}))
      ([] ++ "# defaults".toList ++ '\n' :: showIni (stored {})) := by
    apply Relation.EqvGen.rel
    exact Edit.insert _ (Or.inl rfl) (by decide) (Or.inr (by decide))
  exact (@stored_is_loaded (fun _ => 0) {} storable_default (stored {}) (orders_stored {}) _
    relaid _ [] rfl { ini := Dict.empty, config := { serverPort := 1 } }).2

end BackendComponents.App.Storing
