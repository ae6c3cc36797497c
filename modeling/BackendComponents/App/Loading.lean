import BackendComponents.App.Configuration
import Mathlib.Data.List.Find

/-!
# What a load leaves behind

`load_config` against a loader that remembers one text, the newest that could be read. The
empty values that reading enters into the map are never seen, and no configuration is made
of two texts.
-/

namespace BackendComponents.App.Loading

open BackendComponents.Lib
open BackendComponents.Ini.Model
open BackendComponents.Ini.Lines
open BackendComponents.App.Configuration

set_option autoImplicit false

/-- The newest text that could be read, and the configuration in force. -/
structure Loader where
  newest : Option Text
  config : AppConfig

def missing (newest : Option Text) : Option Text :=
  sectionNames.find? fun name =>
    match newest with
    | none => true
    | some text => decide (Line.header name ∉ linesOf text)

def valuesOf : Option Text → Text → Text → Value
  | none => fun _ _ => []
  | some text => seen (loaded text)

/-- One load of what a file system holds under a path, if anything. -/
def Loader.next (outside : Text → Int) (loader : Loader) (read : Option Text) (path : Text) :
    Outcome × Loader :=
  let newest := read.or loader.newest
  let printed := if read.isNone then "Failed to open ".toList ++ path ++ ['\n'] else []
  match missing newest with
  | some name =>
      ({ returned := false, printed,
         reported := "[FATAL] Failed to load config: Section not found: ".toList ++ name ++
           ['\n'] },
        { newest, config := loader.config })
  | none =>
      ({ returned := true, printed, reported := [] },
        { newest, config := configOf outside (valuesOf newest) })

/-- A call finds the file system as it is at that time. -/
structure Call where
  files : Text → Option Text
  path : Text

/-- What the calls return and print, and the configuration after each of them. -/
def answers (outside : Text → Int) (app : AppState) : List Call → List (Outcome × AppConfig)
  | [] => []
  | call :: rest =>
      let (outcome, after) := loadConfig outside call.files app call.path
      (outcome, after.config) :: answers outside after rest

def Loader.answers (outside : Text → Int) (loader : Loader) :
    List Call → List (Outcome × AppConfig)
  | [] => []
  | call :: rest =>
      let (outcome, after) := loader.next outside (call.files call.path) call.path
      (outcome, after.config) :: Loader.answers outside after rest

/-- A section other than `Global` is there exactly if it has a header, and the current one
is there if it has a name. -/
structure Headed (lines : List Line) (loading : Loading) : Prop where
  headers : ∀ name, name ≠ globalName → (loading.ini name ≠ none ↔ .header name ∈ lines)
  current : loading.currentSection ≠ [] → loading.ini loading.currentSection ≠ none

theorem headed_open {lines : List Line} {loading : Loading} (headed : Headed lines loading)
    (opened : Text) (line : Line)
    (told : ∀ name, name ≠ globalName → (line = .header name ↔ name = opened)) :
    Headed (lines ++ [line]) (loading.openSection opened) := by
  constructor
  · intro name other
    have before := headed.headers name other
    have now := told name other
    unfold Loading.openSection
    by_cases same : name = opened
    · subst same
      simp [now.mpr rfl]
    · dsimp only
      rw [Dict.assign_other _ _ same, before, List.mem_append, List.mem_singleton, eq_comm, now]
      simp [same]
  · intro _
    unfold Loading.openSection
    dsimp only
    rw [Dict.assign_self]
    exact Option.some_ne_none _

theorem headed_put {lines : List Line} {loading : Loading} (headed : Headed lines loading)
    (named : loading.currentSection ≠ []) (key : Text) (value : Value) :
    Headed lines (loading.put key value) := by
  have same : ∀ name, (loading.put key value).ini name ≠ none ↔ loading.ini name ≠ none := by
    intro name
    unfold Loading.put
    by_cases here : name = loading.currentSection
    · subst here
      simp [headed.current named]
    · dsimp only
      rw [Dict.assign_other _ _ here]
  constructor
  · intro name other
    rw [same]
    exact headed.headers name other
  · intro _
    exact (same _).mpr (headed.current named)

theorem headed_more {lines : List Line} {loading : Loading} (headed : Headed lines loading)
    {line : Line} (silent : ∀ name, line ≠ .header name) : Headed (lines ++ [line]) loading := by
  constructor
  · intro name other
    rw [headed.headers name other, List.mem_append, List.mem_singleton, eq_comm]
    simp [silent name]
  · exact headed.current

theorem headed_run (lines : List Line) : Headed lines (run lines) := by
  induction lines using List.reverseRecOn with
  | nil =>
      constructor
      · intro name _
        simp [run, start]
      · intro named
        exact absurd rfl named
  | append_singleton lines line ih =>
      rw [run_snoc]
      cases line with
      | skipped => exact headed_more ih (fun _ => by simp)
      | header opened =>
          apply headed_open ih opened
          intro name _
          simp [eq_comm]
      | assignment key value =>
          have silent : ∀ name, Line.assignment key value ≠ .header name := fun _ => by simp
          dsimp only [after]
          by_cases waiting : (run lines).currentSection = []
          · rw [if_pos waiting]
            have opened := headed_open ih globalName (Line.assignment key value) (by
              intro name other
              simp [other])
            exact headed_put opened global_name_nonempty key value
          · rw [if_neg waiting]
            exact headed_put (headed_more ih silent) waiting key value

theorem section_named {name : Text} (member : name ∈ sectionNames) : name ≠ globalName := by
  revert name
  decide

theorem loaded_section_iff (text : Text) {name : Text} (member : name ∈ sectionNames) :
    loaded text name ≠ none ↔ .header name ∈ linesOf text := by
  rw [loaded_eq]
  exact (headed_run (linesOf text)).headers name (section_named member)

/-- The map shows what the newest text shows. -/
structure Mirrors (newest : Option Text) (ini : Sections) : Prop where
  headers : ∀ name ∈ sectionNames, ini name = none ↔ ∀ text ∈ newest, .header name ∉ linesOf text
  shown : seen ini = valuesOf newest

theorem mirrors_fresh : Mirrors none Dict.empty := by
  constructor
  · intro name _
    simp
  · rfl

theorem mirrors_loaded (text : Text) : Mirrors (some text) (loaded text) := by
  constructor
  · intro name member
    rw [← not_iff_not, ← ne_eq, loaded_section_iff text member]
    simp
  · rfl

theorem mirrors_load {newest : Option Text} {ini : Sections} (mirrors : Mirrors newest ini)
    (call : Call) : Mirrors ((call.files call.path).or newest)
      (load call.files ini call.path).1 := by
  unfold load
  cases call.files call.path with
  | none => exact mirrors
  | some text => exact mirrors_loaded text

theorem find_missing {newest : Option Text} {ini : Sections} (mirrors : Mirrors newest ini) :
    sectionNames.find? (fun name => (ini name).isNone) = missing newest := by
  unfold missing
  apply List.find?_congr
  intro name member
  have header := mirrors.headers name member
  rw [Bool.eq_iff_iff, Option.isNone_iff_eq_none, header]
  cases newest <;> simp

theorem load_config_next (outside : Text → Int) (call : Call) {app : AppState} {loader : Loader}
    (mirrors : Mirrors loader.newest app.ini) (same : app.config = loader.config) :
    (loadConfig outside call.files app call.path).1 =
        (loader.next outside (call.files call.path) call.path).1 ∧
      Mirrors (loader.next outside (call.files call.path) call.path).2.newest
        (loadConfig outside call.files app call.path).2.ini ∧
      (loadConfig outside call.files app call.path).2.config =
        (loader.next outside (call.files call.path) call.path).2.config := by
  have reloaded := mirrors_load mirrors call
  have printed : (load call.files app.ini call.path).2 =
      if (call.files call.path).isNone then "Failed to open ".toList ++ call.path ++ ['\n']
      else [] := by
    unfold load
    cases call.files call.path <;> rfl
  have found := find_missing reloaded
  unfold loadConfig Loader.next
  dsimp only
  rw [← printed]
  generalize load call.files app.ini call.path = read at reloaded found
  generalize (call.files call.path).or loader.newest = newest at reloaded found
  rw [look_up_eq, found]
  cases absent : missing newest with
  | some name =>
      dsimp only
      refine ⟨?_, reloaded, same⟩
      simp
  | none =>
      dsimp only
      have present : ∀ name ∈ sectionNames, read.1 name ≠ none := by
        intro name member gone
        have nowhere := List.find?_eq_none.mp (found.trans absent) name member
        simp [gone] at nowhere
      obtain ⟨config, shows'⟩ := reads_fields outside _ read.1 ⟨present, reloaded.shown⟩
      refine ⟨rfl, ⟨?_, shows'.shown⟩, config⟩
      intro name member
      have before := reloaded.headers name member
      rw [← before]
      constructor
      · intro gone
        exact absurd gone (shows'.present name member)
      · intro gone
        exact absurd gone (present name member)

/-- Whatever is loaded, and however often: each call answers as a loader that remembers the
newest text it could read, and nothing but one whole text ever makes the configuration. -/
theorem loads_answer_newest (outside : Text → Int) (calls : List Call) {app : AppState}
    {loader : Loader} (mirrors : Mirrors loader.newest app.ini)
    (same : app.config = loader.config) :
    answers outside app calls = loader.answers outside calls := by
  induction calls generalizing app loader with
  | nil => rfl
  | cons call rest ih =>
      obtain ⟨outcome, after, config⟩ := load_config_next outside call mirrors same
      unfold answers Loader.answers
      dsimp only
      rw [outcome, config, ih after config]

def freshApp : AppState := { ini := Dict.empty, config := {} }

def freshLoader : Loader := { newest := none, config := {} }

theorem loads_from_one_text (outside : Text → Int) (calls : List Call) :
    answers outside freshApp calls = freshLoader.answers outside calls :=
  loads_answer_newest outside calls mirrors_fresh rfl

end BackendComponents.App.Loading
