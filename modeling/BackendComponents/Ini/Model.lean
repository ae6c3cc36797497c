import BackendComponents.Lib.Trimming

/-!
# INI files

A transcription of `ini.cpp`. A text is the list of its characters; only the seven
characters the parser looks for matter, so bytes beyond ASCII are characters like any
other. The hash maps are functions with an absent value, and the order in which a loop
visits one is chosen by the caller of `showIni`.
-/

namespace BackendComponents.Ini.Model

set_option autoImplicit false

abbrev Text := List Char

/-- `Value` keeps the text it is built from. -/
abbrev Value := Text

abbrev Dict (Item : Type) := Text → Option Item

namespace Dict

variable {Item : Type}

def empty : Dict Item := fun _ => none

def assign (dict : Dict Item) (key : Text) (item : Item) : Dict Item :=
  fun other => if other = key then some item else dict other

@[simp] theorem empty_apply (key : Text) : (empty : Dict Item) key = none := rfl

@[simp] theorem assign_self (dict : Dict Item) (key : Text) (item : Item) :
    dict.assign key item key = some item := by
  simp [assign]

theorem assign_other (dict : Dict Item) {key other : Text} (item : Item)
    (different : other ≠ key) : dict.assign key item other = dict other := by
  simp [assign, different]

end Dict

abbrev Section := Dict Value

/-- The member `m_ini`. -/
abbrev Sections := Dict Section

def entry (ini : Sections) (name key : Text) : Option Value :=
  (ini name).bind fun content => content key

/-- The set of characters in `" \t\r\n"`. -/
def isBlank (letter : Char) : Bool :=
  letter == ' ' || letter == '\t' || letter == '\r' || letter == '\n'

def findFirstNotBlank (str : Text) : Option Nat :=
  str.findIdx? fun letter => !isBlank letter

def findLastNotBlank (str : Text) : Option Nat :=
  (str.reverse.findIdx? fun letter => !isBlank letter).map fun after => str.length - 1 - after

def substr (str : Text) (start count : Nat) : Text := (str.drop start).take count

def trim (str : Text) : Text :=
  match findFirstNotBlank str, findLastNotBlank str with
  | some start, some stop => substr str start (stop - start + 1)
  | _, _ => []

/-- What successive calls of `getline` read; a text that ends with a line end has no
empty line after it. -/
def getlines : Text → List Text
  | [] => []
  | letter :: rest =>
      if letter = '\n' then [] :: getlines rest
      else match getlines rest with
        | [] => [[letter]]
        | line :: more => (letter :: line) :: more

def globalName : Text := "Global".toList

/-- The local variables of `load` between two lines, and `m_ini`. -/
structure Loading where
  ini : Sections
  currentSection : Text

/-- `m_ini[current_section] = Section()` after `current_section` has been set. -/
def Loading.openSection (loading : Loading) (name : Text) : Loading :=
  { ini := loading.ini.assign name Dict.empty, currentSection := name }

/-- `m_ini[current_section][key] = Value(value)`; a missing section is created. -/
def Loading.put (loading : Loading) (key : Text) (value : Value) : Loading :=
  let content := (loading.ini loading.currentSection).getD Dict.empty
  { loading with ini := loading.ini.assign loading.currentSection (content.assign key value) }

def loadLine (loading : Loading) (raw : Text) : Loading :=
  let line := trim raw
  if line = [] ∨ line.head? = some '#' ∨ line.head? = some ';' then loading
  else if line.head? = some '[' ∧ line.getLast? = some ']' then
    loading.openSection (trim (substr line 1 (line.length - 2)))
  else match line.findIdx? (fun letter => letter == '=') with
    | none => loading
    | some pos =>
        let key := trim (substr line 0 pos)
        let value := trim (line.drop (pos + 1))
        let opened :=
          if loading.currentSection = [] then loading.openSection globalName else loading
        opened.put key value

/-- The loop of `load` over the lines of the file, from the cleared map. -/
def loaded (text : Text) : Sections :=
  ((getlines text).foldl loadLine { ini := Dict.empty, currentSection := [] }).ini

/-- `load`: the new `m_ini` and what is printed. A file that cannot be opened has no
content, and then `m_ini` stays as it is. -/
def load (files : Text → Option Text) (ini : Sections) (fileName : Text) : Sections × Text :=
  match files fileName with
  | none => (ini, "Failed to open ".toList ++ fileName ++ ['\n'])
  | some text => (loaded text, [])

theorem load_clears {files : Text → Option Text} {fileName text : Text}
    (opened : files fileName = some text) (ini : Sections) :
    load files ini fileName = (loaded text, []) := by
  simp only [load, opened]

/-- A section with its entries in the order in which a loop visits them. -/
abbrev Listing := List (Text × List (Text × Value))

def showEntry (pair : Text × Value) : Text := pair.1 ++ [' ', '=', ' '] ++ pair.2 ++ ['\n']

def showSection (named : Text × List (Text × Value)) : Text :=
  ['['] ++ named.1 ++ [']', '\n'] ++ named.2.flatMap showEntry

/-- What `show` prints when its loops visit the maps in the order of the listing. -/
def showIni (listing : Listing) : Text := listing.flatMap showSection

/-- The pairs list a map: each key once, with the value it has there. -/
structure Lists {Item : Type} (pairs : List (Text × Item)) (dict : Dict Item) : Prop where
  once : (pairs.map Prod.fst).Nodup
  mem_iff : ∀ key item, (key, item) ∈ pairs ↔ dict key = some item

/-- An order in which the two nested loops of `show` may visit the maps: an order of the
sections, and one of the entries of each. -/
def Orders (listing : Listing) (ini : Sections) : Prop :=
  ∃ stored, Lists stored ini ∧
    List.Forall₂ (fun named content => named.1 = content.1 ∧ Lists named.2 content.2)
      listing stored

end BackendComponents.Ini.Model
