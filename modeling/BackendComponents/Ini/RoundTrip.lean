import BackendComponents.Ini.Lines

/-!
# Printing and loading

The sections, keys and values that `load` can produce are such that each line `show`
prints for them has the same kind again, with the same name, key and value.
-/

namespace BackendComponents.Ini.RoundTrip

open BackendComponents.Lib.Trimming
open BackendComponents.Ini.Model
open BackendComponents.Ini.Lines

set_option autoImplicit false

/-- A name of a section, as `load` produces it. -/
structure PlainName (name : Text) : Prop where
  bare : Bare isBlank name
  oneLine : '\n' ∉ name

/-- A key and a value, as `load` produces them. -/
structure PlainEntry (key : Text) (value : Value) : Prop where
  plainKey : PlainName key
  plainValue : PlainName value
  noSeparator : '=' ∉ key
  noComment : key.head? ≠ some '#' ∧ key.head? ≠ some ';'
  noHeader : key.head? = some '[' → value.getLast? ≠ some ']'

def PlainLine : Line → Prop
  | .skipped => True
  | .header name => PlainName name
  | .assignment key value => PlainEntry key value

theorem plain_trim {str : Text} (oneLine : '\n' ∉ str) : PlainName (trim str) :=
  ⟨trim_bare str, fun member => oneLine (mem_of_mem_trim member)⟩

theorem blank_front_nil {front rest : Text} (blank : Blank front)
    (solid : ∀ letter, (front ++ rest).head? = some letter → isBlank letter = false) :
    front = [] := by
  cases front with
  | nil => rfl
  | cons letter more =>
      have notBlank := solid letter rfl
      rw [blank letter List.mem_cons_self] at notBlank
      cases notBlank

theorem blank_back_nil {rest back : Text} (blank : Blank back)
    (solid : ∀ letter, (rest ++ back).getLast? = some letter → isBlank letter = false) :
    back = [] := by
  have reversed : back.reverse = [] := by
    apply @blank_front_nil _ rest.reverse (blank_reverse blank)
    intro letter found
    apply solid letter
    rw [← List.reverse_append, List.head?_reverse] at found
    exact found
  exact List.reverse_eq_nil_iff.mp reversed

theorem trim_head {str : Text}
    (solid : ∀ letter, str.head? = some letter → isBlank letter = false) :
    (trim str).head? = str.head? := by
  obtain ⟨front, back, equal, blankFront, blankBack, _⟩ := trim_split str
  generalize trim str = middle at equal ⊢
  subst equal
  rw [List.append_assoc] at solid ⊢
  obtain rfl := blank_front_nil blankFront solid
  cases middle with
  | cons letter more => rfl
  | nil =>
      obtain rfl := @blank_front_nil _ [] blankBack (by simpa using solid)
      rfl

theorem trim_last {str : Text}
    (solid : ∀ letter, str.getLast? = some letter → isBlank letter = false) :
    (trim str).getLast? = str.getLast? := by
  obtain ⟨front, back, equal, blankFront, blankBack, _⟩ := trim_split str
  generalize trim str = middle at equal ⊢
  subst equal
  obtain rfl := blank_back_nil blankBack solid
  rw [List.append_nil] at solid ⊢
  by_cases empty : middle = []
  · subst empty
    obtain rfl := @blank_back_nil [] _ blankFront (by simpa using solid)
    rfl
  · exact (List.getLast?_append_of_ne_nil front empty).symm

theorem split_at_separator {line : Text} {pos : Nat}
    (found : line.findIdx? (fun letter => letter == '=') = some pos) :
    line = substr line 0 pos ++ '=' :: line.drop (pos + 1) ∧ '=' ∉ substr line 0 pos := by
  obtain ⟨bound, equal, before⟩ := List.findIdx?_eq_some_iff_getElem.mp found
  have separator := beq_iff_eq.mp equal
  unfold substr
  rw [List.drop_zero]
  constructor
  · rw [← separator, List.getElem_cons_drop, List.take_append_drop]
  · intro member
    obtain ⟨place, early, letter⟩ := List.mem_take_iff_getElem.mp member
    exact before place (by omega) (by simp [letter])

theorem head_of_append {front rest : Text} {letter : Char} (found : front.head? = some letter) :
    (front ++ rest).head? = some letter := by
  simp [found]

theorem plain_entry_of {line left right : Text} (bare : Bare isBlank line)
    (oneLine : '\n' ∉ line) (noComment : line.head? ≠ some '#' ∧ line.head? ≠ some ';')
    (noHeader : ¬(line.head? = some '[' ∧ line.getLast? = some ']'))
    (split : line = left ++ '=' :: right) (noSeparator : '=' ∉ left) :
    PlainEntry (trim left) (trim right) := by
  have front : ∀ letter, left.head? = some letter → line.head? = some letter := by
    intro letter head
    rw [split]
    exact head_of_append head
  have tail : ∀ letter, right.getLast? = some letter → line.getLast? = some letter := by
    intro letter last
    rw [split, List.getLast?_append, List.getLast?_cons, last]
    rfl
  have keyHead := trim_head fun letter head => bare.first letter (front letter head)
  have valueLast := trim_last fun letter last => bare.last letter (tail letter last)
  constructor
  · apply plain_trim
    intro member
    exact oneLine (by rw [split]; simp [member])
  · apply plain_trim
    intro member
    exact oneLine (by rw [split]; simp [member])
  · intro member
    exact noSeparator (mem_of_mem_trim member)
  · rw [keyHead]
    exact ⟨fun head => noComment.1 (front _ head), fun head => noComment.2 (front _ head)⟩
  · rw [keyHead, valueLast]
    intro head last
    exact noHeader ⟨front _ head, tail _ last⟩

theorem plain_line_of {raw : Text} (oneLine : '\n' ∉ raw) : PlainLine (lineOf raw) := by
  have bare := trim_bare raw
  have inLine : '\n' ∉ trim raw := fun member => oneLine (mem_of_mem_trim member)
  unfold lineOf
  generalize trim raw = line at bare inLine
  dsimp only
  split
  · trivial
  · rename_i notSkipped
    split
    · apply plain_trim
      unfold substr
      intro member
      exact inLine (List.mem_of_mem_drop (List.mem_of_mem_take member))
    · rename_i notHeader
      split
      · trivial
      · rename_i pos found
        obtain ⟨split, noSeparator⟩ := split_at_separator found
        have noComment : line.head? ≠ some '#' ∧ line.head? ≠ some ';' :=
          ⟨fun head => notSkipped (Or.inr (Or.inl head)),
            fun head => notSkipped (Or.inr (Or.inr head))⟩
        exact plain_entry_of bare inLine noComment notHeader split noSeparator

theorem getlines_one_line (text : Text) : ∀ line ∈ getlines text, '\n' ∉ line := by
  induction text with
  | nil =>
      intro line member
      cases member
  | cons letter rest ih =>
      unfold getlines
      split
      · intro line member
        rcases List.mem_cons.mp member with rfl | later
        · exact List.not_mem_nil
        · exact ih line later
      · rename_i different
        cases read : getlines rest with
        | nil =>
            intro line member
            obtain rfl := List.mem_singleton.mp member
            simpa [eq_comm] using different
        | cons first more =>
            rw [read] at ih
            intro line member
            rcases List.mem_cons.mp member with rfl | later
            · intro found
              rcases List.mem_cons.mp found with equal | inside
              · exact different equal.symm
              · exact ih first List.mem_cons_self inside
            · exact ih line (List.mem_cons_of_mem _ later)

theorem lines_plain (text : Text) : ∀ line ∈ linesOf text, PlainLine line := by
  intro line member
  obtain ⟨raw, read, rfl⟩ := List.mem_map.mp member
  exact plain_line_of (getlines_one_line text raw read)

/-- The image of `load`, with the local variable that carries it from line to line. -/
structure Printable (loading : Loading) : Prop where
  current : PlainName loading.currentSection
  names : ∀ name content, loading.ini name = some content → PlainName name
  entries : ∀ name key value, entry loading.ini name key = some value →
    name ≠ [] ∧ PlainEntry key value

theorem plain_nil : PlainName [] := ⟨bare_nil isBlank, List.not_mem_nil⟩

theorem plain_global : PlainName globalName := by
  constructor
  · constructor
    · intro letter found
      obtain rfl : 'G' = letter := Option.some.inj found
      decide
    · intro letter found
      obtain rfl : 'l' = letter := Option.some.inj found
      decide
  · decide

theorem printable_start : Printable start := by
  constructor
  · exact plain_nil
  · intro name content present
    cases present
  · intro name key value present
    cases present

theorem printable_open {loading : Loading} (printable : Printable loading) {opened : Text}
    (plain : PlainName opened) : Printable (loading.openSection opened) := by
  constructor
  · exact plain
  · intro name content present
    by_cases same : name = opened
    · rw [same]
      exact plain
    · apply printable.names name content
      rw [← present]
      exact (Dict.assign_other loading.ini Dict.empty same).symm
  · intro name key value present
    rw [entry_open] at present
    split at present
    · cases present
    · exact printable.entries name key value present

theorem printable_put {loading : Loading} (printable : Printable loading)
    (named : loading.currentSection ≠ []) {key : Text} {value : Value}
    (plain : PlainEntry key value) : Printable (loading.put key value) := by
  constructor
  · exact printable.current
  · intro name content present
    by_cases same : name = loading.currentSection
    · rw [same]
      exact printable.current
    · apply printable.names name content
      rw [← present]
      exact (Dict.assign_other loading.ini _ same).symm
  · intro name wanted found present
    rw [entry_put] at present
    split at present
    · rename_i here
      obtain ⟨rfl, rfl⟩ := here
      obtain rfl := Option.some.inj present
      exact ⟨named, plain⟩
    · exact printable.entries name wanted found present

theorem printable_after {loading : Loading} (printable : Printable loading) {line : Line}
    (plain : PlainLine line) : Printable (after loading line) := by
  cases line with
  | skipped => exact printable
  | header name => exact printable_open printable plain
  | assignment key value =>
      dsimp only [after]
      by_cases waiting : loading.currentSection = []
      · rw [if_pos waiting]
        exact printable_put (printable_open printable plain_global) global_name_nonempty plain
      · rw [if_neg waiting]
        exact printable_put printable waiting plain

theorem printable_run {lines : List Line} (plain : ∀ line ∈ lines, PlainLine line) :
    Printable (run lines) := by
  induction lines using List.reverseRecOn with
  | nil => exact printable_start
  | append_singleton lines line ih =>
      rw [run_snoc]
      apply printable_after
      · exact ih fun earlier member => plain earlier (List.mem_append_left _ member)
      · exact plain line (by simp)

theorem line_of_header {name : Text} (plain : PlainName name) :
    lineOf (['['] ++ name ++ [']']) = .header name := by
  have read := line_of_brackets blank_nil blank_nil name
  rw [List.nil_append, List.append_nil, trim_of_bare plain.bare] at read
  exact read

/-- The text on one side of the `=` that `show` prints, without the blank at the end of
the line if there is nothing behind it. -/
def leftOf (key : Text) : Text := if key = [] then [] else key ++ [' ']

def rightOf (value : Value) : Text := if value = [] then [] else ' ' :: value

theorem blank_space : Blank [' '] := blank_one rfl

theorem trim_left_of {key : Text} (plain : PlainName key) : trim (leftOf key) = key := by
  unfold leftOf
  split
  · rename_i empty
    rw [empty]
    rfl
  · exact trim_of_split blank_nil blank_space plain.bare

theorem trim_right_of {value : Value} (plain : PlainName value) :
    trim (rightOf value) = value := by
  unfold rightOf
  split
  · rename_i empty
    rw [empty]
    rfl
  · have trimmed := trim_of_split blank_space blank_nil plain.bare
    rw [List.append_nil] at trimmed
    exact trimmed

def core (key : Text) (value : Value) : Text := leftOf key ++ '=' :: rightOf value

theorem core_head {key : Text} {value : Value} {letter : Char}
    (found : (core key value).head? = some letter) : letter = '=' ∨ key.head? = some letter := by
  unfold core leftOf at found
  split at found
  · exact Or.inl (by simpa [eq_comm] using found)
  · rename_i nonempty
    obtain ⟨first, rest, rfl⟩ := List.exists_cons_of_ne_nil nonempty
    exact Or.inr (by simpa using found)

theorem core_last {key : Text} {value : Value} {letter : Char}
    (found : (core key value).getLast? = some letter) :
    letter = '=' ∨ value.getLast? = some letter := by
  unfold core rightOf at found
  rw [List.getLast?_append] at found
  split at found
  · exact Or.inl (by simpa [eq_comm] using found)
  · rename_i nonempty
    rw [List.getLast?_cons, List.getLast?_cons, List.getLast?_eq_some_getLast nonempty] at found
    rw [List.getLast?_eq_some_getLast nonempty]
    exact Or.inr (by simpa using found)

theorem core_bare {key : Text} {value : Value} (plain : PlainEntry key value) :
    Bare isBlank (core key value) := by
  constructor
  · intro letter found
    rcases core_head found with rfl | head
    · decide
    · exact plain.plainKey.bare.first letter head
  · intro letter found
    rcases core_last found with rfl | last
    · decide
    · exact plain.plainValue.bare.last letter last

theorem trim_entry {key : Text} {value : Value} (plain : PlainEntry key value) :
    trim (key ++ [' ', '=', ' '] ++ value) = core key value := by
  have blankFront : Blank (if key = [] then [' '] else []) := by
    split
    · exact blank_space
    · exact blank_nil
  have blankBack : Blank (if value = [] then [' '] else []) := by
    split
    · exact blank_space
    · exact blank_nil
  rw [← trim_of_split blankFront blankBack (core_bare plain)]
  congr 1
  unfold core leftOf rightOf
  by_cases noKey : key = [] <;> by_cases noValue : value = [] <;> simp [noKey, noValue]

theorem line_of_entry {key : Text} {value : Value} (plain : PlainEntry key value) :
    lineOf (key ++ [' ', '=', ' '] ++ value) = .assignment key value := by
  have trimmed := trim_entry plain
  have noSeparator : '=' ∉ leftOf key := by
    unfold leftOf
    split
    · exact List.not_mem_nil
    · simpa using plain.noSeparator
  have noComment : (core key value).head? ≠ some '#' ∧ (core key value).head? ≠ some ';' := by
    constructor <;> intro head
    · rcases core_head head with impossible | found
      · cases impossible
      · exact plain.noComment.1 found
    · rcases core_head head with impossible | found
      · cases impossible
      · exact plain.noComment.2 found
  have noHeader : ¬((core key value).head? = some '[' ∧
      (core key value).getLast? = some ']') := by
    rintro ⟨head, last⟩
    rcases core_head head with impossible | first
    · cases impossible
    · rcases core_last last with impossible | final
      · cases impossible
      · exact plain.noHeader first final
  rw [← trimmed] at noComment noHeader
  rw [line_of_separated trimmed noSeparator noComment noHeader]
  rw [trim_left_of plain.plainKey, trim_right_of plain.plainValue]

/-- The lines that `show` prints for one section. -/
def sectionLines (named : Text × List (Text × Value)) : List Line :=
  .header named.1 :: named.2.map fun pair => .assignment pair.1 pair.2

/-- Every line of the listing can be read again. -/
structure PlainListing (listing : Listing) : Prop where
  names : ∀ named ∈ listing, PlainName named.1
  entries : ∀ named ∈ listing, ∀ pair ∈ named.2, named.1 ≠ [] ∧ PlainEntry pair.1 pair.2

theorem lines_of_entries (pairs : List (Text × Value)) (rest : Text)
    (plain : ∀ pair ∈ pairs, PlainEntry pair.1 pair.2) :
    linesOf (pairs.flatMap showEntry ++ rest) =
      pairs.map (fun pair => Line.assignment pair.1 pair.2) ++ linesOf rest := by
  induction pairs with
  | nil => rfl
  | cons pair more ih =>
      have first := plain pair List.mem_cons_self
      have oneLine : '\n' ∉ pair.1 ++ [' ', '=', ' '] ++ pair.2 := by
        simp [first.plainKey.oneLine, first.plainValue.oneLine]
      have later := ih fun other member => plain other (List.mem_cons_of_mem _ member)
      have split : (pair :: more).flatMap showEntry ++ rest =
          (pair.1 ++ [' ', '=', ' '] ++ pair.2) ++ '\n' :: (more.flatMap showEntry ++ rest) := by
        simp [showEntry]
      rw [split, linesOf, getlines_line oneLine, List.map_cons, line_of_entry first]
      rw [linesOf] at later
      rw [later]
      rfl

theorem lines_of_show {listing : Listing} (plain : PlainListing listing) :
    linesOf (showIni listing) = listing.flatMap sectionLines := by
  induction listing with
  | nil => rfl
  | cons named more ih =>
      have name := plain.names named List.mem_cons_self
      have oneLine : '\n' ∉ ['['] ++ named.1 ++ [']'] := by
        simp [name.oneLine]
      have later := ih ⟨fun other member => plain.names other (List.mem_cons_of_mem _ member),
        fun other member => plain.entries other (List.mem_cons_of_mem _ member)⟩
      have inside := lines_of_entries named.2 (showIni more) fun pair member =>
        (plain.entries named List.mem_cons_self pair member).2
      have split : showIni (named :: more) = (['['] ++ named.1 ++ [']']) ++
          '\n' :: (named.2.flatMap showEntry ++ showIni more) := by
        simp [showIni, showSection]
      rw [split, linesOf, getlines_line oneLine, List.map_cons, line_of_header name]
      rw [linesOf] at inside
      rw [inside, later]
      rfl

/-- The map with these entries, a later one replacing an earlier one. -/
def ofPairs {Item : Type} (pairs : List (Text × Item)) : Dict Item :=
  pairs.foldl (fun dict pair => dict.assign pair.1 pair.2) Dict.empty

theorem of_pairs_snoc {Item : Type} (pairs : List (Text × Item)) (pair : Text × Item) :
    ofPairs (pairs ++ [pair]) = (ofPairs pairs).assign pair.1 pair.2 := by
  simp [ofPairs]

theorem of_pairs_iff {Item : Type} (pairs : List (Text × Item))
    (once : (pairs.map Prod.fst).Nodup) (key : Text) (item : Item) :
    ofPairs pairs key = some item ↔ (key, item) ∈ pairs := by
  induction pairs using List.reverseRecOn with
  | nil => simp [ofPairs]
  | append_singleton pairs pair ih =>
      obtain ⟨name, stored⟩ := pair
      rw [List.map_append, List.nodup_append] at once
      obtain ⟨earlier, _, apart⟩ := once
      rw [of_pairs_snoc]
      by_cases same : key = name
      · subst same
        have fresh : (key, item) ∉ pairs := by
          intro member
          exact apart key (List.mem_map_of_mem (f := Prod.fst) member) key (by simp) rfl
        simp [fresh, eq_comm]
      · rw [Dict.assign_other _ _ same, ih earlier]
        simp [same]

theorem of_pairs_eq {Item : Type} {pairs : List (Text × Item)} {dict : Dict Item}
    (lists : Lists pairs dict) : ofPairs pairs = dict := by
  funext key
  apply Option.ext
  intro item
  rw [of_pairs_iff pairs lists.once]
  exact lists.mem_iff key item

theorem run_entries {loading : Loading} {name : Text} (named : name ≠ [])
    (current : loading.currentSection = name) (stored : Section)
    (present : loading.ini name = some stored) (pairs : List (Text × Value)) :
    (pairs.map fun pair => Line.assignment pair.1 pair.2).foldl after loading =
      { ini := loading.ini.assign name (pairs.foldl (fun dict pair => dict.assign pair.1 pair.2)
          stored), currentSection := name } := by
  induction pairs generalizing loading stored with
  | nil =>
      have same : loading.ini.assign name stored = loading.ini := by
        funext other
        by_cases equal : other = name
        · rw [equal, Dict.assign_self, present]
        · exact Dict.assign_other _ _ equal
      obtain rfl := current
      rw [List.map_nil, List.foldl_nil, List.foldl_nil, same]
  | cons pair more ih =>
      have settled : loading.currentSection ≠ [] := by rw [current]; exact named
      have put : after loading (.assignment pair.1 pair.2) =
          { ini := loading.ini.assign name (stored.assign pair.1 pair.2),
            currentSection := name } := by
        simp [after, named, Loading.put, current, present]
      rw [List.map_cons, List.foldl_cons, put, List.foldl_cons,
        ih rfl (stored.assign pair.1 pair.2) (Dict.assign_self _ _ _)]
      congr 1
      funext other
      by_cases equal : other = name <;> simp [Dict.assign, equal]

theorem run_section (loading : Loading) {named : Text × List (Text × Value)}
    (entries : ∀ pair ∈ named.2, named.1 ≠ []) :
    (sectionLines named).foldl after loading =
      { ini := loading.ini.assign named.1 (ofPairs named.2), currentSection := named.1 } := by
  unfold sectionLines
  rw [List.foldl_cons]
  by_cases empty : named.2 = []
  · rw [empty]
    rfl
  · obtain ⟨pair, member⟩ := List.exists_mem_of_ne_nil _ empty
    rw [run_entries (entries pair member) rfl Dict.empty (Dict.assign_self _ _ _)]
    congr 1
    funext other
    by_cases equal : other = named.1 <;>
      simp [after, Loading.openSection, Dict.assign, equal, ofPairs]

theorem run_listing (loading : Loading) {listing : Listing}
    (entries : ∀ named ∈ listing, ∀ pair ∈ named.2, named.1 ≠ []) :
    ((listing.flatMap sectionLines).foldl after loading).ini =
      (listing.map fun named => (named.1, ofPairs named.2)).foldl
        (fun dict pair => dict.assign pair.1 pair.2) loading.ini := by
  induction listing generalizing loading with
  | nil => rfl
  | cons named more ih =>
      rw [List.flatMap_cons, List.foldl_append, run_section _ (entries named List.mem_cons_self),
        ih _ fun other member => entries other (List.mem_cons_of_mem _ member)]
      rfl

theorem listed_content {listing : Listing} {stored : List (Text × Section)}
    (ordered : List.Forall₂ (fun named content => named.1 = content.1 ∧ Lists named.2 content.2)
      listing stored) :
    listing.map (fun named => (named.1, ofPairs named.2)) = stored := by
  induction ordered with
  | nil => rfl
  | cons here _ ih =>
      rw [List.map_cons, ih, here.1, of_pairs_eq here.2]

theorem listed_section {listing : Listing} {stored : List (Text × Section)}
    (ordered : List.Forall₂ (fun named content => named.1 = content.1 ∧ Lists named.2 content.2)
      listing stored) {named : Text × List (Text × Value)} (member : named ∈ listing) :
    ∃ content, (named.1, content) ∈ stored ∧ Lists named.2 content := by
  induction ordered with
  | nil => cases member
  | @cons first content _ _ here _ ih =>
      rcases List.mem_cons.mp member with rfl | later
      · refine ⟨content.2, ?_, here.2⟩
        rw [here.1]
        exact List.mem_cons_self
      · obtain ⟨found, inside, lists⟩ := ih later
        exact ⟨found, List.mem_cons_of_mem _ inside, lists⟩

theorem listing_of_printable {listing : Listing} {loading : Loading}
    (printable : Printable loading) (orders : Orders listing loading.ini) :
    PlainListing listing := by
  obtain ⟨stored, lists, ordered⟩ := orders
  have found : ∀ named ∈ listing, ∃ content, loading.ini named.1 = some content ∧
      Lists named.2 content := by
    intro named member
    obtain ⟨content, inside, entries⟩ := listed_section ordered member
    exact ⟨content, (lists.mem_iff named.1 content).mp inside, entries⟩
  constructor
  · intro named member
    obtain ⟨content, present, _⟩ := found named member
    exact printable.names named.1 content present
  · intro named member pair inside
    obtain ⟨content, present, entries⟩ := found named member
    apply printable.entries named.1 pair.1 pair.2
    unfold entry
    rw [present]
    exact (entries.mem_iff pair.1 pair.2).mp inside

theorem printable_loaded (text : Text) : Printable (run (linesOf text)) :=
  printable_run (lines_plain text)

/-- Loading what `show` prints, in whatever order, gives the map that was printed. -/
theorem load_show (text : Text) (listing : Listing) (orders : Orders listing (loaded text)) :
    loaded (showIni listing) = loaded text := by
  rw [loaded_eq text] at orders ⊢
  have plain := listing_of_printable (printable_loaded text) orders
  obtain ⟨stored, lists, ordered⟩ := orders
  rw [loaded_eq, lines_of_show plain]
  have content := run_listing start fun named member pair inside =>
    (plain.entries named member pair inside).1
  rw [listed_content ordered] at content
  exact content.trans (of_pairs_eq lists)

theorem lists_of_pairs {Item : Type} {pairs : List (Text × Item)}
    (once : (pairs.map Prod.fst).Nodup) : Lists pairs (ofPairs pairs) :=
  ⟨once, fun key item => (of_pairs_iff pairs once key item).symm⟩

theorem lists_perm {Item : Type} {pairs others : List (Text × Item)} {dict : Dict Item}
    (perm : pairs.Perm others) (lists : Lists pairs dict) : Lists others dict := by
  constructor
  · exact (perm.map Prod.fst).nodup_iff.mp lists.once
  · intro key item
    rw [← perm.mem_iff]
    exact lists.mem_iff key item

/-- A file printed with its two sections in the other order. -/
theorem load_show_reordered :
    loaded (showIni [(['a'], []), (['b'], [(['x'], ['1'])])]) = loaded "[b]\nx=1\n[a]".toList := by
  have content : loaded "[b]\nx=1\n[a]".toList =
      ofPairs [(['b'], ofPairs [(['x'], ['1'])]), (['a'], Dict.empty)] := by
    have opened : loaded "[b]\nx=1\n[a]".toList = ((Dict.empty.assign ['b'] Dict.empty).assign
        ['b'] (ofPairs [(['x'], ['1'])])).assign ['a'] Dict.empty := rfl
    rw [opened]
    funext name
    by_cases same : name = ['b'] <;> simp [ofPairs, Dict.assign, same]
  apply load_show
  rw [content]
  refine ⟨[(['a'], Dict.empty), (['b'], ofPairs [(['x'], ['1'])])], ?_, ?_⟩
  · exact lists_perm (List.Perm.swap _ _ []) (lists_of_pairs (by decide))
  · apply List.Forall₂.cons ⟨rfl, lists_of_pairs (by decide)⟩
    exact List.Forall₂.cons ⟨rfl, lists_of_pairs (by decide)⟩ List.Forall₂.nil

theorem lists_assign {Item : Type} {pairs : List (Text × Item)} {dict : Dict Item}
    (lists : Lists pairs dict) (key : Text) (item : Item) :
    ∃ more, Lists more (dict.assign key item) := by
  apply Exists.intro ((pairs.filter fun pair => decide (pair.1 ≠ key)) ++ [(key, item)])
  constructor
  · rw [List.map_append, List.nodup_append]
    refine ⟨?_, by simp, ?_⟩
    · exact lists.once.sublist (List.filter_sublist.map Prod.fst)
    · intro other found last added
      obtain ⟨pair, member, rfl⟩ := List.mem_map.mp found
      obtain rfl : last = key := by simpa using added
      exact of_decide_eq_true (List.mem_filter.mp member).2
  · intro other stored
    by_cases same : other = key
    · subst same
      simp [eq_comm]
    · rw [Dict.assign_other _ _ same, ← lists.mem_iff]
      simp [same]

/-- A map of finitely many sections with finitely many entries each. -/
structure Listable (ini : Sections) : Prop where
  sections : ∃ stored, Lists stored ini
  entries : ∀ name content, ini name = some content → ∃ pairs, Lists pairs content

theorem lists_empty {Item : Type} : Lists ([] : List (Text × Item)) Dict.empty := by
  constructor
  · exact List.nodup_nil
  · intro key item
    simp

theorem listable_assign {ini : Sections} (listable : Listable ini) (name : Text)
    {content : Section} (listed : ∃ pairs, Lists pairs content) :
    Listable (ini.assign name content) := by
  obtain ⟨stored, lists⟩ := listable.sections
  constructor
  · exact lists_assign lists name content
  · intro other found present
    by_cases same : other = name
    · rw [same, Dict.assign_self] at present
      obtain rfl := Option.some.inj present
      exact listed
    · rw [Dict.assign_other _ _ same] at present
      exact listable.entries other found present

theorem listable_put {loading : Loading} (listable : Listable loading.ini) (key : Text)
    (value : Value) : Listable (loading.put key value).ini := by
  apply listable_assign listable
  cases present : loading.ini loading.currentSection with
  | none => exact lists_assign lists_empty key value
  | some content =>
      obtain ⟨pairs, lists⟩ := listable.entries _ content present
      exact lists_assign lists key value

theorem listable_after {loading : Loading} (listable : Listable loading.ini) (line : Line) :
    Listable (after loading line).ini := by
  have opened : ∀ name, Listable (loading.openSection name).ini := fun name =>
    listable_assign listable name ⟨[], lists_empty⟩
  cases line with
  | skipped => exact listable
  | header name => exact opened name
  | assignment key value =>
      dsimp only [after]
      split
      · exact listable_put (opened globalName) key value
      · exact listable_put listable key value

theorem listable_run (lines : List Line) : Listable (run lines).ini := by
  induction lines using List.reverseRecOn with
  | nil =>
      constructor
      · exact ⟨[], lists_empty⟩
      · intro name content present
        cases present
  | append_singleton lines line ih =>
      rw [run_snoc]
      exact listable_after ih line

theorem orders_of_stored {ini : Sections} (listable : Listable ini)
    (stored : List (Text × Section)) (inside : ∀ content ∈ stored, ini content.1 = some content.2) :
    ∃ listing : Listing, List.Forall₂
      (fun named content => named.1 = content.1 ∧ Lists named.2 content.2) listing stored := by
  induction stored with
  | nil => exact ⟨[], .nil⟩
  | cons content more ih =>
      obtain ⟨listing, ordered⟩ := ih fun other member =>
        inside other (List.mem_cons_of_mem _ member)
      obtain ⟨pairs, lists⟩ := listable.entries _ _ (inside content List.mem_cons_self)
      exact ⟨(content.1, pairs) :: listing, .cons ⟨rfl, lists⟩ ordered⟩

theorem exists_orders (text : Text) : ∃ listing, Orders listing (loaded text) := by
  rw [loaded_eq]
  have listable := listable_run (linesOf text)
  obtain ⟨stored, lists⟩ := listable.sections
  obtain ⟨listing, ordered⟩ := orders_of_stored listable stored fun content member =>
    (lists.mem_iff content.1 content.2).mp member
  exact ⟨listing, stored, lists, ordered⟩

end BackendComponents.Ini.RoundTrip
