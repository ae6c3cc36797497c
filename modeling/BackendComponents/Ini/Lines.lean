import BackendComponents.Ini.Model

/-!
# Kinds of lines

`trim` cuts the blank ends off a text and nothing else, and what `load` does with a line
depends on one of three kinds.
-/

namespace BackendComponents.Ini.Lines

open BackendComponents.Lib.Trimming
open BackendComponents.Ini.Model

set_option autoImplicit false

def Blank (str : Text) : Prop := ∀ letter ∈ str, isBlank letter = true

theorem blank_nil : Blank [] := by
  intro letter member
  cases member

theorem blank_one {letter : Char} (blank : isBlank letter = true) : Blank [letter] := by
  intro other member
  rw [List.mem_singleton.mp member]
  exact blank

theorem blank_append {front back : Text} (blankFront : Blank front) (blankBack : Blank back) :
    Blank (front ++ back) := by
  intro letter member
  rcases List.mem_append.mp member with early | late
  · exact blankFront letter early
  · exact blankBack letter late

theorem blank_reverse {str : Text} (blank : Blank str) : Blank str.reverse := by
  intro letter member
  exact blank letter (List.mem_reverse.mp member)

theorem blank_take_while (str : Text) : Blank (str.takeWhile isBlank) := by
  intro letter member
  exact List.mem_takeWhile_imp member

theorem blank_rtake_while (str : Text) : Blank (str.rtakeWhile isBlank) := by
  intro letter member
  exact List.mem_rtakeWhile_imp member

theorem find_first_of_split {front middle : Text} (back : Text) (blankFront : Blank front)
    (bare : Bare isBlank middle) (nonempty : middle ≠ []) :
    findFirstNotBlank (front ++ middle ++ back) = some front.length := by
  obtain ⟨first, rest, rfl⟩ := List.exists_cons_of_ne_nil nonempty
  have notBlank := bare.first first rfl
  have none : front.findIdx? (fun letter => !isBlank letter) = none := by
    rw [List.findIdx?_eq_none_iff]
    intro letter member
    simp [blankFront letter member]
  unfold findFirstNotBlank
  rw [List.append_assoc, List.findIdx?_append, none]
  simp [List.findIdx?_cons, notBlank]

theorem find_last_of_split (front : Text) {middle back : Text} (blankBack : Blank back)
    (bare : Bare isBlank middle) (nonempty : middle ≠ []) :
    findLastNotBlank (front ++ middle ++ back) = some (front.length + middle.length - 1) := by
  have reversed : Bare isBlank middle.reverse := bare_reverse bare
  have found := find_first_of_split front.reverse (blank_reverse blankBack) reversed
    (by simpa using nonempty)
  unfold findFirstNotBlank at found
  unfold findLastNotBlank
  rw [List.reverse_append, List.reverse_append, ← List.append_assoc, found]
  simp only [List.length_reverse, Option.map_some, List.length_append, Option.some.injEq]
  omega

theorem trim_of_split {front middle back : Text} (blankFront : Blank front)
    (blankBack : Blank back) (bare : Bare isBlank middle) :
    trim (front ++ middle ++ back) = middle := by
  by_cases empty : middle = []
  · subst empty
    have none : findFirstNotBlank (front ++ [] ++ back) = none := by
      unfold findFirstNotBlank
      rw [List.findIdx?_eq_none_iff]
      intro letter member
      rw [List.append_nil] at member
      rw [blank_append blankFront blankBack letter member]
      rfl
    unfold trim
    rw [none]
  · have positive := List.length_pos_of_ne_nil empty
    have count : front.length + middle.length - 1 - front.length + 1 = middle.length := by omega
    unfold trim substr
    rw [find_first_of_split back blankFront bare empty,
      find_last_of_split front blankBack bare empty]
    dsimp only
    rw [count, List.append_assoc, List.drop_left, List.take_left]

theorem trim_split (str : Text) : ∃ front back, str = front ++ trim str ++ back ∧
    Blank front ∧ Blank back ∧ Bare isBlank (trim str) := by
  obtain ⟨front, middle, back, equal, blankFront, blankBack, bare⟩ := exists_split isBlank str
  have trimmed : trim str = middle := by
    rw [equal]
    exact trim_of_split blankFront blankBack bare
  rw [trimmed]
  exact ⟨front, back, equal, blankFront, blankBack, bare⟩

theorem trim_bare (str : Text) : Bare isBlank (trim str) := by
  obtain ⟨front, back, _, _, _, bare⟩ := trim_split str
  exact bare

theorem trim_of_bare {str : Text} (bare : Bare isBlank str) : trim str = str := by
  have trimmed := trim_of_split blank_nil blank_nil bare
  simpa using trimmed

theorem mem_of_mem_trim {str : Text} {letter : Char} (member : letter ∈ trim str) :
    letter ∈ str := by
  obtain ⟨front, back, equal, _⟩ := trim_split str
  rw [equal]
  simp [member]

theorem trim_padded {front back : Text} (blankFront : Blank front) (blankBack : Blank back)
    (str : Text) : trim (front ++ str ++ back) = trim str := by
  obtain ⟨left, right, equal, blankLeft, blankRight, bare⟩ := trim_split str
  have split : front ++ str ++ back = (front ++ left) ++ trim str ++ (right ++ back) := by
    conv_lhs => rw [equal]
    simp only [List.append_assoc]
  rw [split]
  exact trim_of_split (blank_append blankFront blankLeft) (blank_append blankRight blankBack) bare

theorem trim_leading {front : Text} (blank : Blank front) (str : Text) :
    trim (front ++ str) = trim str := by
  have padded := trim_padded blank blank_nil str
  rw [List.append_nil] at padded
  exact padded

theorem trim_trailing {back : Text} (blank : Blank back) (str : Text) :
    trim (str ++ back) = trim str :=
  trim_padded blank_nil blank str

theorem getlines_line {line : Text} (oneLine : '\n' ∉ line) (rest : Text) :
    getlines (line ++ '\n' :: rest) = line :: getlines rest := by
  induction line with
  | nil => simp [getlines]
  | cons letter more ih =>
      have different : letter ≠ '\n' := by
        intro equal
        exact oneLine (by simp [equal])
      have later := ih fun member => oneLine (List.mem_cons_of_mem _ member)
      rw [List.cons_append, getlines, if_neg different, later]

/-- A line that is not a header and has no `=` is skipped like a comment. -/
inductive Line
  | skipped
  | header (name : Text)
  | assignment (key : Text) (value : Value)
  deriving DecidableEq, Repr

def lineOf (raw : Text) : Line :=
  let line := trim raw
  if line = [] ∨ line.head? = some '#' ∨ line.head? = some ';' then .skipped
  else if line.head? = some '[' ∧ line.getLast? = some ']' then
    .header (trim (substr line 1 (line.length - 2)))
  else match line.findIdx? (fun letter => letter == '=') with
    | none => .skipped
    | some pos => .assignment (trim (substr line 0 pos)) (trim (line.drop (pos + 1)))

theorem line_of_separated {raw left right : Text} (trimmed : trim raw = left ++ '=' :: right)
    (noSeparator : '=' ∉ left)
    (noComment : (trim raw).head? ≠ some '#' ∧ (trim raw).head? ≠ some ';')
    (noHeader : ¬((trim raw).head? = some '[' ∧ (trim raw).getLast? = some ']')) :
    lineOf raw = .assignment (trim left) (trim right) := by
  have notSkipped : ¬(trim raw = [] ∨ (trim raw).head? = some '#' ∨
      (trim raw).head? = some ';') := by
    rintro (empty | head | head)
    · rw [trimmed] at empty
      simp at empty
    · exact noComment.1 head
    · exact noComment.2 head
  have found : (left ++ '=' :: right).findIdx? (fun letter => letter == '=') =
      some left.length := by
    have none : left.findIdx? (fun letter => letter == '=') = none := by
      rw [List.findIdx?_eq_none_iff]
      intro letter member
      simpa using fun equal : letter = '=' => noSeparator (equal ▸ member)
    rw [List.findIdx?_append, none]
    simp [List.findIdx?_cons]
  have key : substr (left ++ '=' :: right) 0 left.length = left := by
    simp [substr]
  have value : (left ++ '=' :: right).drop (left.length + 1) = right := by
    simp [← List.drop_drop]
  unfold lineOf
  dsimp only
  rw [if_neg notSkipped, if_neg noHeader, trimmed, found]
  dsimp only
  rw [key, value]

theorem line_of_brackets {front back : Text} (blankFront : Blank front)
    (blankBack : Blank back) (inside : Text) :
    lineOf (front ++ '[' :: (inside ++ [']']) ++ back) = .header (trim inside) := by
  have final : ('[' :: (inside ++ [']'])).getLast? = some ']' := by
    rw [← List.cons_append]
    exact List.getLast?_concat
  have bare : Bare isBlank ('[' :: (inside ++ [']'])) := by
    apply Bare.mk
    · intro letter found
      rw [← Option.some.inj found]
      rfl
    · intro letter found
      rw [final] at found
      rw [← Option.some.inj found]
      rfl
  have inner : substr ('[' :: (inside ++ [']'])) 1 (('[' :: (inside ++ [']'])).length - 2) =
      inside := by
    simp [substr]
  unfold lineOf
  rw [trim_of_split blankFront blankBack bare]
  dsimp only
  rw [inner, if_neg (by simp), if_pos ⟨rfl, final⟩]

def linesOf (text : Text) : List Line := (getlines text).map lineOf

def start : Loading := { ini := Dict.empty, currentSection := [] }

def after (loading : Loading) : Line → Loading
  | .skipped => loading
  | .header name => loading.openSection name
  | .assignment key value =>
      (if loading.currentSection = [] then loading.openSection globalName else loading).put
        key value

theorem load_line (loading : Loading) (raw : Text) :
    loadLine loading raw = after loading (lineOf raw) := by
  unfold loadLine lineOf
  dsimp only
  split
  · rfl
  · split
    · rfl
    · cases (trim raw).findIdx? (fun letter => letter == '=') <;> rfl

def run (lines : List Line) : Loading := lines.foldl after start

theorem loaded_eq (text : Text) : loaded text = (run (linesOf text)).ini := by
  unfold loaded run linesOf start
  rw [List.foldl_map]
  congr 2
  funext loading raw
  exact load_line loading raw

theorem run_snoc (lines : List Line) (line : Line) :
    run (lines ++ [line]) = after (run lines) line := by
  simp [run]

theorem global_name_nonempty : globalName ≠ [] := by decide

theorem entry_open (loading : Loading) (opened name key : Text) :
    entry (loading.openSection opened).ini name key =
      if name = opened then none else entry loading.ini name key := by
  by_cases same : name = opened <;> simp [entry, Loading.openSection, Dict.assign, same]

theorem entry_put (loading : Loading) (key : Text) (value : Value) (name wanted : Text) :
    entry (loading.put key value).ini name wanted =
      if name = loading.currentSection ∧ wanted = key then some value
      else entry loading.ini name wanted := by
  by_cases same : name = loading.currentSection
  · by_cases found : wanted = key
    · simp [entry, Loading.put, Dict.assign, same, found]
    · cases present : loading.ini loading.currentSection <;>
        simp [entry, Loading.put, Dict.assign, same, found, present]
  · simp [entry, Loading.put, Dict.assign, same]

end BackendComponents.Ini.Lines
