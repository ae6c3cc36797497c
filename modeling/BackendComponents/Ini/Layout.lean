import BackendComponents.Ini.Lines
import Mathlib.Logic.Relation

/-!
# Changes of the layout

Line ends, the blanks around what a line says, and lines that say nothing. After any number
of such changes the lines that say something are the same, and so is the map that `load`
reads.
-/

namespace BackendComponents.Ini.Layout

open BackendComponents.Lib.Trimming
open BackendComponents.Ini.Model
open BackendComponents.Ini.Lines

set_option autoImplicit false

/-- Spaces, tabs and carriage returns. -/
def Padding (str : Text) : Prop :=
  ∀ letter ∈ str, letter = ' ' ∨ letter = '\t' ∨ letter = '\r'

abbrev Blanks := { str : Text // Padding str }

def firstLetter (line : Text) : Option Char := line.find? fun letter => !isBlank letter

def lastLetter (line : Text) : Option Char := firstLetter line.reverse

def CommentLine (line : Text) : Prop :=
  firstLetter line = some '#' ∨ firstLetter line = some ';'

def HeaderLine (line : Text) : Prop :=
  firstLetter line = some '[' ∧ lastLetter line = some ']'

structure AssignmentLine (line : Text) : Prop where
  separator : '=' ∈ line
  noComment : ¬CommentLine line
  noHeader : ¬HeaderLine line

instance (str : Text) : Decidable (Padding str) := List.decidableBAll _ str

instance (line : Text) : Decidable (CommentLine line) := inferInstanceAs (Decidable (_ ∨ _))

instance (line : Text) : Decidable (HeaderLine line) := inferInstanceAs (Decidable (_ ∧ _))

/-- A line with other blanks at its ends, around its first `=` or inside its brackets. -/
inductive Respaced : Text → Text → Prop
  | ends (front back front' back' : Blanks) (content : Text) :
      Respaced (front.val ++ content ++ back.val) (front'.val ++ content ++ back'.val)
  | separator (left right left' right' : Blanks) {key : Text} (value : Text)
      (first : '=' ∉ key)
      (assigns : AssignmentLine (key ++ left.val ++ '=' :: (right.val ++ value))) :
      Respaced (key ++ left.val ++ '=' :: (right.val ++ value))
        (key ++ left'.val ++ '=' :: (right'.val ++ value))
  | brackets (front back left right left' right' : Blanks) (name : Text) :
      Respaced (front.val ++ '[' :: (left.val ++ name ++ right.val ++ [']']) ++ back.val)
        (front.val ++ '[' :: (left'.val ++ name ++ right'.val ++ [']']) ++ back.val)

def StartsLine (before : Text) : Prop := before = [] ∨ ∃ earlier, before = earlier ++ ['\n']

def EndsLine (after : Text) : Prop := after = [] ∨ ∃ later, after = '\n' :: later

/-- One change somewhere in a text. -/
inductive Edit : Text → Text → Prop
  | respace {before line line' after : Text} (starts : StartsLine before)
      (ends : EndsLine after) (oneLine : '\n' ∉ line) (respaced : Respaced line line') :
      Edit (before ++ line ++ after) (before ++ line' ++ after)
  | lineEnd (before after : Text) :
      Edit (before ++ '\n' :: after) (before ++ '\r' :: '\n' :: after)
  | insert {before line : Text} (after : Text) (starts : StartsLine before)
      (oneLine : '\n' ∉ line) (idle : Padding line ∨ CommentLine line) :
      Edit (before ++ after) (before ++ line ++ '\n' :: after)
  | finalEnd (text : Text) : Edit text (text ++ ['\n'])

/-- Any number of changes, each of them made or undone. -/
def Relaid : Text → Text → Prop := Relation.EqvGen Edit

theorem blank_of_padding {str : Text} (padding : Padding str) : Blank str := by
  intro letter member
  rcases padding letter member with rfl | rfl | rfl <;> rfl

theorem Blanks.blank (blanks : Blanks) : Blank blanks.val := blank_of_padding blanks.property

theorem Blanks.one_line (blanks : Blanks) : '\n' ∉ blanks.val := by
  intro member
  rcases blanks.property '\n' member with impossible | impossible | impossible <;>
    cases impossible

theorem first_letter_eq (line : Text) : firstLetter line = (trim line).head? := by
  obtain ⟨front, back, equal, blankFront, blankBack, bare⟩ := trim_split line
  have found := find_of_split blankFront blankBack bare
  rw [← equal] at found
  exact found

theorem last_letter_eq (line : Text) : lastLetter line = (trim line).getLast? := by
  obtain ⟨front, back, equal, blankFront, blankBack, bare⟩ := trim_split line
  have found := find_of_split (blank_reverse blankBack) (blank_reverse blankFront)
    (bare_reverse bare)
  rw [List.head?_reverse] at found
  rw [← found]
  unfold lastLetter firstLetter
  conv_lhs => rw [equal]
  simp only [List.reverse_append, List.append_assoc]

theorem first_letter_around (key : Text) {left : Text} (blank : Blank left) (rest : Text) :
    firstLetter (key ++ left ++ '=' :: rest) = (firstLetter key).or (some '=') := by
  unfold firstLetter
  rw [List.find?_append, List.find?_append, find_blank blank, Option.or_none]
  rfl

theorem last_letter_around (front : Text) {right : Text} (blank : Blank right) (value : Text) :
    lastLetter (front ++ '=' :: (right ++ value)) = (lastLetter value).or (some '=') := by
  have reversed : (front ++ '=' :: (right ++ value)).reverse =
      value.reverse ++ right.reverse ++ '=' :: front.reverse := by
    simp
  unfold lastLetter
  rw [reversed]
  exact first_letter_around value.reverse (blank_reverse blank) front.reverse

theorem assignment_line_respaced {key value : Text} {left right : Blanks}
    (left' right' : Blanks)
    (assigns : AssignmentLine (key ++ left.val ++ '=' :: (right.val ++ value))) :
    AssignmentLine (key ++ left'.val ++ '=' :: (right'.val ++ value)) := by
  have first : firstLetter (key ++ left'.val ++ '=' :: (right'.val ++ value)) =
      firstLetter (key ++ left.val ++ '=' :: (right.val ++ value)) := by
    rw [first_letter_around key left.blank, first_letter_around key left'.blank]
  have last : lastLetter (key ++ left'.val ++ '=' :: (right'.val ++ value)) =
      lastLetter (key ++ left.val ++ '=' :: (right.val ++ value)) := by
    rw [last_letter_around _ right.blank, last_letter_around _ right'.blank]
  constructor
  · simp
  · unfold CommentLine
    rw [first]
    exact assigns.noComment
  · unfold HeaderLine
    rw [first, last]
    exact assigns.noHeader

theorem bare_around (left right : Text) :
    Bare isBlank (left.dropWhile isBlank ++ '=' :: right.rdropWhile isBlank) := by
  constructor
  · intro letter found
    cases head : (left.dropWhile isBlank).head? with
    | none =>
        rw [List.head?_append, head] at found
        rw [← Option.some.inj found]
        rfl
    | some first =>
        rw [List.head?_append, head] at found
        rw [← Option.some.inj found]
        exact head_drop_while isBlank left first head
  · intro letter found
    rw [List.getLast?_append, List.getLast?_cons] at found
    cases last : (right.rdropWhile isBlank).getLast? with
    | none =>
        rw [last] at found
        rw [← Option.some.inj found]
        rfl
    | some final =>
        rw [last] at found
        rw [← Option.some.inj found]
        exact last_rdrop_while isBlank right final last

theorem trim_around (left right : Text) : trim (left ++ '=' :: right) =
    left.dropWhile isBlank ++ '=' :: right.rdropWhile isBlank := by
  have split : left ++ '=' :: right = left.takeWhile isBlank ++
      (left.dropWhile isBlank ++ '=' :: right.rdropWhile isBlank) ++
        right.rtakeWhile isBlank := by
    rw [← List.append_assoc, List.takeWhile_append_dropWhile, List.append_assoc,
      List.cons_append, List.rdropWhile_append_rtakeWhile]
  rw [split]
  exact trim_of_split (blank_take_while left) (blank_rtake_while right) (bare_around left right)

theorem trim_drop_while (str : Text) : trim (str.dropWhile isBlank) = trim str := by
  have cut := trim_leading (blank_take_while str) (str.dropWhile isBlank)
  rw [List.takeWhile_append_dropWhile] at cut
  exact cut.symm

theorem trim_rdrop_while (str : Text) : trim (str.rdropWhile isBlank) = trim str := by
  have cut := trim_trailing (blank_rtake_while str) (str.rdropWhile isBlank)
  rw [List.rdropWhile_append_rtakeWhile] at cut
  exact cut.symm

theorem line_of_assignment {left right : Text} (first : '=' ∉ left)
    (assigns : AssignmentLine (left ++ '=' :: right)) :
    lineOf (left ++ '=' :: right) = .assignment (trim left) (trim right) := by
  have noSeparator : '=' ∉ left.dropWhile isBlank := by
    intro member
    exact first ((List.dropWhile_sublist _).mem member)
  have noComment := assigns.noComment
  have noHeader := assigns.noHeader
  unfold CommentLine at noComment
  unfold HeaderLine at noHeader
  rw [first_letter_eq] at noComment noHeader
  rw [last_letter_eq] at noHeader
  rw [line_of_separated (trim_around left right) noSeparator (not_or.mp noComment) noHeader,
    trim_drop_while, trim_rdrop_while]

theorem line_of_trim {raw other : Text} (same : trim raw = trim other) :
    lineOf raw = lineOf other := by
  unfold lineOf
  rw [same]

theorem line_of_padded (front back : Blanks) (content : Text) :
    lineOf (front.val ++ content ++ back.val) = lineOf content :=
  line_of_trim (trim_padded front.blank back.blank content)

theorem line_of_respaced {line line' : Text} (respaced : Respaced line line') :
    lineOf line = lineOf line' := by
  cases respaced with
  | ends front back front' back' content =>
      rw [line_of_padded, line_of_padded]
  | @separator left right left' right' key value first assigns =>
      have before : ∀ blanks : Blanks, '=' ∉ key ++ blanks.val := by
        intro blanks member
        rcases List.mem_append.mp member with early | late
        · exact first early
        · exact absurd (blanks.blank '=' late) (by decide)
      rw [line_of_assignment (before left) assigns,
        line_of_assignment (before left') (assignment_line_respaced left' right' assigns),
        trim_trailing left.blank, trim_trailing left'.blank, trim_leading right.blank,
        trim_leading right'.blank]
  | brackets front back left right left' right' name =>
      rw [line_of_brackets front.blank back.blank, line_of_brackets front.blank back.blank,
        trim_padded left.blank right.blank, trim_padded left'.blank right'.blank]

theorem one_line_respaced {line line' : Text} (respaced : Respaced line line')
    (oneLine : '\n' ∉ line) : '\n' ∉ line' := by
  cases respaced with
  | ends front back front' back' content =>
      have inside : '\n' ∉ content := fun member => oneLine (by simp [member])
      simp [front'.one_line, inside, back'.one_line]
  | @separator left right left' right' key value first assigns =>
      have inKey : '\n' ∉ key := fun member => oneLine (by simp [member])
      have inValue : '\n' ∉ value := fun member => oneLine (by simp [member])
      simp [inKey, left'.one_line, right'.one_line, inValue]
  | brackets front back left right left' right' name =>
      have inside : '\n' ∉ name := fun member => oneLine (by simp [member])
      simp [front.one_line, left'.one_line, inside, right'.one_line, back.one_line]

def tells (line : Line) : Bool := decide (line ≠ .skipped)

def significant (text : Text) : List Line := (linesOf text).filter tells

theorem run_filter (lines : List Line) : run (lines.filter tells) = run lines := by
  unfold run
  rw [List.foldl_filter]
  congr 1
  funext loading line
  cases line <;> rfl

theorem loaded_significant (text : Text) : loaded text = (run (significant text)).ini := by
  unfold significant
  rw [run_filter]
  exact loaded_eq text

theorem getlines_ne_nil (front : Text) (rest : Text) : getlines (front ++ '\n' :: rest) ≠ [] := by
  cases front with
  | nil => simp [getlines]
  | cons letter more =>
      rw [List.cons_append, getlines]
      split
      · exact List.cons_ne_nil _ _
      · split
        · exact List.cons_ne_nil _ _
        · exact List.cons_ne_nil _ _

theorem getlines_break (front rest : Text) :
    getlines (front ++ '\n' :: rest) = getlines (front ++ ['\n']) ++ getlines rest := by
  induction front with
  | nil => simp [getlines]
  | cons letter more ih =>
      rw [List.cons_append, List.cons_append, getlines, getlines, ih]
      by_cases lineEnd : letter = '\n'
      · rw [if_pos lineEnd, if_pos lineEnd, List.cons_append]
      · rw [if_neg lineEnd, if_neg lineEnd]
        obtain ⟨line, lines, read⟩ := List.exists_cons_of_ne_nil (getlines_ne_nil more [])
        rw [read]
        rfl

theorem getlines_last {line : Text} (oneLine : '\n' ∉ line) (nonempty : line ≠ []) :
    getlines line = [line] := by
  induction line with
  | nil => exact absurd rfl nonempty
  | cons letter more ih =>
      have different : letter ≠ '\n' := by
        intro equal
        exact oneLine (by simp [equal])
      rw [getlines, if_neg different]
      by_cases empty : more = []
      · rw [empty]
        rfl
      · rw [ih (fun member => oneLine (List.mem_cons_of_mem _ member)) empty]

theorem significant_break (front rest : Text) : significant (front ++ '\n' :: rest) =
    significant (front ++ ['\n']) ++ significant rest := by
  unfold significant linesOf
  rw [getlines_break, List.map_append, List.filter_append]

def toldBy (line : Text) : List Line := [lineOf line].filter tells

theorem told_by_blank {line : Text} (blank : Blank line) : toldBy line = [] := by
  have skipped : lineOf line = lineOf [] := by
    apply line_of_trim
    have cut := trim_trailing blank []
    exact cut
  unfold toldBy
  rw [skipped]
  rfl

theorem told_by_comment {line : Text} (comment : CommentLine line) : toldBy line = [] := by
  have skipped : lineOf line = .skipped := by
    unfold CommentLine at comment
    rw [first_letter_eq] at comment
    unfold lineOf
    exact if_pos (Or.inr comment)
  unfold toldBy
  rw [skipped]
  rfl

theorem significant_line {line : Text} (oneLine : '\n' ∉ line) :
    significant line = toldBy line := by
  by_cases empty : line = []
  · rw [empty, told_by_blank blank_nil]
    rfl
  · unfold significant linesOf
    rw [getlines_last oneLine empty]
    rfl

theorem significant_first {line after : Text} (oneLine : '\n' ∉ line) (ends : EndsLine after) :
    significant (line ++ after) = toldBy line ++ significant after.tail := by
  rcases ends with rfl | ⟨later, rfl⟩
  · rw [List.append_nil, significant_line oneLine]
    exact (List.append_nil _).symm
  · unfold significant linesOf
    rw [getlines_line oneLine]
    exact List.filter_append [lineOf line] _

theorem significant_split {before : Text} (starts : StartsLine before) (rest : Text) :
    significant (before ++ rest) = significant before ++ significant rest := by
  rcases starts with rfl | ⟨earlier, rfl⟩
  · rfl
  · rw [List.append_assoc, List.singleton_append]
    exact significant_break earlier rest

theorem significant_place {before line after : Text} (starts : StartsLine before)
    (oneLine : '\n' ∉ line) (ends : EndsLine after) : significant (before ++ line ++ after) =
      significant before ++ (toldBy line ++ significant after.tail) := by
  rw [List.append_assoc, significant_split starts, significant_first oneLine ends]

theorem exists_last_line (text : Text) :
    ∃ before line, text = before ++ line ∧ StartsLine before ∧ '\n' ∉ line := by
  induction text using List.reverseRecOn with
  | nil => exact ⟨[], [], rfl, Or.inl rfl, List.not_mem_nil⟩
  | append_singleton text letter ih =>
      by_cases lineEnd : letter = '\n'
      · rw [lineEnd]
        exact ⟨text ++ ['\n'], [], (List.append_nil _).symm, Or.inr ⟨text, rfl⟩,
          List.not_mem_nil⟩
      · obtain ⟨before, line, equal, starts, oneLine⟩ := ih
        refine ⟨before, line ++ [letter], ?_, starts, ?_⟩
        · rw [equal, List.append_assoc]
        · simp [oneLine, Ne.symm lineEnd]

theorem significant_edit {text other : Text} (edit : Edit text other) :
    significant text = significant other := by
  cases edit with
  | @respace before line line' after starts ends oneLine respaced =>
      have told : toldBy line = toldBy line' := by
        unfold toldBy
        rw [line_of_respaced respaced]
      rw [significant_place starts oneLine ends,
        significant_place starts (one_line_respaced respaced oneLine) ends, told]
  | lineEnd before after =>
      obtain ⟨earlier, line, rfl, starts, oneLine⟩ := exists_last_line before
      have ends : EndsLine ('\n' :: after) := Or.inr ⟨after, rfl⟩
      have longer : '\n' ∉ line ++ ['\r'] := by simp [oneLine]
      have told : toldBy (line ++ ['\r']) = toldBy line := by
        unfold toldBy
        rw [line_of_trim (trim_trailing (blank_one rfl) line)]
      have shape : earlier ++ line ++ '\r' :: '\n' :: after =
          earlier ++ (line ++ ['\r']) ++ '\n' :: after := by
        simp
      rw [shape, significant_place starts oneLine ends, significant_place starts longer ends,
        told]
  | @insert before line after starts oneLine idle =>
      have told : toldBy line = [] := by
        rcases idle with padding | comment
        · exact told_by_blank (blank_of_padding padding)
        · exact told_by_comment comment
      rw [significant_place starts oneLine (Or.inr ⟨after, rfl⟩), told, significant_split starts]
      rfl
  | finalEnd text =>
      obtain ⟨before, line, rfl, starts, oneLine⟩ := exists_last_line text
      have open' := significant_place starts oneLine (Or.inl rfl)
      rw [List.append_nil] at open'
      rw [open', significant_place starts oneLine (Or.inr ⟨[], rfl⟩)]
      rfl

theorem significant_relaid {text other : Text} (relaid : Relaid text other) :
    significant text = significant other := by
  induction relaid with
  | rel text other edit => exact significant_edit edit
  | refl text => rfl
  | symm text other _ ih => exact ih.symm
  | trans text middle other _ _ first second => exact first.trans second

/-- The layout is not read, and neither is what was loaded before. -/
theorem load_relaid {text other : Text} (relaid : Relaid text other)
    {files files' : Text → Option Text} {fileName fileName' : Text}
    (opened : files fileName = some text) (opened' : files' fileName' = some other)
    (ini ini' : Sections) : load files ini fileName = load files' ini' fileName' := by
  have same : loaded text = loaded other := by
    rw [loaded_significant, loaded_significant, significant_relaid relaid]
  rw [load_clears opened, load_clears opened', same]

/-- A small file typed in another way. -/
theorem load_typed_anew : load (fun _ => some "[s]\nk=v".toList) Dict.empty [] =
    load (fun _ => some "[ s ]\r\n# c\nk =\tv\n".toList) (Dict.empty.assign ['o'] Dict.empty)
      [] := by
  let none : Blanks := ⟨[], by decide⟩
  let space : Blanks := ⟨[' '], by decide⟩
  let tab : Blanks := ⟨['\t'], by decide⟩
  have assigns : AssignmentLine "k=v".toList := ⟨by decide, by decide, by decide⟩
  have second : StartsLine "[ s ]\r\n".toList := Or.inr ⟨"[ s ]\r".toList, rfl⟩
  have header : Edit "[s]\nk=v".toList "[ s ]\nk=v".toList :=
    @Edit.respace [] "[s]".toList "[ s ]".toList "\nk=v".toList (Or.inl rfl)
      (Or.inr ⟨"k=v".toList, rfl⟩) (by decide)
      (Respaced.brackets none none none none space space ['s'])
  have lineEnd : Edit "[ s ]\nk=v".toList "[ s ]\r\nk=v".toList :=
    Edit.lineEnd "[ s ]".toList "k=v".toList
  have separator : Edit "[ s ]\r\nk=v".toList "[ s ]\r\nk =\tv".toList :=
    @Edit.respace "[ s ]\r\n".toList "k=v".toList "k =\tv".toList [] second (Or.inl rfl)
      (by decide) (@Respaced.separator none none space tab ['k'] ['v'] (by decide) assigns)
  have comment : Edit "[ s ]\r\nk =\tv".toList "[ s ]\r\n# c\nk =\tv".toList :=
    @Edit.insert "[ s ]\r\n".toList "# c".toList "k =\tv".toList second (by decide)
      (Or.inr (by decide))
  have final : Edit "[ s ]\r\n# c\nk =\tv".toList "[ s ]\r\n# c\nk =\tv\n".toList :=
    Edit.finalEnd _
  have relaid : Relaid "[s]\nk=v".toList "[ s ]\r\n# c\nk =\tv\n".toList := by
    apply Relation.EqvGen.trans _ _ _ (.rel _ _ header)
    apply Relation.EqvGen.trans _ _ _ (.rel _ _ lineEnd)
    apply Relation.EqvGen.trans _ _ _ (.rel _ _ separator)
    apply Relation.EqvGen.trans _ _ _ (.rel _ _ comment)
    exact .rel _ _ final
  exact load_relaid relaid rfl rfl Dict.empty (Dict.empty.assign ['o'] Dict.empty)

end BackendComponents.Ini.Layout
