import BackendComponents.Log.Formatting

/-!
# What a log line says

The line should be the prefix and the message, cut to what the array holds, on both ways of
formatting. The space left behind the prefix, which `append_args` compares with offsets from
the start of the array, lets it write less than that.
-/

namespace BackendComponents.Log.Lines

open BackendComponents.Lib.CStrings
open BackendComponents.Log.Model (Text LogLevel stackBufSize Formatted)
open BackendComponents.Log.Formatting

set_option autoImplicit false

def header (call : Call) (time : LocalTime) : Text := timestamp time ++ linePrefix call

def message (call : Call) : Text :=
  if printfStyle call.args then call.rendered else call.args.flatMap Argument.text

def rendering (call : Call) (time : LocalTime) : Text := header call time ++ message call

/-- The line that the documentation promises for a text. -/
def expected (text : Text) : Text :=
  if text.length < stackBufSize - 2 then text ++ ['\n'] else text.take (stackBufSize - 2) ++ ['\n']

/-- The line that `log` hands to the console and to the file is the expected one. -/
def LineLaw : Prop :=
  ∀ (call : Call) (time : LocalTime) (stackBuf : StackBuf),
    (header call time).length < stackBufSize →
      (formatted call time stackBuf).line = expected (rendering call time)

/-- The message does not matter, or all of it gets there: through `vsnprintf` if its length is
an `int`, and value by value if the array has room for it and for a second prefix. -/
def rendersRight (call : Call) (time : LocalTime) : Prop :=
  stackBufSize - 2 ≤ (header call time).length ∨
    if printfStyle call.args then call.rendered.length ≤ intMax
    else message call = [] ∨
      2 * (header call time).length + (message call).length < stackBufSize

/-! ## Lines -/

def lineOf (printing : Printing) : Text :=
  if printing.offset < stackBufSize - 2 then printing.array.take printing.offset ++ ['\n']
  else printing.array.take (stackBufSize - 2) ++ ['\n']

theorem line_eq (call : Call) (time : LocalTime) (stackBuf : StackBuf) :
    (formatted call time stackBuf).line = lineOf (format call time stackBuf) := by
  unfold Formatted.line lineOf formatted
  dsimp only
  split
  · next inside =>
      rw [List.take_take, Nat.min_eq_left (by omega)]
  · rw [List.take_take, Nat.min_eq_left (Nat.sub_le _ _)]

theorem expected_length (text : Text) :
    (expected text).length = min text.length (stackBufSize - 2) + 1 := by
  unfold expected
  split
  · rw [List.length_append, List.length_singleton]
    omega
  · rw [List.length_append, List.length_take, List.length_singleton]
    omega

theorem line_length {printing : Printing} (full : printing.array.length = stackBufSize) :
    (lineOf printing).length = min printing.offset (stackBufSize - 2) + 1 := by
  unfold lineOf
  split
  · rw [List.length_append, List.length_take, List.length_singleton]
    omega
  · rw [List.length_append, List.length_take, List.length_singleton]
    omega

theorem line_expected {printing : Printing} {text : Text}
    (offset : printing.offset = text.length ∨
      stackBufSize - 2 ≤ printing.offset ∧ stackBufSize - 2 ≤ text.length)
    (front : ∀ count, count ≤ text.length → count ≤ stackBufSize - 2 →
      printing.array.take count = text.take count) : lineOf printing = expected text := by
  unfold lineOf expected
  by_cases short : printing.offset < stackBufSize - 2
  · have same : printing.offset = text.length := by omega
    rw [if_pos short, if_pos (by omega), same, front text.length (Nat.le_refl _) (by omega),
      List.take_length]
  · rw [if_neg short, if_neg (by omega), front (stackBufSize - 2) (by omega) (Nat.le_refl _)]

/-! ## One call of `snprintf` -/

/-- The array begins with the text, and the offset is behind it. -/
structure Holds (printing : Printing) (text : Text) : Prop where
  front : ∃ rest, printing.array = text ++ rest
  offset : printing.offset = text.length
  full : printing.array.length = stackBufSize

theorem size_minus_of_le {whole part : Nat} (inside : part ≤ whole) :
    sizeMinus whole part = whole - part :=
  if_pos inside

theorem print_full {size : Nat} (text : Text) {printing : Printing}
    (full : printing.array.length = stackBufSize)
    (room : printing.offset + size ≤ stackBufSize) :
    (print size text printing).array.length = stackBufSize :=
  (snprintf_length text (by rw [full]; exact room)).trans full

theorem print_offset {size : Nat} {text : Text} {printing : Printing}
    (bounded : text.length ≤ intMax) :
    (print size text printing).offset = printing.offset + text.length := by
  have returned : (snprintf printing.array printing.offset size text).2 = text.length :=
    printed_of_le bounded
  unfold print
  simp only [returned]
  split <;> omega

theorem print_offset_huge {size : Nat} {text : Text} {printing : Printing}
    (huge : intMax < text.length) : (print size text printing).offset = printing.offset := by
  have returned : (snprintf printing.array printing.offset size text).2 = -1 :=
    printed_of_gt huge
  unfold print
  simp only [returned]
  exact if_neg (by decide)

theorem print_last {size : Nat} {text : Text} {printing : Printing}
    (full : printing.array.length = stackBufSize) (positive : 0 < size) (long : size ≤ text.length)
    (room : printing.offset + size ≤ stackBufSize) :
    (print size text printing).array[printing.offset + size - 1]? = some nul := by
  have length : (printing.array.take printing.offset).length = printing.offset := by
    rw [List.length_take]
    omega
  have cut : (text.take (size - 1)).length = size - 1 := by
    rw [List.length_take]
    omega
  have written : fitted size text = text.take (size - 1) ++ [nul] := if_neg (by omega)
  dsimp only [print, snprintf, store]
  rw [written, List.append_assoc, List.append_assoc, List.getElem?_append_right (by omega), length,
    List.getElem?_append_right (by omega), cut]
  have last : printing.offset + size - 1 - printing.offset - (size - 1) = 0 := by omega
  rw [last]
  rfl

theorem print_take {size : Nat} {text added : Text} {printing : Printing}
    (holds : Holds printing text) (exactly : text.length + size = stackBufSize) (count : Nat)
    (inside : count ≤ (text ++ added).length) (below : count < stackBufSize) :
    (print size added printing).array.take count = (text ++ added).take count := by
  obtain ⟨rest, front⟩ := holds.front
  rw [List.length_append] at inside
  have stored : (print size added printing).array =
      text ++ (fitted size added ++ rest.drop (fitted size added).length) := by
    dsimp only [print, snprintf]
    rw [front, holds.offset, store_append]
  by_cases within : count ≤ text.length
  · rw [stored, List.take_append_of_le_length within, List.take_append_of_le_length within]
  · have nonzero : size ≠ 0 := by omega
    have cut : fitted size added = added.take (size - 1) ++ [nul] := if_neg nonzero
    have long : count - text.length ≤ (added.take (size - 1)).length := by
      rw [List.length_take]
      omega
    rw [stored, cut, List.append_assoc, List.take_append, List.take_append_of_le_length long,
      List.take_take, Nat.min_eq_left (by omega), ← List.take_append]

theorem print_holds {size : Nat} {text added : Text} {printing : Printing}
    (holds : Holds printing text) (fits : added.length < size)
    (room : text.length + size ≤ stackBufSize) :
    Holds (print size added printing) (text ++ added) := by
  obtain ⟨rest, front⟩ := holds.front
  have bounded : added.length ≤ intMax := by
    unfold stackBufSize at room
    unfold intMax
    omega
  constructor
  · refine ⟨[nul] ++ rest.drop (fitted size added).length, ?_⟩
    dsimp only [print, snprintf]
    rw [front, holds.offset, store_append, fitted_short fits]
    simp only [List.append_assoc]
  · rw [print_offset bounded, holds.offset, List.length_append]
  · exact print_full added holds.full (by rw [holds.offset]; exact room)

theorem holds_take {printing : Printing} {text : Text} (holds : Holds printing text)
    {count : Nat} (inside : count ≤ text.length) :
    printing.array.take count = text.take count := by
  have ⟨rest, front⟩ := holds.front
  rw [front, List.take_append_of_le_length inside]

/-! ## The prefix -/

theorem prefix_length (call : Call) : 2 ≤ (linePrefix call).length := by
  unfold linePrefix
  simp only [List.length_append, List.length_cons, List.length_nil]
  have opening : " [".toList.length = 2 := by decide
  omega

theorem started_holds (stackBuf : StackBuf) : Holds ⟨stackBuf.chars, 0, []⟩ [] :=
  ⟨⟨stackBuf.chars, rfl⟩, rfl, stackBuf.full⟩

theorem header_holds {call : Call} {time : LocalTime} (stackBuf : StackBuf)
    (fits : (header call time).length < stackBufSize) :
    Holds (printPrefix call (formatTimestamp time ⟨stackBuf.chars, 0, []⟩))
      (header call time) := by
  unfold header at fits ⊢
  rw [List.length_append] at fits
  have stamped : Holds (formatTimestamp time ⟨stackBuf.chars, 0, []⟩) (timestamp time) := by
    rw [← List.nil_append (timestamp time)]
    unfold formatTimestamp
    apply print_holds (started_holds stackBuf)
    · rw [size_minus_of_le (Nat.zero_le _)]
      omega
    · exact Nat.le_of_eq (Nat.zero_add _)
  have left : sizeMinus stackBufSize (timestamp time).length =
      stackBufSize - (timestamp time).length := size_minus_of_le (by omega)
  unfold printPrefix
  rw [stamped.offset, left]
  apply print_holds stamped
  · omega
  · omega

/-! ## The arguments, value by value -/

/-- Where the offset has passed the space, the last character of it is a NUL. -/
def Cut (bufSize : Nat) (printing : Printing) : Prop :=
  printing.array.length = stackBufSize ∧
    (printing.offset < bufSize ∨ printing.array[bufSize - 1]? = some nul)

theorem write_skipped {bufSize : Nat} {printing : Printing} (argument : Argument)
    (past : bufSize ≤ printing.offset) : writeArg bufSize printing argument = printing :=
  if_pos past

theorem write_inside {bufSize : Nat} {printing : Printing} (argument : Argument)
    (inside : printing.offset < bufSize) :
    writeArg bufSize printing argument =
      print (bufSize - printing.offset) argument.text printing := by
  unfold writeArg
  rw [if_neg (Nat.not_le.mpr inside), size_minus_of_le (Nat.le_of_lt inside)]

theorem append_skipped {bufSize : Nat} (args : List Argument) {printing : Printing}
    (past : bufSize ≤ printing.offset) : appendArgs bufSize args printing = printing := by
  unfold appendArgs
  induction args with
  | nil => rfl
  | cons argument rest ih => rw [List.foldl_cons, write_skipped argument past, ih]

theorem append_fits {bufSize : Nat} (args : List Argument) {printing : Printing} {text : Text}
    (holds : Holds printing text) (within : bufSize ≤ stackBufSize)
    (fits : text.length + (args.flatMap Argument.text).length < bufSize) :
    Holds (appendArgs bufSize args printing) (text ++ args.flatMap Argument.text) := by
  unfold appendArgs
  induction args generalizing printing text with
  | nil =>
      rw [List.flatMap_nil, List.append_nil]
      exact holds
  | cons argument rest ih =>
      rw [List.flatMap_cons, List.length_append] at fits
      rw [List.flatMap_cons, List.foldl_cons, ← List.append_assoc]
      apply ih
      · rw [write_inside argument (by rw [holds.offset]; omega), holds.offset]
        apply print_holds holds
        · omega
        · omega
      · rw [List.length_append]
        omega

theorem write_cut {bufSize : Nat} (within : bufSize ≤ stackBufSize) {printing : Printing}
    (argument : Argument) (cut : Cut bufSize printing) :
    Cut bufSize (writeArg bufSize printing argument) := by
  by_cases inside : printing.offset < bufSize
  · rw [write_inside argument inside]
    have room : printing.offset + (bufSize - printing.offset) ≤ stackBufSize := by omega
    constructor
    · exact print_full argument.text cut.1 room
    · by_cases short : argument.text.length < bufSize - printing.offset
      · left
        have bounded : argument.text.length ≤ intMax := by
          unfold stackBufSize at within
          unfold intMax
          omega
        rw [print_offset bounded]
        omega
      · right
        have last := print_last cut.1 (Nat.sub_pos_of_lt inside) (Nat.not_lt.mp short) room
        have same : printing.offset + (bufSize - printing.offset) = bufSize := by omega
        rw [same] at last
        exact last
  · rw [write_skipped argument (Nat.not_lt.mp inside)]
    exact cut

theorem append_cut {bufSize : Nat} (within : bufSize ≤ stackBufSize) (args : List Argument)
    {printing : Printing} (cut : Cut bufSize printing) :
    Cut bufSize (appendArgs bufSize args printing) := by
  unfold appendArgs
  induction args generalizing printing with
  | nil => exact cut
  | cons argument rest ih => exact ih (write_cut within argument cut)

theorem digits_plain (value : Nat) : nul ∉ Nat.toDigits 10 value := by
  intro inside
  have digit := Nat.isDigit_of_mem_toDigits (by decide) (by decide) inside
  exact absurd digit (by decide)

theorem decimal_plain (value : Int) : nul ∉ decimal value := by
  unfold decimal
  split
  · rw [List.mem_cons, not_or]
    exact ⟨by decide, digits_plain _⟩
  · exact digits_plain _

theorem argument_plain (argument : Argument) : nul ∉ argument.text := by
  cases argument with
  | string value => exact c_string_plain value
  | chars value => exact c_string_plain value
  | signed value => exact decimal_plain _
  | unsigned value => exact digits_plain _
  | floating value => exact value.plain
  | other address => exact address.plain

theorem message_plain (args : List Argument) : nul ∉ args.flatMap Argument.text := by
  intro inside
  have ⟨argument, _, written⟩ := List.mem_flatMap.mp inside
  exact argument_plain argument written

/-! ## Both ways -/

theorem wrong_length {printing : Printing} {text : Text}
    (full : printing.array.length = stackBufSize)
    (short : printing.offset < min text.length (stackBufSize - 2)) :
    lineOf printing ≠ expected text := by
  intro equal
  have lengths := congrArg List.length equal
  rw [line_length full, expected_length] at lengths
  omega

theorem wrong_nul {printing : Printing} {text added : Text} (plain : nul ∉ added) {index : Nat}
    (last : printing.array[index]? = some nul) (before : text.length ≤ index)
    (inside : index < min printing.offset (stackBufSize - 2))
    (within : index < (text ++ added).length) : lineOf printing ≠ expected (text ++ added) := by
  intro equal
  have actual : (lineOf printing)[index]? = some nul := by
    have bound : index < printing.array.length := (List.getElem?_eq_some_iff.mp last).1
    unfold lineOf
    split
    · rw [List.getElem?_append_left, List.getElem?_take_of_lt (by omega), last]
      rw [List.length_take]
      omega
    · rw [List.getElem?_append_left, List.getElem?_take_of_lt (by omega), last]
      rw [List.length_take]
      omega
  have promised : (expected (text ++ added))[index]? = added[index - text.length]? := by
    unfold expected
    split
    · rw [List.getElem?_append_left within, List.getElem?_append_right before]
    · rw [List.getElem?_append_left, List.getElem?_take_of_lt (by omega),
        List.getElem?_append_right before]
      rw [List.length_take]
      omega
  rw [equal, promised] at actual
  exact plain (List.mem_of_getElem? actual)

theorem holds_line {printing : Printing} {text : Text} (holds : Holds printing text) :
    lineOf printing = expected text :=
  line_expected (Or.inl holds.offset) fun _ inside _ => holds_take holds inside

theorem filled_line {printing : Printing} {text : Text} (added : Text)
    (filled : stackBufSize - 2 ≤ text.length) (offset : stackBufSize - 2 ≤ printing.offset)
    (front : ∀ count, count ≤ stackBufSize - 2 → printing.array.take count = text.take count) :
    lineOf printing = expected (text ++ added) := by
  apply line_expected
  · rw [List.length_append]
    omega
  · intro count _ below
    rw [front count below, List.take_append_of_le_length (Nat.le_trans below filled)]

theorem line_printf_iff {printing : Printing} {text rendered : Text}
    (holds : Holds printing text) (within : text.length ≤ stackBufSize) :
    lineOf (logVprintf (stackBufSize - text.length) rendered printing) =
        expected (text ++ rendered) ↔
      stackBufSize - 2 ≤ text.length ∨ rendered.length ≤ intMax := by
  have margin : stackBufSize - 2 < stackBufSize := by decide
  have exactly : text.length + (stackBufSize - text.length) = stackBufSize := by omega
  unfold logVprintf
  by_cases bounded : rendered.length ≤ intMax
  · apply iff_of_true _ (Or.inr bounded)
    apply line_expected
    · rw [print_offset bounded, holds.offset, List.length_append]
      exact Or.inl rfl
    · intro count inside below
      exact print_take holds exactly count inside (by omega)
  · have offset : (print (stackBufSize - text.length) rendered printing).offset = text.length :=
      (print_offset_huge (Nat.not_le.mp bounded)).trans holds.offset
    by_cases filled : stackBufSize - 2 ≤ text.length
    · apply iff_of_true _ (Or.inl filled)
      apply filled_line rendered filled
      · rw [offset]
        exact filled
      · intro count below
        rw [print_take holds exactly count _ (by omega),
          List.take_append_of_le_length (Nat.le_trans below filled)]
        rw [List.length_append]
        omega
    · apply iff_of_false _ (fun either => either.elim filled bounded)
      apply wrong_length
      · apply print_full rendered holds.full
        rw [holds.offset, exactly]
      · rw [offset, List.length_append]
        omega

theorem line_append_iff {printing : Printing} {text : Text} (args : List Argument)
    (holds : Holds printing text) (long : 2 ≤ text.length) (within : text.length < stackBufSize) :
    lineOf (appendArgs (stackBufSize - text.length) args printing) =
        expected (text ++ args.flatMap Argument.text) ↔
      stackBufSize - 2 ≤ text.length ∨ args.flatMap Argument.text = [] ∨
        2 * text.length + (args.flatMap Argument.text).length < stackBufSize := by
  have margin : 2 ≤ stackBufSize := by decide
  by_cases room : 2 * text.length + (args.flatMap Argument.text).length < stackBufSize
  · apply iff_of_true _ (Or.inr (Or.inr room))
    exact holds_line (append_fits args holds (Nat.sub_le _ _) (by omega))
  · by_cases skipped : stackBufSize - text.length ≤ text.length
    · rw [append_skipped args (by rw [holds.offset]; exact skipped)]
      by_cases filled : stackBufSize - 2 ≤ text.length
      · apply iff_of_true _ (Or.inl filled)
        apply filled_line _ filled
        · rw [holds.offset]
          exact filled
        · intro count below
          exact holds_take holds (Nat.le_trans below filled)
      · by_cases empty : args.flatMap Argument.text = []
        · apply iff_of_true _ (Or.inr (Or.inl empty))
          rw [empty, List.append_nil]
          exact holds_line holds
        · apply iff_of_false _ (fun any => any.elim filled fun two => two.elim empty room)
          apply wrong_length holds.full
          have positive := List.length_pos_iff.mpr empty
          rw [holds.offset, List.length_append]
          omega
    · have positive : (args.flatMap Argument.text).length ≠ 0 := by omega
      have cut := append_cut (Nat.sub_le stackBufSize text.length) args
        ⟨holds.full, Or.inl (by rw [holds.offset]; omega)⟩
      apply iff_of_false
      · by_cases inside : (appendArgs (stackBufSize - text.length) args printing).offset <
            stackBufSize - text.length
        · apply wrong_length cut.1
          rw [List.length_append]
          omega
        · have last := cut.2.resolve_left inside
          apply wrong_nul (message_plain args) last
          · omega
          · omega
          · rw [List.length_append]
            omega
      · intro any
        rcases any with filled | empty | fits
        · omega
        · exact positive (List.length_eq_zero_iff.mpr empty)
        · exact room fits

theorem header_length (call : Call) (time : LocalTime) : 2 ≤ (header call time).length := by
  unfold header
  rw [List.length_append]
  exact Nat.le_trans (prefix_length call) (Nat.le_add_left _ _)

theorem line_format_iff {call : Call} {time : LocalTime} (stackBuf : StackBuf)
    (fits : (header call time).length < stackBufSize) (style : printfStyle call.args = true) :
    (formatted call time stackBuf).line = expected (rendering call time) ↔
      stackBufSize - 2 ≤ (header call time).length ∨ call.rendered.length ≤ intMax := by
  have holds := header_holds stackBuf fits
  rw [line_eq]
  unfold format printArgs rendering message
  rw [if_pos style, if_pos style, holds.offset, size_minus_of_le (Nat.le_of_lt fits)]
  exact line_printf_iff holds (Nat.le_of_lt fits)

theorem line_value_iff {call : Call} {time : LocalTime} (stackBuf : StackBuf)
    (fits : (header call time).length < stackBufSize) (style : printfStyle call.args = false) :
    (formatted call time stackBuf).line = expected (rendering call time) ↔
      stackBufSize - 2 ≤ (header call time).length ∨ message call = [] ∨
        2 * (header call time).length + (message call).length < stackBufSize := by
  have holds := header_holds stackBuf fits
  have values : ¬printfStyle call.args = true := by
    rw [style]
    exact Bool.false_ne_true
  rw [line_eq]
  unfold format printArgs rendering message
  rw [if_neg values, if_neg values, holds.offset, size_minus_of_le (Nat.le_of_lt fits)]
  exact line_append_iff call.args holds (header_length call time) fits

/-- The line is right exactly when the message gets there. -/
theorem line_right_iff (call : Call) (time : LocalTime) (stackBuf : StackBuf)
    (fits : (header call time).length < stackBufSize) :
    (formatted call time stackBuf).line = expected (rendering call time) ↔
      rendersRight call time := by
  unfold rendersRight
  cases style : printfStyle call.args with
  | true =>
      rw [if_pos rfl]
      exact line_format_iff stackBuf fits style
  | false =>
      rw [if_neg Bool.false_ne_true]
      exact line_value_iff stackBuf fits style

def noon : LocalTime := ⟨126, 5, 15, 12, 0, 0, 1781524800000⟩

def noise : StackBuf := ⟨List.replicate stackBufSize '?', List.length_replicate⟩

def readyCall : Call :=
  ⟨.info, "main.cpp".toList, 12, [.chars "ready ".toList, .signed 5], [], rfl⟩

theorem ready_line : (formatted readyCall noon noise).line =
    "2026-06-15 12:00:00.000 [INFO] main.cpp:12 ready 5\n".toList := by
  have right : rendersRight readyCall noon := Or.inr (by decide)
  rw [(line_right_iff readyCall noon noise (by decide)).mpr right]
  decide

/-- A text of 4050 characters, to be appended behind a prefix of 39. -/
def longCall : Call :=
  ⟨.info, "a.cpp".toList, 1, [.chars (List.replicate 4050 'x')], [], rfl⟩

theorem long_message : message longCall = List.replicate 4050 'x' := by
  show cString (List.replicate 4050 'x') ++ [] = List.replicate 4050 'x'
  rw [List.append_nil]
  exact List.takeWhile_replicate.trans (if_pos (by decide))

theorem long_line_leaks : ¬LineLaw := by
  intro law
  have prefixed : (header longCall noon).length = 39 := by decide
  have right := (line_value_iff noise (by rw [prefixed]; decide) rfl).mp
    (law longCall noon noise (by rw [prefixed]; decide))
  rw [prefixed, long_message, List.length_replicate] at right
  rcases right with filled | empty | fits
  · exact absurd filled (by decide)
  · cases empty
  · exact absurd fits (by decide)

end BackendComponents.Log.Lines
