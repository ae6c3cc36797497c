import BackendComponents.Log.Lines

/-!
# What a log call writes to

Offsets grow by the length of the whole text, whether it fits or not, and `size_t` cannot be
negative. Once the prefix is longer than the array, the space behind it wraps around and the
arguments go past the end. The copy into the second buffer stays inside whatever the line is.
-/

namespace BackendComponents.Log.Bounds

open BackendComponents.Lib.Paths
open BackendComponents.Lib.CStrings
open BackendComponents.Log.Model
open BackendComponents.Log.Formatting
open BackendComponents.Log.Lines

set_option autoImplicit false

variable (strftime : Nat → Text)

/-- Each character that is written is one of the array, and so is the space that was given. -/
structure Inside (request : Request) : Prop where
  written : ∀ index, index < (fitted request.size request.text).length →
    request.position + index < stackBufSize
  given : request.position + request.size ≤ stackBufSize

def Guarded (printing : Printing) : Prop := ∀ request ∈ printing.requests, Inside request

def ready (answers : Answers) (state : State) : State :=
  if rotates state then rotate strftime answers state else state

def emptied (line : Text) (state : State) : State :=
  if state.buffer.length + line.length > stackBufSize then flushBuffer state else state

def copiesInside (line : Text) (state : State) : Prop :=
  state.isOpen = true → (emptied line state).buffer.length + line.length ≤ stackBufSize

/-- What one call of `log` should not go beyond. -/
def Safe (call : Call) (time : LocalTime) (stackBuf : StackBuf) (answers : Answers)
    (state : State) : Prop :=
  state.config.level.toInt ≤ call.level.toInt →
    Guarded (format call time stackBuf) ∧
      copiesInside (formatted call time stackBuf).line
        (printLine (formatted call time stackBuf).line (ready strftime answers state))

def BoundsLaw : Prop :=
  ∀ (strftime : Nat → Text) (files : Files) (clock : Nat) (state : State),
    Reachable (loggerStep strftime) (constructed files clock) state →
      ∀ (call : Call) (time : LocalTime) (stackBuf : StackBuf) (answers : Answers),
        Safe strftime call time stackBuf answers state

/-- The prefix fits, or it is so long that `snprintf` does not count it. -/
def prefixFits (call : Call) (time : LocalTime) : Prop :=
  (header call time).length ≤ stackBufSize ∨ intMax < (linePrefix call).length

/-! ## The second buffer -/

theorem store_copies (level : LogLevel) (line : Text) (state : State) :
    storeLine level line state =
      if level.toInt ≥ LogLevel.error.toInt ∨
          (copyLine line (emptied line state)).buffer.length ≥ stackBufSize / 2 then
        flushBuffer (copyLine line (emptied line state))
      else copyLine line (emptied line state) :=
  rfl

theorem flush_empties {state : State} (isOpen : state.isOpen = true) :
    (flushBuffer state).buffer = [] := by
  unfold flushBuffer
  cases file : state.fout with
  | none =>
      unfold State.isOpen at isOpen
      rw [file] at isOpen
      cases isOpen
  | some name =>
      dsimp only
      split
      · next empty => exact empty
      · rfl

theorem copies_inside {line : Text} (bounded : line.length ≤ stackBufSize) (state : State) :
    copiesInside line state := by
  intro isOpen
  unfold emptied
  split
  · rw [flush_empties isOpen, List.length_nil, Nat.zero_add]
    exact bounded
  · next fits => exact Nat.not_lt.mp fits

/-! ## The array -/

theorem inside_iff (request : Request) :
    Inside request ↔ request.position + request.size ≤ stackBufSize := by
  constructor
  · exact Inside.given
  · intro given
    constructor
    · intro index written
      rw [fitted_length] at written
      omega
    · exact given

theorem guarded_print {printing : Printing} (guarded : Guarded printing) {size : Nat}
    (text : Text) (room : printing.offset + size ≤ stackBufSize) :
    Guarded (print size text printing) := by
  intro request member
  rcases List.mem_append.mp member with earlier | now
  · exact guarded request earlier
  · rw [List.mem_singleton.mp now]
    exact (inside_iff _).mpr room

theorem guarded_write {bufSize : Nat} (within : bufSize ≤ stackBufSize) {printing : Printing}
    (argument : Argument) (guarded : Guarded printing) :
    Guarded (writeArg bufSize printing argument) := by
  by_cases inside : printing.offset < bufSize
  · rw [write_inside argument inside]
    apply guarded_print guarded
    omega
  · rw [write_skipped argument (Nat.not_lt.mp inside)]
    exact guarded

theorem guarded_append {bufSize : Nat} (within : bufSize ≤ stackBufSize) (args : List Argument)
    {printing : Printing} (guarded : Guarded printing) :
    Guarded (appendArgs bufSize args printing) := by
  unfold appendArgs
  induction args generalizing printing with
  | nil => exact guarded
  | cons argument rest ih => exact ih (guarded_write within argument guarded)

theorem append_kept {bufSize : Nat} (args : List Argument) {printing : Printing}
    {request : Request} (earlier : request ∈ printing.requests) :
    request ∈ (appendArgs bufSize args printing).requests := by
  unfold appendArgs
  induction args generalizing printing with
  | nil => exact earlier
  | cons argument rest ih =>
      apply ih
      unfold writeArg
      split
      · exact earlier
      · exact List.mem_append_left _ earlier

theorem size_minus_wraps {whole part : Nat} (past : whole < part) :
    sizeMinus whole part = UInt64.size - (part - whole) :=
  if_neg (Nat.not_le.mpr past)

theorem args_guarded {call : Call} {printing : Printing} (guarded : Guarded printing)
    (inside : printing.offset ≤ stackBufSize) : Guarded (printArgs call printing) := by
  unfold printArgs
  rw [size_minus_of_le inside]
  split
  · apply guarded_print guarded
    omega
  · exact guarded_append (Nat.sub_le _ _) call.args guarded

theorem args_overrun {call : Call} {printing : Printing} (nonempty : call.args ≠ [])
    (past : stackBufSize < printing.offset) (counted : printing.offset < UInt32.size) :
    ¬Guarded (printArgs call printing) := by
  intro guarded
  have size : stackBufSize < UInt32.size := by decide
  have wide : 2 * UInt32.size ≤ UInt64.size := by decide
  unfold printArgs at guarded
  rw [size_minus_wraps past] at guarded
  split at guarded
  · have given := (guarded _ (List.mem_append_right _ (List.mem_singleton_self _))).given
    dsimp only at given
    omega
  · cases args : call.args with
    | nil => exact nonempty args
    | cons argument rest =>
        rw [args] at guarded
        have first : writeArg (UInt64.size - (printing.offset - stackBufSize)) printing argument =
            print (UInt64.size - (printing.offset - stackBufSize) - printing.offset) argument.text
              printing :=
          write_inside argument (by omega)
        unfold appendArgs at guarded
        rw [List.foldl_cons, first] at guarded
        have given := (guarded _ (append_kept rest
          (List.mem_append_right _ (List.mem_singleton_self _)))).given
        dsimp only at given
        omega

/-! ## The prefix -/

theorem digits_length {value : Nat} (bounded : value < 10000000000) :
    (Nat.toDigits 10 value).length ≤ 10 :=
  (Nat.length_toDigits_le_iff (by decide) (by decide)).mpr (Nat.lt_of_lt_of_le bounded (by decide))

theorem padded_length (width : Nat) {value : Int} (narrow : width ≤ 10)
    (bounded : value.natAbs < 10000000000) : (padded width value).length ≤ 11 := by
  have digits := digits_length bounded
  unfold padded
  split
  · rw [List.length_cons, List.length_leftpad]
    omega
  · rw [List.length_leftpad]
    omega

theorem timestamp_length (time : LocalTime) : (timestamp time).length ≤ 84 := by
  have field (value : Int32) : value.toInt.natAbs ≤ 2 ^ 31 := by
    have upper := value.toInt_lt
    have lower := value.le_toInt
    omega
  have year := field time.tmYear
  have month := field time.tmMon
  have millis : (time.sinceEpoch.tmod 1000).natAbs < 1000 := by
    rw [Int.natAbs_tmod]
    exact Nat.mod_lt _ (by decide)
  have one := padded_length 4 (by decide)
    (show (time.tmYear.toInt + 1900).natAbs < 10000000000 by omega)
  have two := padded_length 2 (by decide)
    (show (time.tmMon.toInt + 1).natAbs < 10000000000 by omega)
  have other (value : Int32) : (padded 2 value.toInt).length ≤ 11 := by
    have bounded := field value
    exact padded_length 2 (by decide) (by omega)
  have three := other time.tmMday
  have four := other time.tmHour
  have five := other time.tmMin
  have six := other time.tmSec
  have seven := padded_length 3 (by decide)
    (show (time.sinceEpoch.tmod 1000).natAbs < 10000000000 by omega)
  unfold timestamp
  simp only [List.length_append, List.length_cons, List.length_nil]
  omega

theorem timestamp_fits (time : LocalTime) : (timestamp time).length ≤ stackBufSize :=
  Nat.le_trans (timestamp_length time) (by decide)

theorem timestamp_offset (time : LocalTime) (stackBuf : StackBuf) :
    (formatTimestamp time ⟨stackBuf.chars, 0, []⟩).offset = (timestamp time).length := by
  have short := timestamp_length time
  have bounded : (timestamp time).length ≤ intMax := by
    unfold intMax
    omega
  unfold formatTimestamp
  rw [print_offset bounded]
  exact Nat.zero_add _

theorem prefix_offset (call : Call) (time : LocalTime) (stackBuf : StackBuf) :
    (printPrefix call (formatTimestamp time ⟨stackBuf.chars, 0, []⟩)).offset =
      if (linePrefix call).length ≤ intMax then (header call time).length
      else (timestamp time).length := by
  unfold printPrefix header
  split
  · next bounded => rw [print_offset bounded, timestamp_offset, List.length_append]
  · next huge => rw [print_offset_huge (Nat.not_le.mp huge), timestamp_offset]

theorem prefix_inside_iff (call : Call) (time : LocalTime) (stackBuf : StackBuf) :
    (printPrefix call (formatTimestamp time ⟨stackBuf.chars, 0, []⟩)).offset ≤ stackBufSize ↔
      prefixFits call time := by
  have short := timestamp_fits time
  rw [prefix_offset]
  unfold prefixFits
  split
  · omega
  · omega

theorem prefix_counted (call : Call) (time : LocalTime) (stackBuf : StackBuf) :
    (printPrefix call (formatTimestamp time ⟨stackBuf.chars, 0, []⟩)).offset < UInt32.size := by
  have short := timestamp_length time
  rw [prefix_offset]
  unfold header intMax UInt32.size
  rw [List.length_append]
  split
  · omega
  · omega

theorem prefix_guarded (call : Call) (time : LocalTime) (stackBuf : StackBuf) :
    Guarded (printPrefix call (formatTimestamp time ⟨stackBuf.chars, 0, []⟩)) := by
  have short := timestamp_fits time
  have empty : Guarded ⟨stackBuf.chars, 0, []⟩ := fun _ member => nomatch member
  have stamped : Guarded (formatTimestamp time ⟨stackBuf.chars, 0, []⟩) := by
    apply guarded_print empty
    rw [size_minus_of_le (Nat.zero_le _)]
    exact Nat.le_of_eq (Nat.zero_add _)
  unfold printPrefix
  apply guarded_print stamped
  rw [timestamp_offset, size_minus_of_le (by omega)]
  omega

theorem format_guarded_iff (call : Call) (time : LocalTime) (stackBuf : StackBuf) :
    Guarded (format call time stackBuf) ↔ call.args = [] ∨ prefixFits call time := by
  have guarded := prefix_guarded call time stackBuf
  unfold format
  by_cases inside : (printPrefix call (formatTimestamp time ⟨stackBuf.chars, 0, []⟩)).offset ≤
      stackBufSize
  · apply iff_of_true
    · exact args_guarded guarded inside
    · exact Or.inr ((prefix_inside_iff call time stackBuf).mp inside)
  · have long : ¬prefixFits call time := fun fits =>
      inside ((prefix_inside_iff call time stackBuf).mpr fits)
    by_cases none : call.args = []
    · apply iff_of_true _ (Or.inl none)
      unfold printArgs
      rw [none]
      exact guarded
    · apply iff_of_false _ fun either => either.elim none long
      exact args_overrun none (Nat.not_le.mp inside) (prefix_counted call time stackBuf)

/-- A call keeps to its arrays exactly when it is filtered, has no arguments or a prefix that
fits. -/
theorem safe_iff (call : Call) (time : LocalTime) (stackBuf : StackBuf) (answers : Answers)
    (state : State) :
    Safe strftime call time stackBuf answers state ↔
      call.level.toInt < state.config.level.toInt ∨ call.args = [] ∨ prefixFits call time := by
  have bounded := line_length_le (formatted call time stackBuf)
  have copied := copies_inside (Nat.le_trans bounded (by decide))
    (printLine (formatted call time stackBuf).line (ready strftime answers state))
  rw [← format_guarded_iff call time stackBuf]
  constructor
  · intro safe
    by_cases filtered : call.level.toInt < state.config.level.toInt
    · exact Or.inl filtered
    · exact Or.inr (safe (Int.not_lt.mp filtered)).1
  · intro either passed
    rcases either with filtered | guarded
    · omega
    · exact ⟨guarded, copied⟩

def deepCall : Call :=
  ⟨.error, List.replicate 4096 'd', 1, [.signed 5], [], rfl⟩

theorem deep_front_length : (linePrefix deepCall).length = 4108 := by
  have file : cString (List.replicate 4096 'd') = List.replicate 4096 'd' :=
    List.takeWhile_replicate.trans (if_pos (by decide))
  have front : (" [".toList ++ levelName .error ++ "] ".toList).length = 9 := by decide
  have back : (decimal (1 : Int32).toInt).length = 1 := by decide
  unfold linePrefix deepCall
  dsimp only
  rw [file, List.length_append, List.length_append, List.length_append, List.length_append, front,
    back, List.length_replicate]
  rfl

theorem deep_file_overruns : ¬BoundsLaw := by
  intro law
  have safe := law (fun _ => []) (fun _ => none) 0 (constructed (fun _ => none) 0)
    (reachable_start _ _) deepCall noon noise ⟨true, true⟩ (by decide)
  rcases (format_guarded_iff deepCall noon noise).mp safe.1 with none | short | huge
  · cases none
  · unfold header at short
    rw [List.length_append, deep_front_length] at short
    unfold stackBufSize at short
    omega
  · rw [deep_front_length] at huge
    exact absurd huge (by decide)

end BackendComponents.Log.Bounds
