import BackendComponents.Lib.CStrings
import BackendComponents.Log.Model

/-!
# How a log line is formatted

The part of `log` between the filter and the mutex. What the C library makes of a floating
point number, of a pointer and of a format with its arguments is an input. `requests` is not
in the source: it records what the calls of `snprintf` and `vsnprintf` are told.
-/

namespace BackendComponents.Log.Formatting

open BackendComponents.Lib.CStrings
open BackendComponents.Log.Model (Text LogLevel stackBufSize Formatted)

set_option autoImplicit false

/-- What `localtime_r` and the clock say, the latter in milliseconds. -/
structure LocalTime where
  tmYear : Int32
  tmMon : Int32
  tmMday : Int32
  tmHour : Int32
  tmMin : Int32
  tmSec : Int32
  sinceEpoch : Int
  deriving DecidableEq

/-- `%d` -/
def decimal (value : Int) : Text :=
  if value < 0 then '-' :: Nat.toDigits 10 value.natAbs else Nat.toDigits 10 value.natAbs

/-- `%0*d` -/
def padded (width : Nat) (value : Int) : Text :=
  if value < 0 then '-' :: (Nat.toDigits 10 value.natAbs).leftpad (width - 1) '0'
  else (Nat.toDigits 10 value.natAbs).leftpad width '0'

def timestamp (time : LocalTime) : Text :=
  padded 4 (time.tmYear.toInt + 1900) ++ ['-'] ++ padded 2 (time.tmMon.toInt + 1) ++ ['-'] ++
    padded 2 time.tmMday.toInt ++ [' '] ++ padded 2 time.tmHour.toInt ++ [':'] ++
      padded 2 time.tmMin.toInt ++ [':'] ++ padded 2 time.tmSec.toInt ++ ['.'] ++
        padded 3 (time.sinceEpoch.tmod 1000)

def levelName : LogLevel → Text
  | .debug => "DEBUG".toList
  | .info => "INFO".toList
  | .warning => "WARNING".toList
  | .error => "ERROR".toList
  | .fatal => "FATAL".toList

/-- A text without a NUL, as `%g` and `%p` write it. -/
structure Plain where
  chars : Text
  plain : nul ∉ chars

/-- The types that `write_arg` tells apart, where `chars` is a `const char*`. -/
inductive Argument
  | string (value : Text)
  | chars (value : Text)
  | signed (value : Int64)
  | unsigned (value : UInt64)
  | floating (value : Plain)
  | other (address : Plain)

def Argument.text : Argument → Text
  | .string value => cString value
  | .chars value => cString value
  | .signed value => decimal value.toInt
  | .unsigned value => Nat.toDigits 10 value.toNat
  | .floating value => value.chars
  | .other address => address.chars

def Argument.isString : Argument → Bool
  | .string _ => true
  | _ => false

/-- A `std::string` that comes first, or after a `const char*`, has no way into the variadic
`log_vprintf`. -/
def compiles : List Argument → Bool
  | [] => true
  | .string _ :: _ => false
  | .chars _ :: rest => rest.all fun argument => !argument.isString
  | _ :: _ => true

/-- A call of `log`; `rendered` is what its first argument as a format makes of the others. -/
structure Call where
  level : LogLevel
  file : Text
  line : Int32
  args : List Argument
  rendered : Text
  compiled : compiles args = true

/-- `has_format && sizeof...(Args) > 1` -/
def printfStyle : List Argument → Bool
  | .chars first :: _ :: _ => (cString first).contains '%'
  | _ => false

def linePrefix (call : Call) : Text :=
  " [".toList ++ levelName call.level ++ "] ".toList ++ cString call.file ++ [':'] ++
    decimal call.line.toInt ++ [' ']

/-- A call of `snprintf` or `vsnprintf`. -/
structure Request where
  position : Nat
  size : Nat
  text : Text

/-- The local array, of which nothing is known at first. -/
structure StackBuf where
  chars : Text
  full : chars.length = stackBufSize

structure Printing where
  array : Text
  offset : Nat
  requests : List Request

/-- Subtraction of `size_t`. -/
def sizeMinus (whole part : Nat) : Nat :=
  if part ≤ whole then whole - part else UInt64.size - (part - whole)

/-- `snprintf(buf + offset, size, …)`; the offset grows by what is returned, unless that is
negative. -/
def print (size : Nat) (text : Text) (printing : Printing) : Printing :=
  let result := snprintf printing.array printing.offset size text
  { array := result.1
    offset := if 0 < result.2 then printing.offset + result.2.toNat else printing.offset
    requests := printing.requests ++ [⟨printing.offset, size, text⟩] }

def writeArg (bufSize : Nat) (printing : Printing) (argument : Argument) : Printing :=
  if bufSize ≤ printing.offset then printing
  else print (sizeMinus bufSize printing.offset) argument.text printing

def appendArgs (bufSize : Nat) (args : List Argument) (printing : Printing) : Printing :=
  args.foldl (writeArg bufSize) printing

def logVprintf (bufSize : Nat) (rendered : Text) (printing : Printing) : Printing :=
  print bufSize rendered printing

/-- The source adds what is returned here without a test; a timestamp is too short for the test
to matter. -/
def formatTimestamp (time : LocalTime) (printing : Printing) : Printing :=
  print (sizeMinus stackBufSize printing.offset) (timestamp time) printing

def printPrefix (call : Call) (printing : Printing) : Printing :=
  print (sizeMinus stackBufSize printing.offset) (linePrefix call) printing

/-- The space that is left is what either path gets for the size of the array. -/
def printArgs (call : Call) (printing : Printing) : Printing :=
  let left := sizeMinus stackBufSize printing.offset
  if printfStyle call.args then logVprintf left call.rendered printing
  else appendArgs left call.args printing

def format (call : Call) (time : LocalTime) (stackBuf : StackBuf) : Printing :=
  let started := { array := stackBuf.chars, offset := 0, requests := [] }
  printArgs call (printPrefix call (formatTimestamp time started))

theorem print_length_le (size : Nat) (text : Text) (printing : Printing) :
    printing.array.length ≤ (print size text printing).array.length := by
  dsimp only [print, snprintf, store]
  rw [List.length_append, List.length_append, List.length_take, List.length_drop]
  omega

theorem append_args_length_le (bufSize : Nat) (args : List Argument) (printing : Printing) :
    printing.array.length ≤ (appendArgs bufSize args printing).array.length := by
  unfold appendArgs
  induction args generalizing printing with
  | nil => exact Nat.le_refl _
  | cons argument rest ih =>
      apply Nat.le_trans _ (ih (writeArg bufSize printing argument))
      unfold writeArg
      split
      · exact Nat.le_refl _
      · exact print_length_le _ _ _

theorem format_length_le (call : Call) (time : LocalTime) (stackBuf : StackBuf) :
    stackBufSize ≤ (format call time stackBuf).array.length := by
  have stamped := print_length_le stackBufSize (timestamp time)
    { array := stackBuf.chars, offset := 0, requests := [] }
  apply Nat.le_trans (Nat.le_of_eq stackBuf.full.symm)
  apply Nat.le_trans stamped
  apply Nat.le_trans (print_length_le _ (linePrefix call) _)
  unfold format printArgs
  dsimp only
  split
  · exact print_length_le _ _ _
  · exact append_args_length_le _ _ _

theorem format_full (call : Call) (time : LocalTime) (stackBuf : StackBuf) :
    ((format call time stackBuf).array.take stackBufSize).length = stackBufSize := by
  rw [List.length_take]
  exact Nat.min_eq_left (format_length_le call time stackBuf)

def formatted (call : Call) (time : LocalTime) (stackBuf : StackBuf) : Formatted where
  stackBuf := (format call time stackBuf).array.take stackBufSize
  offset := (format call time stackBuf).offset
  full := format_full call time stackBuf

end BackendComponents.Log.Formatting
