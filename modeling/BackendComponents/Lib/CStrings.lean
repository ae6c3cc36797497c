import Mathlib.Data.List.TakeWhile

/-!
# Text in an array of characters

`snprintf` puts what fits of a text into an array, with a NUL behind it, and returns the
length of the whole text as an `int`. A text that is too long for an `int` is put there as
well as it fits, and what is returned is negative.
-/

namespace BackendComponents.Lib.CStrings

set_option autoImplicit false

def nul : Char := Char.ofNat 0

def intMax : Nat := 2147483647

def cString (array : List Char) : List Char := array.takeWhile fun char => char != nul

def store (array : List Char) (position : Nat) (text : List Char) : List Char :=
  array.take position ++ text ++ array.drop (position + text.length)

/-- What `snprintf` writes into `size` characters. -/
def fitted (size : Nat) (text : List Char) : List Char :=
  if size = 0 then [] else text.take (size - 1) ++ [nul]

/-- What `snprintf` returns. -/
def printed (text : List Char) : Int := if text.length ≤ intMax then text.length else -1

/-- `snprintf(array + position, size, …)`, where `text` is what the format and its arguments
stand for. -/
def snprintf (array : List Char) (position size : Nat) (text : List Char) : List Char × Int :=
  (store array position (fitted size text), printed text)

def strlen (array : List Char) : Nat := (cString array).length

/-- The array that `strncpy` leaves: `count` characters are written, NULs behind a short
text, and no NUL behind a long one. -/
def strncpy (array : List Char) (count : Nat) (text : List Char) : List Char :=
  store array 0
    ((cString text).take count ++ List.replicate (count - (cString text).length) nul)

theorem c_string_nul {text : List Char} (plain : nul ∉ text) (rest : List Char) :
    cString (text ++ nul :: rest) = text := by
  unfold cString
  induction text with
  | nil => exact List.takeWhile_cons_of_neg (by simp)
  | cons char text ih =>
      rw [List.mem_cons, not_or] at plain
      have other : (char != nul) = true := bne_iff_ne.mpr (Ne.symm plain.1)
      rw [List.cons_append, List.takeWhile_cons, if_pos other, ih plain.2]

theorem c_string_length_le (array : List Char) : (cString array).length ≤ array.length :=
  (List.takeWhile_prefix _).length_le

theorem c_string_plain (array : List Char) : nul ∉ cString array := by
  unfold cString
  intro inside
  have different := List.mem_takeWhile_imp inside
  simp only [bne_self_eq_false, Bool.false_eq_true] at different

theorem c_string_eq_self {text : List Char} (plain : nul ∉ text) : cString text = text := by
  unfold cString
  apply List.takeWhile_eq_self_iff.mpr
  intro char inside
  apply bne_iff_ne.mpr
  intro same
  rw [same] at inside
  exact plain inside

theorem c_string_padded {text : List Char} {size : Nat} (plain : nul ∉ text)
    (room : text.length < size) :
    cString (text ++ List.replicate (size - text.length) nul) = text := by
  have more : size - text.length = (size - text.length - 1) + 1 := by omega
  rw [more, List.replicate_succ]
  exact c_string_nul plain _

theorem strncpy_zeroed {size count : Nat} (text : List Char) (room : count ≤ size) :
    strncpy (List.replicate size nul) count text =
      (cString text).take count ++
        List.replicate (size - ((cString text).take count).length) nul := by
  have copied : ((cString text).take count ++
      List.replicate (count - (cString text).length) nul).length = count := by
    rw [List.length_append, List.length_take, List.length_replicate]
    omega
  unfold strncpy store
  rw [List.take_zero, List.nil_append, Nat.zero_add, copied, List.drop_replicate,
    List.append_assoc, List.replicate_append_replicate, List.length_take]
  congr 2
  omega

theorem fitted_short {size : Nat} {text : List Char} (short : text.length < size) :
    fitted size text = text ++ [nul] := by
  unfold fitted
  rw [if_neg (by omega), List.take_of_length_le (by omega)]

theorem fitted_length (size : Nat) (text : List Char) :
    (fitted size text).length = min size (text.length + 1) := by
  unfold fitted
  split
  · next none => rw [none, Nat.zero_min, List.length_nil]
  · rw [List.length_append, List.length_take, List.length_singleton]
    omega

theorem store_length {array : List Char} {position : Nat} {text : List Char}
    (room : position + text.length ≤ array.length) :
    (store array position text).length = array.length := by
  unfold store
  rw [List.length_append, List.length_append, List.length_take, List.length_drop]
  omega

theorem store_append (front back text : List Char) :
    store (front ++ back) front.length text = front ++ (text ++ back.drop text.length) := by
  unfold store
  rw [List.take_left, List.drop_append, List.drop_eq_nil_of_le (Nat.le_add_right _ _),
    List.nil_append, Nat.add_sub_cancel_left, List.append_assoc]

theorem snprintf_length {array : List Char} {position size : Nat} (text : List Char)
    (room : position + size ≤ array.length) :
    (snprintf array position size text).1.length = array.length := by
  apply store_length
  rw [fitted_length]
  omega

theorem printed_of_le {text : List Char} (bounded : text.length ≤ intMax) :
    printed text = text.length :=
  if_pos bounded

theorem printed_of_gt {text : List Char} (huge : intMax < text.length) : printed text = -1 :=
  if_neg (Nat.not_le.mpr huge)

end BackendComponents.Lib.CStrings
