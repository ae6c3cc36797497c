import Mathlib.Data.List.Basic

/-!
# Decimal texts of integers

A number is written with its digits, and with a minus sign in front if it is negative.
`readLeading` reads as far as the digits go and takes anything; `readExact` takes only what
is written for a number.
-/

namespace BackendComponents.Lib.Decimal

set_option autoImplicit false

def text (value : Int) : List Char :=
  if value < 0 then '-' :: Nat.toDigits 10 value.natAbs else Nat.toDigits 10 value.natAbs

/-- The characters that `isspace` accepts in the C locale. -/
def isSpace (char : Char) : Bool := char == ' ' || ('\t'.val ≤ char.val && char.val ≤ '\r'.val)

def leadingDigits (str : List Char) : Nat := Nat.ofDigitChars 10 (str.takeWhile Char.isDigit) 0

/-- Blanks, a sign, and digits up to the first other character; nothing is 0. -/
def readLeading (str : List Char) : Int :=
  match str.dropWhile isSpace with
  | '-' :: rest => -(leadingDigits rest : Int)
  | '+' :: rest => leadingDigits rest
  | rest => leadingDigits rest

def readExact (str : List Char) : Option Int :=
  if text (readLeading str) = str then some (readLeading str) else none

theorem digit_not_space {char : Char} (digit : char.isDigit = true) : isSpace char = false := by
  unfold isSpace
  unfold Char.isDigit at digit
  simp only [Bool.and_eq_true, decide_eq_true_eq] at digit
  have above : '0'.val ≤ char.val := digit.1
  have below : char.val ≤ '9'.val := digit.2
  simp only [Bool.or_eq_false_iff, beq_eq_false_iff_ne, ne_eq, Bool.and_eq_false_iff,
    decide_eq_false_iff_not, UInt32.not_le]
  constructor
  · rintro rfl
    exact absurd above (by decide)
  · right
    exact UInt32.lt_of_lt_of_le (by decide) above

theorem to_digits_plain (value : Nat) : ∀ char ∈ Nat.toDigits 10 value, char.isDigit = true := by
  intro char inside
  exact Nat.isDigit_of_mem_toDigits (by decide) (by decide) inside

theorem leading_digits_append (value : Nat) {rest : List Char}
    (stops : ∀ char, rest.head? = some char → char.isDigit = false) :
    leadingDigits (Nat.toDigits 10 value ++ rest) = value := by
  have cut : rest.takeWhile Char.isDigit = [] := by
    cases rest with
    | nil => rfl
    | cons char more =>
        rw [List.takeWhile_cons_of_neg]
        simp [stops char rfl]
  unfold leadingDigits
  rw [List.takeWhile_append_of_pos (to_digits_plain value), cut, List.append_nil,
    Nat.ofDigitChars_ten_toDigits]

theorem text_of_neg {value : Int} (negative : value < 0) :
    text value = '-' :: Nat.toDigits 10 value.natAbs := by
  unfold text
  rw [if_pos negative]

theorem text_of_nonneg {value : Int} (nonnegative : 0 ≤ value) :
    text value = Nat.toDigits 10 value.natAbs := by
  unfold text
  rw [if_neg (by omega)]

theorem text_plain {value : Int} {char : Char} (inside : char ∈ text value) :
    char = '-' ∨ char.isDigit = true := by
  unfold text at inside
  split at inside
  · rcases List.mem_cons.mp inside with sign | digit
    · exact Or.inl sign
    · exact Or.inr (to_digits_plain _ char digit)
  · exact Or.inr (to_digits_plain _ char inside)

theorem text_not_space {value : Int} {char : Char} (inside : char ∈ text value) :
    isSpace char = false := by
  rcases text_plain inside with rfl | digit
  · decide
  · exact digit_not_space digit

theorem read_digits (digits : List Char) (plain : ∀ char ∈ digits, char.isDigit = true)
    (nonempty : digits ≠ []) (rest : List Char) :
    readLeading (digits ++ rest) = leadingDigits (digits ++ rest) := by
  obtain ⟨first, more, rfl⟩ := List.exists_cons_of_ne_nil nonempty
  have digit := plain first List.mem_cons_self
  unfold readLeading
  rw [List.cons_append, List.dropWhile_cons_of_neg (by simp [digit_not_space digit])]
  split
  · next equal =>
      rw [(List.cons.inj equal).1] at digit
      exact absurd digit (by decide)
  · next equal =>
      rw [(List.cons.inj equal).1] at digit
      exact absurd digit (by decide)
  · rfl

theorem read_leading_text (value : Int) {rest : List Char}
    (stops : ∀ char, rest.head? = some char → char.isDigit = false) :
    readLeading (text value ++ rest) = value := by
  by_cases negative : value < 0
  · rw [text_of_neg negative]
    have read := leading_digits_append value.natAbs stops
    unfold readLeading
    rw [List.cons_append, List.dropWhile_cons_of_neg (by decide)]
    change -(leadingDigits (Nat.toDigits 10 value.natAbs ++ rest) : Int) = value
    rw [read]
    omega
  · rw [text_of_nonneg (by omega), read_digits _ (to_digits_plain _) Nat.toDigits_ne_nil,
      leading_digits_append _ stops]
    omega

theorem read_text (value : Int) : readLeading (text value) = value := by
  have read := @read_leading_text value [] (fun _ found => nomatch found)
  rw [List.append_nil] at read
  exact read

theorem text_injective {value other : Int} (same : text value = text other) : value = other := by
  rw [← read_text value, same, read_text]

theorem read_exact_iff (str : List Char) (value : Int) :
    readExact str = some value ↔ str = text value := by
  unfold readExact
  constructor
  · intro read
    split at read
    · next written =>
        rw [← Option.some.inj read]
        exact written.symm
    · exact nomatch read
  · rintro rfl
    rw [read_text, if_pos rfl]

theorem read_exact_text (value : Int) : readExact (text value) = some value :=
  (read_exact_iff _ _).mpr rfl

example : readLeading " \t-42abc".toList = -42 := by decide

end BackendComponents.Lib.Decimal
