import Mathlib.Data.List.Basic

/-!
# Four octets as dotted decimal text

The text of an octet is its decimal text, without zeros in front. What is read is exactly
what is written: a text with more or fewer parts, with a zero in front or with a number
above 255 is rejected.
-/

namespace BackendComponents.Lib.DottedDecimal

set_option autoImplicit false

structure Octets where
  first : UInt8
  second : UInt8
  third : UInt8
  fourth : UInt8
  deriving DecidableEq, Repr

def octetText (octet : UInt8) : List Char := Nat.toDigits 10 octet.toNat

def parts (octets : Octets) : List (List Char) :=
  [octetText octets.first, octetText octets.second, octetText octets.third,
    octetText octets.fourth]

def dotted (octets : Octets) : List Char := ['.'].intercalate (parts octets)

/-- A decimal text of a number below 256, written as the number would be. -/
def readOctet (text : List Char) : Option UInt8 :=
  let value := Nat.ofDigitChars 10 text 0
  if value < 256 ∧ Nat.toDigits 10 value = text then some (UInt8.ofNat value) else none

def read (text : List Char) : Option Octets :=
  match text.splitOn '.' with
  | [first, second, third, fourth] => do
      let first ← readOctet first
      let second ← readOctet second
      let third ← readOctet third
      let fourth ← readOctet fourth
      some ⟨first, second, third, fourth⟩
  | _ => none

theorem read_octet_text (octet : UInt8) : readOctet (octetText octet) = some octet := by
  unfold readOctet octetText
  rw [Nat.ofDigitChars_ten_toDigits]
  rw [if_pos ⟨octet.toNat_lt, rfl⟩, UInt8.ofNat_toNat]

theorem octet_text_of_read {text : List Char} {octet : UInt8}
    (parsed : readOctet text = some octet) : octetText octet = text := by
  unfold readOctet at parsed
  dsimp only at parsed
  split at parsed
  · next canonical =>
      rw [← Option.some.inj parsed]
      unfold octetText
      rw [UInt8.toNat_ofNat_of_lt' canonical.1]
      exact canonical.2
  · exact nomatch parsed

theorem read_octet_iff (text : List Char) (octet : UInt8) :
    readOctet text = some octet ↔ text = octetText octet := by
  apply Iff.intro
  · intro parsed
    exact (octet_text_of_read parsed).symm
  · intro written
    rw [written]
    exact read_octet_text octet

theorem octet_text_plain {octet : UInt8} {char : Char} (other : char.isDigit = false) :
    char ∉ octetText octet := by
  intro inside
  have digit := Nat.isDigit_of_mem_toDigits (by decide) (by decide) inside
  rw [other] at digit
  exact nomatch digit

theorem split_dotted (octets : Octets) : (dotted octets).splitOn '.' = parts octets := by
  apply List.splitOn_intercalate
  · intro part inside
    unfold parts at inside
    simp only [List.mem_cons, List.not_mem_nil, or_false] at inside
    rcases inside with rfl | rfl | rfl | rfl <;> exact octet_text_plain (by decide)
  · exact nofun

theorem read_dotted (octets : Octets) : read (dotted octets) = some octets := by
  unfold read
  rw [split_dotted]
  unfold parts
  dsimp only
  rw [read_octet_text, read_octet_text, read_octet_text, read_octet_text]
  rfl

theorem dotted_of_read {text : List Char} {octets : Octets} (parsed : read text = some octets) :
    dotted octets = text := by
  unfold read at parsed
  split at parsed
  · next first second third fourth split =>
      simp only [Option.bind_eq_bind, Option.bind_eq_some_iff, Option.some.injEq,
        read_octet_iff] at parsed
      obtain ⟨one, rfl, two, rfl, three, rfl, four, rfl, rfl⟩ := parsed
      have joined : ['.'].intercalate (text.splitOn '.') = text := List.intercalate_splitOn '.'
      rw [split] at joined
      exact joined
  · exact nomatch parsed

theorem read_iff (text : List Char) (octets : Octets) :
    read text = some octets ↔ text = dotted octets := by
  apply Iff.intro
  · intro parsed
    exact (dotted_of_read parsed).symm
  · intro written
    rw [written]
    exact read_dotted octets

end BackendComponents.Lib.DottedDecimal
