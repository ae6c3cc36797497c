import Mathlib.Data.List.DropRight

/-!
# Blank ends of a list

Every list is a bare middle between two runs of blanks.
-/

namespace BackendComponents.Lib.Trimming

set_option autoImplicit false

variable {Item : Type*}

structure Bare (blank : Item → Bool) (items : List Item) : Prop where
  first : ∀ item, items.head? = some item → blank item = false
  last : ∀ item, items.getLast? = some item → blank item = false

theorem bare_nil (blank : Item → Bool) : Bare blank [] := by
  constructor <;> intro item equal <;> cases equal

theorem head_drop_while (blank : Item → Bool) (items : List Item) (item : Item)
    (found : (items.dropWhile blank).head? = some item) : blank item = false := by
  have facts := List.head?_dropWhile_not blank items
  rw [found] at facts
  simpa using facts

theorem last_rdrop_while (blank : Item → Bool) (items : List Item) (item : Item)
    (found : (items.rdropWhile blank).getLast? = some item) : blank item = false := by
  have nonempty : items.rdropWhile blank ≠ [] := by
    intro empty
    rw [empty] at found
    cases found
  have last := List.rdropWhile_last_not blank items nonempty
  rw [List.getLast?_eq_some_getLast nonempty] at found
  rw [Option.some.inj found] at last
  simpa using last

theorem head_of_prefix {short long : List Item} (isPrefix : short <+: long) (item : Item)
    (found : short.head? = some item) : long.head? = some item := by
  obtain ⟨rest, rfl⟩ := isPrefix
  cases short with
  | nil => cases found
  | cons first more => exact found

theorem exists_split (blank : Item → Bool) (items : List Item) :
    ∃ front middle back, items = front ++ middle ++ back ∧
      (∀ item ∈ front, blank item = true) ∧ (∀ item ∈ back, blank item = true) ∧
      Bare blank middle := by
  let tail := items.dropWhile blank
  apply Exists.intro (items.takeWhile blank)
  apply Exists.intro (tail.rdropWhile blank)
  apply Exists.intro (tail.rtakeWhile blank)
  refine ⟨?_, ?_, ?_, ?_, ?_⟩
  · rw [List.append_assoc, List.rdropWhile_append_rtakeWhile]
    exact List.takeWhile_append_dropWhile.symm
  · intro item member
    exact List.mem_takeWhile_imp member
  · intro item member
    exact List.mem_rtakeWhile_imp member
  · intro item found
    have kept := head_of_prefix (List.rdropWhile_prefix blank tail) item found
    exact head_drop_while blank items item kept
  · intro item found
    exact last_rdrop_while blank tail item found

theorem find_blank {blank : Item → Bool} {items : List Item}
    (all : ∀ item ∈ items, blank item = true) :
    items.find? (fun item => !blank item) = none := by
  apply List.find?_eq_none.mpr
  intro item member
  rw [all item member]
  exact Bool.false_ne_true

theorem find_of_split {blank : Item → Bool} {front middle back : List Item}
    (blankFront : ∀ item ∈ front, blank item = true)
    (blankBack : ∀ item ∈ back, blank item = true) (bare : Bare blank middle) :
    (front ++ middle ++ back).find? (fun item => !blank item) = middle.head? := by
  rw [List.append_assoc, List.find?_append, find_blank blankFront, Option.none_or]
  cases middle with
  | nil => exact find_blank blankBack
  | cons first rest =>
      have solid := bare.first first rfl
      rw [List.cons_append, List.find?_cons_of_pos (by rw [solid]; rfl)]
      rfl

theorem bare_reverse {blank : Item → Bool} {items : List Item} (bare : Bare blank items) :
    Bare blank items.reverse := by
  apply Bare.mk
  · intro item found
    rw [List.head?_reverse] at found
    exact bare.last item found
  · intro item found
    rw [List.getLast?_reverse] at found
    exact bare.first item found

end BackendComponents.Lib.Trimming
