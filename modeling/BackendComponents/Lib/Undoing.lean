import Mathlib.Data.List.Basic
import Mathlib.Logic.Function.Basic

/-!
# Taking a change back while others go on

A table of numbers is changed by several owners, each of whom adds to a value, and is
overwritten now and then by nobody in particular. Adding the opposite takes an addition
back whatever the others have added since, unless the value has been overwritten: then the
addition is gone already and its opposite is one too many.
-/

namespace BackendComponents.Lib.Undoing

set_option autoImplicit false

inductive Change (Key Owner : Type)
  | shift (owner : Owner) (key : Key) (amount : Int)
  | overwrite (key : Key) (value : Option Int)

variable {Key Owner : Type}

section Owners

variable [DecidableEq Owner]

def madeBy (owner : Owner) : Change Key Owner → Bool
  | .shift other _ _ => decide (other = owner)
  | .overwrite _ _ => false

/-- The changes as if the owner had made none. -/
def without (owner : Owner) (changes : List (Change Key Owner)) : List (Change Key Owner) :=
  changes.filter fun change => !madeBy owner change

theorem without_append (owner : Owner) (front back : List (Change Key Owner)) :
    without owner (front ++ back) = without owner front ++ without owner back :=
  List.filter_append front back

theorem without_of_none {owner : Owner} {changes : List (Change Key Owner)}
    (none : ∀ change ∈ changes, madeBy owner change = false) :
    without owner changes = changes := by
  apply List.filter_eq_self.mpr
  intro change member
  rw [none change member]
  rfl

theorem without_of_all {owner : Owner} {changes : List (Change Key Owner)}
    (all : ∀ change ∈ changes, madeBy owner change = true) : without owner changes = [] := by
  apply List.filter_eq_nil_iff.mpr
  intro change member
  rw [all change member]
  exact Bool.false_ne_true

end Owners

section Tables

variable [DecidableEq Key]

def apply (table : Key → Option Int) : Change Key Owner → Key → Option Int
  | .shift _ key amount => Function.update table key (some ((table key).getD 0 + amount))
  | .overwrite key value => Function.update table key value

def replay (start : Key → Option Int) (changes : List (Change Key Owner)) : Key → Option Int :=
  changes.foldl apply start

theorem replay_append (start : Key → Option Int) (front back : List (Change Key Owner)) :
    replay start (front ++ back) = replay (replay start front) back :=
  List.foldl_append

variable [DecidableEq Owner]

def watch (owner : Owner) (key : Key) (before : Bool) : Change Key Owner → Bool
  | .shift other _ _ => if other = owner then false else before
  | .overwrite place _ => if place = key then true else before

def overwritten (owner : Owner) (key : Key) (changes : List (Change Key Owner)) : Bool :=
  changes.foldl (watch owner key) false

theorem overwritten_append (owner : Owner) (key : Key) (front back : List (Change Key Owner)) :
    overwritten owner key (front ++ back) =
      back.foldl (watch owner key) (overwritten owner key front) :=
  List.foldl_append

/-- How an addition that has not been taken back shows in the table, compared with the
table without it; the flag says whether the key has been overwritten since. -/
inductive Outstanding (table bare : Key → Option Int) (key : Key) (amount : Int) : Bool → Prop
  | there {value : Int} : bare key = some value →
      table = Function.update bare key (some (value + amount)) →
        Outstanding table bare key amount false
  | gone : table = bare → Outstanding table bare key amount true

variable {table bare : Key → Option Int} {key : Key} {amount value : Int} {owner : Owner}
  {flag : Bool}

omit [DecidableEq Owner] in
theorem outstanding_made (held : bare key = some value) :
    Outstanding (apply bare (.shift owner key amount)) bare key amount false := by
  apply Outstanding.there held
  simp only [apply, held, Option.getD_some]

theorem outstanding_other {change : Change Key Owner}
    (before : Outstanding table bare key amount flag) (other : madeBy owner change = false) :
    Outstanding (apply table change) (apply bare change) key amount (watch owner key flag change)
    := by
  cases before with
  | gone same =>
    rw [same]
    cases change with
    | shift maker place added =>
      have different : maker ≠ owner := of_decide_eq_false other
      simp only [watch, if_neg different]
      exact .gone rfl
    | overwrite place written =>
      simp only [watch, ite_self]
      exact .gone rfl
  | @there value held same =>
    rw [same]
    cases change with
    | shift maker place added =>
      have different : maker ≠ owner := of_decide_eq_false other
      simp only [watch, apply, if_neg different]
      by_cases here : place = key
      · subst here
        apply Outstanding.there (Function.update_self ..)
        rw [Function.update_self, Function.update_idem, Function.update_idem, held]
        simp only [Option.getD_some]
        congr 2
        omega
      · apply Outstanding.there ((Function.update_of_ne (Ne.symm here) ..).trans held)
        rw [Function.update_of_ne here]
        exact Function.update_comm (Ne.symm here) _ _ _
    | overwrite place written =>
      simp only [watch, apply]
      by_cases here : place = key
      · rw [if_pos here, here]
        apply Outstanding.gone
        exact Function.update_idem _ _ _
      · rw [if_neg here]
        apply Outstanding.there ((Function.update_of_ne (Ne.symm here) ..).trans held)
        exact Function.update_comm (Ne.symm here) _ _ _

theorem outstanding_others {changes : List (Change Key Owner)}
    (before : Outstanding table bare key amount flag)
    (others : ∀ change ∈ changes, madeBy owner change = false) :
    Outstanding (replay table changes) (replay bare changes) key amount
      (changes.foldl (watch owner key) flag) := by
  induction changes generalizing table bare flag with
  | nil => exact before
  | cons change rest ih =>
    have first := outstanding_other before (others change List.mem_cons_self)
    exact ih first fun later member => others later (List.mem_cons_of_mem _ member)

omit [DecidableEq Owner] in
/-- The opposite takes an addition back unless the key has been overwritten. -/
theorem undone_iff (owner : Owner) (before : Outstanding table bare key amount flag)
    (some_amount : amount ≠ 0) :
    apply table (.shift owner key (-amount)) = bare ↔ flag = false := by
  cases before with
  | @there value held same =>
    rw [same]
    simp only [apply, Function.update_self, Function.update_idem, Option.getD_some]
    have restored : some (value + amount + -amount) = bare key := by
      rw [held]
      congr 1
      omega
    rw [restored, Function.update_eq_self]
    exact iff_of_true rfl True.intro
  | gone same =>
    rw [same]
    constructor
    · intro restored
      have at_key := congrFun restored key
      simp only [apply, Function.update_self] at at_key
      cases held : bare key with
      | none =>
        rw [held] at at_key
        cases at_key
      | some value =>
        rw [held, Option.getD_some] at at_key
        have equal := Option.some.inj at_key
        omega
    · intro impossible
      cases impossible

end Tables

end BackendComponents.Lib.Undoing
