import Mathlib.Algebra.Ring.Int.Defs
import Mathlib.Data.List.Basic
import Mathlib.Data.List.Induction
import Mathlib.Data.List.Nodup

/-!
# Thread tables and condition variables

A thread table is the list of the threads' program points, indexed by thread
number; a thread moves by replacing its own entry. A condition variable is the
list of the threads blocked on it. Counting lemmas say what one move does to the
number of threads at a set of program points.
-/

namespace BackendComponents.Lib.Threads

set_option autoImplicit false

variable {Point Thread : Type*}

def indicator (flag : Bool) : Nat := if flag then 1 else 0

@[simp] theorem indicator_true : indicator true = 1 := rfl

@[simp] theorem indicator_false : indicator false = 0 := rfl

theorem lookup_bound {threads : List Point} {id : Nat} {point : Point}
    (at_point : threads[id]? = some point) : id < threads.length :=
  (List.getElem?_eq_some_iff.mp at_point).1

theorem countP_move (p : Point → Bool) {threads : List Point} {id : Nat} {point after : Point}
    (at_point : threads[id]? = some point) :
    (threads.set id after).countP p + indicator (p point) =
      threads.countP p + indicator (p after) := by
  obtain ⟨bound, value⟩ := List.getElem?_eq_some_iff.mp at_point
  have positive : p point = true → 0 < threads.countP p := by
    intro holds
    exact List.countP_pos_iff.mpr ⟨point, by rw [← value]; exact List.getElem_mem bound, holds⟩
  rw [List.countP_set bound, value]
  cases before : p point with
  | false => cases p after <;> simp
  | true =>
      have := positive before
      cases p after <;> simp <;> omega

theorem countP_spawn (p : Point → Bool) (threads : List Point) (count : Nat) (point : Point) :
    (threads ++ List.replicate count point).countP p =
      threads.countP p + count * indicator (p point) := by
  rw [List.countP_append, List.countP_replicate]
  cases p point <;> simp

theorem lookup_move {threads : List Point} {id other : Nat} {after seen : Point}
    (found : (threads.set id after)[other]? = some seen) :
    (other = id ∧ seen = after) ∨ (other ≠ id ∧ threads[other]? = some seen) := by
  rw [List.getElem?_set] at found
  by_cases same : id = other
  · subst same
    split at found
    · split at found
      · exact .inl ⟨rfl, (Option.some.inj found).symm⟩
      · cases found
    · contradiction
  · rw [if_neg same] at found
    exact .inr ⟨fun equal => same equal.symm, found⟩

theorem set_lookup {threads : List Point} {id : Nat} {point : Point}
    (found : threads[id]? = some point) : threads.set id point = threads := by
  obtain ⟨bound, rfl⟩ := List.getElem?_eq_some_iff.mp found
  exact List.set_getElem_self bound

theorem lookup_move_self {threads : List Point} {id : Nat} {point after : Point}
    (at_point : threads[id]? = some point) : (threads.set id after)[id]? = some after :=
  List.getElem?_set_self (lookup_bound at_point)

theorem lookup_move_other {threads : List Point} {id other : Nat} {after : Point}
    (different : other ≠ id) : (threads.set id after)[other]? = threads[other]? :=
  List.getElem?_set_ne fun equal => different equal.symm

theorem lookup_spawn {threads : List Point} {count other : Nat} {point seen : Point}
    (found : (threads ++ List.replicate count point)[other]? = some seen) :
    threads[other]? = some seen ∨
      (threads.length ≤ other ∧ other < threads.length + count ∧ seen = point) := by
  by_cases inside : other < threads.length
  · rw [List.getElem?_append_left inside] at found
    exact .inl found
  · rw [List.getElem?_append_right (by omega), List.getElem?_replicate] at found
    split at found
    · exact .inr ⟨by omega, by omega, (Option.some.inj found).symm⟩
    · cases found

theorem lookup_spawn_old {threads : List Point} {other : Nat} {seen : Point}
    (fresh : List Point) (found : threads[other]? = some seen) :
    (threads ++ fresh)[other]? = some seen := by
  rw [List.getElem?_append_left (lookup_bound found)]
  exact found

theorem lookup_append {threads : List Point} {point seen : Point} {other : Nat}
    (found : (threads ++ [point])[other]? = some seen) :
    threads[other]? = some seen ∨ (other = threads.length ∧ seen = point) := by
  have spawned : (threads ++ List.replicate 1 point)[other]? = some seen := found
  rcases lookup_spawn spawned with old | ⟨lower, upper, same⟩
  · exact .inl old
  · exact .inr ⟨by omega, same⟩

theorem countP_split (whole left right : Point → Bool) (threads : List Point)
    (split : ∀ point, indicator (whole point) = indicator (left point) + indicator (right point)) :
    threads.countP whole = threads.countP left + threads.countP right := by
  induction threads with
  | nil => rfl
  | cons point rest ih =>
      have here := split point
      simp only [List.countP_cons]
      simp only [indicator] at here
      omega

theorem exists_lookup_of_countP {p : Point → Bool} {threads : List Point}
    (positive : 0 < threads.countP p) :
    ∃ (id : Nat) (point : Point), threads[id]? = some point ∧ p point = true := by
  obtain ⟨point, member, holds⟩ := List.countP_pos_iff.mp positive
  obtain ⟨id, found⟩ := List.mem_iff_getElem?.mp member
  exact ⟨id, point, found, holds⟩

theorem lookup_unique {p : Point → Bool} {threads : List Point} (few : threads.countP p ≤ 1)
    {id other : Nat} {point seen : Point} (at_point : threads[id]? = some point)
    (holds : p point = true) (found : threads[other]? = some seen) (also_holds : p seen = true) :
    other = id := by
  induction threads generalizing id other with
  | nil => cases at_point
  | cons head rest ih =>
      rw [List.countP_cons] at few
      have none_left : p head = true →
          ∀ (place : Nat) (point : Point), rest[place]? = some point → p point = false := by
        intro first place point later
        have empty : rest.countP p = 0 := by
          simp only [first, if_true] at few
          omega
        exact Bool.not_eq_true _ ▸ List.countP_eq_zero.mp empty point (List.mem_of_getElem? later)
      cases id with
      | zero =>
          obtain rfl := Option.some.inj at_point
          cases other with
          | zero => rfl
          | succ place =>
              rw [none_left holds place seen found] at also_holds
              cases also_holds
      | succ place =>
          cases other with
          | zero =>
              obtain rfl := Option.some.inj found
              rw [none_left also_holds place point at_point] at holds
              cases holds
          | succ next => exact congrArg Nat.succ (ih (by omega) at_point found)

theorem le_countP_of_prefix {p : Point → Bool} {threads : List Point} {count : Nat}
    (all : ∀ id, id < count → ∃ point, threads[id]? = some point ∧ p point = true) :
    count ≤ threads.countP p := by
  induction count generalizing threads with
  | zero => exact Nat.zero_le _
  | succ count ih =>
      cases threads with
      | nil =>
          obtain ⟨point, found, _⟩ := all 0 (Nat.succ_pos count)
          cases found
      | cons head rest =>
          obtain ⟨point, found, holds⟩ := all 0 (Nat.succ_pos count)
          obtain rfl := Option.some.inj found
          have tail : count ≤ rest.countP p := by
            apply ih
            intro id bound
            exact all (id + 1) (Nat.succ_lt_succ bound)
          rw [List.countP_cons, if_pos holds]
          exact Nat.succ_le_succ tail

theorem places_length (p : Point → Bool) (threads : List Point) :
    ((List.range threads.length).filter fun id => threads[id]?.any p).length =
      threads.countP p := by
  induction threads using List.reverseRecOn with
  | nil => rfl
  | append_singleton threads point ih =>
      have earlier : (List.range threads.length).filter (fun id => (threads ++ [point])[id]?.any p) =
          (List.range threads.length).filter fun id => threads[id]?.any p := by
        apply List.filter_congr
        intro id member
        rw [List.getElem?_append_left (List.mem_range.mp member)]
      rw [List.length_append, List.length_singleton, List.range_succ, List.filter_append, earlier,
        List.length_append, ih, List.countP_append, List.countP_singleton]
      rw [List.filter_singleton, List.getElem?_concat_length, Option.any_some]
      cases p point <;> rfl

theorem places_le_countP {p : Point → Bool} {threads : List Point} {places : List Nat}
    (distinct : places.Nodup)
    (each : ∀ id ∈ places, ∃ point, threads[id]? = some point ∧ p point = true) :
    places.length ≤ threads.countP p := by
  rw [← places_length]
  apply List.Nodup.length_le_of_subset distinct
  intro id member
  obtain ⟨point, found, holds⟩ := each id member
  rw [List.mem_filter, List.mem_range, found]
  exact ⟨lookup_bound found, holds⟩

theorem countP_le_places {p : Point → Bool} {threads : List Point} {places : List Nat}
    (all : ∀ (id : Nat) (point : Point), threads[id]? = some point → p point = true →
      id ∈ places) : threads.countP p ≤ places.length := by
  rw [← places_length]
  apply List.Nodup.length_le_of_subset (List.Nodup.filter _ List.nodup_range)
  intro id member
  obtain ⟨point, found, holds⟩ := Option.any_eq_true _ _ |>.mp (List.mem_filter.mp member).2
  exact all id point found holds

section Sums

theorem sum_move (weight : Point → Int) {threads : List Point} {id : Nat} {point after : Point}
    (at_point : threads[id]? = some point) :
    ((threads.set id after).map weight).sum + weight point =
      (threads.map weight).sum + weight after := by
  induction threads generalizing id with
  | nil => cases at_point
  | cons head rest ih =>
      cases id with
      | zero =>
          obtain rfl := Option.some.inj at_point
          simp only [List.set_cons_zero, List.map_cons, List.sum_cons]
          omega
      | succ place =>
          have moved := ih at_point
          simp only [List.set_cons_succ, List.map_cons, List.sum_cons]
          omega

theorem sum_nonneg {weight : Point → Int} {threads : List Point}
    (positive : ∀ point ∈ threads, 0 ≤ weight point) : 0 ≤ (threads.map weight).sum := by
  induction threads with
  | nil => exact Int.le_refl 0
  | cons head rest ih =>
      have here := positive head List.mem_cons_self
      have tail := ih fun point member => positive point (List.mem_cons_of_mem _ member)
      rw [List.map_cons, List.sum_cons]
      omega

theorem sum_le {weight larger : Point → Int} {threads : List Point}
    (pointwise : ∀ point ∈ threads, weight point ≤ larger point) :
    (threads.map weight).sum ≤ (threads.map larger).sum := by
  induction threads with
  | nil => exact Int.le_refl 0
  | cons head rest ih =>
      have here := pointwise head List.mem_cons_self
      have tail := ih fun point member => pointwise point (List.mem_cons_of_mem _ member)
      simp only [List.map_cons, List.sum_cons]
      omega

theorem sum_ge_of_lookup {weight : Point → Int} {threads : List Point} {id : Nat} {point : Point}
    (positive : ∀ point ∈ threads, 0 ≤ weight point) (at_point : threads[id]? = some point) :
    weight point ≤ (threads.map weight).sum := by
  induction threads generalizing id with
  | nil => cases at_point
  | cons head rest ih =>
      have here := positive head List.mem_cons_self
      have later : ∀ point ∈ rest, 0 ≤ weight point :=
        fun point member => positive point (List.mem_cons_of_mem _ member)
      rw [List.map_cons, List.sum_cons]
      cases id with
      | zero =>
          obtain rfl := Option.some.inj at_point
          have tail := sum_nonneg later
          omega
      | succ place =>
          have tail := ih later at_point
          omega

end Sums

section Condvar

variable [DecidableEq Thread]

/-- `notify_one`: unblocks the blocked thread `pick`; with nobody blocked the
notification is lost. Which thread is picked is not under the program's control. -/
def notifyOne (pick : Thread) (blocked : List Thread) : Option (List Thread) :=
  if blocked = [] then some []
  else if pick ∈ blocked then some (blocked.erase pick)
  else none

theorem notify_one_cases {pick : Thread} {blocked rest : List Thread}
    (notified : notifyOne pick blocked = some rest) :
    (blocked = [] ∧ rest = []) ∨ (pick ∈ blocked ∧ rest = blocked.erase pick) := by
  unfold notifyOne at notified
  split at notified
  · next empty => exact .inl ⟨empty, (Option.some.inj notified).symm⟩
  · split at notified
    · next member => exact .inr ⟨member, (Option.some.inj notified).symm⟩
    · cases notified

theorem notify_one_subset {pick : Thread} {blocked rest : List Thread}
    (notified : notifyOne pick blocked = some rest) {thread : Thread}
    (still : thread ∈ rest) : thread ∈ blocked := by
  rcases notify_one_cases notified with ⟨_, rfl⟩ | ⟨_, rfl⟩
  · cases still
  · exact List.mem_of_mem_erase still

theorem notify_one_nodup {pick : Thread} {blocked rest : List Thread}
    (notified : notifyOne pick blocked = some rest) (distinct : blocked.Nodup) :
    rest.Nodup := by
  rcases notify_one_cases notified with ⟨_, rfl⟩ | ⟨_, rfl⟩
  · exact List.nodup_nil
  · exact distinct.erase _

theorem notify_one_wakes {pick : Thread} {blocked rest : List Thread}
    (notified : notifyOne pick blocked = some rest) (distinct : blocked.Nodup) :
    pick ∉ rest := by
  rcases notify_one_cases notified with ⟨_, rfl⟩ | ⟨_, rfl⟩
  · exact List.not_mem_nil
  · exact fun still => (List.Nodup.mem_erase_iff distinct).mp still |>.1 rfl

theorem notify_one_length {pick : Thread} {blocked rest : List Thread}
    (notified : notifyOne pick blocked = some rest) :
    rest.length ≤ blocked.length ∧ blocked.length ≤ rest.length + 1 := by
  rcases notify_one_cases notified with ⟨rfl, rfl⟩ | ⟨member, rfl⟩
  · exact ⟨Nat.le_refl _, Nat.zero_le _⟩
  · have present := List.length_pos_of_mem member
    rw [List.length_erase_of_mem member]
    omega

theorem exists_notify_one [Inhabited Thread] (blocked : List Thread) :
    ∃ pick rest, notifyOne pick blocked = some rest := by
  cases blocked with
  | nil => exact ⟨default, [], rfl⟩
  | cons thread rest => exact ⟨thread, (thread :: rest).erase thread, by simp [notifyOne]⟩

theorem waits_join {threads : List Point} {blocked : List Nat} {waiting point : Point} {id : Nat}
    (waits : ∀ other ∈ blocked, threads[other]? = some waiting)
    (at_point : threads[id]? = some point) :
    ∀ other ∈ blocked ++ [id], (threads.set id waiting)[other]? = some waiting := by
  intro other member
  by_cases own : other = id
  · rw [own]
    exact lookup_move_self at_point
  · rw [lookup_move_other own]
    have before : other ∈ blocked :=
      (List.mem_append.mp member).resolve_right fun last => own (List.mem_singleton.mp last)
    exact waits other before

theorem waits_stay {threads : List Point} {blocked : List Nat} {waiting point after : Point}
    {id : Nat} (waits : ∀ other ∈ blocked, threads[other]? = some waiting)
    (at_point : threads[id]? = some point) (awake : point = waiting → id ∉ blocked) :
    ∀ other ∈ blocked, (threads.set id after)[other]? = some waiting := by
  intro other member
  have waiting_here := waits other member
  have different : other ≠ id := by
    rintro rfl
    rw [at_point] at waiting_here
    exact awake (Option.some.inj waiting_here) member
  rw [lookup_move_other different]
  exact waiting_here

omit [DecidableEq Thread] in
theorem nodup_join {blocked : List Thread} {thread : Thread} (distinct : blocked.Nodup)
    (absent : thread ∉ blocked) : (blocked ++ [thread]).Nodup :=
  List.nodup_append_comm.mpr (List.nodup_cons.mpr ⟨absent, distinct⟩)

end Condvar

section Mutex

variable {Owner : Type*}

/-- What a move of the thread `owner` does to a mutex and to its own claim of
holding it: it takes the free mutex, gives up its own, or leaves both alone. -/
inductive MutexMove (owner : Owner) : Option Owner → Bool → Option Owner → Bool → Prop
  | acquires : MutexMove owner none false (some owner) true
  | releases {mutex : Option Owner} : MutexMove owner mutex true none false
  | keeps {mutex : Option Owner} {held : Bool} : MutexMove owner mutex held mutex held

theorem mutex_move_self {owner : Owner} {mutex mutexAfter : Option Owner}
    {held heldAfter : Bool} (move : MutexMove owner mutex held mutexAfter heldAfter)
    (claim : held = true → mutex = some owner) :
    heldAfter = true → mutexAfter = some owner := by
  cases move with
  | acquires => exact fun _ => rfl
  | releases => exact fun impossible => by cases impossible
  | keeps => exact claim

theorem mutex_move_other {owner other : Owner} {mutex mutexAfter : Option Owner}
    {held heldAfter : Bool} (move : MutexMove owner mutex held mutexAfter heldAfter)
    (claim : held = true → mutex = some owner) (different : other ≠ owner)
    (holds : mutex = some other) : mutexAfter = some other := by
  cases move with
  | acquires => cases holds
  | releases =>
      rw [claim rfl] at holds
      exact absurd (Option.some.inj holds).symm different
  | keeps => exact holds

theorem mutex_move_holder {owner other : Owner} {mutex mutexAfter : Option Owner}
    {held heldAfter : Bool} (move : MutexMove owner mutex held mutexAfter heldAfter)
    (claim : mutex = some owner → held = true) (holds : mutexAfter = some other) :
    (other = owner ∧ heldAfter = true) ∨ (other ≠ owner ∧ mutex = some other) := by
  cases move with
  | acquires => exact .inl ⟨(Option.some.inj holds).symm, rfl⟩
  | releases => cases holds
  | keeps =>
      by_cases same : other = owner
      · subst same
        exact .inl ⟨rfl, claim holds⟩
      · exact .inr ⟨same, holds⟩

theorem mutex_move_foreign {owner other : Owner} {mutex mutexAfter : Option Owner}
    {held heldAfter : Bool} (move : MutexMove owner mutex held mutexAfter heldAfter)
    (different : other ≠ owner) (holds : mutexAfter = some other) : mutex = some other := by
  cases move with
  | acquires => exact absurd (Option.some.inj holds).symm different
  | releases => cases holds
  | keeps => exact holds

theorem mutex_move_present {Point : Type*} {owner : Nat → Owner} (holds : Point → Bool)
    (injective : Function.Injective owner) {points : List Point} {id : Nat} {point after : Point}
    {mutex mutexAfter : Option Owner} (at_point : points[id]? = some point)
    (move : MutexMove (owner id) mutex (holds point) mutexAfter (holds after))
    (present : ∀ other, mutex = some (owner other) →
      ∃ seen, points[other]? = some seen ∧ holds seen = true)
    (other : Nat) (held : mutexAfter = some (owner other)) :
    ∃ seen, (points.set id after)[other]? = some seen ∧ holds seen = true := by
  have claim : mutex = some (owner id) → holds point = true := by
    intro own
    obtain ⟨seen, found, within⟩ := present id own
    rw [at_point] at found
    exact Option.some.inj found ▸ within
  rcases mutex_move_holder move claim held with ⟨same, entered⟩ | ⟨different, before⟩
  · rw [injective same]
    exact ⟨after, lookup_move_self at_point, entered⟩
  · obtain ⟨seen, found, within⟩ := present other before
    refine ⟨seen, ?_, within⟩
    exact (lookup_move_other fun same => different (congrArg owner same)).trans found

end Mutex

end BackendComponents.Lib.Threads
