import Mathlib.Data.List.Basic
import Mathlib.Data.Int.Order.Basic
import Mathlib.Data.Set.Finite.List

/-!
# Sweeping a queue

A loop that looks at every entry of a queue once, removes the old ones up to a limit and
puts the others to the back. What it puts back may be read from where the entry has been,
so the values read are a parameter. On a queue with its old entries in front, what is left
keeps its order, because the loop either stops among the old entries or goes all the way
round.
-/

namespace BackendComponents.Lib.Sweeping

set_option autoImplicit false

variable {Entry : Type*} {old : Entry → Bool}

/-- The entries removed and the queue that is left, after `count` entries have been looked
at, `can` of which may go. Where `reads` is too short, what is put back is the entry itself. -/
def sweep (old : Entry → Bool) :
    List Entry → Nat → Nat → List Entry → List Entry × List Entry
  | _, 0, _, queue | _, _, 0, queue => ([], queue)
  | _, _ + 1, _ + 1, [] => ([], [])
  | reads, count + 1, can + 1, entry :: rest =>
      if old entry then
        let swept := sweep old reads count can rest
        (entry :: swept.1, swept.2)
      else sweep old reads.tail count (can + 1) (rest ++ [reads.headD entry])

theorem sweep_none (reads : List Entry) (count : Nat) (queue : List Entry) :
    sweep old reads count 0 queue = ([], queue) := by
  cases count <;> rfl

/-! ## Entries that come back as they were -/

/-- The old entries are in front. -/
def OldFirst (old : Entry → Bool) (queue : List Entry) : Prop :=
  queue.Pairwise fun first later => old later = true → old first = true

theorem sweep_fresh {front : List Entry} (back : List Entry) (can : Nat)
    (fresh : ∀ entry ∈ front, old entry = false) :
    sweep old [] front.length (can + 1) (front ++ back) = ([], back ++ front) := by
  induction front generalizing back with
  | nil =>
      rw [List.append_nil]
      rfl
  | cons entry rest ih =>
      rw [List.length_cons, List.cons_append]
      unfold sweep
      rw [fresh entry List.mem_cons_self, if_neg Bool.false_ne_true, List.append_assoc]
      rw [List.tail_nil, List.headD_nil]
      rw [ih (back ++ [entry]) fun other member => fresh other (List.mem_cons_of_mem _ member)]
      rw [List.append_assoc, List.singleton_append]

theorem fresh_of_head {entry : Entry} {rest : List Entry} (oldFirst : OldFirst old (entry :: rest))
    (young : old entry = false) : ∀ other ∈ entry :: rest, old other = false := by
  intro other member
  rcases List.mem_cons.mp member with rfl | later
  · exact young
  · apply Bool.eq_false_iff.mpr
    intro aged
    rw [(List.pairwise_cons.mp oldFirst).1 other later aged] at young
    cases young

/-- The whole loop removes old entries from the front, as many as there are or may go. -/
theorem sweep_old_first {queue : List Entry} (can : Nat) (oldFirst : OldFirst old queue) :
    sweep old [] queue.length can queue =
      (queue.take (min (queue.countP old) can), queue.drop (min (queue.countP old) can)) := by
  induction queue generalizing can with
  | nil => cases can <;> rfl
  | cons entry rest ih =>
      cases can with
      | zero =>
          rw [sweep_none, Nat.min_zero]
          rfl
      | succ can =>
          cases aged : old entry with
          | true =>
              rw [List.length_cons]
              unfold sweep
              rw [if_pos aged, ih can (List.pairwise_cons.mp oldFirst).2]
              rw [List.countP_cons_of_pos aged, Nat.add_min_add_right]
              rfl
          | false =>
              have fresh := fresh_of_head oldFirst aged
              have none : (entry :: rest).countP old = 0 := by
                apply List.countP_eq_zero.mpr
                intro other member
                rw [fresh other member]
                exact Bool.false_ne_true
              have round := sweep_fresh [] can fresh
              rw [List.append_nil, List.nil_append] at round
              rw [round, none, Nat.zero_min]
              rfl

/-! ## Whatever is read -/

variable (old) in
theorem sweep_length (reads : List Entry) (count can : Nat) (queue : List Entry) :
    (sweep old reads count can queue).1.length + (sweep old reads count can queue).2.length =
      queue.length := by
  induction count generalizing reads can queue with
  | zero => exact Nat.zero_add _
  | succ count ih =>
      cases can with
      | zero => exact Nat.zero_add _
      | succ can =>
          cases queue with
          | nil => rfl
          | cons entry rest =>
              unfold sweep
              split
              · have later := ih reads can rest
                dsimp only
                rw [List.length_cons, List.length_cons]
                omega
              · rw [ih, List.length_append, List.length_singleton, List.length_cons]

variable (old) in
theorem sweep_removed_length (reads : List Entry) (count can : Nat) {queue : List Entry}
    (within : count ≤ queue.length) :
    (sweep old reads count can queue).1.length = min ((queue.take count).countP old) can := by
  induction count generalizing reads can queue with
  | zero => exact (Nat.zero_min _).symm
  | succ count ih =>
      cases can with
      | zero => exact (Nat.min_zero _).symm
      | succ can =>
          cases queue with
          | nil => exact absurd within (Nat.not_succ_le_zero count)
          | cons entry rest =>
              have inside : count ≤ rest.length := Nat.le_of_succ_le_succ within
              unfold sweep
              rw [List.take_succ_cons]
              cases aged : old entry with
              | true =>
                  rw [if_pos rfl, List.countP_cons_of_pos aged, Nat.add_min_add_right]
                  exact congrArg Nat.succ (ih reads can inside)
              | false =>
                  have young : ¬old entry = true := Bool.eq_false_iff.mp aged
                  rw [if_neg Bool.false_ne_true, List.countP_cons_of_neg young]
                  rw [ih reads.tail (can + 1) (by rw [List.length_append]; omega)]
                  rw [List.take_append_of_le_length inside]

theorem sweep_all_old (reads : List Entry) (count can : Nat) {queue : List Entry}
    (aged : ∀ entry ∈ queue.take (min count can), old entry = true) :
    sweep old reads count can queue =
      (queue.take (min count can), queue.drop (min count can)) := by
  induction count generalizing can queue with
  | zero =>
      rw [Nat.zero_min]
      rfl
  | succ count ih =>
      cases can with
      | zero => rfl
      | succ can =>
          cases queue with
          | nil => rw [List.take_nil, List.drop_nil]; rfl
          | cons entry rest =>
              rw [Nat.add_min_add_right, List.take_succ_cons] at aged
              unfold sweep
              rw [if_pos (aged entry List.mem_cons_self), Nat.add_min_add_right]
              rw [ih can fun other member => aged other (List.mem_cons_of_mem _ member)]
              rfl

variable (old) in
theorem sweep_leaves (reads : List Entry) (count can : Nat) {queue : List Entry} {entry : Entry}
    (beyond : entry ∈ queue.drop count) : entry ∈ (sweep old reads count can queue).2 := by
  induction count generalizing reads can queue with
  | zero => exact beyond
  | succ count ih =>
      cases can with
      | zero => exact List.mem_of_mem_drop beyond
      | succ can =>
          cases queue with
          | nil => exact absurd beyond List.not_mem_nil
          | cons first rest =>
              rw [List.drop_succ_cons] at beyond
              unfold sweep
              split
              · exact ih reads can beyond
              · apply ih reads.tail (can + 1)
                rw [List.drop_append]
                exact List.mem_append_left _ beyond

theorem sweep_put_back {read : Entry} (reads : List Entry) (count can : Nat) {queue : List Entry}
    (within : count ≤ queue.length)
    (young : ∃ entry ∈ queue.take (min count can), old entry = false) :
    read ∈ (sweep old (read :: reads) count can queue).2 := by
  induction count generalizing can queue with
  | zero =>
      obtain ⟨entry, member, _⟩ := young
      rw [Nat.zero_min] at member
      exact absurd member List.not_mem_nil
  | succ count ih =>
      cases can with
      | zero =>
          obtain ⟨entry, member, _⟩ := young
          exact absurd member List.not_mem_nil
      | succ can =>
          cases queue with
          | nil => exact absurd within (Nat.not_succ_le_zero count)
          | cons first rest =>
              have inside : count ≤ rest.length := Nat.le_of_succ_le_succ within
              obtain ⟨entry, member, fresh⟩ := young
              rw [Nat.add_min_add_right, List.take_succ_cons] at member
              unfold sweep
              split
              · next aged =>
                  rcases List.mem_cons.mp member with rfl | later
                  · rw [fresh] at aged
                    cases aged
                  · exact ih can inside ⟨entry, later, fresh⟩
              · apply sweep_leaves
                rw [List.drop_append]
                apply List.mem_append_right
                rw [Nat.sub_eq_zero_of_le inside]
                exact List.mem_cons_self

/-! ## The whole queue -/

section Whole

variable (old) (keep : Int) (queue : List Entry)

def excess : Nat := min (queue.countP old) ((queue.length : Int) - keep).toNat

/-- The loop comes to an entry that is not old while some may still go. -/
def putsBack : Bool :=
  (queue.take ((queue.length : Int) - keep).toNat).any fun entry => !old entry

end Whole

variable {keep : Int} {queue : List Entry}

theorem excess_le : excess old keep queue ≤ queue.length :=
  Nat.le_trans (Nat.min_le_left _ _) List.countP_le_length

theorem aged_of_kept (kept : putsBack old keep queue = false) :
    ∀ entry ∈ queue.take ((queue.length : Int) - keep).toNat, old entry = true := by
  intro entry member
  have none := List.any_eq_false.mp kept entry member
  simpa using none

/-- Without anything put back the loop removes the first entries, whatever could be read. -/
theorem sweep_kept (reads : List Entry) (kept : putsBack old keep queue = false) :
    sweep old reads queue.length ((queue.length : Int) - keep).toNat queue =
      (queue.take (excess old keep queue), queue.drop (excess old keep queue)) := by
  have aged := aged_of_kept kept
  have few : min queue.length ((queue.length : Int) - keep).toNat = excess old keep queue := by
    unfold excess
    have all : (queue.take ((queue.length : Int) - keep).toNat).countP old =
        (queue.take ((queue.length : Int) - keep).toNat).length := List.countP_eq_length.mpr aged
    have part : (queue.take ((queue.length : Int) - keep).toNat).countP old ≤ queue.countP old :=
      (List.take_sublist _ queue).countP_le
    have most : queue.countP old ≤ queue.length := List.countP_le_length
    rw [all, List.length_take] at part
    omega
  have looked : ∀ entry ∈ queue.take (min queue.length ((queue.length : Int) - keep).toNat),
      old entry = true := by
    intro entry member
    apply aged entry
    exact (List.take_sublist_take_left (Nat.min_le_right _ _)).subset member
  rw [sweep_all_old reads _ _ looked, few]

theorem sweep_intact (oldFirst : OldFirst old queue) :
    sweep old [] queue.length ((queue.length : Int) - keep).toNat queue =
      (queue.take (excess old keep queue), queue.drop (excess old keep queue)) :=
  sweep_old_first _ oldFirst

theorem exists_stranger [Infinite Entry] (queue : List Entry) : ∃ stranger, stranger ∉ queue :=
  queue.finite_toSet.exists_notMem

/-- If something is put back, a value that was not in the queue can be read for it. -/
theorem kept_of_sweep [Infinite Entry]
    (exactly : ∀ reads, (sweep old reads queue.length
      ((queue.length : Int) - keep).toNat queue).2 = queue.drop (excess old keep queue)) :
    putsBack old keep queue = false := by
  apply Bool.eq_false_iff.mpr
  intro back
  obtain ⟨entry, member, young⟩ := List.any_eq_true.mp back
  obtain ⟨stranger, apart⟩ := exists_stranger queue
  have same : queue.take (min queue.length ((queue.length : Int) - keep).toNat) =
      queue.take ((queue.length : Int) - keep).toNat := by
    rw [List.take_eq_take_iff]
    omega
  have stays : stranger ∈ (sweep old [stranger] queue.length
      ((queue.length : Int) - keep).toNat queue).2 := by
    apply sweep_put_back [] _ _ (Nat.le_refl _)
    rw [same]
    refine ⟨entry, member, ?_⟩
    simpa using young
  rw [exactly] at stays
  exact apart (List.mem_of_mem_drop stays)

variable (old keep queue) in
theorem removed_length (reads : List Entry) :
    (sweep old reads queue.length ((queue.length : Int) - keep).toNat queue).1.length =
      excess old keep queue := by
  rw [sweep_removed_length old reads _ _ (Nat.le_refl _), List.take_length]
  rfl

/-! ## Ages -/

section Times

variable {Time : Type*}

/-- The entries are in the order of their times. -/
def Sorted [LE Time] (time : Entry → Time) (queue : List Entry) : Prop :=
  queue.Pairwise fun first later => time first ≤ time later

/-- Besides, none of the times is to come. -/
structure Timely [LE Time] (time : Entry → Time) (now : Time) (queue : List Entry) : Prop where
  sorted : Sorted time queue
  past : ∀ entry ∈ queue, time entry ≤ now

variable [Preorder Time] {time : Entry → Time} {now : Time} {queue : List Entry}

theorem timely_nil (time : Entry → Time) (now : Time) : Timely time now [] :=
  ⟨List.Pairwise.nil, fun _ member => nomatch member⟩

theorem timely_enqueue (timely : Timely time now queue) {entry : Entry}
    (current : time entry = now) : Timely time now (queue ++ [entry]) := by
  have earlier : ∀ other ∈ queue, time other ≤ time entry := by
    intro other member
    rw [current]
    exact timely.past other member
  constructor
  · apply List.pairwise_append.mpr
    refine ⟨timely.sorted, List.pairwise_singleton _ _, ?_⟩
    intro other member last same
    rw [List.mem_singleton.mp same]
    exact earlier other member
  · intro other member
    rcases List.mem_append.mp member with before | same
    · exact timely.past other before
    · rw [List.mem_singleton.mp same, current]

theorem timely_sublist (timely : Timely time now queue) {smaller : List Entry}
    (inside : smaller.Sublist queue) : Timely time now smaller :=
  ⟨timely.sorted.sublist inside, fun entry member => timely.past entry (inside.subset member)⟩

end Times

section Clock

variable {time : Entry → Int} {now : Int} {queue : List Entry}

theorem timely_later (timely : Timely time now queue) (ticks : Nat) :
    Timely time (now + ticks) queue :=
  ⟨timely.sorted, fun entry member =>
    Int.le_trans (timely.past entry member) (Int.le_add_of_nonneg_right (Int.natCast_nonneg ticks))⟩

/-- Idle for `limit` whole units of `unit` ticks or longer. -/
def idleFor (time : Entry → Int) (unit limit now : Int) (entry : Entry) : Bool :=
  decide (limit ≤ (now - time entry).tdiv unit)

/-- In the order of the times, who has been idle too long is in front. -/
theorem idle_first {unit limit : Int} (positive : 0 < unit) (sorted : Sorted time queue) :
    OldFirst (idleFor time unit limit now) queue := by
  apply sorted.imp
  intro first later order aged
  have longer : (now - time later).tdiv unit ≤ (now - time first).tdiv unit := by
    apply Int.tdiv_le_tdiv positive
    omega
  exact decide_eq_true (Int.le_trans (of_decide_eq_true aged) longer)

end Clock

end BackendComponents.Lib.Sweeping
