import BackendComponents.Lib.Paths
import Mathlib.Algebra.Ring.Nat

/-!
# Runs that must finish

Some steps of a system are its own, the others are made by its environment. When each own
step brings the system closer to its end, and there is one as long as it has not arrived,
every run of own steps is short and every one that cannot go on has arrived.
-/

namespace BackendComponents.Lib.Progress

open BackendComponents.Lib.Paths

set_option autoImplicit false

variable {State Action : Type*}

def Enabled (step : State → Action → Option State) (own : Action → Prop) (state : State) : Prop :=
  ∃ action after, own action ∧ step state action = some after

structure Advances (step : State → Action → Option State) (own : Action → Prop)
    (Inv finished : State → Prop) (distance : State → Nat) : Prop where
  keeps : ∀ state action after, Inv state → own action → step state action = some after →
    Inv after
  closer : ∀ state action after, Inv state → own action → step state action = some after →
    distance after < distance state
  moves : ∀ state, Inv state → ¬finished state → Enabled step own state

variable {step : State → Action → Option State} {own : Action → Prop}
  {Inv finished : State → Prop} {distance : State → Nat}

theorem own_path_keeps (advances : Advances step own Inv finished distance)
    {start last : State} {trail : List (State × Action)} (initial : Inv start)
    (path : Path step start trail last) (guard : ∀ taken ∈ trail, own taken.2) :
    Inv last ∧ trail.length + distance last ≤ distance start := by
  induction path with
  | here => exact ⟨initial, Nat.le_of_eq (Nat.zero_add _)⟩
  | @next trail before after action path taken ih =>
      obtain ⟨inv, short⟩ := ih fun entry member => guard entry (List.mem_append_left _ member)
      have ours : own action := guard (before, action) (List.mem_append_right _ List.mem_cons_self)
      have nearer := advances.closer before action after inv ours taken
      refine ⟨advances.keeps before action after inv ours taken, ?_⟩
      rw [List.length_append, List.length_singleton]
      omega

theorem stuck_finished (advances : Advances step own Inv finished distance)
    {start last : State} {trail : List (State × Action)} (initial : Inv start)
    (path : Path step start trail last) (guard : ∀ taken ∈ trail, own taken.2)
    (stuck : ¬Enabled step own last) : finished last := by
  have inv := (own_path_keeps advances initial path guard).1
  by_contra unfinished
  exact stuck (advances.moves last inv unfinished)

theorem finishes (advances : Advances step own Inv finished distance) {start : State}
    (initial : Inv start) :
    ∃ trail last, Path step start trail last ∧ (∀ taken ∈ trail, own taken.2) ∧
      finished last := by
  induction bound : distance start using Nat.strongRecOn generalizing start with
  | ind bound ih =>
      by_cases arrived : finished start
      · exact ⟨[], start, .here, by simp, arrived⟩
      · obtain ⟨action, after, ours, taken⟩ := advances.moves start initial arrived
        have nearer := advances.closer start action after initial ours taken
        obtain ⟨trail, last, path, guard, done⟩ :=
          ih (distance after) (bound ▸ nearer)
            (advances.keeps start action after initial ours taken) rfl
        refine ⟨_, last, path_trans (path_step taken) path, ?_, done⟩
        intro entry member
        rcases List.mem_append.mp member with first | later
        · rw [List.mem_singleton.mp first]
          exact ours
        · exact guard entry later

theorem sum_set {Point : Type*} (left : Point → Nat) {threads : List Point} {place : Nat}
    {point after : Point} (at_point : threads[place]? = some point) :
    ((threads.set place after).map left).sum + left point =
      (threads.map left).sum + left after := by
  induction threads generalizing place with
  | nil => cases at_point
  | cons head rest ih =>
      cases place with
      | zero =>
          obtain rfl := Option.some.inj at_point
          simp only [List.set_cons_zero, List.map_cons, List.sum_cons]
          omega
      | succ place =>
          have later := ih at_point
          simp only [List.set_cons_succ, List.map_cons, List.sum_cons]
          omega

theorem sum_set_lt {Point : Type*} (left : Point → Nat) {threads : List Point} {place : Nat}
    {point after : Point} (at_point : threads[place]? = some point)
    (nearer : left after < left point) :
    ((threads.set place after).map left).sum < (threads.map left).sum := by
  have moved : ((threads.set place after).map left).sum + left point =
      (threads.map left).sum + left after := sum_set left at_point
  omega

theorem sum_spawn {Point : Type*} (left : Point → Nat) (threads : List Point) (count : Nat)
    (point : Point) : ((threads ++ List.replicate count point).map left).sum =
      (threads.map left).sum + count * left point := by
  induction count with
  | zero => rw [List.replicate_zero, List.append_nil, Nat.zero_mul, Nat.add_zero]
  | succ count ih =>
      rw [List.replicate_succ', ← List.append_assoc, List.map_append, List.sum_append, ih,
        List.map_singleton, List.sum_singleton, Nat.succ_mul, Nat.add_assoc]

theorem sum_ge_of_places {weights : List Nat} {places : List Nat} {least : Nat}
    (distinct : places.Nodup)
    (each : ∀ place ∈ places, ∃ weight, weights[place]? = some weight ∧ least ≤ weight) :
    least * places.length ≤ weights.sum := by
  induction places generalizing weights with
  | nil => exact Nat.zero_le _
  | cons place rest ih =>
      obtain ⟨fresh, distinct⟩ := List.nodup_cons.mp distinct
      obtain ⟨weight, found, enough⟩ := each place List.mem_cons_self
      -- the thread that has been counted has nothing left for the others
      have tail : least * rest.length ≤ (weights.set place 0).sum := by
        apply ih distinct
        intro other member
        have different : place ≠ other := by
          rintro rfl
          exact fresh member
        rw [List.getElem?_set_ne different]
        exact each other (List.mem_cons_of_mem _ member)
      have moved := @sum_set Nat id weights place weight 0 found
      simp only [List.map_id, id] at moved
      rw [List.length_cons, Nat.mul_succ]
      omega

theorem sum_due {Step : Type*} (due : Step → Bool) (price : Nat) (trail : List Step) :
    (trail.map fun taken => if due taken then price else 0).sum = price * trail.countP due := by
  induction trail with
  | nil => rfl
  | cons taken rest ih =>
      rw [List.map_cons, List.sum_cons, ih, List.countP_cons]
      split
      · rw [Nat.mul_succ, Nat.add_comm]
      · rw [Nat.zero_add, Nat.add_zero]

/-! ## Runs in which everybody moves -/

section Budgets

/-- A counted step brings the system closer to its end, and no step takes it further away than
its price. -/
structure Budgeted (step : State → Action → Option State) (good : State → Action → Prop)
    (Inv : State → Prop) (counted : State → Action → Bool) (price : Action → Nat)
    (distance : State → Nat) : Prop where
  keeps : ∀ state action after, Inv state → good state action →
    step state action = some after → Inv after
  pays : ∀ state action after, Inv state → good state action →
    step state action = some after →
      distance after + (if counted state action then 1 else 0) ≤ distance state + price action

variable {good : State → Action → Prop} {counted : State → Action → Bool} {price : Action → Nat}

theorem budget_path (budget : Budgeted step good Inv counted price distance)
    {start last : State} {trail : List (State × Action)} (initial : Inv start)
    (path : Path step start trail last) (guard : ∀ taken ∈ trail, good taken.1 taken.2) :
    Inv last ∧ trail.countP (fun taken => counted taken.1 taken.2) + distance last ≤
      distance start + (trail.map fun taken => price taken.2).sum := by
  induction path with
  | here => exact ⟨initial, by simp⟩
  | @next trail before after action path taken ih =>
      obtain ⟨inv, paid⟩ := ih fun entry member => guard entry (List.mem_append_left _ member)
      have allowed : good before action :=
        guard (before, action) (List.mem_append_right _ List.mem_cons_self)
      have pays := budget.pays before action after inv allowed taken
      refine ⟨budget.keeps before action after inv allowed taken, ?_⟩
      rw [List.countP_append, List.countP_singleton, List.map_append, List.sum_append,
        List.map_singleton, List.sum_singleton]
      dsimp only
      omega

/-- While some counted step without a price can be taken, the end can be reached. -/
theorem budget_finishes (budget : Budgeted step good Inv counted price distance)
    (moves : ∀ state, Inv state → ¬finished state → ∃ action after, good state action ∧
      counted state action = true ∧ price action = 0 ∧ step state action = some after)
    {start : State} (initial : Inv start) :
    ∃ trail last, Path step start trail last ∧
      (∀ taken ∈ trail, counted taken.1 taken.2 = true ∧ price taken.2 = 0) ∧ finished last := by
  induction bound : distance start using Nat.strongRecOn generalizing start with
  | ind bound ih =>
      by_cases arrived : finished start
      · exact ⟨[], start, .here, by simp, arrived⟩
      · obtain ⟨action, after, allowed, own, free, taken⟩ := moves start initial arrived
        have pays := budget.pays start action after initial allowed taken
        rw [if_pos own, free] at pays
        obtain ⟨trail, last, path, guard, done⟩ :=
          ih (distance after) (by omega)
            (budget.keeps start action after initial allowed taken) rfl
        refine ⟨_, last, path_trans (path_step taken) path, ?_, done⟩
        intro entry member
        rcases List.mem_append.mp member with first | later
        · rw [List.mem_singleton.mp first]
          exact ⟨own, free⟩
        · exact guard entry later

end Budgets

end BackendComponents.Lib.Progress
