import Mathlib.Data.List.Destutter
import BackendComponents.Lib.Paths

/-!
# Simulation up to stuttering

Two systems with different atomicity take different numbers of steps for the same
change. What is compared is the sequence of observed values with repetitions
removed. A step is matched by silent steps, which keep the other system related to
the state before it, and at most one more step.
-/

namespace BackendComponents.Lib.Stuttering

open BackendComponents.Lib.Paths

set_option autoImplicit false

variable {StateA ActionA StateB ActionB Value : Type*} [DecidableEq Value]

theorem destutter'_head (first : Value) (values : List Value) :
    ∃ rest, values.destutter' (· ≠ ·) first = first :: rest := by
  induction values generalizing first with
  | nil => exact ⟨[], rfl⟩
  | cons next rest ih =>
      by_cases same : first = next
      · rw [List.destutter'_cons_neg _ (by simp [same])]
        exact ih first
      · rw [List.destutter'_cons_pos _ same]
        exact ⟨_, rfl⟩

theorem destutter_map_destutter' {Coarse : Type*} [DecidableEq Coarse] (coarsen : Value → Coarse)
    (first : Value) (values : List Value) :
    ((values.destutter' (· ≠ ·) first).map coarsen).destutter (· ≠ ·) =
      (values.map coarsen).destutter' (· ≠ ·) (coarsen first) := by
  induction values generalizing first with
  | nil => simp
  | cons next rest ih =>
      by_cases same : first = next
      · subst same
        rw [List.destutter'_cons_neg _ (by simp), ih first, List.map_cons,
          List.destutter'_cons_neg _ (by simp)]
      · have later := ih next
        obtain ⟨tail, shape⟩ := destutter'_head next rest
        rw [shape, List.map_cons, List.destutter_cons'] at later
        rw [List.destutter'_cons_pos _ same, shape, List.map_cons, List.map_cons, List.map_cons,
          List.destutter_cons']
        by_cases merged : coarsen first = coarsen next
        · rw [List.destutter'_cons_neg _ (by simp [merged]),
            List.destutter'_cons_neg _ (by simp [merged]), merged, later]
        · rw [List.destutter'_cons_pos _ merged, List.destutter'_cons_pos _ merged, later]

def observed {State Action : Type*} (observe : State → Value) (trail : List (State × Action))
    (last : State) : List Value :=
  ((visited trail last).map observe).destutter (· ≠ ·)

theorem destutter'_snoc (first value : Value) (values : List Value) :
    (values ++ [value]).destutter' (· ≠ ·) first =
      if (first :: values).getLast? = some value then values.destutter' (· ≠ ·) first
      else values.destutter' (· ≠ ·) first ++ [value] := by
  induction values generalizing first with
  | nil =>
      by_cases same : first = value
      · simp [same]
      · simp [same]
  | cons next rest ih =>
      rw [List.cons_append, List.getLast?_cons_cons]
      by_cases same : first = next
      · subst same
        rw [List.destutter'_cons_neg _ (by simp), List.destutter'_cons_neg _ (by simp)]
        exact ih first
      · rw [List.destutter'_cons_pos _ same, List.destutter'_cons_pos _ same, ih next]
        split <;> rfl

theorem destutter_snoc_snoc (values : List Value) (before value : Value) :
    (values ++ [before, value]).destutter (· ≠ ·) =
      if before = value then (values ++ [before]).destutter (· ≠ ·)
      else (values ++ [before]).destutter (· ≠ ·) ++ [value] := by
  cases values with
  | nil =>
      by_cases same : before = value
      · simp [same]
      · simp [same]
  | cons first rest =>
      have shape : first :: rest ++ [before, value] = first :: ((rest ++ [before]) ++ [value]) := by
        simp
      rw [shape, List.destutter_cons', destutter'_snoc, ← List.cons_append,
        List.getLast?_concat]
      simp only [Option.some.injEq, List.cons_append, List.destutter_cons']

theorem observed_next {State Action : Type*} (observe : State → Value)
    (trail : List (State × Action)) (before after : State) (action : Action) :
    observed observe (trail ++ [(before, action)]) after =
      if observe before = observe after then observed observe trail before
      else observed observe trail before ++ [observe after] := by
  have shape : (visited (trail ++ [(before, action)]) after).map observe =
      trail.map (observe ∘ Prod.fst) ++ [observe before, observe after] := by
    simp [visited]
  have prefix_shape : (visited trail before).map observe =
      trail.map (observe ∘ Prod.fst) ++ [observe before] := by
    simp [visited]
  rw [observed, observed, shape, prefix_shape]
  exact destutter_snoc_snoc _ _ _

theorem observed_silent {step : StateB → ActionB → Option StateB} {observe : StateB → Value}
    {middle last : StateB} {back : List (StateB × ActionB)} {value : Value}
    (front : List (StateB × ActionB)) (silent : Path step middle back last)
    (same : ∀ state ∈ visited back last, observe state = value) :
    observed observe (front ++ back) last = observed observe front middle := by
  induction silent with
  | here => simp
  | @next trail before after action path taken ih =>
      have earlier : ∀ state ∈ visited trail before, observe state = value := by
        intro state member
        apply same state _
        simp only [visited, List.map_append, List.map_cons, List.map_nil]
        exact List.mem_append_left _ member
      have here := earlier before (by simp [visited])
      have there := same after (by simp [visited])
      rw [← List.append_assoc, observed_next, if_pos (here.trans there.symm)]
      exact ih earlier

theorem observed_comp {State Action Coarse : Type*} [DecidableEq Coarse]
    (coarsen : Value → Coarse) (observe : State → Value) (trail : List (State × Action))
    (last : State) :
    observed (coarsen ∘ observe) trail last =
      ((observed observe trail last).map coarsen).destutter (· ≠ ·) := by
  unfold observed
  rw [← List.map_map]
  cases (visited trail last).map observe with
  | nil => simp
  | cons first rest =>
      rw [List.map_cons, List.destutter_cons', List.destutter_cons', destutter_map_destutter']

theorem observed_coarser {Coarse : Type*} [DecidableEq Coarse] (coarsen : Value → Coarse)
    {observeA : StateA → Value} {observeB : StateB → Value}
    {trailA : List (StateA × ActionA)} {lastA : StateA} {trailB : List (StateB × ActionB)}
    {lastB : StateB} (same : observed observeB trailB lastB = observed observeA trailA lastA) :
    observed (coarsen ∘ observeB) trailB lastB = observed (coarsen ∘ observeA) trailA lastA := by
  rw [observed_comp, observed_comp, same]

structure StutterSimulation (stepA : StateA → ActionA → Option StateA)
    (stepB : StateB → ActionB → Option StateB) (observeA : StateA → Value)
    (observeB : StateB → Value) (related : StateA → StateB → Prop) : Prop where
  observe : ∀ a b, related a b → observeB b = observeA a
  simulate : ∀ a b action after, related a b → stepA a action = some after →
    ∃ trail middle, Path stepB b trail middle ∧
      (∀ state ∈ visited trail middle, related a state) ∧
        (related after middle ∨
          ∃ reply last, stepB middle reply = some last ∧ related after last)

/-- Every run of the first system is matched by a run of the second one with the
same observations. -/
theorem simulated_path {stepA : StateA → ActionA → Option StateA}
    {stepB : StateB → ActionB → Option StateB} {observeA : StateA → Value}
    {observeB : StateB → Value} {related : StateA → StateB → Prop}
    (simulation : StutterSimulation stepA stepB observeA observeB related)
    {startA lastA : StateA} {startB : StateB} {trailA : List (StateA × ActionA)}
    (initial : related startA startB) (path : Path stepA startA trailA lastA) :
    ∃ trailB lastB, Path stepB startB trailB lastB ∧ related lastA lastB ∧
      observed observeB trailB lastB = observed observeA trailA lastA := by
  induction path with
  | here =>
      refine ⟨[], startB, .here, initial, ?_⟩
      simp [observed, visited, simulation.observe _ _ initial]
  | @next trail before after action path taken ih =>
      obtain ⟨front, current, pathB, relatedB, same⟩ := ih
      obtain ⟨silentTrail, middle, silent, still, finish⟩ :=
        simulation.simulate before current action after relatedB taken
      have quiet := observed_silent front silent
        fun state member => simulation.observe before state (still state member)
      have joined := path_trans pathB silent
      have atMiddle := simulation.observe before middle (still middle (by simp [visited]))
      rcases finish with arrived | ⟨reply, last, replied, arrived⟩
      · refine ⟨_, middle, joined, arrived, ?_⟩
        have there := simulation.observe after middle arrived
        rw [quiet, same, observed_next, if_pos (atMiddle.symm.trans there)]
      · refine ⟨_, last, .next joined replied, arrived, ?_⟩
        have there := simulation.observe after last arrived
        rw [observed_next, observed_next, quiet, same, atMiddle, there]

end BackendComponents.Lib.Stuttering
