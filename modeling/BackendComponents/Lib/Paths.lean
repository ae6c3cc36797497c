import Mathlib.Data.List.Basic

/-!
# Paths of a step function

A system is a partial step function on states, driven by actions. A path keeps
every state it leaves together with the action taken there, so a property can be
asked of the states visited and a condition of the steps taken. Interleavings of
threads are paths whose actions name the thread that moves.
-/

namespace BackendComponents.Lib.Paths

set_option autoImplicit false

variable {State Action : Type*}

/-- The trail lists each step as the state it leaves and the action it takes. -/
inductive Path (step : State → Action → Option State) (start : State) :
    List (State × Action) → State → Prop
  | here : Path step start [] start
  | next {trail : List (State × Action)} {state after : State} {action : Action} :
      Path step start trail state → step state action = some after →
        Path step start (trail ++ [(state, action)]) after

def Reachable (step : State → Action → Option State) (start state : State) : Prop :=
  ∃ trail, Path step start trail state

def visited (trail : List (State × Action)) (last : State) : List State :=
  trail.map Prod.fst ++ [last]

/-- Executes a schedule; a blocked or undefined action makes the result `none`. -/
def exec (step : State → Action → Option State) : State → List Action → Option State
  | state, [] => some state
  | state, action :: rest => (step state action).bind fun after => exec step after rest

/-- The steps that `exec` takes, up to the first one that is not enabled. -/
def trailOf (step : State → Action → Option State) :
    State → List Action → List (State × Action)
  | _, [] => []
  | state, action :: rest =>
      (state, action) :: (step state action).elim [] fun after => trailOf step after rest

theorem trail_action_mem {step : State → Action → Option State} {start : State}
    {schedule : List Action} {taken : State × Action}
    (member : taken ∈ trailOf step start schedule) : taken.2 ∈ schedule := by
  induction schedule generalizing start with
  | nil => cases member
  | cons action rest ih =>
      rcases List.mem_cons.mp member with rfl | later
      · exact List.mem_cons_self
      · cases moved : step start action with
        | none =>
            rw [moved] at later
            cases later
        | some after =>
            rw [moved] at later
            exact List.mem_cons_of_mem _ (ih later)

theorem path_trans {step : State → Action → Option State} {start middle last : State}
    {front back : List (State × Action)}
    (first : Path step start front middle) (second : Path step middle back last) :
    Path step start (front ++ back) last := by
  induction second with
  | here => simpa using first
  | next _ taken ih =>
      rw [← List.append_assoc]
      exact .next ih taken

theorem path_step {step : State → Action → Option State} {state after : State}
    {action : Action} (taken : step state action = some after) :
    Path step state [(state, action)] after :=
  .next .here taken

theorem path_of_exec {step : State → Action → Option State} {start last : State}
    {schedule : List Action} (executed : exec step start schedule = some last) :
    Path step start (trailOf step start schedule) last := by
  induction schedule generalizing start with
  | nil =>
      obtain rfl : start = last := by simpa [exec] using executed
      exact .here
  | cons action rest ih =>
      obtain ⟨after, taken, continued⟩ := Option.bind_eq_some_iff.mp executed
      have tail := ih continued
      simp only [trailOf, taken, Option.elim_some]
      exact path_trans (path_step taken) tail

theorem reachable_of_exec {step : State → Action → Option State} {start last : State}
    {schedule : List Action} (executed : exec step start schedule = some last) :
    Reachable step start last :=
  ⟨_, path_of_exec executed⟩

theorem exec_checked (step : State → Action → Option State) (start : State)
    (schedule : List Action) (check : State → Bool)
    (passed : (exec step start schedule).any check = true) :
    ∃ last, exec step start schedule = some last ∧ check last = true := by
  cases executed : exec step start schedule with
  | none =>
      rw [executed] at passed
      cases passed
  | some last =>
      rw [executed] at passed
      exact ⟨last, rfl, passed⟩

theorem reachable_start (step : State → Action → Option State) (start : State) :
    Reachable step start start :=
  ⟨[], .here⟩

theorem reachable_next {step : State → Action → Option State} {start state after : State}
    {action : Action} (reached : Reachable step start state)
    (taken : step state action = some after) : Reachable step start after := by
  obtain ⟨trail, path⟩ := reached
  exact ⟨_, .next path taken⟩

theorem reachable_trans {step : State → Action → Option State} {start middle last : State}
    (first : Reachable step start middle) (second : Reachable step middle last) :
    Reachable step start last := by
  obtain ⟨front, left⟩ := first
  obtain ⟨back, right⟩ := second
  exact ⟨_, path_trans left right⟩

/-- The run rule: what holds at the start and survives each step holds in every
reachable state. -/
theorem reachable_invariant {step : State → Action → Option State} {start : State}
    (Inv : State → Prop) (initial : Inv start)
    (preserved : ∀ state action after, Inv state → step state action = some after → Inv after)
    {state : State} (reached : Reachable step start state) : Inv state := by
  obtain ⟨trail, path⟩ := reached
  induction path with
  | here => exact initial
  | next _ taken ih => exact preserved _ _ _ ih taken

theorem path_reachable {step : State → Action → Option State} {start last : State}
    {trail : List (State × Action)} (path : Path step start trail last) :
    Reachable step start last :=
  ⟨trail, path⟩

theorem visited_reachable {step : State → Action → Option State} {start last : State}
    {trail : List (State × Action)} (path : Path step start trail last)
    {state : State} (member : state ∈ visited trail last) : Reachable step start state := by
  induction path with
  | here =>
      obtain rfl : state = start := by simpa [visited] using member
      exact reachable_start step _
  | @next trail before after action path taken ih =>
      have split : state ∈ visited trail before ∨ state = after := by
        simpa [visited, List.map_append, or_assoc] using member
      rcases split with earlier | rfl
      · exact ih earlier
      · exact reachable_next (path_reachable path) taken

/-- The run rule for conditioned runs: when every step taken meets `good`, only
good steps have to preserve the property. `Inv` is what holds of all runs. -/
theorem path_property_of_good {step : State → Action → Option State} {start : State}
    (Inv Property : State → Prop) (good : State → Action → Prop)
    (initial : Inv start) (base : Property start)
    (inductive_inv : ∀ state action after,
      Inv state → step state action = some after → Inv after)
    (kept : ∀ state action after, Inv state → Property state → good state action →
      step state action = some after → Property after)
    {trail : List (State × Action)} {last : State} (path : Path step start trail last)
    (guard : ∀ taken ∈ trail, good taken.1 taken.2) :
    ∀ state ∈ visited trail last, Property state := by
  induction path with
  | here =>
      intro state member
      obtain rfl : state = start := by simpa [visited] using member
      exact base
  | @next trail before after action path taken ih =>
      have earlier := ih fun entry member => guard entry (List.mem_append_left _ member)
      have here : Property before := earlier before (by simp [visited])
      have inv := reachable_invariant Inv initial inductive_inv (path_reachable path)
      have there : Property after :=
        kept _ _ _ inv here (guard (before, action) (by simp)) taken
      intro state member
      have split : state ∈ visited trail before ∨ state = after := by
        simpa [visited, List.map_append, or_assoc] using member
      rcases split with old | rfl
      · exact earlier state old
      · exact there

/-- The same rule for an invariant that only good steps keep. -/
theorem path_invariant_of_good {step : State → Action → Option State} {start : State}
    (Inv : State → Prop) (good : State → Action → Prop) (initial : Inv start)
    (kept : ∀ state action after, Inv state → good state action →
      step state action = some after → Inv after)
    {trail : List (State × Action)} {last : State} (path : Path step start trail last)
    (guard : ∀ taken ∈ trail, good taken.1 taken.2) :
    ∀ state ∈ visited trail last, Inv state := by
  apply path_property_of_good (fun _ => True) Inv good True.intro initial _ _ path guard
  · intro _ _ _ _ _
    exact True.intro
  · intro state action after _ inv good taken
    exact kept state action after inv good taken

/-- When a step keeps the property exactly if it is good, a run has the property
throughout exactly if all its steps are good. -/
theorem path_property_iff_good {step : State → Action → Option State} {start : State}
    (Inv Property : State → Prop) (good : State → Action → Prop)
    (initial : Inv start) (base : Property start)
    (inductive_inv : ∀ state action after,
      Inv state → step state action = some after → Inv after)
    (exact_step : ∀ state action after, Inv state → Property state →
      step state action = some after → (Property after ↔ good state action))
    {trail : List (State × Action)} {last : State} (path : Path step start trail last) :
    (∀ state ∈ visited trail last, Property state) ↔
      ∀ taken ∈ trail, good taken.1 taken.2 := by
  constructor
  · intro holds
    induction path with
    | here => simp
    | @next trail before after action path taken ih =>
        have earlier : ∀ state ∈ visited trail before, Property state := by
          intro state member
          apply holds state _
          simp only [visited, List.map_append, List.map_cons, List.map_nil]
          exact List.mem_append_left _ member
        have inv := reachable_invariant Inv initial inductive_inv (path_reachable path)
        have there : Property after := holds after (by simp [visited])
        have last_good := (exact_step _ _ _ inv
          (earlier before (by simp [visited])) taken).mp there
        intro entry member
        rcases List.mem_append.mp member with old | new
        · exact ih earlier entry old
        · obtain rfl : entry = (before, action) := by simpa using new
          exact last_good
  · exact path_property_of_good Inv Property good initial base inductive_inv
      (fun state action after inv holds good taken =>
        (exact_step state action after inv holds taken).mpr good) path

section Restriction

variable (allowed : State → Action → Bool) (step : State → Action → Option State)

/-- The system with only some of its steps. -/
def restrict (state : State) (action : Action) : Option State :=
  if allowed state action then step state action else none

variable {allowed step}

theorem restrict_cases {state after : State} {action : Action}
    (taken : restrict allowed step state action = some after) :
    allowed state action = true ∧ step state action = some after := by
  unfold restrict at taken
  split at taken
  · next kept => exact ⟨kept, taken⟩
  · cases taken

theorem path_restrict {start last : State} {trail : List (State × Action)}
    (path : Path step start trail last)
    (all : ∀ taken ∈ trail, allowed taken.1 taken.2 = true) :
    Path (restrict allowed step) start trail last := by
  induction path with
  | here => exact .here
  | @next trail state after action _ taken ih =>
      have kept : allowed state action = true := all (state, action) (by simp)
      apply Path.next (ih fun entry member => all entry (List.mem_append_left _ member))
      unfold restrict
      rw [if_pos kept]
      exact taken

end Restriction

/-- A law about a step: the state it leaves, its action and the state it leads to. -/
def Obeyed (step : State → Action → Option State) (law : State → Action → State → Prop)
    (trail : List (State × Action)) : Prop :=
  ∀ taken ∈ trail, ∀ after, step taken.1 taken.2 = some after → law taken.1 taken.2 after

/-- When good steps keep the property and obey the law where it holds, so does a run of
good steps. -/
theorem path_obeyed_of_good {step : State → Action → Option State} {start : State}
    (Inv Property : State → Prop) (law : State → Action → State → Prop)
    (good : State → Action → Prop) (initial : Inv start) (base : Property start)
    (inductive_inv : ∀ state action after,
      Inv state → step state action = some after → Inv after)
    (kept : ∀ state action after, Inv state → Property state → good state action →
      step state action = some after → Property after)
    (lawful : ∀ state action after, Inv state → Property state → good state action →
      step state action = some after → law state action after)
    {trail : List (State × Action)} {last : State} (path : Path step start trail last)
    (guard : ∀ taken ∈ trail, good taken.1 taken.2) : Obeyed step law trail := by
  have holds := path_property_of_good Inv Property good initial base inductive_inv kept path guard
  intro taken member after stepped
  have here : taken.1 ∈ visited trail last :=
    List.mem_append_left _ (List.mem_map_of_mem member)
  have inv := reachable_invariant Inv initial inductive_inv (visited_reachable path here)
  exact lawful _ _ _ inv (holds _ here) (guard taken member) stepped

/-- When good steps keep the property, and a step from a state with the property obeys the
law exactly if it is good, a run obeys the law exactly if all its steps are good. -/
theorem path_obeyed_iff_good {step : State → Action → Option State} {start : State}
    (Inv Property : State → Prop) (law : State → Action → State → Prop)
    (good : State → Action → Prop) (initial : Inv start) (base : Property start)
    (inductive_inv : ∀ state action after,
      Inv state → step state action = some after → Inv after)
    (kept : ∀ state action after, Inv state → Property state → good state action →
      step state action = some after → Property after)
    (exact_step : ∀ state action after, Inv state → Property state →
      step state action = some after → (law state action after ↔ good state action))
    {trail : List (State × Action)} {last : State} (path : Path step start trail last) :
    Obeyed step law trail ↔ ∀ taken ∈ trail, good taken.1 taken.2 := by
  constructor
  · intro obeyed
    induction path with
    | here => simp
    | @next trail before after action path taken ih =>
        have earlier := ih fun entry member => obeyed entry (List.mem_append_left _ member)
        have inv := reachable_invariant Inv initial inductive_inv (path_reachable path)
        have property := path_property_of_good Inv Property good initial base inductive_inv kept
          path earlier before (by simp [visited])
        have lawful := obeyed (before, action) (by simp) after taken
        intro entry member
        rcases List.mem_append.mp member with old | new
        · exact earlier entry old
        · rw [List.mem_singleton.mp new]
          exact (exact_step _ _ _ inv property taken).mp lawful
  · exact path_obeyed_of_good Inv Property law good initial base inductive_inv kept
      (fun _ _ _ inv property good taken => (exact_step _ _ _ inv property taken).mpr good) path

end BackendComponents.Lib.Paths
