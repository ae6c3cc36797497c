import BackendComponents.Lib.Paths

/-!
# Histories of paths

A record kept beside the states of a system, to which each step adds a note. It says what
has been done so far where the states have forgotten it, and does not influence the steps.
-/

namespace BackendComponents.Lib.Histories

open BackendComponents.Lib.Paths

set_option autoImplicit false

variable {State Action History : Type*}

def watched (step : State → Action → Option State) (note : History → State → Action → History)
    (here : State × History) (action : Action) : Option (State × History) :=
  (step here.1 action).map fun after => (after, note here.2 here.1 action)

def recollect (note : History → State → Action → History) :
    History → List (State × Action) → History
  | history, [] => history
  | history, taken :: rest => recollect note (note history taken.1 taken.2) rest

def chronicle (note : History → State → Action → History) :
    History → List (State × Action) → List ((State × History) × Action)
  | _, [] => []
  | history, taken :: rest =>
      ((taken.1, history), taken.2) :: chronicle note (note history taken.1 taken.2) rest

theorem recollect_append (note : History → State → Action → History) (history : History)
    (front back : List (State × Action)) :
    recollect note history (front ++ back) = recollect note (recollect note history front) back := by
  induction front generalizing history with
  | nil => rfl
  | cons taken rest ih => exact ih (note history taken.1 taken.2)

theorem chronicle_append (note : History → State → Action → History) (history : History)
    (front back : List (State × Action)) :
    chronicle note history (front ++ back) =
      chronicle note history front ++ chronicle note (recollect note history front) back := by
  induction front generalizing history with
  | nil => rfl
  | cons taken rest ih =>
      have later := ih (note history taken.1 taken.2)
      exact congrArg (((taken.1, history), taken.2) :: ·) later

theorem watched_cases {step : State → Action → Option State}
    {note : History → State → Action → History} {here after : State × History} {action : Action}
    (taken : watched step note here action = some after) :
    step here.1 action = some after.1 ∧ after.2 = note here.2 here.1 action := by
  obtain ⟨next, moved, rfl⟩ := Option.map_eq_some_iff.mp taken
  exact ⟨moved, rfl⟩

theorem path_chronicle {step : State → Action → Option State}
    (note : History → State → Action → History) (history : History) {start last : State}
    {trail : List (State × Action)} (path : Path step start trail last) :
    Path (watched step note) (start, history) (chronicle note history trail)
      (last, recollect note history trail) := by
  induction path with
  | here => exact .here
  | next path taken ih =>
      rw [chronicle_append, recollect_append]
      apply Path.next ih
      unfold watched
      rw [taken]
      rfl

/-- The run rule for what relates a state to the record. -/
theorem recollect_invariant {step : State → Action → Option State}
    {note : History → State → Action → History} {start : State} {history : History}
    (Inv : State → History → Prop) (initial : Inv start history)
    (preserved : ∀ state record action after, Reachable step start state → Inv state record →
      step state action = some after → Inv after (note record state action))
    {trail : List (State × Action)} {last : State} (path : Path step start trail last) :
    Inv last (recollect note history trail) := by
  induction path with
  | here => exact initial
  | next path taken ih =>
      rw [recollect_append]
      exact preserved _ _ _ _ (path_reachable path) ih taken

end BackendComponents.Lib.Histories
