import Mathlib.Data.List.Basic

/-!
# A list of operations up to the first one that is turned down

What accepts an operation may depend on the operations that went before. `early` are
those up to the first that is turned down, `late` that one and the rest.
-/

namespace BackendComponents.Lib.FirstFailure

set_option autoImplicit false

variable {Op State : Type}

section Splitting

variable (accepts : State → Op → Bool) (apply : State → Op → State)

def early (state : State) : List Op → List Op
  | [] => []
  | op :: rest => if accepts state op then op :: early (apply state op) rest else []

def late (state : State) : List Op → List Op
  | [] => []
  | op :: rest => if accepts state op then late (apply state op) rest else op :: rest

def reached (state : State) (ops : List Op) : State :=
  (early accepts apply state ops).foldl apply state

theorem early_append_late (state : State) (ops : List Op) :
    early accepts apply state ops ++ late accepts apply state ops = ops := by
  induction ops generalizing state with
  | nil => rfl
  | cons op rest ih =>
    unfold early late
    split
    · rw [List.cons_append, ih]
    · rfl

theorem early_append (state : State) (ops more : List Op) :
    early accepts apply state (ops ++ more) = early accepts apply state ops ++
      if late accepts apply state ops = [] then
        early accepts apply (reached accepts apply state ops) more
      else [] := by
  induction ops generalizing state with
  | nil => rfl
  | cons op rest ih =>
    by_cases taken : accepts state op = true
    · simp only [List.cons_append, early, late, reached, if_pos taken, List.foldl_cons]
      rw [ih]
      rfl
    · simp [early, late, taken]

theorem late_append (state : State) (ops more : List Op) :
    late accepts apply state (ops ++ more) =
      if late accepts apply state ops = [] then
        late accepts apply (reached accepts apply state ops) more
      else late accepts apply state ops ++ more := by
  induction ops generalizing state with
  | nil => rfl
  | cons op rest ih =>
    by_cases taken : accepts state op = true
    · simp only [List.cons_append, early, late, reached, if_pos taken, List.foldl_cons]
      exact ih (apply state op)
    · simp [late, taken]

end Splitting

variable {accepts : State → Op → Bool} {apply : State → Op → State}

theorem mem_early_or_late (state : State) {ops : List Op} {op : Op} (listed : op ∈ ops) :
    op ∈ early accepts apply state ops ∨ op ∈ late accepts apply state ops := by
  rw [← early_append_late accepts apply state ops] at listed
  exact List.mem_append.mp listed

theorem mem_of_mem_late {state : State} {ops : List Op} {op : Op}
    (listed : op ∈ late accepts apply state ops) : op ∈ ops := by
  rw [← early_append_late accepts apply state ops]
  exact List.mem_append_right _ listed

theorem late_refused {state : State} {ops rest : List Op} {op : Op}
    (split : late accepts apply state ops = op :: rest) :
    accepts (reached accepts apply state ops) op = false := by
  induction ops generalizing state with
  | nil => cases split
  | cons head tail ih =>
    unfold late at split
    unfold reached early
    by_cases taken : accepts state head = true
    · rw [if_pos taken] at split ⊢
      exact ih split
    · rw [if_neg taken] at split ⊢
      injection split with same
      rw [← same]
      exact Bool.eq_false_iff.mpr taken

section Monotone

variable (monotone : ∀ state op next,
    accepts state op = true → accepts (apply state next) op = true)

include monotone

theorem accepts_foldl {state : State} {op : Op} (ops : List Op)
    (accepted : accepts state op = true) : accepts (ops.foldl apply state) op = true := by
  induction ops generalizing state with
  | nil => exact accepted
  | cons next rest ih => exact ih (monotone state op next accepted)

theorem early_accepted {state : State} {ops : List Op} {op : Op}
    (listed : op ∈ early accepts apply state ops) :
    accepts (reached accepts apply state ops) op = true := by
  induction ops generalizing state with
  | nil => cases listed
  | cons head tail ih =>
    unfold early at listed
    unfold reached early
    by_cases taken : accepts state head = true
    · rw [if_pos taken] at listed ⊢
      rcases List.mem_cons.mp listed with rfl | later
      · exact accepts_foldl monotone _ taken
      · exact ih later
    · rw [if_neg taken] at listed
      cases listed

/-- Where an operation once accepted stays so, nothing was turned down exactly when every
operation is among the early ones. -/
theorem late_nil_iff (state : State) (ops : List Op) :
    late accepts apply state ops = [] ↔ ∀ op ∈ ops, op ∈ early accepts apply state ops := by
  constructor
  · intro none op listed
    rcases mem_early_or_late state listed with taken | refused
    · exact taken
    · rw [none] at refused
      cases refused
  · intro all
    cases split : late accepts apply state ops with
    | nil => rfl
    | cons op rest =>
      have listed : op ∈ ops := mem_of_mem_late (split ▸ List.mem_cons_self)
      have accepted := early_accepted monotone (all op listed)
      rw [late_refused split] at accepted
      cases accepted

end Monotone

end BackendComponents.Lib.FirstFailure
