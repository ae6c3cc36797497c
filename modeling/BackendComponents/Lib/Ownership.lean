import BackendComponents.Lib.Threads

/-!
# Objects that hold resources

A table of objects, some of them gone, and the resource each of them holds, if any.
`holders` counts the objects that hold a resource; a resource with one holder has exactly
one place in the table. Objects that hold several resources have their `holdings`, and the
books of resources issued one after another balance when each of them is held or released.
-/

namespace BackendComponents.Lib.Ownership

open BackendComponents.Lib.Threads

set_option autoImplicit false

variable {Object Resource : Type*} [DecidableEq Resource]

def holds (held : Object → Option Resource) (resource : Resource) (slot : Option Object) : Bool :=
  decide (slot.bind held = some resource)

def holders (held : Object → Option Resource) (objects : List (Option Object))
    (resource : Resource) : Nat :=
  objects.countP (holds held resource)

theorem holders_set (held : Object → Option Resource) {objects : List (Option Object)} {id : Nat}
    {slot : Option Object} (found : objects[id]? = some slot) (after : Option Object)
    (resource : Resource) :
    holders held (objects.set id after) resource + indicator (holds held resource slot) =
      holders held objects resource + indicator (holds held resource after) :=
  countP_move (holds held resource) found

theorem holders_append (held : Object → Option Resource) (objects : List (Option Object))
    (slot : Option Object) (resource : Resource) :
    holders held (objects ++ [slot]) resource =
      holders held objects resource + indicator (holds held resource slot) := by
  have counted := countP_spawn (holds held resource) objects 1 slot
  rw [Nat.one_mul] at counted
  exact counted

theorem holders_pos {held : Object → Option Resource} {objects : List (Option Object)} {id : Nat}
    {object : Object} {resource : Resource} (found : objects[id]? = some (some object))
    (holding : held object = some resource) : 0 < holders held objects resource := by
  apply List.countP_pos_iff.mpr
  exact ⟨some object, List.mem_of_getElem? found, decide_eq_true holding⟩

theorem exists_holder {held : Object → Option Resource} {objects : List (Option Object)}
    {resource : Resource} (positive : 0 < holders held objects resource) :
    ∃ (id : Nat) (object : Object), objects[id]? = some (some object) ∧
      held object = some resource := by
  obtain ⟨id, slot, found, holding⟩ := exists_lookup_of_countP positive
  have bound := of_decide_eq_true holding
  obtain ⟨object, present, inside⟩ := Option.bind_eq_some_iff.mp bound
  exact ⟨id, object, by rw [found, present], inside⟩

theorem holder_unique {held : Object → Option Resource} {objects : List (Option Object)}
    {resource : Resource} (one : holders held objects resource ≤ 1) {id other : Nat}
    {object another : Object} (first : objects[id]? = some (some object))
    (holding : held object = some resource) (second : objects[other]? = some (some another))
    (also : held another = some resource) : id = other := by
  have here : holds held resource (some object) = true := decide_eq_true holding
  have there : holds held resource (some another) = true := decide_eq_true also
  exact lookup_unique one second there first here

section Several

variable {held : Object → List Resource}

def holding (held : Object → List Resource) (slot : Option Object) : List Resource :=
  slot.elim [] held

def holdings (held : Object → List Resource) (objects : List (Option Object)) : List Resource :=
  objects.flatMap (holding held)

variable (held) in
theorem holdings_set {objects : List (Option Object)} {id : Nat} {slot : Option Object}
    (found : objects[id]? = some slot) (after : Option Object) (resource : Resource) :
    (holdings held (objects.set id after)).count resource + (holding held slot).count resource =
      (holdings held objects).count resource + (holding held after).count resource := by
  unfold holdings
  induction objects generalizing id with
  | nil => cases found
  | cons head rest ih =>
      cases id with
      | zero =>
          rw [Option.some.inj found]
          simp only [List.set_cons_zero, List.flatMap_cons, List.count_append]
          omega
      | succ place =>
          have later := ih found
          simp only [List.set_cons_succ, List.flatMap_cons, List.count_append]
          omega

theorem holdings_append (objects : List (Option Object)) (slot : Option Object)
    (resource : Resource) :
    (holdings held (objects ++ [slot])).count resource =
      (holdings held objects).count resource + (holding held slot).count resource := by
  unfold holdings
  rw [List.flatMap_append, List.count_append, List.flatMap_singleton]

omit [DecidableEq Resource] in
theorem mem_holdings {objects : List (Option Object)} {object : Object} {resource : Resource}
    (present : some object ∈ objects) (inside : resource ∈ held object) :
    resource ∈ holdings held objects :=
  List.mem_flatMap.mpr ⟨some object, present, inside⟩

end Several

section Issued

variable {issued : Nat} {kept released : List Nat}

/-- Whether a resource has been issued, these being numbered in the order of their issue. -/
def known (issued resource : Nat) : Nat := indicator (decide (resource < issued))

/-- Each resource issued is kept in one place or has been released, once. -/
def Balanced (issued : Nat) (kept released : List Nat) : Prop :=
  ∀ resource, kept.count resource + released.count resource = known issued resource

theorem known_of_lt {resource : Nat} (below : resource < issued) : known issued resource = 1 := by
  unfold known
  rw [decide_eq_true below, indicator_true]

theorem known_of_not_lt {resource : Nat} (above : ¬resource < issued) :
    known issued resource = 0 := by
  unfold known
  rw [decide_eq_false above, indicator_false]

theorem known_succ (issued resource : Nat) :
    known (issued + 1) resource = known issued resource + [issued].count resource := by
  by_cases new : resource = issued
  · rw [new, known_of_lt (Nat.lt_succ_self issued), known_of_not_lt (Nat.lt_irrefl issued),
      List.count_singleton_self]
  · rw [List.count_eq_zero_of_not_mem fun member => new (List.mem_singleton.mp member)]
    unfold known
    congr 2
    apply propext
    omega

theorem known_le_one (issued resource : Nat) : known issued resource ≤ 1 := by
  unfold known indicator
  split <;> decide

theorem balanced_iff :
    Balanced issued kept released ↔
      (∀ resource ∈ kept, resource < issued ∧ resource ∉ released) ∧
        (kept.Nodup ∧ released.Nodup ∧ ∀ resource ∈ released, resource < issued) ∧
          ∀ resource < issued, resource ∈ kept ∨ resource ∈ released := by
  constructor
  · intro balanced
    have bound : ∀ resource, kept.count resource + released.count resource ≤ 1 := by
      intro resource
      rw [balanced resource]
      exact known_le_one issued resource
    have below : ∀ resource, 0 < kept.count resource + released.count resource →
        resource < issued := by
      intro resource positive
      by_contra above
      rw [balanced resource, known_of_not_lt above] at positive
      cases positive
    refine ⟨?_, ⟨?_, ?_, ?_⟩, ?_⟩
    · intro resource member
      have positive := List.count_pos_iff.mpr member
      have few := bound resource
      refine ⟨below resource (by omega), ?_⟩
      intro also
      have other := List.count_pos_iff.mpr also
      omega
    · apply List.nodup_iff_count_le_one.mpr
      intro resource
      have few := bound resource
      omega
    · apply List.nodup_iff_count_le_one.mpr
      intro resource
      have few := bound resource
      omega
    · intro resource member
      have positive := List.count_pos_iff.mpr member
      exact below resource (by omega)
    · intro resource less
      have one := balanced resource
      rw [known_of_lt less] at one
      by_cases inside : resource ∈ kept
      · exact .inl inside
      · rw [List.count_eq_zero_of_not_mem inside] at one
        exact .inr (List.count_pos_iff.mp (by omega))
  · rintro ⟨live, ⟨keptOnce, releasedOnce, bounded⟩, settled⟩ resource
    by_cases less : resource < issued
    · rw [known_of_lt less]
      by_cases inside : resource ∈ kept
      · rw [List.count_eq_one_of_mem keptOnce inside,
          List.count_eq_zero_of_not_mem (live resource inside).2]
      · have gone := (settled resource less).resolve_left inside
        rw [List.count_eq_zero_of_not_mem inside, List.count_eq_one_of_mem releasedOnce gone]
    · rw [known_of_not_lt less,
        List.count_eq_zero_of_not_mem fun member => less (live resource member).1,
        List.count_eq_zero_of_not_mem fun member => less (bounded resource member)]

/-- What an operation does that turns what one object holds into something else: what it
issues is held then, and what it no longer holds is released. -/
def Trade (issued : Nat) (before released : List Nat) (issuedAfter : Nat)
    (after releasedAfter : List Nat) : Prop :=
  ∀ resource, after.count resource + releasedAfter.count resource + known issued resource =
    before.count resource + released.count resource + known issuedAfter resource

theorem trade_refl (before : List Nat) : Trade issued before released issued before released :=
  fun _ => rfl

theorem trade_release (before : List Nat) :
    Trade issued before released issued [] (released ++ before) := by
  intro resource
  rw [List.count_append, List.count_nil]
  omega

theorem trade_issue (before : List Nat) :
    Trade issued before released (issued + 1) (before ++ [issued]) released := by
  intro resource
  rw [List.count_append, known_succ]
  omega

theorem trade_trans {before middle after releasedMiddle releasedAfter : List Nat}
    {issuedMiddle issuedAfter : Nat}
    (first : Trade issued before released issuedMiddle middle releasedMiddle)
    (second : Trade issuedMiddle middle releasedMiddle issuedAfter after releasedAfter) :
    Trade issued before released issuedAfter after releasedAfter := by
  intro resource
  have one := first resource
  have two := second resource
  omega

theorem trade_over_iff {before after releasedAfter : List Nat} {issuedAfter : Nat}
    (clean : Trade issued [] released issuedAfter after releasedAfter) :
    Trade issued before released issuedAfter after releasedAfter ↔ before = [] := by
  constructor
  · intro trade
    apply List.eq_nil_iff_forall_not_mem.mpr
    intro resource member
    have positive := List.count_pos_iff.mpr member
    have one := clean resource
    have two := trade resource
    rw [List.count_nil] at one
    omega
  · intro empty
    rw [empty]
    exact clean

section Table

variable {Item : Type*} {held : Item → List Nat} {objects : List (Option Item)}

/-- The books still balance after an operation on one object exactly if it is a trade. -/
theorem balanced_set_iff (books : Balanced issued (holdings held objects) released) {id : Nat}
    {slot : Option Item} (found : objects[id]? = some slot) (after : Option Item)
    (issuedAfter : Nat) (releasedAfter : List Nat) :
    Balanced issuedAfter (holdings held (objects.set id after)) releasedAfter ↔
      Trade issued (holding held slot) released issuedAfter (holding held after) releasedAfter := by
  constructor
  · intro balanced resource
    have before := books resource
    have now := balanced resource
    have moved := holdings_set held found after resource
    omega
  · intro trade resource
    have before := books resource
    have traded := trade resource
    have moved := holdings_set held found after resource
    omega

theorem balanced_holdings_iff :
    Balanced issued (holdings held objects) released ↔
      (∀ object, some object ∈ objects → ∀ resource ∈ held object,
        resource < issued ∧ resource ∉ released) ∧
        ((holdings held objects).Nodup ∧ released.Nodup ∧
          ∀ resource ∈ released, resource < issued) ∧
          ∀ resource < issued, resource ∈ holdings held objects ∨ resource ∈ released := by
  rw [balanced_iff]
  apply and_congr_left
  intro _
  constructor
  · intro live object present resource inside
    exact live resource (mem_holdings present inside)
  · intro live resource member
    have ⟨slot, present, inside⟩ := List.mem_flatMap.mp member
    cases slot with
    | none => cases inside
    | some object => exact live object present resource inside

theorem balanced_assign_iff (books : Balanced issued (holdings held objects) released)
    {target source : Nat} {slot given : Option Item} (found : objects[target]? = some slot)
    (present : objects[source]? = some given) (different : target ≠ source) {after : Option Item}
    (same : holding held after = holding held given) {emptied : Option Item}
    (nothing : holding held emptied = []) :
    Balanced issued (holdings held ((objects.set target after).set source emptied)) released ↔
      holding held slot = [] := by
  have still : (objects.set target after)[source]? = some given := by
    rw [lookup_move_other fun equal => different equal.symm]
    exact present
  have clean : Trade issued [] released issued [] released := trade_refl []
  rw [← trade_over_iff clean]
  constructor
  · intro balanced resource
    have before := books resource
    have now := balanced resource
    have first := holdings_set held found after resource
    have second := holdings_set held still emptied resource
    rw [nothing, List.count_nil] at second
    rw [same] at first
    rw [List.count_nil]
    omega
  · intro trade resource
    have before := books resource
    have traded := trade resource
    have first := holdings_set held found after resource
    have second := holdings_set held still emptied resource
    rw [nothing, List.count_nil] at second
    rw [same] at first
    rw [List.count_nil] at traded
    omega

end Table

end Issued

end BackendComponents.Lib.Ownership
