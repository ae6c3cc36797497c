import BackendComponents.Inventory.Calls
import BackendComponents.Lib.Histories
import BackendComponents.Lib.Undoing

/-!
# What a compensation adds

`rollback_redis` sends `INCRBY` again after an error, although the error may have been
reported after the server had carried the command out. And it adds to whatever the key
holds by then: a `SET` of a rebuild, or an eviction, since the script has undone the
deduction already.
-/

namespace BackendComponents.Inventory.Rollback

open BackendComponents.Lib.Paths
open BackendComponents.Lib.Threads
open BackendComponents.Lib.Histories
open BackendComponents.Lib.Undoing
open BackendComponents.Inventory.Database
open BackendComponents.Inventory.Repository
open BackendComponents.Inventory.Sessions
open BackendComponents.Inventory.Service
open BackendComponents.Inventory.Calls

set_option autoImplicit false

/-- A command that has changed a stock key, with the call that it was sent for. -/
inductive Effect
  | took (call : Nat) (item : Item) (quantity : Int)
  | added (call : Nat) (item : Item) (quantity : Int) (reported : Bool)
  | stored (item : Item) (stock : Int)
  | evicted (item : Item)
  deriving DecidableEq, Repr

def Effect.change : Effect → Change Item Nat
  | .took call item quantity => .shift call item (-quantity)
  | .added call item quantity _ => .shift call item quantity
  | .stored item stock => .overwrite item (some stock)
  | .evicted item => .overwrite item none

def changes (history : List Effect) : List (Change Item Nat) := history.map Effect.change

def addedBy (id : Nat) : Effect → Bool
  | .added call _ _ _ => decide (call = id)
  | _ => false

/-- An `INCRBY` for the call that has reported its success. -/
def confirmedBy (id : Nat) : Effect → Bool
  | .added call _ _ reported => decide (call = id) && reported
  | _ => false

/-- An `INCRBY` for the call that has thrown after the server had carried it out. -/
def doubtfulBy (id : Nat) : Effect → Bool
  | .added call _ _ reported => decide (call = id) && !reported
  | _ => false

def callEffects (state : State) (id : Nat) (call : Call) (answer : Answer) : List Effect :=
  match call.point, answer with
  | .script, .redis command =>
      match state.redis call.item with
      | some current =>
          if carriedOut command = true ∧ call.quantity ≤ current then
            [.took id call.item call.quantity]
          else []
      | none => []
  | .increment _, .redis command =>
      if carriedOut command = true then
        [.added id call.item call.quantity (decide (command = .returns))]
      else []
  | _, _ => []

def rebuildEffects (rebuild : Rebuild) (answer : Answer) : List Effect :=
  match rebuild.point, answer with
  | .set, .redis command =>
      if carriedOut command = true then [.stored rebuild.item rebuild.stock] else []
  | _, _ => []

def effects (state : State) : Action → List Effect
  | .call id answer => (state.calls[id]?).elim [] fun call => callEffects state id call answer
  | .rebuild id answer => (state.rebuilds[id]?).elim [] fun rebuild => rebuildEffects rebuild answer
  | .evict item => [.evicted item]
  | .request _ _ | .grow | .recycle _ => []

def record (history : List Effect) (state : State) (action : Action) : List Effect :=
  history ++ effects state action

/-- The compensation of a call adds its quantity at most once, and exactly once if it
reports success; then Redis is as if the call had not been there, among the same effects of
the others. -/
structure TakenBackOnce (start now : Table) (history : List Effect) (id : Nat) : Prop where
  at_most : history.countP (addedBy id) ≤ 1
  exactly : history.any (confirmedBy id) = true → history.countP (addedBy id) = 1
  undone : history.any (confirmedBy id) = true →
    now = replay start (without id (changes history))

/-- An `INCRBY` is only carried out if none of the same call has thrown after it had been,
and only succeeds if the key has not been overwritten since the script. -/
def safe (here : State × List Effect) : Action → Bool
  | .call id (.redis command) =>
      (here.1.calls[id]?).elim true fun call =>
        match call.point with
        | .increment _ =>
            !carriedOut command || (!here.2.any (doubtfulBy id) &&
              (decide (command ≠ .returns) || !overwritten id call.item (changes here.2)))
        | _ => true
  | _ => true

/-! ## What one step does to Redis -/

theorem set_key_update (redis : Table) (item : Item) (value : Option Int) :
    setKey redis item value = Function.update redis item value := by
  funext other
  simp [setKey, Function.update_apply]

theorem put_update (redis : Table) (item : Item) (stock : Int) :
    redis.put item stock = Function.update redis item (some stock) := by
  funext other
  simp [Table.put, Function.update_apply]

/-- The points before the script has been answered. -/
def fresh : CallPc → Bool
  | .validate | .connect | .script => true
  | _ => false

/-- From the script of a fast deduction on, until the call returns. -/
def owing : CallPc → Bool
  | .repository (.fast _) _ | .retry _ | .increment _ => true
  | _ => false

def ended : CallPc → Bool
  | .returned _ => true
  | _ => false

/-- What a step of a call does to Redis, and to its place relative to the script. -/
inductive RedisMove (state after : State) (id : Nat) (call : Call) (answer : Answer)
    (next : CallPc) : Prop
  | quiet : callEffects state id call answer = [] → after.redis = state.redis →
      (fresh next = true → fresh call.point = true) →
        (owing next = true → owing call.point = true) → ended call.point = false →
          RedisMove state after id call answer next
  | takes {current : Int} : callEffects state id call answer = [.took id call.item call.quantity] →
      state.redis call.item = some current →
        after.redis = apply state.redis (.shift id call.item (-call.quantity) : Change Item Nat) →
          call.point = .script → fresh next = false → RedisMove state after id call answer next
  | adds {attempt : Nat} {reported : Bool} :
      callEffects state id call answer = [.added id call.item call.quantity reported] →
        after.redis = apply state.redis (.shift id call.item call.quantity : Change Item Nat) →
          call.point = .increment attempt → fresh next = false → owing next = !reported →
            ended next = reported → RedisMove state after id call answer next

theorem script_effects {state : State} {id : Nat} {call : Call} {command : RedisAnswer}
    (at_point : call.point = .script) : callEffects state id call (.redis command) =
      match state.redis call.item with
      | some current =>
          if carriedOut command = true ∧ call.quantity ≤ current then
            [.took id call.item call.quantity]
          else []
      | none => [] := by
  unfold callEffects
  rw [at_point]

theorem deduct_short {current quantity : Int} (short : current < quantity) :
    deductScript (some current) quantity = (some current, [some 0, some current]) :=
  if_pos short

theorem deduct_enough {current quantity : Int} (enough : quantity ≤ current) :
    deductScript (some current) quantity =
      (some (current - quantity), [some 1, some (current - quantity)]) :=
  if_neg (Int.not_lt.mpr enough)

theorem after_script_late (call : Call) (reply : DeductResult) :
    fresh (afterScript call reply) = false := by
  unfold afterScript
  split <;> rfl

theorem script_move {state : State} {id : Nat} {call : Call} {command : RedisAnswer}
    (at_point : call.point = .script) :
    RedisMove state
      { state with
        redis := if carriedOut command then
          setKey state.redis call.item (deductScript (state.redis call.item) call.quantity).1
          else state.redis } id call (.redis command)
      (if command = .returns then
        afterScript call (parseResult (deductScript (state.redis call.item) call.quantity).2)
        else enterRepository call .fallback) := by
  have unchanged : setKey state.redis call.item (state.redis call.item) = state.redis := by
    rw [set_key_update, Function.update_eq_self]
  have effects := @script_effects state id call command at_point
  have late : ∀ reply, fresh (if command = .returns then afterScript call reply
      else enterRepository call .fallback) = false := by
    intro reply
    split
    · exact after_script_late call reply
    · rfl
  have unreturned : ended call.point = false := by
    rw [at_point]
    rfl
  cases held : state.redis call.item with
  | none =>
      rw [held] at unchanged effects
      apply RedisMove.quiet effects _ _ _ unreturned
      · dsimp only [deductScript]
        rw [unchanged, ite_self]
      · intro impossible
        rw [late] at impossible
        cases impossible
      · intro impossible
        split at impossible <;> cases impossible
  | some current =>
      rw [held] at unchanged effects
      dsimp only at effects
      by_cases taken : carriedOut command = true ∧ call.quantity ≤ current
      · rw [if_pos taken] at effects
        apply RedisMove.takes effects held _ at_point (late _)
        dsimp only
        rw [if_pos taken.1, deduct_enough taken.2, set_key_update]
        simp only [apply, held, Option.getD_some]
        rfl
      · have short (done : carriedOut command = true) : current < call.quantity := by
          by_contra enough
          exact taken ⟨done, Int.not_lt.mp enough⟩
        rw [if_neg taken] at effects
        apply RedisMove.quiet effects _ _ _ unreturned
        · dsimp only
          split
          · next done =>
              rw [deduct_short (short done)]
              exact unchanged
          · rfl
        · intro impossible
          rw [late] at impossible
          cases impossible
        · intro impossible
          split at impossible
          · next returns =>
              rw [deduct_short (short (by rw [returns]; rfl))] at impossible
              cases impossible
          · cases impossible

theorem increment_move {state : State} {id attempt : Nat} {call : Call} {command : RedisAnswer}
    {next : CallPc} (at_point : call.point = .increment attempt) (late : fresh next = false)
    (owes : owing next = !decide (command = .returns))
    (finished : ended next = decide (command = .returns)) :
    RedisMove state
      { state with
        redis := if carriedOut command then incrBy state.redis call.item call.quantity
          else state.redis } id call (.redis command) next := by
  by_cases done : carriedOut command = true
  · have effects : callEffects state id call (.redis command) =
        [.added id call.item call.quantity (decide (command = .returns))] := by
      unfold callEffects
      rw [at_point]
      exact if_pos done
    apply RedisMove.adds effects _ at_point late owes finished
    dsimp only
    rw [if_pos done, incrBy, set_key_update]
    rfl
  · have effects : callEffects state id call (.redis command) = [] := by
      unfold callEffects
      rw [at_point]
      exact if_neg done
    apply RedisMove.quiet effects
    · dsimp only
      rw [if_neg done]
    · intro early
      cases late.symm.trans early
    · intro _
      rw [at_point]
      rfl
    · rw [at_point]
      rfl

theorem quiet_move {state after : State} {id : Nat} {call : Call} {point next : CallPc}
    {answer : Answer} (at_point : call.point = point)
    (none : ∀ state, callEffects state id { call with point := point } answer = [])
    (same : after.redis = state.redis) (before : fresh next = true → fresh point = true)
    (inside : owing next = true → owing point = true) (unfinished : ended point = false) :
    RedisMove state after id call answer next := by
  subst at_point
  exact .quiet (none state) same before inside unfinished

theorem redis_move {retryTimes : Int} {state after : State} (id : Nat) {call : Call}
    {answer : Answer} {next : CallPc}
    (taken : callStep retryTimes state call answer = some (after, next)) :
    RedisMove state after id call answer next := by
  unfold callStep at taken
  split at taken
  · next at_point =>
      split at taken <;> cases taken
      · exact quiet_move at_point (fun _ => rfl) rfl (fun _ => rfl) nofun rfl
      · exact quiet_move at_point (fun _ => rfl) rfl (fun _ => rfl) nofun rfl
  · next at_point =>
      cases taken
      exact quiet_move at_point (fun _ => rfl) rfl (fun _ => rfl) nofun rfl
  · next at_point =>
      cases taken
      exact quiet_move at_point (fun _ => rfl) rfl (fun _ => rfl) nofun rfl
  · next command at_point =>
      cases taken
      exact script_move at_point
  · next route result at_point =>
      obtain ⟨point, known, same⟩ := Option.map_eq_some_iff.mp taken
      cases same
      cases route <;> cases result <;> cases known <;>
        exact quiet_move at_point (fun _ => rfl) rfl nofun (fun _ => by first | rfl | contradiction) rfl
  · next route pc repoAnswer at_point =>
      obtain ⟨moved, stepped, same⟩ := Option.map_eq_some_iff.mp taken
      cases same
      cases route <;> exact quiet_move at_point (fun _ => rfl) rfl nofun (fun inside => inside) rfl
  · next attempt at_point =>
      split at taken
      · cases taken
      · cases taken
        exact quiet_move at_point (fun _ => rfl) rfl nofun nofun rfl
  · next attempt at_point =>
      split at taken
      · cases taken
        exact quiet_move at_point (fun _ => rfl) rfl nofun (fun _ => rfl) rfl
      · cases taken
  · next attempt at_point =>
      split at taken
      · cases taken
        exact quiet_move at_point (fun _ => rfl) rfl nofun (fun _ => rfl) rfl
      · cases taken
  · next attempt command at_point =>
      cases taken
      apply increment_move at_point
      · cases command <;> rfl
      · cases command <;> rfl
      · cases command <;> rfl
  · cases taken

theorem rebuild_move {redis after : Table} {rebuild : Rebuild} {answer : Answer} {next : RebuildPc}
    (taken : rebuildStep redis rebuild answer = some (after, next)) :
    after = replay redis (changes (rebuildEffects rebuild answer)) := by
  unfold rebuildStep at taken
  unfold rebuildEffects
  split at taken
  · next at_point =>
      cases taken
      rw [at_point]
      rfl
  · next at_point =>
      cases taken
      rw [at_point]
      rfl
  · next command at_point =>
      cases taken
      rw [at_point]
      dsimp only
      split
      · rw [put_update]
        rfl
      · rfl
  · cases taken

/-! ## What the history knows of a call -/

theorem changes_append (history added : List Effect) :
    changes (history ++ added) = changes history ++ changes added := List.map_append

theorem others_changes {id : Nat} {added : List Effect}
    (others : ∀ effect ∈ added, madeBy id effect.change = false) :
    ∀ change ∈ changes added, madeBy id change = false := by
  intro change member
  rcases List.mem_map.mp member with ⟨effect, listed, same⟩
  rw [← same]
  exact others effect listed

theorem without_own (id : Nat) (effect : Effect) (own : madeBy id effect.change = true)
    (history : List Effect) :
    without id (changes (history ++ [effect])) = without id (changes history) := by
  have gone : without id (changes [effect]) = [] := by
    apply without_of_all
    intro change member
    rw [List.mem_singleton.mp member]
    exact own
  rw [changes_append, without_append, gone, List.append_nil]

structure Traced (redis : Table) (here : State × List Effect) (id : Nat) (call : Call) : Prop where
  fresh : fresh call.point = true → ∀ effect ∈ here.2, madeBy id effect.change = false
  unfinished : ended call.point = false → here.2.any (confirmedBy id) = false
  owing : owing call.point = true → here.2.any (doubtfulBy id) = false →
    Outstanding here.1.redis (replay redis (without id (changes here.2))) call.item (-call.quantity)
      (overwritten id call.item (changes here.2))

structure Booked (redis : Table) (here : State × List Effect) : Prop where
  replayed : here.1.redis = replay redis (changes here.2)
  calls : ∀ (id : Nat) (call : Call), here.1.calls[id]? = some call →
    Admissible call ∧ Traced redis here id call
  later : ∀ id, here.1.calls.length ≤ id → ∀ effect ∈ here.2, madeBy id effect.change = false

theorem made_of_added {id : Nat} {effect : Effect} (added : addedBy id effect = true) :
    madeBy id effect.change = true := by
  cases effect with
  | added call item quantity reported => exact added
  | took | stored | evicted => cases added

theorem added_of_confirmed {id : Nat} {effect : Effect} (confirmed : confirmedBy id effect = true) :
    addedBy id effect = true := by
  cases effect with
  | added call item quantity reported => exact (Bool.and_eq_true_iff.mp confirmed).1
  | took | stored | evicted => cases confirmed

theorem added_of_doubtful {id : Nat} {effect : Effect} (doubtful : doubtfulBy id effect = true) :
    addedBy id effect = true := by
  cases effect with
  | added call item quantity reported => exact (Bool.and_eq_true_iff.mp doubtful).1
  | took | stored | evicted => cases doubtful

theorem confirmed_or_doubtful {id : Nat} {effect : Effect} (added : addedBy id effect = true) :
    confirmedBy id effect = true ∨ doubtfulBy id effect = true := by
  cases effect with
  | added call item quantity reported =>
      have same : decide (call = id) = true := added
      cases reported
      · exact Or.inr (by simp [doubtfulBy, same])
      · exact Or.inl (by simp [confirmedBy, same])
  | took | stored | evicted => cases added

section Appending

variable {redis : Table} {state after : State} {history added : List Effect} {id : Nat} {call : Call}

theorem none_of_others {p : Effect → Bool} (own : ∀ effect, p effect = true → addedBy id effect = true)
    (others : ∀ effect ∈ added, madeBy id effect.change = false) :
    ∀ effect ∈ added, ¬p effect = true := by
  intro effect member holds
  have made := made_of_added (own effect holds)
  rw [others effect member] at made
  cases made

theorem any_others {p : Effect → Bool}
    (own : ∀ effect, p effect = true → addedBy id effect = true)
    (others : ∀ effect ∈ added, madeBy id effect.change = false) :
    (history ++ added).any p = history.any p := by
  have none : added.any p = false := List.any_eq_false.mpr (none_of_others own others)
  rw [List.any_append, none, Bool.or_false]

theorem count_others (others : ∀ effect ∈ added, madeBy id effect.change = false) :
    (history ++ added).countP (addedBy id) = history.countP (addedBy id) := by
  have none : added.countP (addedBy id) = 0 :=
    List.countP_eq_zero.mpr (none_of_others (fun _ holds => holds) others)
  rw [List.countP_append, none, Nat.add_zero]

theorem bare_others (others : ∀ effect ∈ added, madeBy id effect.change = false) :
    replay redis (without id (changes (history ++ added))) =
      replay (replay redis (without id (changes history))) (changes added) := by
  rw [changes_append, without_append, replay_append, without_of_none (others_changes others)]

theorem traced_others (before : Traced redis (state, history) id call)
    (replayed : after.redis = replay state.redis (changes added))
    (others : ∀ effect ∈ added, madeBy id effect.change = false) :
    Traced redis (after, history ++ added) id call := by
  constructor
  · intro early effect member
    rcases List.mem_append.mp member with old | new
    · exact before.fresh early effect old
    · exact others effect new
  · intro open_call
    rw [any_others (fun _ => added_of_confirmed) others]
    exact before.unfinished open_call
  · intro inside clear
    rw [any_others (fun _ => added_of_doubtful) others] at clear
    rw [bare_others others, replayed, changes_append, overwritten_append]
    exact outstanding_others (before.owing inside clear) (others_changes others)

theorem once_others (before : TakenBackOnce redis state.redis history id)
    (replayed : after.redis = replay state.redis (changes added))
    (others : ∀ effect ∈ added, madeBy id effect.change = false) :
    TakenBackOnce redis after.redis (history ++ added) id := by
  constructor
  · rw [count_others others]
    exact before.at_most
  · intro confirmed
    rw [any_others (fun _ => added_of_confirmed) others] at confirmed
    rw [count_others others]
    exact before.exactly confirmed
  · intro confirmed
    rw [any_others (fun _ => added_of_confirmed) others] at confirmed
    rw [bare_others others, replayed]
    exact congrArg (fun table => replay table (changes added)) (before.undone confirmed)

end Appending

section Acting

variable {redis : Table} {state after : State} {history : List Effect} {id : Nat} {call : Call}
  {answer : Answer} {next : CallPc}

theorem redis_replayed (move : RedisMove state after id call answer next) :
    after.redis = replay state.redis (changes (callEffects state id call answer)) := by
  cases move with
  | quiet effects same =>
      rw [effects]
      exact same
  | takes effects _ moved =>
      rw [effects]
      exact moved
  | adds effects moved =>
      rw [effects]
      exact moved

theorem others_of_call (move : RedisMove state after id call answer next) {other : Nat}
    (different : other ≠ id) :
    ∀ effect ∈ callEffects state id call answer, madeBy other effect.change = false := by
  have foreign : decide (id = other) = false := decide_eq_false (Ne.symm different)
  cases move with
  | quiet effects =>
      rw [effects]
      nofun
  | takes effects =>
      rw [effects]
      intro effect member
      rw [List.mem_singleton.mp member]
      exact foreign
  | adds effects =>
      rw [effects]
      intro effect member
      rw [List.mem_singleton.mp member]
      exact foreign

/-- After the script the table lacks the quantity, compared with the table without the call. -/
theorem outstanding_script {current : Int} (replayed : state.redis = replay redis (changes history))
    (untouched : ∀ effect ∈ history, madeBy id effect.change = false)
    (held : state.redis call.item = some current) :
    Outstanding (apply state.redis (.shift id call.item (-call.quantity) : Change Item Nat))
      (replay redis (without id (changes (history ++ [.took id call.item call.quantity]))))
      call.item (-call.quantity)
      (overwritten id call.item (changes (history ++ [.took id call.item call.quantity]))) := by
  have flag : overwritten id call.item (changes (history ++ [.took id call.item call.quantity])) =
      false := by
    rw [changes_append, overwritten_append]
    exact if_pos rfl
  have bare : replay redis (without id (changes (history ++ [.took id call.item call.quantity]))) =
      state.redis := by
    rw [without_own id (.took id _ _) (decide_eq_true rfl)]
    rw [without_of_none (others_changes untouched)]
    exact replayed.symm
  rw [flag, bare]
  exact outstanding_made held

theorem traced_self (move : RedisMove state after id call answer next)
    (replayed : state.redis = replay redis (changes history))
    (before : Traced redis (state, history) id call) :
    Traced redis (after, history ++ callEffects state id call answer) id
      { call with point := next } := by
  cases move with
  | quiet effects same early inside unfinished =>
      rw [effects, List.append_nil]
      constructor
      · intro fresh_next
        exact before.fresh (early fresh_next)
      · intro _
        exact before.unfinished unfinished
      · intro owing_next clear
        rw [same]
        exact before.owing (inside owing_next) clear
  | takes effects held moved at_point late =>
      have untouched := before.fresh (by rw [at_point]; rfl)
      have unconfirmed := before.unfinished (by rw [at_point]; rfl)
      rw [effects]
      constructor
      · intro impossible
        rw [late] at impossible
        cases impossible
      · intro _
        rw [List.any_append, unconfirmed]
        rfl
      · intro _ _
        rw [moved]
        exact outstanding_script replayed untouched held
  | @adds attempt reported effects moved at_point late owes finished =>
      have unconfirmed := before.unfinished (by rw [at_point]; rfl)
      rw [effects]
      constructor
      · intro impossible
        rw [late] at impossible
        cases impossible
      · intro open_call
        have failed : reported = false := finished.symm.trans open_call
        rw [List.any_append, unconfirmed, failed]
        simp [confirmedBy]
      · intro inside clear
        have failed : reported = false := by
          rw [owes] at inside
          exact Bool.not_eq_true' _ ▸ inside
        rw [List.any_append, failed] at clear
        simp [doubtfulBy] at clear

theorem count_zero (unconfirmed : history.any (confirmedBy id) = false)
    (clear : history.any (doubtfulBy id) = false) : history.countP (addedBy id) = 0 := by
  apply List.countP_eq_zero.mpr
  intro effect member added
  rcases confirmed_or_doubtful added with confirmed | doubtful
  · exact List.any_eq_false.mp unconfirmed effect member confirmed
  · exact List.any_eq_false.mp clear effect member doubtful

theorem count_positive (doubtful : history.any (doubtfulBy id) = true) :
    0 < history.countP (addedBy id) := by
  rcases List.any_eq_true.mp doubtful with ⟨effect, member, holds⟩
  exact List.countP_pos_iff.mpr ⟨effect, member, added_of_doubtful holds⟩

/-- An `INCRBY` keeps to the promise exactly when nothing is in doubt before it and, if it
succeeds, the key has not been overwritten. -/
theorem once_added {reported : Bool} (positive : 0 < call.quantity)
    (traced : Traced redis (state, history) id call) (inside : owing call.point = true)
    (unfinished : ended call.point = false)
    (moved : after.redis = apply state.redis
      (.shift id call.item call.quantity : Change Item Nat)) :
    TakenBackOnce redis after.redis (history ++ [.added id call.item call.quantity reported]) id ↔
      history.any (doubtfulBy id) = false ∧
        (reported = true → overwritten id call.item (changes history) = false) := by
  have unconfirmed := traced.unfinished unfinished
  have counted : (history ++ [Effect.added id call.item call.quantity reported]).countP (addedBy id) =
      history.countP (addedBy id) + 1 := by
    rw [List.countP_append]
    simp [addedBy]
  have confirms : (history ++ [Effect.added id call.item call.quantity reported]).any
      (confirmedBy id) = reported := by
    rw [List.any_append, unconfirmed]
    simp [confirmedBy]
  by_cases clear : history.any (doubtfulBy id) = false
  · have none := count_zero unconfirmed clear
    have restored := undone_iff id (traced.owing inside clear) (by omega)
    rw [Int.neg_neg, ← moved] at restored
    constructor
    · intro once
      refine ⟨clear, ?_⟩
      intro success
      have undone := once.undone (confirms.trans success)
      rw [without_own id (.added id _ _ _) (decide_eq_true rfl)] at undone
      exact restored.mp undone
    · rintro ⟨_, fresh_key⟩
      constructor
      · rw [counted, none]
      · intro _
        rw [counted, none]
      · intro confirmed
        rw [without_own id (.added id _ _ _) (decide_eq_true rfl)]
        exact restored.mpr (fresh_key (confirms.symm.trans confirmed))
  · have some_before := count_positive (eq_true_of_ne_false clear)
    constructor
    · intro once
      have few := once.at_most
      rw [counted] at few
      omega
    · rintro ⟨none, _⟩
      exact absurd none clear

end Acting

/-! ## Runs -/

section Runs

variable {redis : Table} {state after : State} {history : List Effect} {action : Action}
  {retryTimes : Int}

theorem effects_of_call {id : Nat} {call : Call} {answer : Answer}
    (found : state.calls[id]? = some call) :
    effects state (.call id answer) = callEffects state id call answer := by
  unfold effects
  dsimp only
  rw [found]
  rfl

theorem quiet_step (taken : step retryTimes state action = some after)
    (outside : ∀ id answer, action ≠ .call id answer) :
    after.redis = replay state.redis (changes (effects state action)) ∧
      (∀ id, ∀ effect ∈ effects state action, madeBy id effect.change = false) ∧
        (after.calls = state.calls ∨ ∃ item quantity, after.calls =
          state.calls ++ [{ item := item, quantity := quantity, point := .validate }]) := by
  cases action with
  | call id answer => exact absurd rfl (outside id answer)
  | request item quantity =>
      cases taken
      exact ⟨rfl, fun _ => nofun, Or.inr ⟨item, quantity, rfl⟩⟩
  | rebuild id answer =>
      obtain ⟨rebuild, found, rest⟩ := Option.bind_eq_some_iff.mp taken
      obtain ⟨moved, stepped, rfl⟩ := Option.map_eq_some_iff.mp rest
      have effects_eq : effects state (.rebuild id answer) = rebuildEffects rebuild answer := by
        unfold effects
        dsimp only
        rw [found]
        rfl
      rw [effects_eq]
      refine ⟨rebuild_move stepped, ?_, Or.inl rfl⟩
      intro other effect member
      unfold rebuildEffects at member
      split at member
      · split at member
        · rw [List.mem_singleton.mp member]
          rfl
        · cases member
      · cases member
  | evict item =>
      cases taken
      refine ⟨set_key_update state.redis item none, ?_, Or.inl rfl⟩
      intro other effect member
      rw [List.mem_singleton.mp member]
      rfl
  | grow =>
      cases taken
      exact ⟨rfl, fun _ => nofun, Or.inl rfl⟩
  | recycle place =>
      obtain ⟨store, _, rfl⟩ := Option.map_eq_some_iff.mp taken
      exact ⟨rfl, fun _ => nofun, Or.inl rfl⟩

theorem replayed_append {added : List Effect} (booked : Booked redis (state, history))
    (moved : after.redis = replay state.redis (changes added)) :
    after.redis = replay redis (changes (history ++ added)) := by
  have before := booked.replayed
  dsimp only at before
  rw [changes_append, replay_append, ← before]
  exact moved

theorem booked_quiet {added : List Effect} (booked : Booked redis (state, history))
    (moved : after.redis = replay state.redis (changes added))
    (others : ∀ id, ∀ effect ∈ added, madeBy id effect.change = false)
    (calls : after.calls = state.calls ∨ ∃ item quantity, after.calls =
      state.calls ++ [{ item := item, quantity := quantity, point := .validate }]) :
    Booked redis (after, history ++ added) := by
  have old : ∀ (id : Nat) (call : Call), state.calls[id]? = some call →
      Admissible call ∧ Traced redis (after, history ++ added) id call := by
    intro id call found
    have before := booked.calls id call found
    exact ⟨before.1, traced_others before.2 moved (others id)⟩
  have fresh_id : ∀ id, state.calls.length ≤ id →
      ∀ effect ∈ history ++ added, madeBy id effect.change = false := by
    intro id bound effect member
    rcases List.mem_append.mp member with earlier | now
    · exact booked.later id bound effect earlier
    · exact others id effect now
  refine ⟨replayed_append booked moved, ?_, ?_⟩
  · intro id call found
    dsimp only at found
    rcases calls with same | ⟨item, quantity, grown⟩
    · rw [same] at found
      exact old id call found
    · rw [grown] at found
      rcases lookup_append found with earlier | ⟨rfl, rfl⟩
      · exact old id call earlier
      · refine ⟨admissible_requested item quantity, ?_, ?_, nofun⟩
        · intro _
          exact fresh_id _ (Nat.le_refl _)
        · intro _
          apply List.any_eq_false.mpr
          exact none_of_others (fun _ => added_of_confirmed) (fresh_id _ (Nat.le_refl _))
  · intro id bound
    apply fresh_id
    dsimp only at bound
    rcases calls with same | ⟨item, quantity, grown⟩
    · rwa [same] at bound
    · rw [grown, List.length_append] at bound
      omega

theorem booked_call {id : Nat} {call : Call} {answer : Answer} {next : CallPc}
    (booked : Booked redis (state, history)) (found : state.calls[id]? = some call)
    (taken : callStep retryTimes state call answer = some (after, next)) :
    Booked redis ({ after with calls := state.calls.set id { call with point := next } },
      history ++ callEffects state id call answer) := by
  have move := redis_move id taken
  have replayed := redis_replayed move
  refine ⟨replayed_append booked replayed, ?_, ?_⟩
  · intro other seen there
    rcases lookup_move there with ⟨rfl, rfl⟩ | ⟨different, old⟩
    · have before := booked.calls _ call found
      refine ⟨admissible_move (call_step_cases taken) before.1, ?_⟩
      have traced := traced_self move booked.replayed before.2
      exact ⟨traced.fresh, traced.unfinished, traced.owing⟩
    · have before := booked.calls other seen old
      exact ⟨before.1, traced_others before.2 replayed (others_of_call move different)⟩
  · intro other bound effect member
    rw [List.length_set] at bound
    rcases List.mem_append.mp member with earlier | now
    · exact booked.later other bound effect earlier
    · have different : other ≠ id := by
        have inside := lookup_bound found
        omega
      exact others_of_call move different effect now

theorem step_split (taken : step retryTimes state action = some after) :
    (∃ id answer call between point, action = .call id answer ∧ state.calls[id]? = some call ∧
      callStep retryTimes state call answer = some (between, point) ∧
      after = { between with calls := state.calls.set id { call with point := point } }) ∨
    ∀ id answer, action ≠ .call id answer := by
  cases action with
  | call id answer =>
      obtain ⟨call, found, rest⟩ := Option.bind_eq_some_iff.mp taken
      obtain ⟨⟨between, point⟩, stepped, same⟩ := Option.map_eq_some_iff.mp rest
      exact Or.inl ⟨id, answer, call, between, point, rfl, found, stepped, same.symm⟩
  | request | rebuild | evict | grow | recycle => exact Or.inr fun _ _ => nofun

theorem booked_step {here next : State × List Effect} (booked : Booked redis here)
    (taken : watched (step retryTimes) record here action = some next) : Booked redis next := by
  obtain ⟨moved, noted⟩ := watched_cases taken
  obtain ⟨state, history⟩ := here
  obtain ⟨after, recorded⟩ := next
  dsimp only at moved noted
  subst noted
  unfold record
  rcases step_split moved with ⟨id, answer, call, between, point, rfl, found, stepped, rfl⟩ | outside
  · rw [effects_of_call found]
    exact booked_call booked found stepped
  · obtain ⟨replayed, others, calls⟩ := quiet_step moved outside
    exact booked_quiet booked replayed others calls

theorem safe_quiet {id : Nat} {call : Call} {answer : Answer} (found : state.calls[id]? = some call)
    (effects : callEffects state id call answer = []) :
    safe (state, history) (.call id answer) = true := by
  cases answer with
  | redis command =>
      unfold safe
      dsimp only
      rw [found, Option.elim_some]
      split
      · next attempt at_point =>
          have refused : carriedOut command = false := by
            unfold callEffects at effects
            rw [at_point] at effects
            dsimp only at effects
            split at effects
            · cases effects
            · next failed => exact Bool.eq_false_iff.mpr failed
          rw [refused]
          rfl
      · rfl
  | go | connected | unavailable | repo answer => rfl

theorem safe_script {id : Nat} {call : Call} {answer : Answer}
    (found : state.calls[id]? = some call) (at_point : call.point = .script) :
    safe (state, history) (.call id answer) = true := by
  cases answer with
  | redis command =>
      unfold safe
      dsimp only
      rw [found, Option.elim_some, at_point]
  | go | connected | unavailable | repo answer => rfl

theorem safe_added {id attempt : Nat} {call : Call} {answer : Answer} {reported : Bool}
    (found : state.calls[id]? = some call) (at_point : call.point = .increment attempt)
    (effects : callEffects state id call answer =
      [.added id call.item call.quantity reported]) :
    safe (state, history) (.call id answer) = true ↔ history.any (doubtfulBy id) = false ∧
      (reported = true → overwritten id call.item (changes history) = false) := by
  unfold callEffects at effects
  rw [at_point] at effects
  cases answer with
  | redis command =>
      dsimp only at effects
      split at effects
      · next done =>
          injection effects with same
          injection same with _ _ _ success
          unfold safe
          dsimp only
          rw [found, Option.elim_some, at_point]
          dsimp only
          rw [done, ← success]
          cases history.any (doubtfulBy id) <;>
            cases overwritten id call.item (changes history) <;> simp
      · cases effects
  | go | connected | unavailable | repo answer => cases effects

theorem once_call {id : Nat} {call : Call} {answer : Answer} {next : CallPc}
    (booked : Booked redis (state, history)) (found : state.calls[id]? = some call)
    (before : ∀ id, TakenBackOnce redis state.redis history id)
    (taken : callStep retryTimes state call answer = some (after, next)) :
    (∀ other, TakenBackOnce redis after.redis
      (history ++ callEffects state id call answer) other) ↔
      safe (state, history) (.call id answer) = true := by
  have move := redis_move id taken
  have replayed := redis_replayed move
  obtain ⟨admissible, traced⟩ := booked.calls id call found
  have elsewhere : ∀ other, other ≠ id → TakenBackOnce redis after.redis
      (history ++ callEffects state id call answer) other := by
    intro other different
    exact once_others (before other) replayed (others_of_call move different)
  cases move with
  | quiet effects same =>
      rw [iff_true_right (safe_quiet found effects)]
      intro other
      apply once_others (before other) replayed
      rw [effects]
      nofun
  | takes effects held moved at_point =>
      rw [iff_true_right (safe_script found at_point)]
      intro other
      by_cases own : other = id
      · have unconfirmed := traced.unfinished (by rw [at_point]; rfl)
        have still : (history ++ callEffects state id call answer).any (confirmedBy id) = false := by
          rw [effects, List.any_append, unconfirmed]
          rfl
        rw [own]
        constructor
        · rw [effects, List.countP_append]
          exact (before id).at_most
        · intro impossible
          rw [still] at impossible
          cases impossible
        · intro impossible
          rw [still] at impossible
          cases impossible
      · exact elsewhere other own
  | @adds attempt reported effects moved at_point =>
      have positive := admissible.positive (by rw [at_point]; rfl)
      have kept : TakenBackOnce redis after.redis
          (history ++ [.added id call.item call.quantity reported]) id ↔ _ :=
        once_added positive traced (by rw [at_point]; rfl) (by rw [at_point]; rfl) moved
      rw [safe_added found at_point effects, ← kept]
      constructor
      · intro all
        rw [← effects]
        exact all id
      · intro own other
        by_cases same : other = id
        · rw [same, effects]
          exact own
        · exact elsewhere other same

theorem once_step {here next : State × List Effect} (booked : Booked redis here)
    (before : ∀ id, TakenBackOnce redis here.1.redis here.2 id)
    (taken : watched (step retryTimes) record here action = some next) :
    (∀ id, TakenBackOnce redis next.1.redis next.2 id) ↔ safe here action = true := by
  obtain ⟨moved, noted⟩ := watched_cases taken
  obtain ⟨state, history⟩ := here
  obtain ⟨after, recorded⟩ := next
  dsimp only at moved noted
  subst noted
  unfold record
  rcases step_split moved with ⟨id, answer, call, between, point, rfl, found, stepped, rfl⟩ | outside
  · rw [effects_of_call found]
    have kept := once_call booked found before stepped
    exact kept
  · obtain ⟨replayed, others, _⟩ := quiet_step moved outside
    have harmless : safe (state, history) action = true := by
      cases action with
      | call id answer => exact absurd rfl (outside id answer)
      | request | rebuild | evict | grow | recycle => rfl
    rw [iff_true_right harmless]
    intro id
    exact once_others (before id) replayed (others id)

end Runs

/-- In a run, every compensation is taken back once exactly when all steps are safe. -/
theorem taken_back_once_iff_safe (retryTimes : Int) (stock redis : Table) (connections : Nat)
    {trail : List ((State × List Effect) × Action)} {last : State × List Effect}
    (path : Path (watched (step retryTimes) record) (start stock redis connections, []) trail last) :
    (∀ here ∈ visited trail last, ∀ id, TakenBackOnce redis here.1.redis here.2 id) ↔
      ∀ taken ∈ trail, safe taken.1 taken.2 = true := by
  apply path_property_iff_good (Booked redis)
    (fun here => ∀ id, TakenBackOnce redis here.1.redis here.2 id)
    (fun here action => safe here action = true) _ _ _ _ path
  · exact ⟨rfl, nofun, fun _ _ => nofun⟩
  · intro id
    exact ⟨Nat.zero_le 1, nofun, nofun⟩
  · intro here action next booked taken
    exact booked_step booked taken
  · intro here action next booked before taken
    exact once_step booked before taken

def tenEach : Table := fun _ => some 10

/-- A call that takes three pieces in Redis and finds no connection for MySQL; it is about
to send its first `INCRBY`. -/
def failedDeduction : List Action :=
  [.request 1 3, .call 0 .go, .call 0 .connected, .call 0 (.redis .returns),
    .call 0 (.repo .timeout), .call 0 .go, .call 0 .connected]

/-- While another call takes two pieces, a lost `INCRBY` is sent again. -/
def retriedCompensation : List Action :=
  failedDeduction ++ [.call 0 (.redis (.throws false)), .request 1 2, .call 1 .go,
    .call 1 .connected, .call 1 (.redis .returns), .call 0 .connected, .call 0 (.redis .returns)]

theorem taken_back_retried :
    ∃ trail last, Path (watched (step 3) record) (start tenEach tenEach 1, []) trail last ∧
      last.2 = [.took 0 1 3, .took 1 1 2, .added 0 1 3 true] ∧
      ∀ here ∈ visited trail last, ∀ id, TakenBackOnce tenEach here.1.redis here.2 id := by
  obtain ⟨last, executed, checked⟩ := exec_checked (watched (step 3) record)
    (start tenEach tenEach 1, []) retriedCompensation
    (fun last => decide (last.2 = [.took 0 1 3, .took 1 1 2, .added 0 1 3 true])) (by decide)
  have path := path_of_exec executed
  refine ⟨_, last, path, of_decide_eq_true checked, ?_⟩
  apply (taken_back_once_iff_safe 3 tenEach tenEach 1 path).mpr
  apply List.all_eq_true.mp
  decide

/-- The first `INCRBY` throws after it has been carried out and the second one succeeds: of
ten pieces there are thirteen. -/
theorem compensated_twice :
    ∃ trail last, Path (watched (step 3) record) (start tenEach tenEach 1, []) trail last ∧
      last.1.redis 1 = some 13 ∧
      ¬∀ here ∈ visited trail last, ∀ id, TakenBackOnce tenEach here.1.redis here.2 id := by
  obtain ⟨last, executed, checked⟩ := exec_checked (watched (step 3) record)
    (start tenEach tenEach 1, [])
    (failedDeduction ++ [.call 0 (.redis (.throws true)), .call 0 .connected,
      .call 0 (.redis .returns)])
    (fun last => decide (last.1.redis 1 = some 13 ∧ last.2.countP (addedBy 0) = 2)) (by decide)
  obtain ⟨pieces, twice⟩ := of_decide_eq_true checked
  refine ⟨_, last, path_of_exec executed, pieces, ?_⟩
  intro all
  have once := all last (List.mem_append_right _ (List.mem_singleton.mpr rfl)) 0
  have few := once.at_most
  omega

end BackendComponents.Inventory.Rollback
