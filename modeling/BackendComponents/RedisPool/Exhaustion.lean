import BackendComponents.RedisPool.Waiting

/-!
# What a timeout says about the pool

A caller waits only when nothing is idle and the limit is reached. A connection that is
deleted afterwards makes room that the waiting caller does not learn of. An unhealthy
connection is deleted without the mutex, also while a caller is between the test of the
limit and its wait.
-/

namespace BackendComponents.RedisPool.Exhaustion

open BackendComponents.Lib.Paths
open BackendComponents.Lib.Threads
open BackendComponents.RedisPool.Model
open BackendComponents.RedisPool.Moves
open BackendComponents.RedisPool.Sweeping
open BackendComponents.RedisPool.Accounting
open BackendComponents.RedisPool.Waiting

set_option autoImplicit false

def existing (state : State) : Nat := state.pool.connQueue.length + state.callers.countP owns

/-- A call whose wait has timed out and that returns an empty guard leaves a pool with
nothing idle and no room. -/
def TimesOutFull (cfg : Config) (state : State) (action : Action) (after : State) : Prop :=
  ∀ (id : Nat) (answer : Answer), action = .caller id answer →
    state.callers[id]? = some (.getting (.awake true)) → after.callers[id]? = some .idle →
      after.pool.connQueue = [] ∧ (existing after : Int) = cfg.maxSize

/-- A connection has been deleted without the size being lowered, or the recycler is to
delete some. -/
def deletes (cfg : Config) (state : State) (action : Action) : Bool :=
  state.callers.any deleting || match action with
    | .recycle _ => decide (0 < excessIn cfg.minSize cfg.maxIdleTime state.pool)
    | _ => false

/-- Past the test of the limit with nothing to take, in the wait, or past it with the time
up. -/
def waits (pool : Pool) : Caller → Bool
  | .getting .testEmpty => decide (pool.connQueue = [])
  | .getting .waiting | .getting (.relock true) | .getting (.awake true) => true
  | _ => false

/-- No connection is deleted while a call waits, no write of the size gets lost, and no
popped entry is read. -/
structure Undisturbed (cfg : Config) (state : State) (action : Action) : Prop where
  apart : deletes cfg state action = true →
    ∀ caller ∈ state.callers, waits state.pool caller = false
  fits : storesFit state action = true
  live : readsLive cfg state action = true

instance (cfg : Config) (state : State) (action : Action) :
    Decidable (Undisturbed cfg state action) :=
  decidable_of_iff ((deletes cfg state action = true → ∀ caller ∈ state.callers,
    waits state.pool caller = false) ∧ storesFit state action = true ∧
      readsLive cfg state action = true)
    ⟨fun all => ⟨all.1, all.2.1, all.2.2⟩, fun calm => ⟨calm.apart, calm.fits, calm.live⟩⟩

/-- Whoever waits does so at the limit, an expansion has filled the queue when it is over,
and every call of the factory has succeeded. -/
structure Saturated (cfg : Config) (state : State) : Prop where
  full : ∀ caller ∈ state.callers, waits state.pool caller = true →
    state.pool.currentSize = cfg.maxSize
  filled : ∀ id : Nat, state.callers[id]? = some (.getting (.expanding 0)) →
    state.pool.connQueue ≠ []
  made : state.pool.failures = 0

/-! ## Steps of a caller -/

theorem waits_outside {caller : Caller} (outside : inside caller = false) (pool other : Pool) :
    waits other caller = waits pool caller := by
  cases caller with
  | getting pc =>
      cases pc with
      | relock timedOut => cases timedOut <;> rfl
      | _ => first | rfl | cases outside
  | _ => rfl

theorem waits_same {pool other : Pool} (queue : other.connQueue = pool.connQueue)
    (caller : Caller) : waits other caller = waits pool caller := by
  unfold waits
  rw [queue]

theorem caller_size {cfg : Config} {id : Nat} {pool after : Pool} {caller moved : Caller}
    {answer : Answer} (move : CallerMove cfg id pool answer caller after moved) :
    after.currentSize = pool.currentSize ∨ 0 < reserve caller ∨
      deleting caller = true := by
  cases move with
  | get move =>
      cases move with
      | create succeeds waiter left => exact .inr (.inl (Nat.succ_pos left))
      | _ => exact .inl rfl
  | giveBack move =>
      cases move with
      | store read => exact .inr (.inr rfl)
      | replenishNull waiter => exact .inr (.inl Nat.one_pos)
      | replenish waiter waiting _ => exact .inr (.inl Nat.one_pos)
      | _ => exact .inl rfl

theorem caller_waits {cfg : Config} {id : Nat} {pool after : Pool} {caller moved : Caller}
    {answer : Answer} (op : 1 ≤ cfg.opNum)
    (filled : caller = .getting (.expanding 0) → pool.connQueue ≠ [])
    (move : CallerMove cfg id pool answer caller after moved) (waiting : waits after moved = true) :
    after.currentSize = pool.currentSize ∧
      (waits pool caller = true ∨ ¬pool.currentSize < cfg.maxSize) := by
  cases move with
  | get move =>
      cases move with
      | noExpand skip =>
          refine ⟨rfl, .inr fun room => skip ⟨of_decide_eq_true waiting, room, ?_⟩⟩
          unfold toCreate
          omega
      | expanded => exact absurd (of_decide_eq_true waiting) (filled rfl)
      | block empty => exact ⟨rfl, .inl (decide_eq_true empty)⟩
      | woken timedOut => exact ⟨rfl, .inl rfl⟩
      | relock timedOut free =>
          cases timedOut with
          | true => exact ⟨rfl, .inl rfl⟩
          | false => cases waiting
      | _ => cases waiting
  | giveBack move => cases move <;> cases waiting

theorem caller_filled {cfg : Config} {id : Nat} {pool after : Pool} {caller : Caller}
    {answer : Answer}
    (move : CallerMove cfg id pool answer caller after (.getting (.expanding 0)))
    (succeeds : fails (.caller id answer) = false) : after.connQueue ≠ [] := by
  generalize moved : Caller.getting (.expanding 0) = result at move
  cases move with
  | @get pc next _ move =>
      cases move with
      | expand empty below creates =>
          have none : (toCreate cfg pool).toNat = 0 := by
            injection moved with same
            injection same with same
            exact same.symm
          omega
      | create answer waiter left =>
          cases answer with
          | true => exact List.append_ne_nil_of_right_ne_nil _ (List.cons_ne_nil _ _)
          | false => cases succeeds
      | _ => cases moved
  | @giveBack pc next _ move => cases move <;> cases moved

/-! ## The invariant -/

section Invariant

variable {cfg : Config} {state : State}

theorem waits_foreign {id other : Nat} {caller seen : Caller} {moved : Pool × Caller}
    {answer : Answer} (locked : Locked state) (found : state.callers[id]? = some caller)
    (move : CallerMove cfg id state.pool answer caller moved.1 moved.2) (different : other ≠ id)
    (present : state.callers[other]? = some seen) (waiting : waits moved.1 seen = true) :
    waits state.pool seen = true := by
  cases within : inside seen with
  | false => exact (waits_outside within moved.1 state.pool).trans waiting
  | true =>
      have queue := foreign_queue locked found move different present within
      exact (waits_same queue seen).symm.trans waiting

theorem size_kept {id : Nat} {caller seen : Caller} {moved : Pool × Caller} {answer : Answer}
    (accounts : Accounts cfg state) (saturated : Saturated cfg state)
    (undisturbed : Undisturbed cfg state (.caller id answer))
    (found : state.callers[id]? = some caller)
    (move : CallerMove cfg id state.pool answer caller moved.1 moved.2)
    (member : seen ∈ state.callers) (waiting : waits state.pool seen = true) :
    moved.1.currentSize = state.pool.currentSize := by
  rcases caller_size move with same | creates | ending
  · exact same
  · -- at the limit nobody has a creation left
    have full := saturated.full seen member waiting
    have room := accounts.reserved id caller found
    omega
  · have deleted : deletes cfg state (.caller id answer) = true := by
      unfold deletes
      rw [List.any_eq_true.mpr ⟨caller, List.mem_of_getElem? found, ending⟩]
      rfl
    rw [undisturbed.apart deleted seen member] at waiting
    cases waiting

theorem saturated_caller {id : Nat} {caller : Caller} {moved : Pool × Caller} {answer : Answer}
    (op : 1 ≤ cfg.opNum) (accounts : Accounts cfg state) (saturated : Saturated cfg state)
    (undisturbed : Undisturbed cfg state (.caller id answer))
    (succeeds : fails (.caller id answer) = false) (found : state.callers[id]? = some caller)
    (move : CallerMove cfg id state.pool answer caller moved.1 moved.2) :
    Saturated cfg (moveCaller state id moved) := by
  have bounded := accounts.bounded
  constructor
  · intro seen member waiting
    obtain ⟨other, present⟩ := List.mem_iff_getElem?.mp member
    rcases lookup_move present with ⟨rfl, rfl⟩ | ⟨different, old⟩
    · have filled : caller = .getting (.expanding 0) → state.pool.connQueue ≠ [] := by
        rintro rfl
        exact saturated.filled other found
      obtain ⟨size, before⟩ := caller_waits op filled move waiting
      apply size.trans
      rcases before with waited | full
      · exact saturated.full caller (List.mem_of_getElem? found) waited
      · omega
    · have waited := waits_foreign accounts.locked found move different old waiting
      have here := List.mem_of_getElem? old
      apply (size_kept accounts saturated undisturbed found move here waited).trans
      exact saturated.full seen here waited
  · intro other present
    rcases lookup_move present with ⟨rfl, expanded⟩ | ⟨different, old⟩
    · rw [← expanded] at move
      exact caller_filled move succeeds
    · dsimp only [moveCaller]
      rw [foreign_queue accounts.locked found move different old rfl]
      exact saturated.filled other old
  · dsimp only [moveCaller]
    rw [caller_failures move, succeeds, saturated.made]
    rfl

theorem saturated_plain {id : Nat} {moved : Caller} (saturated : Saturated cfg state)
    (away : waits state.pool moved = false) (apart : moved ≠ .getting (.expanding 0)) :
    Saturated cfg (moveCaller state id (state.pool, moved)) := by
  constructor
  · intro seen member waiting
    rcases List.mem_or_eq_of_mem_set member with old | rfl
    · exact saturated.full seen old waiting
    · cases away.symm.trans waiting
  · intro other present
    rcases lookup_move present with ⟨_, impossible⟩ | ⟨_, old⟩
    · exact absurd impossible.symm apart
    · exact saturated.filled other old
  · exact saturated.made

theorem saturated_recycle (accounts : Accounts cfg state) (saturated : Saturated cfg state)
    {reads : List Entry} (undisturbed : Undisturbed cfg state (.recycle reads))
    (free : state.pool.mutex = none) :
    Saturated cfg { state with
      pool := recycleIdleConnections cfg.minSize cfg.maxIdleTime reads state.pool } := by
  have left := recycled cfg.minSize cfg.maxIdleTime reads state.pool
  have apart : ∀ (id : Nat) (caller : Caller), state.callers[id]? = some caller →
      inside caller = false := by
    intro id caller found
    apply Bool.eq_false_iff.mpr
    intro within
    rw [accounts.locked id caller found within] at free
    cases free
  constructor
  · intro seen member waiting
    obtain ⟨id, found⟩ := List.mem_iff_getElem?.mp member
    have waited : waits state.pool seen = true :=
      (waits_outside (apart id seen found) _ _).trans waiting
    by_cases something : 0 < excessIn cfg.minSize cfg.maxIdleTime state.pool
    · have deleted : deletes cfg state (.recycle reads) = true := by
        unfold deletes
        rw [decide_eq_true something, Bool.or_true]
      rw [undisturbed.apart deleted seen member] at waited
      cases waited
    · have full := saturated.full seen member waited
      have size := left.size
      dsimp only
      omega
  · intro id found
    cases apart id _ found
  · exact left.failures.trans saturated.made

theorem saturated_move {after : State} {action : Action} (op : 1 ≤ cfg.opNum)
    (accounts : Accounts cfg state) (saturated : Saturated cfg state)
    (undisturbed : Undisturbed cfg state action) (succeeds : fails action = false)
    (move : Move cfg state action after) : Saturated cfg after := by
  cases move with
  | call id _ => exact saturated_plain saturated rfl fun impossible => nomatch impossible
  | release id conn _ => exact saturated_plain saturated rfl fun impossible => nomatch impossible
  | caller id answer caller moved found stepped =>
      exact saturated_caller op accounts saturated undisturbed succeeds found
        (caller_move_of_step stepped)
  | recycle reads free => exact saturated_recycle accounts saturated undisturbed free
  | wait ticks =>
      constructor
      · intro seen member waiting
        exact saturated.full seen member ((waits_same rfl seen).trans waiting)
      · exact saturated.filled
      · exact saturated.made

theorem timeout_leaves {id : Nat} {pool after : Pool} {moved : Caller} {answer : Answer}
    (move : CallerMove cfg id pool answer (.getting (.awake true)) after moved)
    (empty : moved = .idle) :
    pool.connQueue = [] ∧ after.connQueue = pool.connQueue ∧
      after.currentSize = pool.currentSize ∧ after.failures = pool.failures := by
  cases move with
  | get move =>
      cases move with
      | timeout ms nothing => exact ⟨nothing, rfl, rfl, rfl⟩
      | waited timedOut ms served => cases empty

theorem charged_owns {callers : List Caller} (kept : callers.any deleting = false) :
    callers.countP charged = callers.countP owns := by
  apply List.countP_congr
  intro caller member
  have whole := List.any_eq_false.mp kept caller member
  unfold charged
  rw [Bool.eq_false_iff.mpr whole, Bool.or_false]

theorem times_out_full {after : State} {action : Action} (accounts : Accounts cfg state)
    (saturated : Saturated cfg state) (undisturbed : Undisturbed cfg state action)
    (move : Move cfg state action after) : TimesOutFull cfg state action after := by
  intro id answer acts expired empty
  subst acts
  have here := List.mem_of_getElem? expired
  have full := saturated.full _ here rfl
  have made := saturated.made
  have kept : state.callers.any deleting = false := by
    apply Bool.eq_false_iff.mpr
    intro some
    have deleted : deletes cfg state (.caller id answer) = true := by
      unfold deletes
      rw [some]
      rfl
    cases undisturbed.apart deleted _ here
  have counted := accounts.balance
  rw [charged_owns kept] at counted
  cases move with
  | caller _ _ caller moved found stepped =>
      obtain rfl := Option.some.inj (found.symm.trans expired)
      have own : (state.callers.set id moved.2)[id]? = some moved.2 := lookup_move_self found
      have idle : moved.2 = .idle := Option.some.inj (own.symm.trans empty)
      obtain ⟨nothing, queue, size, failures⟩ :=
        timeout_leaves (caller_move_of_step stepped) idle
      have owners : (state.callers.set id moved.2).countP owns = state.callers.countP owns := by
        have moves : _ + indicator (owns (.getting (.awake true))) = _ + indicator (owns moved.2) :=
          countP_move owns found
        rw [idle] at moves ⊢
        exact moves
      refine ⟨queue.trans nothing, ?_⟩
      unfold existing outside moveCaller at *
      dsimp only at counted ⊢
      rw [queue, owners]
      omega

end Invariant

theorem source_filled (answers : List Bool) (pool : Pool) (all : ∀ answer ∈ answers, answer = true) :
    (sourceConnections answers pool).failures = pool.failures := by
  have counted := (source_sizes answers pool).2.2.2
  have none : (answers.countP fun succeeds => !succeeds) = 0 := by
    apply List.countP_eq_zero.mpr
    intro answer member
    rw [all answer member]
    exact Bool.false_ne_true
  rw [none] at counted
  exact counted

theorem saturated_launched (cfg : Config) (clock : Int) (answers : List Bool) (threads : Nat)
    (all : ∀ answer ∈ answers, answer = true) :
    Saturated cfg (launched clock answers threads) := by
  constructor
  · intro caller member waiting
    rw [List.eq_of_mem_replicate member] at waiting
    cases waiting
  · intro id found
    cases List.eq_of_mem_replicate (List.mem_of_getElem? found)
  · exact source_filled answers _ all

/-- In every run with a factory that always succeeds whose steps are all undisturbed. -/
theorem redis_times_out_full (cfg : Config) (clock : Int) (answers : List Bool) (threads : Nat)
    (op : 1 ≤ cfg.opNum) (count : (answers.length : Int) = cfg.minSize)
    (all : ∀ answer ∈ answers, answer = true) (trail : List (State × Action)) (last : State)
    (path : Path (step cfg) (launched clock answers threads) trail last)
    (succeeds : ∀ taken ∈ trail, fails taken.2 = false)
    (undisturbed : ∀ taken ∈ trail, Undisturbed cfg taken.1 taken.2) :
    Obeyed (step cfg) (TimesOutFull cfg) trail := by
  apply path_obeyed_of_good (fun _ => True)
    (fun state => Accounts cfg state ∧ Saturated cfg state) (TimesOutFull cfg)
    (fun state action => fails action = false ∧ Undisturbed cfg state action) True.intro
    ⟨accounts_launched threads count, saturated_launched cfg clock answers threads all⟩ _ _ _ path
  · exact fun taken member => ⟨succeeds taken member, undisturbed taken member⟩
  · exact fun _ _ _ _ _ => True.intro
  · intro state action after _ books good taken
    have move := move_of_step taken
    exact ⟨accounts_move books.1 good.2.fits move,
      saturated_move op books.1 books.2 good.2 good.1 move⟩
  · intro state action after _ books good taken
    exact times_out_full books.1 books.2 good.2 (move_of_step taken)

end BackendComponents.RedisPool.Exhaustion
