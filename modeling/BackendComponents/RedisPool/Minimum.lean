import BackendComponents.RedisPool.Exhaustion

/-!
# The minimum of the Redis pool

An unhealthy connection is deleted first, without the mutex, and replaced later. A caller
between the two owes the pool a connection, and no more than these are missing, unless two
deletions at a time lower the size by one only.
-/

namespace BackendComponents.RedisPool.Minimum

open BackendComponents.Lib.Paths
open BackendComponents.Lib.Threads
open BackendComponents.RedisPool.Model
open BackendComponents.RedisPool.Moves
open BackendComponents.RedisPool.Sweeping
open BackendComponents.RedisPool.Accounting
open BackendComponents.RedisPool.Exhaustion

set_option autoImplicit false

/-- No more connections than the maximum, and between operations no fewer than the minimum. -/
structure WithinSizes (cfg : Config) (state : State) : Prop where
  most : (existing state : Int) ≤ cfg.maxSize
  least : quiet state = true → cfg.minSize ≤ existing state

/-- In every run with a factory that always succeeds. -/
def MinimumLaw : Prop :=
  ∀ (cfg : Config) (clock : Int) (answers : List Bool) (threads : Nat)
    (trail : List (State × Action)) (last : State), (answers.length : Int) = cfg.minSize →
      (∀ answer ∈ answers, answer = true) →
        Path (step cfg) (launched clock answers threads) trail last →
          (∀ taken ∈ trail, fails taken.2 = false) → WithinSizes cfg last

/-- The size has been lowered and not looked at, or seen to be too small. -/
def owes : Caller → Bool
  | .returning .lock | .returning .testMin | .returning .replenish => true
  | _ => false

/-- No connections are missing but those that are owed. -/
def Covered (cfg : Config) (state : State) : Prop :=
  cfg.minSize ≤ state.pool.currentSize + state.callers.countP owes

/-- A step of a caller leaves what it owes and what there is in sum, or it has seen that
there is enough. -/
def Covers (cfg : Config) (pool : Pool) (caller : Caller) (after : Pool) (moved : Caller) : Prop :=
  pool.currentSize + indicator (owes caller) ≤ after.currentSize + indicator (owes moved) ∨
    cfg.minSize ≤ after.currentSize

theorem covers_same {cfg : Config} {pool after : Pool} {caller moved : Caller}
    (size : after.currentSize = pool.currentSize) (owed : owes moved = owes caller) :
    Covers cfg pool caller after moved := by
  apply Or.inl
  rw [size, owed]

theorem covers_more {cfg : Config} {pool after : Pool} {caller moved : Caller}
    (size : after.currentSize = pool.currentSize + 1) : Covers cfg pool caller after moved := by
  apply Or.inl
  rw [size]
  cases owes caller with
  | false =>
      rw [indicator_false]
      omega
  | true =>
      rw [indicator_true]
      omega

theorem get_owes (pc : GetPc) : owes (afterGet pc) = false := by
  unfold afterGet
  split <;> rfl

theorem get_covers {cfg : Config} {id : Nat} {pool after : Pool} {pc moved : GetPc}
    {answer : Answer} (move : GetMove cfg id pool pc answer after moved) :
    Covers cfg pool (.getting pc) after (afterGet moved) := by
  cases move with
  | create succeeds waiter left => exact covers_more (create_size succeeds pool)
  | _ => exact covers_same rfl (get_owes _)

theorem return_covers {cfg : Config} {id : Nat} {pool after : Pool} {pc moved : ReturnPc}
    {answer : Answer} (fits : ∀ read, pc = .store read → answer = .go ∧ read = pool.currentSize)
    (move : ReturnMove cfg id pool pc answer after moved) :
    Covers cfg pool (.returning pc) after (afterReturn moved) := by
  cases move with
  | store read =>
      -- the count goes down, and the caller owes a connection
      obtain ⟨_, rfl⟩ := fits read rfl
      apply Or.inl
      dsimp only [storeSize, recordDestroyed, owes, afterReturn]
      rw [indicator_false, indicator_true]
      omega
  | overwritten read => cases (fits read rfl).1
  | enough full => exact .inr (Int.not_lt.mp full)
  | replenishNull waiter => exact covers_more (create_size false pool)
  | replenish waiter waiting _ => exact covers_more (create_size true pool)
  | _ => exact covers_same rfl rfl

theorem caller_covers {cfg : Config} {id : Nat} {pool after : Pool} {caller moved : Caller}
    {answer : Answer}
    (fits : ∀ read, caller = .returning (.store read) → answer = .go ∧ read = pool.currentSize)
    (move : CallerMove cfg id pool answer caller after moved) :
    Covers cfg pool caller after moved := by
  cases move with
  | get move => exact get_covers move
  | giveBack move => exact return_covers (fun read same => fits read (congrArg _ same)) move

theorem covered_caller {cfg : Config} {state : State} (covered : Covered cfg state) {id : Nat}
    {caller : Caller} (found : state.callers[id]? = some caller) {moved : Pool × Caller}
    (covers : Covers cfg state.pool caller moved.1 moved.2) :
    Covered cfg (moveCaller state id moved) := by
  have counts : (state.callers.set id moved.2).countP owes + indicator (owes caller) =
      state.callers.countP owes + indicator (owes moved.2) := countP_move owes found
  unfold Covered at covered
  unfold Covered moveCaller
  dsimp only
  rcases covers with kept | enough
  · omega
  · omega

theorem recycle_leaves {cfg : Config} {state : State} (reads : List Entry)
    (accounts : Accounts cfg state) (covered : Covered cfg state) :
    Covered cfg { state with
      pool := recycleIdleConnections cfg.minSize cfg.maxIdleTime reads state.pool } := by
  have size := (recycled cfg.minSize cfg.maxIdleTime reads state.pool).size
  have few : excessIn cfg.minSize cfg.maxIdleTime state.pool ≤
      ((state.pool.connQueue.length : Int) - cfg.minSize).toNat := Nat.min_le_right _ _
  have balance := accounts.balance
  unfold outside at balance
  unfold Covered at covered
  unfold Covered
  dsimp only
  by_cases room : 0 ≤ (state.pool.connQueue.length : Int) - cfg.minSize
  · omega
  · rw [Int.toNat_of_nonpos (by omega)] at few
    omega

theorem covered_move {cfg : Config} {state after : State} {action : Action}
    (accounts : Accounts cfg state) (covered : Covered cfg state)
    (fits : storesFit state action = true) (move : Move cfg state action after) :
    Covered cfg after := by
  cases move with
  | call id found => exact covered_caller covered found (covers_same rfl rfl)
  | release id conn found => exact covered_caller covered found (covers_same rfl rfl)
  | caller id answer caller moved found stepped =>
      exact covered_caller covered found
        (caller_covers (store_fits fits found) (caller_move_of_step stepped))
  | recycle reads _ => exact recycle_leaves reads accounts covered
  | wait ticks => exact covered

theorem covered_launched {cfg : Config} (clock : Int) {answers : List Bool} (threads : Nat)
    (count : (answers.length : Int) = cfg.minSize) :
    Covered cfg (launched clock answers threads) := by
  have size : (launched clock answers threads).pool.currentSize = 0 + answers.length :=
    (source_sizes answers _).2.1
  unfold Covered
  omega

theorem covered_path {cfg : Config} {clock : Int} {answers : List Bool} {threads : Nat}
    (count : (answers.length : Int) = cfg.minSize) {trail : List (State × Action)} {last : State}
    (path : Path (step cfg) (launched clock answers threads) trail last)
    (fits : ∀ taken ∈ trail, storesFit taken.1 taken.2 = true) :
    Accounts cfg last ∧ Covered cfg last := by
  apply path_invariant_of_good (fun state => Accounts cfg state ∧ Covered cfg state)
    (fun state action => storesFit state action = true) _ _ path fits last (by simp [visited])
  · exact ⟨accounts_launched threads count, covered_launched clock threads count⟩
  · intro state action after books fits taken
    have move := move_of_step taken
    exact ⟨accounts_move books.1 fits move, covered_move books.1 books.2 fits move⟩

theorem owes_quiet {state : State} (still : quiet state = true) :
    state.callers.countP owes = 0 := by
  apply List.countP_eq_zero.mpr
  intro caller member
  rcases outside_functions still member with rfl | ⟨conn, rfl⟩
  · exact Bool.false_ne_true
  · exact Bool.false_ne_true

theorem owns_charged (callers : List Caller) : callers.countP owns ≤ callers.countP charged := by
  apply List.countP_mono_left
  intro caller _ owned
  unfold charged
  rw [owned, Bool.true_or]

/-- In every run with a factory that always succeeds whose steps are all defined: there are
never more connections than the maximum, and when no operation is in progress no fewer than
the minimum. -/
theorem minimum_restored (cfg : Config) (clock : Int) (answers : List Bool) (threads : Nat)
    (count : (answers.length : Int) = cfg.minSize) (all : ∀ answer ∈ answers, answer = true)
    {trail : List (State × Action)} {last : State}
    (path : Path (step cfg) (launched clock answers threads) trail last)
    (delivers : ∀ taken ∈ trail, fails taken.2 = false)
    (sound : ∀ taken ∈ trail, defined cfg taken.1 taken.2 = true) : WithinSizes cfg last := by
  obtain ⟨accounts, covered⟩ := covered_path count path (fits_of_defined sound)
  have balance := accounts.balance
  have none : last.pool.failures = 0 := (no_failures_iff path).mpr ⟨all, delivers⟩
  have owners := owns_charged last.callers
  unfold outside at balance
  constructor
  · have bounded := accounts.bounded
    unfold existing
    omega
  · intro still
    have nobody := owes_quiet still
    have lent : last.callers.countP owns = borrowed last := count_quiet still rfl fun _ => rfl
    rw [count_quiet still rfl fun _ => rfl] at balance
    unfold Covered at covered
    unfold existing
    omega

/-! ## Runs -/

theorem two_to_three : (0 : Int) ≤ 2 ∧ (2 : Int) ≤ 3 := by decide

def pairPool : Config where
  minSize := 2
  maxSize := 3
  maxIdleTime := 180
  opNum := 1
  ordered := two_to_three

def borrows (id : Nat) : List Action := .call id :: List.replicate 4 (.caller id .go)

def twoSick : List Action :=
  borrows 0 ++ borrows 1 ++
    [.release 0, .release 1, .caller 0 (.health .unhealthy), .caller 1 (.health .unhealthy)]

def replaces (id : Nat) : List Action :=
  [.caller id .go, .caller id .go, .caller id (.created true 0), .caller id .go]

/-- Both are deleted, one after the other, before either is replaced. -/
def bothSick : List Action :=
  twoSick ++ [.caller 0 .go, .caller 0 .go, .caller 1 .go, .caller 1 .go] ++ replaces 0 ++
    replaces 1

theorem minimum_restored_both_sick :
    ∃ last, exec (step pairPool) (launched 0 [true, true] 2) bothSick = some last ∧
      WithinSizes pairPool last ∧ quiet last = true ∧ last.pool.destroyed = [0, 1] := by
  obtain ⟨last, executed, checked⟩ := exec_checked (step pairPool) (launched 0 [true, true] 2)
    bothSick (fun last => decide (quiet last = true ∧ last.pool.destroyed = [0, 1])) (by decide)
  refine ⟨last, executed, ?_, of_decide_eq_true checked⟩
  exact minimum_restored pairPool 0 [true, true] 2 rfl (by decide) (path_of_exec executed)
    (by decide) (by decide)

/-- Both deletions read the size before either stores it. The second caller then sees the
minimum reached, and one connection is left where there should be two. -/
def overlapping : List Action :=
  twoSick ++ [.caller 0 .go, .caller 1 .go, .caller 0 .go, .caller 1 .go] ++ replaces 0 ++
    [.caller 1 .go, .caller 1 .go, .caller 1 .go]

theorem lost_decrement_below_minimum : ¬MinimumLaw := by
  intro law
  obtain ⟨last, executed, checked⟩ := exec_checked (step pairPool) (launched 0 [true, true] 2)
    overlapping (fun last => decide (quiet last = true ∧ existing last = 1)) (by decide)
  obtain ⟨still, one⟩ := of_decide_eq_true checked
  have least := (law pairPool 0 [true, true] 2 _ last rfl (by decide) (path_of_exec executed)
    (by decide)).least still
  rw [one] at least
  exact absurd least (by decide)

end BackendComponents.RedisPool.Minimum
