import BackendComponents.Inventory.Transactions
import BackendComponents.Inventory.Service

/-!
# Filling both stores

`InventoryService::initialize` with `init_stock` of the repository. MySQL keeps a row that
is there already, Redis gets the initial stock in any case. The counter of the loop is
unbounded here: in the source it overflows after the last item if `item_count` is `INT_MAX`.
-/

namespace BackendComponents.Inventory.Initialization

open BackendComponents.Lib.Paths
open BackendComponents.Inventory.Database
open BackendComponents.Inventory.Repository
open BackendComponents.Inventory.Sessions
open BackendComponents.Inventory.Transactions hiding State Action step start
open BackendComponents.Inventory.Service hiding State Action step start

set_option autoImplicit false

inductive InitError
  | redisUnavailable
  | repository (code : ErrorCode)
  deriving DecidableEq, Repr

/-- `threw` is an exception of the repository that passes through. -/
inductive InitOutcome
  | success
  | error (code : InitError)
  | threw
  deriving DecidableEq, Repr

inductive InitPc
  | connect
  | insert (item : Int) (pc : RepoPc)
  | set (item : Int)
  | returned (outcome : InitOutcome)
  deriving DecidableEq, Repr

structure State where
  store : Store
  redis : Table
  point : InitPc

section Source

variable (itemCount initStock : Int)

def enter (item : Int) : InitPc :=
  if item ≤ itemCount then .insert item (.connect (.plain (.initStock item initStock)))
  else .returned .success

def afterInsert (item : Int) : RepoResult → Option InitPc
  | .done => some (.set item)
  | .error code => some (.returned (.error (.repository code)))
  | .threw => some (.returned .threw)
  | .stock _ => none

def initStep (state : State) (answer : Answer) : Option State :=
  match state.point, answer with
  | .connect, .connected => some { state with point := enter itemCount initStock 1 }
  | .connect, .unavailable => some { state with point := .returned (.error .redisUnavailable) }
  | .insert item (.done result), .go =>
      (afterInsert item result).map fun next => { state with point := next }
  | .insert item pc, .repo answer =>
      (repoStep state.store pc answer).map fun moved =>
        { state with store := moved.1, point := .insert item moved.2 }
  | .set item, .redis command =>
      some { state with
        redis := if carriedOut command then state.redis.put item initStock else state.redis
        point :=
          if command = .returns then enter itemCount initStock (item + 1)
          else .returned (.error .redisUnavailable) }
  | _, _ => none

inductive Action
  | run (answer : Answer)
  | grow
  | recycle (place : Nat)
  deriving DecidableEq, Repr

/-- The call of `initialize`, while the pool of MySQL connections changes on its own. -/
def step (state : State) : Action → Option State
  | .run answer => initStep itemCount initStock state answer
  | .grow => some { state with store := grow state.store }
  | .recycle place => (recycle state.store place).map fun store => { state with store := store }

end Source

def start (stock redis : Table) (connections : Nat) : State where
  store := opened stock connections
  redis := redis
  point := .connect

/-- What a successful call is for. -/
structure Initialised (itemCount : Int) (stock redis : Table) (last : State) : Prop where
  agree : ∀ item : Int, 1 ≤ item → item ≤ itemCount → last.redis item = last.store.committed item
  elsewhere : ∀ item : Int, ¬(1 ≤ item ∧ item ≤ itemCount) →
    last.redis item = redis item ∧ last.store.committed item = stock item

/-! ## What the loop has done so far -/

/-- MySQL after the items below the bound. -/
def seeded (stock : Table) (initStock bound : Int) : Table :=
  fun item => if 1 ≤ item ∧ item < bound then (stock item).or (some initStock) else stock item

/-- Redis after the items below the bound. -/
def written (redis : Table) (initStock bound : Int) : Table :=
  fun item => if 1 ≤ item ∧ item < bound then some initStock else redis item

theorem seeded_first (stock : Table) (initStock : Int) : seeded stock initStock 1 = stock := by
  funext item
  unfold seeded
  rw [if_neg]
  intro both
  exact absurd both.1 (Int.not_le.mpr both.2)

theorem written_first (redis : Table) (initStock : Int) : written redis initStock 1 = redis := by
  funext item
  unfold written
  rw [if_neg]
  intro both
  exact absurd both.1 (Int.not_le.mpr both.2)

theorem below_next {item bound : Int} (different : item ≠ bound) :
    (1 ≤ item ∧ item < bound + 1) ↔ (1 ≤ item ∧ item < bound) := by
  omega

theorem seeded_next (stock : Table) (initStock : Int) {bound : Int} (positive : 1 ≤ bound) :
    seeded stock initStock (bound + 1) =
      applyEntry (seeded stock initStock bound) (.inserted bound initStock) := by
  have here : seeded stock initStock bound bound = stock bound :=
    if_neg fun both => Int.lt_irrefl bound both.2
  funext item
  by_cases same : item = bound
  · rw [same]
    have inside : 1 ≤ bound ∧ bound < bound + 1 := ⟨positive, Int.lt_succ bound⟩
    simp only [applyEntry, here]
    cases held : stock bound with
    | none => simp [seeded, inside, held, Table.put]
    | some value => simp [seeded, inside, held]
  · have before := below_next same
    have kept : seeded stock initStock (bound + 1) item = seeded stock initStock bound item := by
      simp only [seeded, before]
    rw [kept]
    simp only [applyEntry]
    split
    · rfl
    · exact (if_neg same).symm

theorem written_next (redis : Table) (initStock : Int) {bound : Int} (positive : 1 ≤ bound) :
    written redis initStock (bound + 1) = (written redis initStock bound).put bound initStock := by
  funext item
  unfold Table.put
  by_cases same : item = bound
  · have inside : 1 ≤ item ∧ item < bound + 1 := by
      rw [same]
      exact ⟨positive, Int.lt_succ bound⟩
    rw [if_pos same]
    exact if_pos inside
  · have before := below_next same
    rw [if_neg same]
    simp only [written, before]

section Loop

variable (itemCount initStock : Int) (stock redis : Table)

def Inserting (item : Int) (committed : Table) : RepoPc → Prop
  | .connect op =>
      op = .plain (.initStock item initStock) ∧ committed = seeded stock initStock item
  | .statement _ op => op = .initStock item initStock ∧ committed = seeded stock initStock item
  | .release _ result | .done result =>
      result = .done → committed = seeded stock initStock (item + 1)
  | _ => False

def Progress (state : State) : Prop :=
  match state.point with
  | .connect => state.store.committed = stock ∧ state.redis = redis
  | .insert item pc =>
      1 ≤ item ∧ item ≤ itemCount ∧ state.redis = written redis initStock item ∧
        Inserting initStock stock item state.store.committed pc
  | .set item =>
      1 ≤ item ∧ item ≤ itemCount ∧ state.redis = written redis initStock item ∧
        state.store.committed = seeded stock initStock (item + 1)
  | .returned .success => ∃ bound, itemCount < bound ∧ (bound = 1 ∨ bound ≤ itemCount + 1) ∧
      state.redis = written redis initStock bound ∧
        state.store.committed = seeded stock initStock bound
  | .returned _ => True

def repoPc : InitPc → RepoPc
  | .insert _ pc => pc
  | _ => .idle

variable {itemCount initStock stock redis}

theorem progress_enter {store : Store} {cache : Table} {bound : Int} (positive : 1 ≤ bound)
    (last : bound = 1 ∨ bound ≤ itemCount + 1) (cached : cache = written redis initStock bound)
    (stored : store.committed = seeded stock initStock bound) :
    Progress itemCount initStock stock redis
      { store := store, redis := cache, point := enter itemCount initStock bound } := by
  unfold enter
  split
  · next more => exact ⟨positive, more, cached, rfl, stored⟩
  · next past => exact ⟨bound, Int.not_le.mp past, last, cached, stored⟩

theorem careful_inserting {item : Int} {committed : Table} {pc : RepoPc}
    (inside : Inserting initStock stock item committed pc) (answer : RepoAnswer) :
    careful pc answer = true := by
  cases answer with
  | driver answer =>
      cases answer with
      | returns => rfl
      | throws damage => cases pc <;> first | rfl | cases inside
  | front | timeout | createThrows | go => rfl

theorem inserting_move {store after : Store} {item : Int} {pc next : RepoPc} {answer : RepoAnswer}
    (clean : Clean stock store [pc]) (positive : 1 ≤ item)
    (before : Inserting initStock stock item store.committed pc)
    (move : RepoMove store pc answer after next) :
    Inserting initStock stock item after.committed next := by
  cases move with
  | takes queue =>
      rcases before with ⟨rfl, stored⟩
      exact ⟨rfl, stored⟩
  | timesOut => exact nofun
  | throws => exact nofun
  | @calls _ _ id conn answer _ held found step =>
      have fits := clean.fits 0 pc rfl
      obtain rfl := Option.some.inj ((fits.session id held).symm.trans found)
      cases step with
      | fails => exact nofun
      | states driven =>
          rcases before with ⟨rfl, stored⟩
          obtain rfl := Option.some.inj held
          intro _
          cases drive_outcome driven with
          | returned answered performed =>
              have moved := (perform_statement performed).2.2
              rw [stored] at moved
              rw [seeded_next stock initStock positive]
              exact (record_if_committed _ _ _).trans moved
      | skipsBegin | begins | selects | updates | commits | skipsCommit | restores | rollsBack
      | skipsRollback | restoresError => cases before
  | returns => exact before

theorem recycle_committed {store after : Store} {place : Nat}
    (recycled : recycle store place = some after) : after.committed = store.committed := by
  have ⟨_, _, _, _, emptied⟩ := recycle_cases recycled
  rw [emptied]
  rfl

structure Filling (itemCount initStock : Int) (stock redis : Table) (state : State) : Prop where
  clean : Clean stock state.store [repoPc state.point]
  progress : Progress itemCount initStock stock redis state

theorem clean_outside {store : Store} {pc next : RepoPc} (clean : Clean stock store [pc])
    (free : connOf pc = none) (outside : connOf next = none) : Clean stock store [next] := by
  have here : [pc][0]? = some pc := rfl
  exact clean_set clean here free outside

theorem enter_free (itemCount initStock bound : Int) :
    connOf (repoPc (enter itemCount initStock bound)) = none := by
  unfold enter
  split <;> rfl

theorem filling_run {state after : State} {answer : Answer}
    (filling : Filling itemCount initStock stock redis state)
    (taken : initStep itemCount initStock state answer = some after) :
    Filling itemCount initStock stock redis after := by
  rcases filling with ⟨clean, progress⟩
  obtain ⟨store, cache, point⟩ := state
  unfold initStep at taken
  dsimp only at taken clean
  split at taken
  · cases taken
    rcases progress with ⟨stored, cached⟩
    constructor
    · exact clean_outside clean rfl (enter_free _ _ _)
    · apply progress_enter (Int.le_refl 1) (Or.inl rfl)
      · exact cached.trans (written_first _ _).symm
      · exact stored.trans (seeded_first _ _).symm
  · cases taken
    exact ⟨clean, True.intro⟩
  · next item result =>
      obtain ⟨next, known, rfl⟩ := Option.map_eq_some_iff.mp taken
      rcases progress with ⟨positive, within, cached, inserted⟩
      cases result with
      | done =>
          cases known
          exact ⟨clean_outside clean rfl rfl, positive, within, cached, inserted rfl⟩
      | error code =>
          cases known
          exact ⟨clean_outside clean rfl rfl, True.intro⟩
      | threw =>
          cases known
          exact ⟨clean_outside clean rfl rfl, True.intro⟩
      | stock value => cases known
  · next item pc answer =>
      obtain ⟨moved, stepped, rfl⟩ := Option.map_eq_some_iff.mp taken
      rcases progress with ⟨positive, within, cached, inserting⟩
      have move := repo_step_cases stepped
      have here : [pc][0]? = some pc := rfl
      have careful_answer : careful pc answer = true := careful_inserting inserting answer
      constructor
      · exact clean_move clean here careful_answer move
      · exact ⟨positive, within, cached, inserting_move clean positive inserting move⟩
  · next item command =>
      cases taken
      rcases progress with ⟨positive, within, cached, stored⟩
      cases command with
      | returns =>
          constructor
          · exact clean_outside clean rfl (enter_free _ _ _)
          · apply progress_enter (Int.le_add_one positive) (Or.inr (Int.add_le_add_right within 1))
            · exact (congrArg (fun table => table.put item initStock) cached).trans
                (written_next redis initStock positive).symm
            · exact stored
      | throws performed => exact ⟨clean, True.intro⟩
  · cases taken

theorem filling_step {state after : State} {action : Action}
    (filling : Filling itemCount initStock stock redis state)
    (taken : step itemCount initStock state action = some after) :
    Filling itemCount initStock stock redis after := by
  cases action with
  | run answer => exact filling_run filling taken
  | grow =>
      cases taken
      exact ⟨clean_grow filling.clean, filling.progress⟩
  | recycle place =>
      obtain ⟨store, recycled, rfl⟩ := Option.map_eq_some_iff.mp taken
      have same := recycle_committed recycled
      refine ⟨clean_recycle filling.clean recycled, ?_⟩
      have before := filling.progress
      unfold Progress at before ⊢
      dsimp only
      rw [same]
      exact before

theorem filling_start (connections : Nat) :
    Filling itemCount initStock stock redis (start stock redis connections) :=
  ⟨clean_spawn (clean_opened stock connections) rfl, rfl, rfl⟩

end Loop

theorem kept_or_inserted {held : Option Int} {initStock : Int} :
    some initStock = held.or (some initStock) ↔ held = none ∨ held = some initStock := by
  cases held with
  | none => simp
  | some value => simp [eq_comm]

/-- A successful `initialize` makes the stores agree exactly when MySQL has had no row for
an item or one with the initial stock. Other items are not touched in any case. -/
theorem initialised_iff_at_start_value (itemCount initStock : Int) (stock redis : Table)
    (connections : Nat) {trail : List (State × Action)} {last : State}
    (path : Path (step itemCount initStock) (start stock redis connections) trail last)
    (success : last.point = .returned .success) :
    Initialised itemCount stock redis last ↔
      ∀ item : Int, 1 ≤ item → item ≤ itemCount →
        stock item = none ∨ stock item = some initStock := by
  have filling : Filling itemCount initStock stock redis last :=
    reachable_invariant (Filling itemCount initStock stock redis) (filling_start connections)
      (fun _ _ _ before taken => filling_step before taken) (path_reachable path)
  have progress := filling.progress
  unfold Progress at progress
  rw [success] at progress
  rcases progress with ⟨bound, past, small, cached, stored⟩
  have range : ∀ item : Int, (1 ≤ item ∧ item < bound) ↔ (1 ≤ item ∧ item ≤ itemCount) := by
    intro item
    omega
  constructor
  · intro initialised item lower upper
    have inside := (range item).mpr ⟨lower, upper⟩
    have agree := initialised.agree item lower upper
    rw [cached, stored] at agree
    simp only [written, seeded, if_pos inside] at agree
    exact kept_or_inserted.mp agree
  · intro at_start
    constructor
    · intro item lower upper
      have inside := (range item).mpr ⟨lower, upper⟩
      rw [cached, stored]
      simp only [written, seeded, if_pos inside]
      exact kept_or_inserted.mpr (at_start item lower upper)
    · intro item outside
      have beyond : ¬(1 ≤ item ∧ item < bound) := fun inside => outside ((range item).mp inside)
      constructor
      · rw [cached]
        exact if_neg beyond
      · rw [stored]
        exact if_neg beyond

def itemFilled : List Action :=
  [.run (.repo .front), .run (.repo (.driver .returns)), .run (.repo .go), .run .go,
    .run (.redis .returns)]

theorem initialised_two :
    ∃ trail last, Path (step 2 10) (start (noWrites.put 1 10) noWrites 1) trail last ∧
      last.point = .returned .success ∧ Initialised 2 (noWrites.put 1 10) noWrites last := by
  obtain ⟨last, executed, checked⟩ := exec_checked (step 2 10) (start (noWrites.put 1 10) noWrites 1)
    ([.run .connected] ++ itemFilled ++ itemFilled)
    (fun last => decide (last.point = .returned .success)) (by decide)
  have path := path_of_exec executed
  have success := of_decide_eq_true checked
  refine ⟨_, last, path, success, ?_⟩
  apply (initialised_iff_at_start_value 2 10 (noWrites.put 1 10) noWrites 1 path success).mpr
  intro item lower upper
  by_cases first : item = 1
  · exact Or.inr (if_pos first)
  · exact Or.inl (if_neg first)

/-- A restart after three of ten pieces have been sold: Redis offers ten, MySQL has seven. -/
theorem restart_disagrees :
    ∃ trail last, Path (step 1 10) (start (noWrites.put 1 7) (noWrites.put 1 7) 1) trail last ∧
      last.point = .returned .success ∧ last.redis 1 = some 10 ∧
        last.store.committed 1 = some 7 ∧
          ¬Initialised 1 (noWrites.put 1 7) (noWrites.put 1 7) last := by
  obtain ⟨last, executed, checked⟩ := exec_checked (step 1 10)
    (start (noWrites.put 1 7) (noWrites.put 1 7) 1) ([.run .connected] ++ itemFilled)
    (fun last => decide (last.point = .returned .success ∧ last.redis 1 = some 10 ∧
      last.store.committed 1 = some 7)) (by decide)
  obtain ⟨success, cached, stored⟩ := of_decide_eq_true checked
  refine ⟨_, last, path_of_exec executed, success, cached, stored, ?_⟩
  intro initialised
  have agree := initialised.agree 1 (Int.le_refl 1) (Int.le_refl 1)
  rw [cached, stored] at agree
  cases agree

end BackendComponents.Inventory.Initialization
