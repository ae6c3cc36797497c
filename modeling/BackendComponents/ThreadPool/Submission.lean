import BackendComponents.ThreadPool.Equivalence
import BackendComponents.ThreadPool.Ownership

/-!
# Submitting against the shutdown

`submit` looks at the flag once before it locks `m_queue_mutex`. After that the flag only
ends the wait loop, and the task is pushed all the same; the destructor wakes those who
wait on `m_empty` and nobody on `m_full`. So the shutdown is orderly when no producer is
between its test and its push at the moment the flag is set, and every producer that is
there then can run into one of the two.
-/

namespace BackendComponents.ThreadPool.Submission

open BackendComponents.Lib.Paths
open BackendComponents.Lib.Threads
open BackendComponents.ThreadPool.Model
open BackendComponents.ThreadPool.Moves
open BackendComponents.ThreadPool.Exclusion
open BackendComponents.ThreadPool.Ownership
open BackendComponents.ThreadPool.Equivalence

set_option autoImplicit false

def inside : ProducerPc → Bool
  | .lockQueue | .testFull | .waiting | .push => true
  | _ => false

def sentWakeups (impl : Implementation) : DestructorPc → Bool
  | .joinManager | .poll | .leftLoop | .returned => true
  | .unlockQueue => decide (impl = .pthread)
  | _ => false

/-- A producer that stands in the wait and is not listed in `full` has its notification. -/
structure Orderly (impl : Implementation) (cfg : Config) (state : State) : Prop where
  fits : state.pool.taskQ.length ≤ cfg.capacity
  accepted : ∀ id : Nat, state.producers[id]? = some .returned → id ∈ state.pool.pushed
  rejected : ∀ id : Nat, state.producers[id]? = some .rejected →
    id ∈ state.pool.rejected ∧ id ∉ state.pool.pushed
  awake : sentWakeups impl state.destructor = true →
    ∀ id : Nat, state.producers[id]? = some .waiting → id ∉ state.pool.full

def PushesLate (state : State) : Action → Prop
  | .producer id _ => state.pool.isShutdown = true ∧ state.producers[id]? = some .push
  | _ => False

def OrderlyRun (impl : Implementation) (cfg : Config) (trail : List (State × Action))
    (last : State) : Prop :=
  (∀ state ∈ visited trail last, Orderly impl cfg state) ∧
    ∀ taken ∈ trail, ¬PushesLate taken.1 taken.2

def SubmissionLaw (impl : Implementation) : Prop :=
  ∀ cfg : Config, 1 ≤ cfg.capacity → ∀ (trail : List (State × Action)) (last : State),
    Path (step impl cfg) (constructed cfg) trail last → OrderlyRun impl cfg trail last

/-- No producer is between its test and its push when the destructor sets the flag. -/
def EntersAlone (state : State) (action : Action) : Prop :=
  action = .destructor → state.destructor = .notEntered → ∀ pc ∈ state.producers, inside pc = false

instance (state : State) (action : Action) : Decidable (EntersAlone state action) :=
  inferInstanceAs (Decidable (_ → _ → ∀ _ ∈ _, _))

/-! ## The queue before the shutdown -/

/-- Before the flag is set the queue fits, and has room for whoever is about to push. -/
structure Queueing (cfg : Config) (state : State) : Prop where
  fits : state.pool.isShutdown = false → state.pool.taskQ.length ≤ cfg.capacity
  room : state.pool.isShutdown = false → ∀ id : Nat, state.producers[id]? = some .push →
    state.pool.taskQ.length < cfg.capacity
  rejected : ∀ id : Nat, state.producers[id]? = some .rejected → id ∈ state.pool.rejected

theorem queueing_constructed (cfg : Config) : Queueing cfg (constructed cfg) where
  fits := fun _ => Nat.zero_le _
  room := fun _ _ found => nomatch found
  rejected := fun _ found => nomatch found

theorem producer_move_length {cfg : Config} {id : Nat} {pool poolAfter : Pool}
    {pc after : ProducerPc} (move : ProducerMove cfg id pool pc poolAfter after) :
    poolAfter.taskQ.length = pool.taskQ.length ∨
      (pc = .push ∧ after = .unlock ∧ poolAfter.taskQ.length = pool.taskQ.length + 1) := by
  cases move with
  | pushes => exact .inr ⟨rfl, rfl, List.length_append⟩
  | _ => exact .inl rfl

theorem producer_move_room {cfg : Config} {id : Nat} {pool poolAfter : Pool}
    {pc : ProducerPc} (move : ProducerMove cfg id pool pc poolAfter .push)
    (running : pool.isShutdown = false) : poolAfter.taskQ.length < cfg.capacity := by
  cases move with
  | passesFull skip => exact Nat.lt_of_not_le fun crowded => skip ⟨crowded, running⟩

theorem producer_move_rejected {cfg : Config} {id : Nat} {pool poolAfter : Pool}
    {pc after : ProducerPc} (move : ProducerMove cfg id pool pc poolAfter after) :
    pool.rejected ⊆ poolAfter.rejected ∧ (after = .rejected → id ∈ poolAfter.rejected) := by
  cases move with
  | rejects => exact ⟨List.subset_append_left _ _, fun _ => List.mem_append_right _ (by simp)⟩
  | _ => exact ⟨List.Subset.refl _, fun impossible => nomatch impossible⟩

theorem worker_move_length {impl : Implementation} {id : Nat} {pool poolAfter : Pool}
    {pc after : WorkerPc} (move : WorkerMove impl id pool pc poolAfter after) :
    poolAfter.taskQ.length ≤ pool.taskQ.length ∧ poolAfter.rejected = pool.rejected := by
  cases move with
  | takes head =>
      rw [head]
      exact ⟨Nat.le_succ _, rfl⟩
  | _ => exact ⟨Nat.le_refl _, rfl⟩

theorem manager_move_rejected {cfg : Config} {created spawned : Nat} {pool poolAfter : Pool}
    {pc after : ManagerPc} (move : ManagerMove cfg created pool pc poolAfter spawned after) :
    poolAfter.taskQ = pool.taskQ ∧ poolAfter.rejected = pool.rejected := by
  cases move <;> exact ⟨rfl, rfl⟩

theorem destructor_move_rejected {impl : Implementation} {managerPc : ManagerPc}
    {pool poolAfter : Pool} {pc after : DestructorPc}
    (move : DestructorMove impl managerPc pool pc poolAfter after) :
    poolAfter.taskQ = pool.taskQ ∧ poolAfter.rejected = pool.rejected := by
  cases move <;> exact ⟨rfl, rfl⟩

theorem queueing_same {cfg : Config} {state after : State} (queueing : Queueing cfg state)
    (running : after.pool.isShutdown = false → state.pool.isShutdown = false)
    (shorter : after.pool.taskQ.length ≤ state.pool.taskQ.length)
    (producers : after.producers = state.producers)
    (rejected : after.pool.rejected = state.pool.rejected) : Queueing cfg after := by
  constructor
  · exact fun down => Nat.le_trans shorter (queueing.fits (running down))
  · intro down id found
    rw [producers] at found
    exact Nat.lt_of_le_of_lt shorter (queueing.room (running down) id found)
  · intro id found
    rw [producers] at found
    rw [rejected]
    exact queueing.rejected id found

theorem queueing_producer {cfg : Config} {state : State} {id : Nat} {pc after : ProducerPc}
    {pool : Pool} (exclusion : SingleHolder state) (queueing : Queueing cfg state)
    (at_pc : state.producers[id]? = some pc) (move : ProducerMove cfg id state.pool pc pool after) :
    Queueing cfg { state with pool := pool, producers := state.producers.set id after } := by
  have flag := producer_move_flag move
  obtain ⟨kept, new⟩ := producer_move_rejected move
  constructor
  · intro down
    have running := flag.symm.trans down
    rcases producer_move_length move with same | ⟨rfl, _, longer⟩
    · exact Nat.le_trans (Nat.le_of_eq same) (queueing.fits running)
    · exact Nat.le_trans (Nat.le_of_eq longer) (queueing.room running id at_pc)
  · intro down other found
    have running := flag.symm.trans down
    rcases lookup_move found with ⟨_, rfl⟩ | ⟨different, old⟩
    · exact producer_move_room move running
    · rcases producer_move_length move with same | ⟨rfl, _, _⟩
      · exact Nat.lt_of_le_of_lt (Nat.le_of_eq same) (queueing.room running other old)
      · -- two producers at their push would both hold the mutex
        have own := exclusion.producer id _ at_pc rfl
        rw [exclusion.producer other _ old rfl] at own
        exact absurd (Owner.producer.inj (Option.some.inj own)) different
  · intro other found
    rcases lookup_move found with ⟨rfl, rfl⟩ | ⟨_, old⟩
    · exact new rfl
    · exact kept (queueing.rejected other old)

theorem queueing_move {impl : Implementation} {cfg : Config} {state after : State}
    {action : Action} (exclusion : SingleHolder state) (queueing : Queueing cfg state)
    (moved : Move impl cfg state action after) : Queueing cfg after := by
  have running := flag_down_before moved
  cases moved with
  | call null =>
      have old : ∀ (id : Nat) (pc : ProducerPc), pc ≠ .refused → pc ≠ .testShutdown →
          (state.producers ++ [if null then .refused else .testShutdown])[id]? = some pc →
            state.producers[id]? = some pc := by
        intro id pc refused tested found
        rcases lookup_append found with earlier | ⟨_, new⟩
        · exact earlier
        · cases null with
          | true => exact absurd new refused
          | false => exact absurd new tested
      constructor
      · exact queueing.fits
      · intro down id found
        exact queueing.room down id (old id _ (by simp) (by simp) found)
      · intro id found
        exact queueing.rejected id (old id _ (by simp) (by simp) found)
  | producer at_pc move => exact queueing_producer exclusion queueing at_pc move
  | worker at_pc move =>
      obtain ⟨shorter, rejected⟩ := worker_move_length move
      exact queueing_same queueing running shorter rfl rejected
  | manager move =>
      obtain ⟨queue, rejected⟩ := manager_move_rejected move
      exact queueing_same queueing running (Nat.le_of_eq (congrArg List.length queue)) rfl rejected
  | destructor move =>
      obtain ⟨queue, rejected⟩ := destructor_move_rejected move
      exact queueing_same queueing running (Nat.le_of_eq (congrArg List.length queue)) rfl rejected

theorem queueing_reachable {impl : Implementation} {cfg : Config} {state : State}
    (reached : Reachable (step impl cfg) (constructed cfg) state) : Queueing cfg state := by
  have both : SingleHolder state ∧ Queueing cfg state := by
    apply reachable_invariant (fun state => SingleHolder state ∧ Queueing cfg state) _ _ reached
    · exact ⟨exclusion_constructed cfg, queueing_constructed cfg⟩
    · intro before action after inv stepped
      have moved := (move_of_step stepped).2
      exact ⟨exclusion_move inv.1 moved, queueing_move inv.1 inv.2 moved⟩
  exact both.2

/-! ## A shutdown that nobody races with -/

/-- The queue fits, and once the flag is set nobody is between the test and the push. -/
structure Calm (cfg : Config) (state : State) : Prop where
  fits : state.pool.taskQ.length ≤ cfg.capacity
  alone : state.pool.isShutdown = true → ∀ pc ∈ state.producers, inside pc = false

theorem producer_move_outside {cfg : Config} {id : Nat} {pool poolAfter : Pool}
    {pc after : ProducerPc} (move : ProducerMove cfg id pool pc poolAfter after)
    (shut : pool.isShutdown = true) (outside : inside pc = false) :
    inside after = false ∧ poolAfter.taskQ = pool.taskQ := by
  cases move with
  | rejects => exact ⟨rfl, rfl⟩
  | accepts running =>
      rw [shut] at running
      cases running
  | unlocks => exact ⟨rfl, rfl⟩
  | _ => cases outside

theorem calm_after_flag {impl : Implementation} {cfg : Config} {state after : State}
    {action : Action} (calm : Calm cfg state) (shut : state.pool.isShutdown = true)
    (moved : Move impl cfg state action after) : Calm cfg after := by
  have alone := calm.alone shut
  cases moved with
  | call null =>
      refine ⟨calm.fits, fun _ pc member => ?_⟩
      rcases List.mem_append.mp member with old | new
      · exact alone pc old
      · rw [List.mem_singleton.mp new]
        cases null <;> rfl
  | producer at_pc move =>
      obtain ⟨outside, queue⟩ :=
        producer_move_outside move shut (alone _ (List.mem_of_getElem? at_pc))
      refine ⟨by rw [queue]; exact calm.fits, fun _ pc member => ?_⟩
      rcases List.mem_or_eq_of_mem_set member with old | rfl
      · exact alone pc old
      · exact outside
  | worker at_pc move =>
      exact ⟨Nat.le_trans (worker_move_length move).1 calm.fits, fun _ => alone⟩
  | manager move =>
      refine ⟨?_, fun _ => alone⟩
      rw [(manager_move_rejected move).1]
      exact calm.fits
  | destructor move =>
      refine ⟨?_, fun _ => alone⟩
      rw [(destructor_move_rejected move).1]
      exact calm.fits

theorem flag_set_by {impl : Implementation} {cfg : Config} {state after : State}
    {action : Action} (moved : Move impl cfg state action after)
    (running : state.pool.isShutdown = false) (shut : after.pool.isShutdown = true) :
    action = .destructor ∧ state.destructor = .notEntered ∧
      after.pool.taskQ = state.pool.taskQ ∧ after.producers = state.producers := by
  have kept : after.pool.isShutdown = state.pool.isShutdown → False := by
    intro same
    rw [shut, running] at same
    cases same
  cases moved with
  | call null => exact (kept rfl).elim
  | producer at_pc move => exact (kept (producer_move_flag move)).elim
  | worker at_pc move => exact (kept (worker_move_flag move)).elim
  | manager move => exact (kept (manager_move_flag move)).elim
  | destructor move =>
      generalize destructorPc : state.destructor = pc at move
      cases move with
      | enters => exact ⟨rfl, rfl, rfl, rfl⟩
      | _ => exact (kept rfl).elim

theorem calm_move {impl : Implementation} {cfg : Config} {state after : State}
    {action : Action} (reached : Reachable (step impl cfg) (constructed cfg) after)
    (calm : Calm cfg state) (alone : EntersAlone state action)
    (moved : Move impl cfg state action after) : Calm cfg after := by
  cases shut : state.pool.isShutdown with
  | true => exact calm_after_flag calm shut moved
  | false =>
      cases shutAfter : after.pool.isShutdown with
      | false =>
          refine ⟨(queueing_reachable reached).fits shutAfter, fun impossible => ?_⟩
          rw [shutAfter] at impossible
          cases impossible
      | true =>
          obtain ⟨entering, entered, queue, producers⟩ := flag_set_by moved shut shutAfter
          constructor
          · rw [queue]
            exact calm.fits
          · intro _
            rw [producers]
            exact alone entering entered

theorem orderly_of_calm {impl : Implementation} {cfg : Config} {state : State}
    (reached : Reachable (step impl cfg) (constructed cfg) state) (calm : Calm cfg state) :
    Orderly impl cfg state := by
  have named := (owned_reachable reached).named
  constructor
  · exact calm.fits
  · exact fun id found => (named.pushed id).mpr (.inr found)
  · intro id found
    refine ⟨(queueing_reachable reached).rejected id found, fun member => ?_⟩
    rcases (named.pushed id).mp member with other | other
    · rw [found] at other
      cases other
    · rw [found] at other
      cases other
  · intro sent id found
    have entered : state.destructor ≠ .notEntered := by
      intro outside
      rw [outside] at sent
      cases sent
    have outside := calm.alone (announced_reachable reached entered) _ (List.mem_of_getElem? found)
    cases outside

theorem orderly_run_of_alone {impl : Implementation} {cfg : Config}
    {trail : List (State × Action)} {last : State}
    (path : Path (step impl cfg) (constructed cfg) trail last)
    (alone : ∀ taken ∈ trail, EntersAlone taken.1 taken.2) : OrderlyRun impl cfg trail last := by
  have calm : ∀ state ∈ visited trail last, Calm cfg state := by
    apply path_property_of_good (Reachable (step impl cfg) (constructed cfg)) (Calm cfg)
      EntersAlone (reachable_start _ _) _ _ _ path alone
    · refine ⟨Nat.zero_le _, fun impossible => ?_⟩
      cases impossible
    · exact fun _ _ _ reached stepped => reachable_next reached stepped
    · intro state action after reached calm entering stepped
      exact calm_move (reachable_next reached stepped) calm entering (move_of_step stepped).2
  constructor
  · intro state member
    exact orderly_of_calm (visited_reachable path member) (calm state member)
  · intro taken member late
    have here : taken.1 ∈ visited trail last :=
      List.mem_append_left _ (List.mem_map_of_mem member)
    rcases taken with ⟨state, action⟩
    cases action with
    | producer id pick =>
        have outside := (calm state here).alone late.1 _ (List.mem_of_getElem? late.2)
        cases outside
    | _ => exact late

/-! ## Who holds the mutex while it is taken -/

/-- The recorded owner of `m_queue_mutex` stands between a lock and its unlock. -/
structure HolderPresent (state : State) : Prop where
  worker : ∀ id : Nat, state.pool.queueMutex = some (.worker id) →
    ∃ pc, state.workers[id]? = some pc ∧ workerHolds pc = true
  producer : ∀ id : Nat, state.pool.queueMutex = some (.producer id) →
    ∃ pc, state.producers[id]? = some pc ∧ producerHolds pc = true
  destructor : state.pool.queueMutex = some .destructor → destructorHolds state.destructor = true

theorem holder_constructed (cfg : Config) : HolderPresent (constructed cfg) where
  worker := fun _ impossible => nomatch impossible
  producer := fun _ impossible => nomatch impossible
  destructor := fun impossible => nomatch impossible

theorem holder_move {impl : Implementation} {cfg : Config} {state after : State}
    {action : Action} (present : HolderPresent state) (moved : Move impl cfg state action after) :
    HolderPresent after := by
  cases moved with
  | call null =>
      refine ⟨present.worker, ?_, present.destructor⟩
      intro id holds
      obtain ⟨pc, found, inSection⟩ := present.producer id holds
      exact ⟨pc, lookup_spawn_old _ found, inSection⟩
  | producer at_pc move =>
      have mutex := producer_move_mutex move
      refine ⟨?_, ?_, ?_⟩
      · exact fun other holds => present.worker other (mutex_move_foreign mutex nofun holds)
      · exact mutex_move_present producerHolds (fun _ _ => Owner.producer.inj) at_pc mutex
          present.producer
      · exact fun holds => present.destructor (mutex_move_foreign mutex nofun holds)
  | worker at_pc move =>
      have mutex := worker_move_mutex move
      refine ⟨?_, ?_, ?_⟩
      · exact mutex_move_present workerHolds (fun _ _ => Owner.worker.inj) at_pc mutex present.worker
      · exact fun other holds => present.producer other (mutex_move_foreign mutex nofun holds)
      · exact fun holds => present.destructor (mutex_move_foreign mutex nofun holds)
  | manager move =>
      have mutex := manager_move_mutex move
      refine ⟨?_, ?_, ?_⟩
      · intro id holds
        obtain ⟨pc, found, inSection⟩ := present.worker id (mutex.symm.trans holds)
        exact ⟨pc, lookup_spawn_old _ found, inSection⟩
      · exact fun id holds => present.producer id (mutex.symm.trans holds)
      · exact fun holds => present.destructor (mutex.symm.trans holds)
  | destructor move =>
      have mutex := destructor_move_mutex move
      refine ⟨?_, ?_, ?_⟩
      · exact fun other holds => present.worker other (mutex_move_foreign mutex nofun holds)
      · exact fun other holds => present.producer other (mutex_move_foreign mutex nofun holds)
      · intro holds
        rcases mutex_move_holder mutex present.destructor holds with ⟨_, within⟩ | ⟨different, _⟩
        · exact within
        · exact absurd rfl different

theorem holder_reachable {impl : Implementation} {cfg : Config} {state : State}
    (reached : Reachable (step impl cfg) (constructed cfg) state) : HolderPresent state :=
  reachable_invariant HolderPresent (holder_constructed cfg)
    (fun _ _ _ present stepped => holder_move present (move_of_step stepped).2) reached

/-! ## A shutdown that a producer races with -/

/-- Some continuation is not orderly. -/
def Doomed (impl : Implementation) (cfg : Config) (state : State) : Prop :=
  ∃ (trail : List (State × Action)) (last : State),
    Path (step impl cfg) state trail last ∧ ¬OrderlyRun impl cfg trail last

/-- The flag is up and the destructor is about to lock `m_queue_mutex`. -/
structure Racing (state : State) : Prop where
  shut : state.pool.isShutdown = true
  entered : state.destructor = .lockQueue

section Races

variable {impl : Implementation} {cfg : Config} {state after : State}

theorem doomed_step {action : Action} (stepped : step impl cfg state action = some after)
    (doomed : Doomed impl cfg after) : Doomed impl cfg state := by
  obtain ⟨trail, last, path, broken⟩ := doomed
  refine ⟨(state, action) :: trail, last, path_trans (path_step stepped) path, fun orderly => ?_⟩
  apply broken
  constructor
  · exact fun seen member => orderly.1 seen (List.mem_cons_of_mem state member)
  · exact fun taken member => orderly.2 taken (List.mem_cons_of_mem _ member)

theorem doomed_move {action : Action} (present : state.destructor ≠ .returned)
    (move : Move impl cfg state action after) (doomed : Doomed impl cfg after) :
    Doomed impl cfg state := by
  obtain ⟨taken, stepped⟩ := step_of_move present move
  exact doomed_step stepped doomed

theorem doomed_producer {id : Nat} {pc next : ProducerPc} {pool : Pool}
    (present : state.destructor ≠ .returned) (at_pc : state.producers[id]? = some pc)
    (move : ProducerMove cfg id state.pool pc pool next)
    (doomed : Doomed impl cfg
      { state with pool := pool, producers := state.producers.set id next }) :
    Doomed impl cfg state := by
  have moved : Move impl cfg state (.producer id 0) _ := .producer at_pc move
  exact doomed_move present moved doomed

theorem racing_present (racing : Racing state) : state.destructor ≠ .returned := by
  rw [racing.entered]
  exact fun impossible => nomatch impossible

theorem doomed_push (racing : Racing state) {id : Nat}
    (at_pc : state.producers[id]? = some .push) : Doomed impl cfg state := by
  obtain ⟨pick, empty, notified⟩ := exists_notify_one state.pool.empty
  have pushes : ProducerMove cfg id state.pool .push _ .unlock := .pushes notified
  obtain ⟨woken, submitted⟩ := submit_of_producer_move pushes
  have stepped : ∃ after, step impl cfg state (.producer id woken) = some after := by
    unfold step
    rw [if_neg (racing_present racing)]
    dsimp only
    unfold stepProducer
    rw [at_pc, Option.bind_some, submitted]
    exact ⟨_, rfl⟩
  obtain ⟨after, stepped⟩ := stepped
  refine ⟨_, after, path_step stepped, fun orderly => ?_⟩
  exact orderly.2 _ List.mem_cons_self ⟨racing.shut, at_pc⟩

theorem doomed_test (racing : Racing state) {id : Nat}
    (at_pc : state.producers[id]? = some .testFull) : Doomed impl cfg state := by
  have skip : ¬(cfg.capacity ≤ state.pool.taskQ.length ∧ state.pool.isShutdown = false) := by
    rw [racing.shut]
    exact fun impossible => nomatch impossible.2
  apply doomed_producer (racing_present racing) at_pc (.passesFull skip)
  exact doomed_push ⟨racing.shut, racing.entered⟩ (lookup_move_self at_pc)

theorem doomed_blocked (racing : Racing state) (free : state.pool.queueMutex = none) {id : Nat}
    (at_pc : state.producers[id]? = some .waiting) (blocked : id ∈ state.pool.full) :
    Doomed impl cfg state := by
  have present := racing_present racing
  have entered := racing.entered
  have sent : ∀ last : State, sentWakeups impl last.destructor = true →
      last.producers = state.producers → last.pool.full = state.pool.full →
        Doomed impl cfg last := by
    intro last sent producers full
    refine ⟨[], last, .here, fun orderly => ?_⟩
    apply (orderly.1 last (by simp [visited])).awake sent id
    · rw [producers]
      exact at_pc
    · rw [full]
      exact blocked
  cases impl with
  | stl =>
      have locks : DestructorMove .stl state.manager state.pool state.destructor
          { state.pool with queueMutex := some .destructor } .unlockQueue := by
        rw [entered]
        exact .locksStl rfl free
      apply doomed_move present (.destructor locks)
      apply doomed_move (by simp) (.destructor (.unlocksStl rfl))
      apply doomed_move (by simp) (.destructor .notifies)
      exact sent _ rfl rfl rfl
  | pthread =>
      have locks : DestructorMove .pthread state.manager state.pool state.destructor
          { state.pool with queueMutex := some .destructor } .broadcast := by
        rw [entered]
        exact .locksPthread rfl free
      apply doomed_move present (.destructor locks)
      apply doomed_move (by simp) (.destructor .broadcasts)
      exact sent _ rfl rfl rfl

theorem doomed_free (racing : Racing state) (free : state.pool.queueMutex = none) {id : Nat}
    {pc : ProducerPc} (at_pc : state.producers[id]? = some pc) (racer : inside pc = true) :
    Doomed impl cfg state := by
  have present := racing_present racing
  cases pc with
  | lockQueue =>
      apply doomed_producer present at_pc (.locks free)
      exact doomed_test ⟨racing.shut, racing.entered⟩ (lookup_move_self at_pc)
  | testFull => exact doomed_test racing at_pc
  | waiting =>
      by_cases blocked : id ∈ state.pool.full
      · exact doomed_blocked racing free at_pc blocked
      · apply doomed_producer present at_pc (.resumes blocked free)
        exact doomed_test ⟨racing.shut, racing.entered⟩ (lookup_move_self at_pc)
  | push => exact doomed_push racing at_pc
  | _ => cases racer

/-- The steps a worker still has to make before it unlocks, with the flag up. -/
def stepsToUnlock : WorkerPc → Nat
  | .testExit => 5
  | .testWait => 4
  | .testShutdown => 3
  | .takeExit | .decLive | .getTask => 2
  | .unlockExit | .unlockTask _ => 1
  | _ => 0

theorem steps_positive {pc : WorkerPc} (holds : workerHolds pc = true) :
    0 < stepsToUnlock pc := by
  cases pc <;> first | exact Nat.succ_pos _ | cases holds

theorem worker_goes_on (impl : Implementation) (id : Nat) {pool : Pool} {pc : WorkerPc}
    (shut : pool.isShutdown = true) (holds : workerHolds pc = true) :
    ∃ poolAfter after, WorkerMove impl id pool pc poolAfter after ∧
      (poolAfter.queueMutex = none ∨
        workerHolds after = true ∧ stepsToUnlock after < stepsToUnlock pc) := by
  cases pc with
  | testWait =>
      have skip : ¬(pool.taskQ = [] ∧ pool.isShutdown = false) := by
        rw [shut]
        exact fun impossible => nomatch impossible.2
      exact ⟨_, _, .passesWait skip, .inr ⟨rfl, by decide⟩⟩
  | testExit =>
      by_cases credit : 0 < pool.exitThreads
      · cases impl with
        | stl => exact ⟨_, _, .takesCredit rfl credit, .inr ⟨rfl, by decide⟩⟩
        | pthread => exact ⟨_, _, .seesCredit rfl credit, .inr ⟨rfl, by decide⟩⟩
      · exact ⟨_, _, .noCredit credit, .inr ⟨rfl, by decide⟩⟩
  | takeExit => exact ⟨_, _, .spendsCredit, .inr ⟨rfl, by decide⟩⟩
  | testShutdown => exact ⟨_, _, .seesShutdown shut, .inr ⟨rfl, by decide⟩⟩
  | decLive => exact ⟨_, _, .retires, .inr ⟨rfl, by decide⟩⟩
  | unlockExit => exact ⟨_, _, .unlocksExit, .inl rfl⟩
  | getTask =>
      obtain ⟨pick, full, notified⟩ := exists_notify_one pool.full
      cases head : pool.taskQ with
      | nil => exact ⟨_, _, .takesNull head notified, .inr ⟨rfl, Nat.lt_succ_self 1⟩⟩
      | cons task rest => exact ⟨_, _, .takes head notified, .inr ⟨rfl, Nat.lt_succ_self 1⟩⟩
  | unlockTask task => exact ⟨_, _, .unlocksTask, .inl rfl⟩
  | _ => cases holds

/-- Induction on the steps that the worker still has to make. -/
theorem doomed_worker (steps : Nat) {worker id : Nat} {pc : WorkerPc} {racerPc : ProducerPc}
    (racing : Racing state) (found : state.workers[worker]? = some pc)
    (holds : workerHolds pc = true) (bound : stepsToUnlock pc ≤ steps)
    (at_pc : state.producers[id]? = some racerPc) (racer : inside racerPc = true) :
    Doomed impl cfg state := by
  induction steps generalizing state pc with
  | zero => exact absurd (steps_positive holds) (Nat.not_lt.mpr bound)
  | succ steps ih =>
      obtain ⟨pool, next, move, goesOn⟩ := worker_goes_on impl worker racing.shut holds
      have moved : Move impl cfg state (.worker worker 0) _ := .worker found move
      apply doomed_move (racing_present racing) moved
      have still : Racing
          { state with pool := pool, workers := state.workers.set worker next } :=
        ⟨(worker_move_flag move).trans racing.shut, racing.entered⟩
      rcases goesOn with free | ⟨again, fewer⟩
      · exact doomed_free still free at_pc racer
      · exact ih still (lookup_move_self found) again (by omega) at_pc

theorem doomed_racing (present : HolderPresent state) (racing : Racing state) {id : Nat}
    {pc : ProducerPc} (at_pc : state.producers[id]? = some pc) (racer : inside pc = true) :
    Doomed impl cfg state := by
  cases holder : state.pool.queueMutex with
  | none => exact doomed_free racing holder at_pc racer
  | some owner =>
      cases owner with
      | worker other =>
          obtain ⟨seen, found, holds⟩ := present.worker other holder
          exact doomed_worker _ racing found holds (Nat.le_refl _) at_pc racer
      | producer other =>
          obtain ⟨seen, found, holds⟩ := present.producer other holder
          cases seen with
          | testFull => exact doomed_test racing found
          | push => exact doomed_push racing found
          | unlock =>
              apply doomed_producer (racing_present racing) found .unlocks
              have different : id ≠ other := by
                rintro rfl
                rw [found] at at_pc
                rw [← Option.some.inj at_pc] at racer
                cases racer
              have still : (state.producers.set other .returned)[id]? = some pc :=
                (lookup_move_other different).trans at_pc
              exact doomed_free ⟨racing.shut, racing.entered⟩ rfl still racer
          | _ => cases holds
      | destructor =>
          have impossible := present.destructor holder
          rw [racing.entered] at impossible
          cases impossible

end Races

/-- In every run in which nobody is between the test and the push when the flag is set,
submitting and the shutdown are orderly throughout. From every reachable state in which
somebody is there, the destructor's first step can be followed by a run that is not. -/
theorem submission_orderly_iff_alone (impl : Implementation) (cfg : Config) :
    (∀ (trail : List (State × Action)) (last : State),
      Path (step impl cfg) (constructed cfg) trail last →
        (∀ taken ∈ trail, EntersAlone taken.1 taken.2) → OrderlyRun impl cfg trail last) ∧
    ∀ state : State, Reachable (step impl cfg) (constructed cfg) state →
      ¬EntersAlone state .destructor →
        ∃ flagged : State, step impl cfg state .destructor = some flagged ∧
          ∃ (trail : List (State × Action)) (last : State),
            Path (step impl cfg) flagged trail last ∧ ¬OrderlyRun impl cfg trail last := by
  constructor
  · exact fun trail last path alone => orderly_run_of_alone path alone
  · intro state reached crowded
    simp only [EntersAlone, not_forall] at crowded
    obtain ⟨_, entered, pc, member, racer⟩ := crowded
    obtain ⟨id, at_pc⟩ := List.mem_iff_getElem?.mp member
    have begins : DestructorMove impl state.manager state.pool state.destructor
        { state.pool with isShutdown := true } .lockQueue := by
      rw [entered]
      exact .enters
    have stepped : step impl cfg state .destructor = some
        { state with
          pool := { state.pool with isShutdown := true }, destructor := .lockQueue } := by
      unfold step stepDestructor
      rw [destructor_of_destructor_move begins, entered]
      rfl
    refine ⟨_, stepped, ?_⟩
    have present := holder_reachable (reachable_next reached stepped)
    exact doomed_racing present ⟨rfl, rfl⟩ at_pc (Bool.not_eq_false _ ▸ racer)

/-- The first call has returned, the second has not tested the flag. -/
def testsAfterFlag : List Action :=
  [.submit false] ++ List.replicate 5 (.producer 0 0) ++ [.submit false, .destructor] ++
    [.producer 1 0] ++ List.replicate 3 .destructor

theorem submission_orderly_rejected :
    ∃ last, exec (step .stl ⟨1, 1, 1, 1, by decide⟩) (constructed ⟨1, 1, 1, 1, by decide⟩)
        testsAfterFlag = some last ∧
      last.producers = [.returned, .rejected] ∧
      OrderlyRun .stl ⟨1, 1, 1, 1, by decide⟩ (trailOf (step .stl ⟨1, 1, 1, 1, by decide⟩)
        (constructed ⟨1, 1, 1, 1, by decide⟩) testsAfterFlag) last := by
  obtain ⟨last, executed, checked⟩ := exec_checked (step .stl ⟨1, 1, 1, 1, by decide⟩)
    (constructed ⟨1, 1, 1, 1, by decide⟩) testsAfterFlag
    (fun last => decide (last.producers = [.returned, .rejected])) (by decide)
  refine ⟨last, executed, of_decide_eq_true checked, ?_⟩
  exact (submission_orderly_iff_alone .stl ⟨1, 1, 1, 1, by decide⟩).1 _ last
    (path_of_exec executed) (by decide)

/-- The queue is full, one producer waits and one is about to lock when the flag is set. -/
def submitRace : List Action :=
  [.submit false] ++ List.replicate 5 (.producer 0 0) ++ [.submit false] ++
    List.replicate 3 (.producer 1 0) ++ [.submit false, .producer 2 0, .destructor] ++
    List.replicate 4 (.producer 2 0) ++ List.replicate 3 .destructor

theorem law_fails_of_overfull {impl : Implementation}
    (overfull : (exec (step impl ⟨1, 1, 1, 1, by decide⟩) (constructed ⟨1, 1, 1, 1, by decide⟩)
      submitRace).any (fun last => decide (last.pool.taskQ = [0, 2] ∧
        last.producers = [.returned, .waiting, .returned] ∧ last.pool.full = [1] ∧
        last.destructor = .joinManager)) = true) :
    ¬SubmissionLaw impl := by
  intro law
  obtain ⟨last, executed, checked⟩ := exec_checked _ _ _ _ overfull
  have orderly := law ⟨1, 1, 1, 1, by decide⟩ (by decide) _ last (path_of_exec executed)
  have fits := (orderly.1 last (by simp [visited])).fits
  rw [(of_decide_eq_true checked).1] at fits
  exact absurd fits (by decide)

/-- The third task is pushed over the capacity, and the second producer never wakes. -/
theorem submit_races_shutdown : ¬SubmissionLaw .stl ∧ ¬SubmissionLaw .pthread := by
  constructor
  · exact law_fails_of_overfull (by decide)
  · exact law_fails_of_overfull (by decide)

end BackendComponents.ThreadPool.Submission
