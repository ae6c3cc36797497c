import BackendComponents.Lib.Stuttering
import BackendComponents.ThreadPool.Counters

/-!
# The two implementations, up to stuttering

A pthread worker past its test of `m_exit_threads` stands where an STL worker is
about to test: the credit it saw is still there when it spends it. In the destructor
the pthread version wakes the workers while it holds `m_queue_mutex` and the STL
version after it released it; in between a worker may be awake in one version and
still blocked in the other, where nothing it could do is observed.

Apart from these two places an STL state is determined by its pthread state, so the
relation is given by a function, `mirror`.
-/

namespace BackendComponents.ThreadPool.Equivalence

open BackendComponents.Lib.Paths
open BackendComponents.Lib.Threads
open BackendComponents.Lib.Stuttering
open BackendComponents.ThreadPool.Model
open BackendComponents.ThreadPool.Moves
open BackendComponents.ThreadPool.Exclusion
open BackendComponents.ThreadPool.Counters

set_option autoImplicit false

/-- What is compared: the queue, the counters, which slots are occupied, and the
tasks started and finished so far. -/
structure View where
  taskQ : List Task
  liveThreads : Int
  busyThreads : Int
  occupied : List Bool
  started : List Task
  finished : List Task
  deriving DecidableEq, Repr

def view (state : State) : View where
  taskQ := state.pool.taskQ
  liveThreads := state.pool.liveThreads
  busyThreads := state.pool.busyThreads
  occupied := state.pool.threadWorkGroup.map Option.isSome
  started := state.pool.started
  finished := state.pool.finished

def toStl : WorkerPc → WorkerPc
  | .takeExit => .testExit
  | pc => pc

def withEmpty (pool : Pool) (empty : List Nat) : Pool := { pool with empty := empty }

/-- The STL state beside a pthread state, with its own blocked workers and its own
destructor. -/
def mirror (state : State) (empty : List Nat) (destructorPc : DestructorPc) : State where
  pool := withEmpty state.pool empty
  workers := state.workers.map toStl
  producers := state.producers
  manager := state.manager
  destructor := destructorPc

/-- The destructors side by side, pthread first, with the workers blocked on
`m_empty` in each version. -/
inductive Phase (own other : List Nat) : DestructorPc → DestructorPc → Prop
  | same {pc : DestructorPc} (outside : pc ≠ .broadcast ∧ pc ≠ .unlockQueue ∧ pc ≠ .notifyAll)
      (level : own = other) : Phase own other pc pc
  | early (level : own = other) : Phase own other .broadcast .unlockQueue
  | held (drained : own = []) : Phase own other .unlockQueue .unlockQueue
  | late (drained : own = []) : Phase own other .joinManager .notifyAll

/-- A pthread state and an STL state at corresponding points of a run. -/
inductive Matches (state : State) : State → Prop
  | beside {empty : List Nat} {pc : DestructorPc}
      (phase : Phase state.pool.empty empty state.destructor pc) :
      Matches state (mirror state empty pc)

/-- The values together with how far every call of `submit` has come: two runs that agree
on it have the same clients. -/
def clientView (state : State) : List ProducerPc × View := (state.producers, view state)

theorem client_view_of_matches {state stl : State} (alike : Matches state stl) :
    clientView stl = clientView state := by
  cases alike with
  | beside phase => rfl

theorem matches_constructed (cfg : Config) : Matches (constructed cfg) (constructed cfg) := by
  have same : mirror (constructed cfg) [] .notEntered = constructed cfg := by
    simp [mirror, constructed, withEmpty, toStl]
  have phase : Phase [] [] DestructorPc.notEntered .notEntered := .same (by simp) rfl
  have alike : Matches (constructed cfg) (mirror (constructed cfg) [] .notEntered) :=
    .beside phase
  rwa [same] at alike

theorem phase_present {own other : List Nat} {pc stlPc : DestructorPc}
    (phase : Phase own other pc stlPc) : pc = .returned ↔ stlPc = .returned := by
  cases phase <;> simp

/-! ## Moves that do not depend on who is blocked on m_empty -/

/-- How the workers blocked in two pools change together. -/
structure Carries (own other ownAfter otherAfter : List Nat) : Prop where
  level : own = other → ownAfter = otherAfter
  drained : own = [] → ownAfter = []
  drainedOther : other = [] → otherAfter = []

theorem carries_unchanged (own other : List Nat) : Carries own other own other :=
  ⟨fun level => level, fun drained => drained, fun drained => drained⟩

theorem phase_carried {own other ownAfter otherAfter : List Nat} {pc stlPc : DestructorPc}
    (phase : Phase own other pc stlPc) (carried : Carries own other ownAfter otherAfter) :
    Phase ownAfter otherAfter pc stlPc := by
  cases phase with
  | same outside level => exact .same outside (carried.level level)
  | early level => exact .early (carried.level level)
  | held drained => exact .held (carried.drained drained)
  | late drained => exact .late (carried.drained drained)

theorem phase_carried_back {own other ownAfter otherAfter : List Nat} {pc stlPc : DestructorPc}
    (phase : Phase own other pc stlPc) (carried : Carries other own otherAfter ownAfter) :
    Phase ownAfter otherAfter pc stlPc :=
  phase_carried phase
    ⟨fun level => (carried.level level.symm).symm, carried.drainedOther, carried.drained⟩

theorem notify_carried {pick : Nat} {own ownAfter : List Nat}
    (notified : notifyOne pick own = some ownAfter) (other : List Nat) :
    ∃ reply otherAfter, notifyOne reply other = some otherAfter ∧
      Carries own other ownAfter otherAfter := by
  have stays : ∀ {thread : Nat} {blocked rest : List Nat},
      notifyOne thread blocked = some rest → blocked = [] → rest = [] := by
    intro thread blocked rest woken drained
    subst drained
    simpa [notifyOne] using woken.symm
  by_cases level : own = other
  · subst level
    exact ⟨pick, ownAfter, notified, fun _ => rfl, stays notified, stays notified⟩
  · obtain ⟨reply, otherAfter, woken⟩ := exists_notify_one other
    exact ⟨reply, otherAfter, woken, fun same => absurd same level, stays notified, stays woken⟩

theorem producer_move_carried {cfg : Config} {id : Nat} {pool poolAfter : Pool}
    {pc after : ProducerPc} (move : ProducerMove cfg id pool pc poolAfter after)
    (other : List Nat) :
    ∃ otherAfter, ProducerMove cfg id (withEmpty pool other) pc
        (withEmpty poolAfter otherAfter) after ∧
      Carries pool.empty other poolAfter.empty otherAfter := by
  cases move with
  | rejects shut => exact ⟨other, .rejects shut, carries_unchanged _ _⟩
  | accepts running => exact ⟨other, .accepts running, carries_unchanged _ _⟩
  | locks free => exact ⟨other, .locks free, carries_unchanged _ _⟩
  | blocks crowded running => exact ⟨other, .blocks crowded running, carries_unchanged _ _⟩
  | passesFull skip => exact ⟨other, .passesFull skip, carries_unchanged _ _⟩
  | resumes awake free => exact ⟨other, .resumes awake free, carries_unchanged _ _⟩
  | pushes notified =>
      obtain ⟨reply, otherAfter, woken, carried⟩ := notify_carried notified other
      exact ⟨otherAfter, .pushes woken, carried⟩
  | unlocks => exact ⟨other, .unlocks, carries_unchanged _ _⟩

theorem manager_move_carried {cfg : Config} {created spawned : Nat} {pool poolAfter : Pool}
    {pc after : ManagerPc} (move : ManagerMove cfg created pool pc poolAfter spawned after)
    (other : List Nat) :
    ∃ otherAfter, ManagerMove cfg created (withEmpty pool other) pc
        (withEmpty poolAfter otherAfter) spawned after ∧
      Carries pool.empty other poolAfter.empty otherAfter := by
  cases move with
  | stops shut => exact ⟨other, .stops shut, carries_unchanged _ _⟩
  | cycles running => exact ⟨other, .cycles running, carries_unchanged _ _⟩
  | readsQueue free => exact ⟨other, .readsQueue free, carries_unchanged _ _⟩
  | readsCounters => exact ⟨other, .readsCounters, carries_unchanged _ _⟩
  | grows wanted => exact ⟨other, .grows wanted, carries_unchanged _ _⟩
  | keepsSize enough => exact ⟨other, .keepsSize enough, carries_unchanged _ _⟩
  | grants idle => exact ⟨other, .grants idle, carries_unchanged _ _⟩
  | grantsNothing busy => exact ⟨other, .grantsNothing busy, carries_unchanged _ _⟩
  | notifies notified =>
      obtain ⟨reply, otherAfter, woken, carried⟩ := notify_carried notified other
      exact ⟨otherAfter, .notifies woken, carried⟩
  | notifiedAll => exact ⟨other, .notifiedAll, carries_unchanged _ _⟩

/-- The points of `work` at which the version or the set of blocked workers matters. -/
def delicate : WorkerPc → Bool
  | .testWait | .waiting | .testExit | .takeExit => true
  | _ => false

theorem worker_move_carried {impl : Implementation} (version : Implementation) {id : Nat}
    {pool poolAfter : Pool} {pc after : WorkerPc}
    (move : WorkerMove impl id pool pc poolAfter after) (plain : delicate pc = false)
    (other : List Nat) :
    WorkerMove version id (withEmpty pool other) pc (withEmpty poolAfter other) after ∧
      poolAfter.empty = pool.empty ∧ toStl pc = pc ∧ toStl after = after := by
  cases move with
  | locks free => exact ⟨.locks free, rfl, rfl, rfl⟩
  | seesShutdown shut => exact ⟨.seesShutdown shut, rfl, rfl, rfl⟩
  | staysOpen running => exact ⟨.staysOpen running, rfl, rfl, rfl⟩
  | retires => exact ⟨.retires, rfl, rfl, rfl⟩
  | unlocksExit => exact ⟨.unlocksExit, rfl, rfl, rfl⟩
  | releases => exact ⟨.releases, rfl, rfl, rfl⟩
  | takes head notified => exact ⟨.takes head notified, rfl, rfl, rfl⟩
  | takesNull nothing notified => exact ⟨.takesNull nothing notified, rfl, rfl, rfl⟩
  | unlocksTask => exact ⟨.unlocksTask, rfl, rfl, rfl⟩
  | getsBusy => exact ⟨.getsBusy, rfl, rfl, rfl⟩
  | starts => exact ⟨.starts, rfl, rfl, rfl⟩
  | finishes => exact ⟨.finishes, rfl, rfl, rfl⟩
  | deletes => exact ⟨.deletes, rfl, rfl, rfl⟩
  | getsIdle => exact ⟨.getsIdle, rfl, rfl, rfl⟩
  | _ => cases plain

/-! ## What the reachable states add -/

/-- The flag is set from the destructor's first step on. -/
def Announced (state : State) : Prop :=
  state.destructor ≠ .notEntered → state.pool.isShutdown = true

theorem announced_reachable {impl : Implementation} {cfg : Config} {state : State}
    (reached : Reachable (step impl cfg) (constructed cfg) state) : Announced state := by
  apply reachable_invariant Announced _ _ reached
  · intro entered
    exact absurd rfl entered
  · intro before action after announced stepped entered
    have moved := (move_of_step stepped).2
    by_cases begun : before.destructor = .notEntered
    · cases moved with
      | destructor move =>
          rw [begun] at move
          cases move with
          | enters => rfl
      | _ => exact absurd begun entered
    · exact move_keeps_flag moved (announced begun)

theorem phase_before_shutdown {state : State} {other : List Nat} {pc : DestructorPc}
    (announced : Announced state) (running : state.pool.isShutdown = false)
    (phase : Phase state.pool.empty other state.destructor pc) :
    state.pool.empty = other ∧ state.destructor = .notEntered ∧ pc = .notEntered := by
  have outside : state.destructor = .notEntered := by
    by_contra entered
    rw [announced entered] at running
    cases running
  rw [outside] at phase
  cases phase with
  | same _ level => exact ⟨level, outside, rfl⟩

/-! ## From pthread to STL -/

/-- A step answered by no step or by one. -/
def Answered (step : State → Action → Option State) (related : State → Prop)
    (state : State) : Prop :=
  related state ∨ ∃ reply last, step state reply = some last ∧ related last

theorem answered_by_move {impl : Implementation} {cfg : Config} {state last : State}
    {action : Action} {related : State → Prop} (present : state.destructor ≠ .returned)
    (move : Move impl cfg state action last) (arrived : related last) :
    Answered (step impl cfg) related state := by
  obtain ⟨reply, taken⟩ := step_of_move present move
  exact .inr ⟨reply, last, taken, arrived⟩

theorem answer_worker {cfg : Config} {state : State} {id : Nat} {pc after : WorkerPc}
    {pool : Pool} {other otherAfter : List Nat} {stlPc : DestructorPc}
    (present : state.destructor ≠ .returned) (at_pc : state.workers[id]? = some pc)
    (move : WorkerMove .stl id (withEmpty state.pool other) (toStl pc)
      (withEmpty pool otherAfter) (toStl after))
    (before : Phase state.pool.empty other state.destructor stlPc)
    (phase : Phase pool.empty otherAfter state.destructor stlPc) :
    Answered (step .stl cfg)
      (Matches { state with pool := pool, workers := state.workers.set id after })
      (mirror state other stlPc) := by
  have found : (mirror state other stlPc).workers[id]? = some (toStl pc) := by
    simp [mirror, at_pc]
  have landing : mirror { state with pool := pool, workers := state.workers.set id after }
      otherAfter stlPc =
      { mirror state other stlPc with
        pool := withEmpty pool otherAfter
        workers := (mirror state other stlPc).workers.set id (toStl after) } := by
    simp [mirror, List.map_set]
  have reply : Move .stl cfg (mirror state other stlPc) (.worker id 0) _ := .worker found move
  apply answered_by_move (mt (phase_present before).mpr present) reply
  rw [← landing]
  exact .beside phase

theorem mirror_tested {state : State} {id : Nat} (at_pc : state.workers[id]? = some .testExit)
    (other : List Nat) (stlPc : DestructorPc) :
    mirror { state with workers := state.workers.set id .takeExit } other stlPc =
      mirror state other stlPc := by
  have still : (state.workers.map toStl).set id .testExit = state.workers.map toStl := by
    apply set_lookup
    simp [at_pc, toStl]
  unfold mirror
  rw [List.map_set, show toStl .takeExit = .testExit from rfl, still]

theorem level_of_free {cfg : Config} {state : State} {other : List Nat} {stlPc : DestructorPc}
    (reached : Reachable (step .pthread cfg) (constructed cfg) state)
    (phase : Phase state.pool.empty other state.destructor stlPc) (settled : stlPc ≠ .notifyAll)
    (free : state.pool.queueMutex = none) : state.pool.empty = other := by
  have holder := (exclusion_reachable reached).destructor
  rw [free] at holder
  generalize state.destructor = pc at phase holder
  cases phase with
  | same outside level => exact level
  | early level => exact level
  | held drained => cases holder rfl
  | late drained => exact absurd rfl settled

theorem forward_worker {cfg : Config} {state : State} {id : Nat} {pc after : WorkerPc}
    {pool : Pool} {other : List Nat} {stlPc : DestructorPc}
    (reached : Reachable (step .pthread cfg) (constructed cfg) state)
    (present : state.destructor ≠ .returned)
    (phase : Phase state.pool.empty other state.destructor stlPc) (settled : stlPc ≠ .notifyAll)
    (at_pc : state.workers[id]? = some pc)
    (move : WorkerMove .pthread id state.pool pc pool after) :
    Answered (step .stl cfg)
      (Matches { state with pool := pool, workers := state.workers.set id after })
      (mirror state other stlPc) := by
  cases plain : delicate pc with
  | false =>
      obtain ⟨reply, kept, samePc, sameAfter⟩ := worker_move_carried .stl move plain other
      rw [← samePc, ← sameAfter] at reply
      exact answer_worker present at_pc reply phase (kept ▸ phase)
  | true =>
      cases move with
      | blocks nothing running =>
          obtain ⟨level, entered, notEntered⟩ :=
            phase_before_shutdown (announced_reachable reached) running phase
          have reply : WorkerMove .stl id (withEmpty state.pool other) .testWait
              { withEmpty state.pool other with queueMutex := none, empty := other ++ [id] }
              .waiting := .blocks nothing running
          apply answer_worker present at_pc reply phase
          rw [entered, notEntered, level]
          exact .same (by simp) rfl
      | passesWait skip => exact answer_worker present at_pc (.passesWait skip) phase phase
      | resumes awake free =>
          have level := level_of_free reached phase settled free
          exact answer_worker present at_pc (.resumes (level ▸ awake) free) phase phase
      | takesCredit version => cases version
      | seesCredit version credit =>
          left
          rw [← mirror_tested at_pc]
          exact .beside phase
      | noCredit credit => exact answer_worker present at_pc (.noCredit credit) phase phase
      | spendsCredit =>
          have credit := (credits_reachable reached).tested id at_pc
          exact answer_worker present at_pc (.takesCredit rfl credit) phase phase
      | _ => cases plain

theorem forward_destructor {cfg : Config} {state : State} {pool : Pool} {after : DestructorPc}
    {other : List Nat} {stlPc : DestructorPc} (present : state.destructor ≠ .returned)
    (phase : Phase state.pool.empty other state.destructor stlPc) (settled : stlPc ≠ .notifyAll)
    (move : DestructorMove .pthread state.manager state.pool state.destructor pool after) :
    Answered (step .stl cfg) (Matches { state with pool := pool, destructor := after })
      (mirror state other stlPc) := by
  have stlPresent := mt (phase_present phase).mpr present
  have answer : ∀ {otherAfter : List Nat} {stlAfter : DestructorPc},
      DestructorMove .stl state.manager (withEmpty state.pool other) stlPc
          (withEmpty pool otherAfter) stlAfter →
        Phase pool.empty otherAfter after stlAfter →
          Answered (step .stl cfg) (Matches { state with pool := pool, destructor := after })
            (mirror state other stlPc) := by
    intro otherAfter stlAfter reply arrived
    have moved : Move .stl cfg (mirror state other stlPc) .destructor _ := .destructor reply
    exact answered_by_move stlPresent moved (.beside arrived)
  generalize state.destructor = pc at phase move
  cases phase with
  | same outside level =>
      cases move with
      | enters => exact answer .enters (.same (by simp) level)
      | locksStl version => cases version
      | locksPthread version free => exact answer (.locksStl rfl free) (.early level)
      | broadcasts => exact absurd rfl outside.1
      | unlocksStl version => cases version
      | unlocksPthread => exact absurd rfl outside.2.1
      | notifies => exact absurd rfl outside.2.2
      | joins ended => exact answer (.joins ended) (.same (by simp) level)
      | leaves quiet => exact answer (.leaves quiet) (.same (by simp) level)
      | polls alive => exact answer (.polls alive) (.same (by simp) level)
      | returns nobody =>
          have alone := level.symm.trans nobody.1
          exact answer (.returns ⟨alone, nobody.2⟩) (.same (by simp) level)
  | early level =>
      cases move with
      | broadcasts => exact .inl (.beside (.held rfl))
  | held drained =>
      cases move with
      | unlocksStl version => cases version
      | unlocksPthread => exact answer (.unlocksStl rfl) (.late drained)
  | late drained => exact absurd rfl settled

theorem forward_move {cfg : Config} {state after : State} {action : Action} {other : List Nat}
    {stlPc : DestructorPc} (reached : Reachable (step .pthread cfg) (constructed cfg) state)
    (present : state.destructor ≠ .returned)
    (phase : Phase state.pool.empty other state.destructor stlPc) (settled : stlPc ≠ .notifyAll)
    (moved : Move .pthread cfg state action after) :
    Answered (step .stl cfg) (Matches after) (mirror state other stlPc) := by
  have stlPresent := mt (phase_present phase).mpr present
  cases moved with
  | call null =>
      have reply : Move .stl cfg (mirror state other stlPc) (.submit null) _ := .call null
      exact answered_by_move stlPresent reply (.beside phase)
  | producer at_pc move =>
      obtain ⟨otherAfter, replied, carried⟩ := producer_move_carried move other
      have reply : Move .stl cfg (mirror state other stlPc) (.producer _ 0) _ :=
        .producer at_pc replied
      exact answered_by_move stlPresent reply (.beside (phase_carried phase carried))
  | worker at_pc move => exact forward_worker reached present phase settled at_pc move
  | @manager pick spawned pool next move =>
      obtain ⟨otherAfter, replied, carried⟩ := manager_move_carried move other
      rw [← List.length_map toStl] at replied
      have reply : Move .stl cfg (mirror state other stlPc) (.manager 0) _ := .manager replied
      apply answered_by_move stlPresent reply
      have landing : mirror { state with
            pool := pool
            workers := state.workers ++ List.replicate spawned .lockQueue
            manager := next } otherAfter stlPc =
          { mirror state other stlPc with
            pool := withEmpty pool otherAfter
            workers := (mirror state other stlPc).workers ++ List.replicate spawned .lockQueue
            manager := next } := by
        simp [mirror, toStl]
      rw [← landing]
      exact .beside (phase_carried phase carried)
  | destructor move => exact forward_destructor present phase settled move

/-! ## From STL to pthread -/

theorem awake_of_phase {own other : List Nat} {pc stlPc : DestructorPc} {id : Nat}
    (phase : Phase own other pc stlPc) (awake : id ∉ other) : id ∉ own := by
  cases phase with
  | same outside level => rwa [level]
  | early level => rwa [level]
  | held drained => simp [drained]
  | late drained => simp [drained]

theorem answer_worker_back (cfg : Config) {state : State} {id : Nat} {pc after : WorkerPc}
    {pool : Pool} (other : List Nat) {otherAfter : List Nat} {stlPc : DestructorPc}
    (present : state.destructor ≠ .returned) (at_pc : state.workers[id]? = some pc)
    (move : WorkerMove .pthread id state.pool pc pool after)
    (phase : Phase pool.empty otherAfter state.destructor stlPc) :
    Answered (step .pthread cfg)
      (fun last => Matches last
        { mirror state other stlPc with
          pool := withEmpty pool otherAfter
          workers := (mirror state other stlPc).workers.set id (toStl after) })
      state := by
  have landing : mirror { state with pool := pool, workers := state.workers.set id after }
      otherAfter stlPc =
      { mirror state other stlPc with
        pool := withEmpty pool otherAfter
        workers := (mirror state other stlPc).workers.set id (toStl after) } := by
    simp [mirror, List.map_set]
  have reply : Move .pthread cfg state (.worker id 0) _ := .worker at_pc move
  apply answered_by_move present reply
  rw [← landing]
  exact .beside phase

theorem backward_worker {cfg : Config} {state : State} {id : Nat} {stlPoint stlAfter : WorkerPc}
    {stlPool : Pool} {other : List Nat} {stlPc : DestructorPc}
    (reached : Reachable (step .pthread cfg) (constructed cfg) state)
    (present : state.destructor ≠ .returned)
    (phase : Phase state.pool.empty other state.destructor stlPc)
    (tested : state.workers[id]? = some .testExit → ¬0 < state.pool.exitThreads)
    (found : (mirror state other stlPc).workers[id]? = some stlPoint)
    (move : WorkerMove .stl id (withEmpty state.pool other) stlPoint stlPool stlAfter) :
    Answered (step .pthread cfg)
      (fun last => Matches last
        { mirror state other stlPc with
          pool := stlPool
          workers := (mirror state other stlPc).workers.set id stlAfter })
      state := by
  obtain ⟨pc, at_pc, rfl⟩ : ∃ pc, state.workers[id]? = some pc ∧ toStl pc = stlPoint := by
    simpa [mirror] using found
  have credits := credits_reachable reached
  cases pc with
  | testWait =>
      cases move with
      | blocks nothing running =>
          obtain ⟨level, entered, notEntered⟩ :=
            phase_before_shutdown (announced_reachable reached) running phase
          have reply : WorkerMove .pthread id state.pool .testWait
              { state.pool with queueMutex := none, empty := state.pool.empty ++ [id] }
              .waiting := .blocks nothing running
          apply answer_worker_back cfg other present at_pc reply
          rw [entered, notEntered, level]
          exact .same (by simp) rfl
      | passesWait skip => exact answer_worker_back cfg other present at_pc (.passesWait skip) phase
  | waiting =>
      cases move with
      | resumes awake free =>
          have awakeHere := awake_of_phase phase awake
          exact answer_worker_back cfg other present at_pc (.resumes awakeHere free) phase
  | testExit =>
      cases move with
      | takesCredit version credit => exact absurd credit (tested at_pc)
      | seesCredit version => cases version
      | noCredit credit => exact answer_worker_back cfg other present at_pc (.noCredit credit) phase
  | takeExit =>
      cases move with
      | takesCredit version credit =>
          exact answer_worker_back cfg other present at_pc .spendsCredit phase
      | seesCredit version => cases version
      | noCredit credit => exact absurd (credits.tested id at_pc) credit
  | _ =>
      obtain ⟨reply, kept, samePc, sameAfter⟩ :=
        worker_move_carried .pthread move rfl state.pool.empty
      have level : Phase state.pool.empty stlPool.empty state.destructor stlPc := by
        rw [kept]
        exact phase
      have answer := answer_worker_back cfg other present at_pc reply level
      rw [sameAfter] at answer
      exact answer

theorem backward_destructor {cfg : Config} {state : State} {stlPool : Pool}
    {stlAfter : DestructorPc} {other : List Nat} {stlPc : DestructorPc}
    (present : state.destructor ≠ .returned)
    (phase : Phase state.pool.empty other state.destructor stlPc)
    (settled : state.destructor ≠ .broadcast)
    (move : DestructorMove .stl state.manager (withEmpty state.pool other) stlPc stlPool
      stlAfter) :
    Answered (step .pthread cfg)
      (fun last => Matches last
        { mirror state other stlPc with pool := stlPool, destructor := stlAfter })
      state := by
  have answer : ∀ {pool : Pool} {after : DestructorPc} {otherAfter : List Nat}
      {answered : DestructorPc},
      DestructorMove .pthread state.manager state.pool state.destructor pool after →
        Phase pool.empty otherAfter after answered →
          Answered (step .pthread cfg)
            (fun last => Matches last
              { mirror state other stlPc with
                pool := withEmpty pool otherAfter
                destructor := answered })
            state := by
    intro pool after otherAfter answered reply arrived
    have moved : Move .pthread cfg state .destructor _ := .destructor reply
    exact answered_by_move present moved (.beside arrived)
  generalize entered : state.destructor = pc at phase settled answer
  cases phase with
  | same outside level =>
      cases move with
      | enters => exact answer .enters (.same (by simp) level)
      | locksStl version free => exact answer (.locksPthread rfl free) (.early level)
      | locksPthread version => cases version
      | broadcasts => exact absurd rfl outside.1
      | unlocksStl => exact absurd rfl outside.2.1
      | unlocksPthread version => cases version
      | notifies => exact absurd rfl outside.2.2
      | joins ended => exact answer (.joins ended) (.same (by simp) level)
      | leaves quiet => exact answer (.leaves quiet) (.same (by simp) level)
      | polls alive => exact answer (.polls alive) (.same (by simp) level)
      | returns nobody =>
          have alone := level.trans nobody.1
          exact answer (.returns ⟨alone, nobody.2⟩) (.same (by simp) level)
  | early level => exact absurd rfl settled
  | held drained =>
      cases move with
      | unlocksStl => exact answer (.unlocksPthread rfl) (.late drained)
      | unlocksPthread version => cases version
  | late drained =>
      cases move with
      | notifies =>
          have aligned : Phase state.pool.empty [] state.destructor .joinManager := by
            rw [entered]
            exact .same (by simp) drained
          exact .inl (.beside aligned)

theorem backward_move {cfg : Config} {state after : State} {action : Action} {other : List Nat}
    {stlPc : DestructorPc} (reached : Reachable (step .pthread cfg) (constructed cfg) state)
    (present : state.destructor ≠ .returned)
    (phase : Phase state.pool.empty other state.destructor stlPc)
    (settled : state.destructor ≠ .broadcast)
    (tested : ∀ id pick, action = .worker id pick → state.workers[id]? = some .testExit →
      ¬0 < state.pool.exitThreads)
    (moved : Move .stl cfg (mirror state other stlPc) action after) :
    Answered (step .pthread cfg) (fun last => Matches last after) state := by
  cases moved with
  | call null =>
      have reply : Move .pthread cfg state (.submit null) _ := .call null
      exact answered_by_move present reply (.beside phase)
  | @producer id pick pc next pool at_pc move =>
      obtain ⟨ownAfter, replied, carried⟩ := producer_move_carried move state.pool.empty
      have reply : Move .pthread cfg state (.producer id 0) _ := .producer at_pc replied
      exact answered_by_move present reply (.beside (phase_carried_back phase carried))
  | @worker id pick pc next pool found move =>
      exact backward_worker reached present phase (tested id pick rfl) found move
  | @manager pick spawned pool next move =>
      obtain ⟨ownAfter, replied, carried⟩ := manager_move_carried move state.pool.empty
      have created : (mirror state other stlPc).workers.length = state.workers.length :=
        List.length_map toStl
      rw [created] at replied
      have reply : Move .pthread cfg state (.manager 0) _ := .manager replied
      apply answered_by_move present reply
      have landing : mirror { state with
            pool := withEmpty pool ownAfter
            workers := state.workers ++ List.replicate spawned .lockQueue
            manager := next } pool.empty stlPc =
          { mirror state other stlPc with
            pool := pool
            workers := (mirror state other stlPc).workers ++ List.replicate spawned .lockQueue
            manager := next } := by
        simp [mirror, toStl, withEmpty]
      rw [← landing]
      exact .beside (phase_carried_back phase carried)
  | destructor move => exact backward_destructor present phase settled move

/-! ## The two simulations -/

theorem notified_first (cfg : Config) {state : State} {other : List Nat} {stlPc : DestructorPc}
    (phase : Phase state.pool.empty other state.destructor stlPc) :
    ∃ trail otherAfter stlAfter,
      Path (step .stl cfg) (mirror state other stlPc) trail (mirror state otherAfter stlAfter) ∧
        (∀ seen ∈ visited trail (mirror state otherAfter stlAfter), Matches state seen) ∧
        Phase state.pool.empty otherAfter state.destructor stlAfter ∧ stlAfter ≠ .notifyAll := by
  by_cases lagging : stlPc = .notifyAll
  · subst lagging
    have notified : step .stl cfg (mirror state other .notifyAll) .destructor =
        some (mirror state [] .joinManager) := by
      simp [step, stepDestructor, destructor, mirror, withEmpty]
    have level : Phase state.pool.empty [] state.destructor .joinManager := by
      generalize state.destructor = pc at phase
      cases phase with
      | same outside => exact absurd rfl outside.2.2
      | late drained => exact .same (by simp) drained
    refine ⟨_, [], .joinManager, path_step notified, ?_, level, by simp⟩
    intro seen member
    obtain rfl | rfl : seen = mirror state other .notifyAll ∨
        seen = mirror state [] .joinManager := by
      simpa [visited] using member
    · exact .beside phase
    · exact .beside level
  · refine ⟨[], other, stlPc, .here, ?_, phase, lagging⟩
    intro seen member
    obtain rfl : seen = mirror state other stlPc := by simpa [visited] using member
    exact .beside phase

theorem forward_simulation (cfg : Config) :
    StutterSimulation (step .pthread cfg) (step .stl cfg) clientView clientView
      fun state stl => Reachable (step .pthread cfg) (constructed cfg) state ∧
        Matches state stl where
  observe := by
    intro state stl related
    exact client_view_of_matches related.2
  simulate := by
    intro state stl action after related stepped
    obtain ⟨reached, ⟨phase⟩⟩ := related
    obtain ⟨present, moved⟩ := move_of_step stepped
    have reachedAfter := reachable_next reached stepped
    obtain ⟨trail, otherAfter, stlAfter, path, still, level, settled⟩ := notified_first cfg phase
    refine ⟨trail, _, path, fun seen member => ⟨reached, still seen member⟩, ?_⟩
    rcases forward_move reached present level settled moved with alike | ⟨reply, last, taken, alike⟩
    · exact .inl ⟨reachedAfter, alike⟩
    · exact .inr ⟨reply, last, taken, reachedAfter, alike⟩

/-- From `state` the pthread version reaches, without leaving the side of the STL state,
a point from which it can answer `action`. -/
def Settles (cfg : Config) (other : List Nat) (stlPc : DestructorPc) (action : Action)
    (state : State) : Prop :=
  ∃ trail middle, Path (step .pthread cfg) state trail middle ∧
    (∀ seen ∈ visited trail middle, mirror seen other stlPc = mirror state other stlPc ∧
      Phase seen.pool.empty other seen.destructor stlPc) ∧
    middle.destructor ≠ .broadcast ∧
    ∀ id pick, action = .worker id pick → middle.workers[id]? = some .testExit →
      ¬0 < middle.pool.exitThreads

theorem settles_next {cfg : Config} {other : List Nat} {stlPc : DestructorPc} {action own : Action}
    {state next : State} (stepped : step .pthread cfg state own = some next)
    (aside : mirror next other stlPc = mirror state other stlPc)
    (phase : Phase state.pool.empty other state.destructor stlPc)
    (settles : Settles cfg other stlPc action next) : Settles cfg other stlPc action state := by
  obtain ⟨trail, middle, path, still, settled⟩ := settles
  refine ⟨(state, own) :: trail, middle, path_trans (path_step stepped) path, ?_, settled⟩
  intro seen member
  rcases List.mem_cons.mp member with rfl | later
  · exact ⟨rfl, phase⟩
  · rw [← aside]
    exact still seen later

theorem settles_tested (cfg : Config) {other : List Nat} {stlPc : DestructorPc} (action : Action)
    {state : State} (present : state.destructor ≠ .returned)
    (phase : Phase state.pool.empty other state.destructor stlPc)
    (notified : state.destructor ≠ .broadcast) : Settles cfg other stlPc action state := by
  by_cases asked : ∃ id pick, action = .worker id pick ∧
      state.workers[id]? = some .testExit ∧ 0 < state.pool.exitThreads
  · obtain ⟨id, pick, rfl, at_pc, credit⟩ := asked
    have move : Move .pthread cfg state (.worker id 0) _ := .worker at_pc (.seesCredit rfl credit)
    obtain ⟨own, stepped⟩ := step_of_move present move
    apply settles_next stepped (mirror_tested at_pc other stlPc) phase
    refine ⟨[], _, .here, ?_, notified, ?_⟩
    · intro seen member
      obtain rfl := List.mem_singleton.mp member
      exact ⟨rfl, phase⟩
    · intro other_id other_pick same found
      obtain ⟨rfl, _⟩ := Action.worker.inj same
      rw [lookup_move_self at_pc] at found
      cases found
  · refine ⟨[], state, .here, ?_, notified, ?_⟩
    · intro seen member
      obtain rfl := List.mem_singleton.mp member
      exact ⟨rfl, phase⟩
    · intro id pick same found credit
      exact asked ⟨id, pick, same, found, credit⟩

theorem settles_always (cfg : Config) {other : List Nat} {stlPc : DestructorPc} (action : Action)
    {state : State} (present : state.destructor ≠ .returned)
    (phase : Phase state.pool.empty other state.destructor stlPc) :
    Settles cfg other stlPc action state := by
  by_cases ahead : state.destructor = .broadcast
  · have stepped : step .pthread cfg state .destructor =
        some { state with pool := { state.pool with empty := [] }, destructor := .unlockQueue } := by
      simp [step, stepDestructor, destructor, ahead]
    have unlocking : stlPc = .unlockQueue := by
      rw [ahead] at phase
      cases phase with
      | same outside => exact absurd rfl outside.1
      | early => rfl
    subst unlocking
    apply settles_next stepped rfl phase
    exact settles_tested cfg action (by simp) (.held rfl) (by simp)
  · exact settles_tested cfg action present phase ahead

theorem backward_simulation (cfg : Config) :
    StutterSimulation (step .stl cfg) (step .pthread cfg) clientView clientView
      fun stl state => Reachable (step .pthread cfg) (constructed cfg) state ∧
        Matches state stl where
  observe := by
    intro stl state related
    exact (client_view_of_matches related.2).symm
  simulate := by
    intro stl state action after related stepped
    obtain ⟨reached, alike⟩ := related
    cases alike with
    | @beside other stlPc phase =>
        obtain ⟨stlPresent, moved⟩ := move_of_step stepped
        have present := mt (phase_present phase).mp stlPresent
        obtain ⟨trail, middle, path, still, notified, tested⟩ :=
          settles_always cfg action present phase
        have reachedSeen : ∀ seen ∈ visited trail middle,
            Reachable (step .pthread cfg) (constructed cfg) seen := by
          intro seen member
          exact reachable_trans reached (visited_reachable path member)
        have atMiddle : middle ∈ visited trail middle := by simp [visited]
        obtain ⟨aside, level⟩ := still middle atMiddle
        refine ⟨trail, middle, path, ?_, ?_⟩
        · intro seen member
          obtain ⟨asideSeen, levelSeen⟩ := still seen member
          rw [← asideSeen]
          exact ⟨reachedSeen seen member, .beside levelSeen⟩
        · rw [← aside] at moved
          rcases backward_move (reachedSeen middle atMiddle)
            (mt (phase_present level).mp stlPresent) level notified tested moved with
            alike | ⟨reply, last, taken, alike⟩
          · exact .inl ⟨reachedSeen middle atMiddle, alike⟩
          · exact .inr ⟨reply, last, taken, reachable_next (reachedSeen middle atMiddle) taken, alike⟩

/-- Every run of one version has a run of the other with the same clients and the same
sequence of values. -/
def Imitates (other own : Implementation) (cfg : Config) : Prop :=
  ∀ trail last, Path (step own cfg) (constructed cfg) trail last →
    ∃ reply final, Path (step other cfg) (constructed cfg) reply final ∧
      observed view reply final = observed view trail last ∧
      observed clientView reply final = observed clientView trail last

theorem imitates_of_simulation {own other : Implementation} {cfg : Config}
    {related : State → State → Prop}
    (simulation : StutterSimulation (step own cfg) (step other cfg) clientView clientView related)
    (initial : related (constructed cfg) (constructed cfg)) : Imitates other own cfg := by
  intro trail last path
  obtain ⟨reply, final, replied, _, same⟩ := simulated_path simulation initial path
  exact ⟨reply, final, replied, observed_coarser Prod.snd same, same⟩

theorem implementations_equivalent (cfg : Config) :
    Imitates .stl .pthread cfg ∧ Imitates .pthread .stl cfg := by
  have start := reachable_start (step .pthread cfg) (constructed cfg)
  have alike := matches_constructed cfg
  exact ⟨imitates_of_simulation (forward_simulation cfg) ⟨start, alike⟩,
    imitates_of_simulation (backward_simulation cfg) ⟨start, alike⟩⟩

end BackendComponents.ThreadPool.Equivalence
