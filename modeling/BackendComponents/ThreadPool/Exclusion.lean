import BackendComponents.ThreadPool.Moves

/-!
# Who holds m_queue_mutex

The program points between a lock and its unlock, for the three kinds of threads
that hold `m_queue_mutex` over several steps. At most one thread is at such a
point, because each of them is the recorded owner.
-/

namespace BackendComponents.ThreadPool.Exclusion

open BackendComponents.Lib.Paths
open BackendComponents.Lib.Threads
open BackendComponents.ThreadPool.Model
open BackendComponents.ThreadPool.Moves

set_option autoImplicit false

def workerHolds : WorkerPc → Bool
  | .testWait | .testExit | .takeExit | .testShutdown | .decLive | .unlockExit
  | .getTask | .unlockTask _ => true
  | _ => false

def producerHolds : ProducerPc → Bool
  | .testFull | .push | .unlock => true
  | _ => false

def destructorHolds : DestructorPc → Bool
  | .broadcast | .unlockQueue => true
  | _ => false

structure SingleHolder (state : State) : Prop where
  worker : ∀ (id : Nat) (pc : WorkerPc), state.workers[id]? = some pc →
    workerHolds pc = true → state.pool.queueMutex = some (.worker id)
  producer : ∀ (id : Nat) (pc : ProducerPc), state.producers[id]? = some pc →
    producerHolds pc = true → state.pool.queueMutex = some (.producer id)
  destructor : destructorHolds state.destructor = true →
    state.pool.queueMutex = some .destructor

theorem worker_move_mutex {impl : Implementation} {id : Nat} {pool poolAfter : Pool}
    {pc after : WorkerPc} (move : WorkerMove impl id pool pc poolAfter after) :
    MutexMove (Owner.worker id) pool.queueMutex (workerHolds pc)
      poolAfter.queueMutex (workerHolds after) := by
  cases move with
  | locks free => rw [free]; exact .acquires
  | resumes awake free => rw [free]; exact .acquires
  | blocks => exact .releases
  | unlocksExit => exact .releases
  | unlocksTask => exact .releases
  | _ => exact .keeps

theorem producer_move_mutex {cfg : Config} {id : Nat} {pool poolAfter : Pool}
    {pc after : ProducerPc} (move : ProducerMove cfg id pool pc poolAfter after) :
    MutexMove (Owner.producer id) pool.queueMutex (producerHolds pc)
      poolAfter.queueMutex (producerHolds after) := by
  cases move with
  | locks free => rw [free]; exact .acquires
  | resumes awake free => rw [free]; exact .acquires
  | blocks => exact .releases
  | unlocks => exact .releases
  | _ => exact .keeps

theorem destructor_move_mutex {impl : Implementation} {managerPc : ManagerPc}
    {pool poolAfter : Pool} {pc after : DestructorPc}
    (move : DestructorMove impl managerPc pool pc poolAfter after) :
    MutexMove Owner.destructor pool.queueMutex (destructorHolds pc)
      poolAfter.queueMutex (destructorHolds after) := by
  cases move with
  | locksStl version free => rw [free]; exact .acquires
  | locksPthread version free => rw [free]; exact .acquires
  | unlocksStl => exact .releases
  | unlocksPthread => exact .releases
  | _ => exact .keeps

theorem manager_move_mutex {cfg : Config} {created spawned : Nat} {pool poolAfter : Pool}
    {pc after : ManagerPc} (move : ManagerMove cfg created pool pc poolAfter spawned after) :
    poolAfter.queueMutex = pool.queueMutex := by
  cases move <;> rfl

theorem exclusion_constructed (cfg : Config) : SingleHolder (constructed cfg) where
  worker := by
    intro id pc found holds
    obtain ⟨_, rfl⟩ : id < cfg.minThreads ∧ WorkerPc.lockQueue = pc := by
      simpa [constructed, List.getElem?_replicate] using found
    cases holds
  producer := by
    intro id pc found
    cases found
  destructor := by
    intro holds
    cases holds

theorem exclusion_move {impl : Implementation} {cfg : Config} {state after : State}
    {action : Action} (exclusion : SingleHolder state) (moved : Move impl cfg state action after) :
    SingleHolder after := by
  cases moved with
  | call null =>
      refine ⟨exclusion.worker, ?_, exclusion.destructor⟩
      intro id pc found holds
      rcases lookup_append found with old | ⟨_, rfl⟩
      · exact exclusion.producer id pc old holds
      · cases null <;> cases holds
  | @producer id pick pc next pool at_pc move =>
      have mutex := producer_move_mutex move
      have claim := exclusion.producer id pc at_pc
      refine ⟨?_, ?_, ?_⟩
      · intro other seen found holds
        exact mutex_move_other mutex claim (by simp) (exclusion.worker other seen found holds)
      · intro other seen found holds
        rcases lookup_move found with ⟨rfl, rfl⟩ | ⟨different, old⟩
        · exact mutex_move_self mutex claim holds
        · exact mutex_move_other mutex claim (by simpa using different)
            (exclusion.producer other seen old holds)
      · intro holds
        exact mutex_move_other mutex claim (by simp) (exclusion.destructor holds)
  | @worker id pick pc next pool at_pc move =>
      have mutex := worker_move_mutex move
      have claim := exclusion.worker id pc at_pc
      refine ⟨?_, ?_, ?_⟩
      · intro other seen found holds
        rcases lookup_move found with ⟨rfl, rfl⟩ | ⟨different, old⟩
        · exact mutex_move_self mutex claim holds
        · exact mutex_move_other mutex claim (by simpa using different)
            (exclusion.worker other seen old holds)
      · intro other seen found holds
        exact mutex_move_other mutex claim (by simp) (exclusion.producer other seen found holds)
      · intro holds
        exact mutex_move_other mutex claim (by simp) (exclusion.destructor holds)
  | manager move =>
      have mutex := manager_move_mutex move
      refine ⟨?_, ?_, ?_⟩
      · intro other seen found holds
        rcases lookup_spawn found with old | ⟨_, _, rfl⟩
        · exact mutex.trans (exclusion.worker other seen old holds)
        · cases holds
      · intro other seen found holds
        exact mutex.trans (exclusion.producer other seen found holds)
      · intro holds
        exact mutex.trans (exclusion.destructor holds)
  | destructor move =>
      have mutex := destructor_move_mutex move
      have claim := exclusion.destructor
      refine ⟨?_, ?_, ?_⟩
      · intro other seen found holds
        exact mutex_move_other mutex claim (by simp) (exclusion.worker other seen found holds)
      · intro other seen found holds
        exact mutex_move_other mutex claim (by simp) (exclusion.producer other seen found holds)
      · intro holds
        exact mutex_move_self mutex claim holds

theorem exclusion_reachable {impl : Implementation} {cfg : Config} {state : State}
    (reached : Reachable (step impl cfg) (constructed cfg) state) : SingleHolder state :=
  reachable_invariant SingleHolder (exclusion_constructed cfg)
    (fun _ _ _ exclusion moved => exclusion_move exclusion (move_of_step moved).2) reached

theorem holder_unique {state : State} (exclusion : SingleHolder state) {id other : Nat}
    {pc seen : WorkerPc} (found : state.workers[id]? = some pc) (holds : workerHolds pc = true)
    (foundOther : state.workers[other]? = some seen) (holdsOther : workerHolds seen = true) :
    other = id := by
  have first := exclusion.worker id pc found holds
  have second := exclusion.worker other seen foundOther holdsOther
  rw [first] at second
  simpa using second.symm

end BackendComponents.ThreadPool.Exclusion
