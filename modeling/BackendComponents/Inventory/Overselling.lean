import BackendComponents.Inventory.Discipline
import BackendComponents.Inventory.Calls

/-!
# No overselling

Neither Redis nor the exceptions of the driver can sell an item twice, as long as the row
locks of `SELECT ... FOR UPDATE` are there. Every commit of a deduction takes at least its
quantity off the committed stock, commits of leftover writes only lower it, and a call
reports success after its own commit.
-/

namespace BackendComponents.Inventory.Overselling

open BackendComponents.Lib.Paths
open BackendComponents.Lib.Threads
open BackendComponents.Inventory.Database
open BackendComponents.Inventory.Repository
open BackendComponents.Inventory.Sessions
open BackendComponents.Inventory.Discipline
open BackendComponents.Inventory.Service
open BackendComponents.Inventory.Calls

set_option autoImplicit false

def stockOf (table : Table) (item : Item) : Int := (table item).getD 0

def soldBy (item : Item) : LedgerEntry → Int
  | .deducted other quantity => if other = item then quantity else 0
  | .updated _ _ | .inserted _ _ => 0

/-- The quantity of an item that commits of deductions account for. -/
def sold (ledger : List LedgerEntry) (item : Item) : Int := (ledger.map (soldBy item)).sum

theorem sold_snoc (ledger : List LedgerEntry) (entry : LedgerEntry) (item : Item) :
    sold (ledger ++ [entry]) item = sold ledger item + soldBy item entry := by
  simp [sold]

structure Sound (stock : Table) (store : Store) (ops : List RepoPc) : Prop where
  placed : Placed store ops
  sessions : ∀ (id : Nat) (conn : Connection), store.conns[id]? = some conn →
    Disciplined id store conn ∧ Guarded conn
  points : ∀ (place : Nat) (pc : RepoPc), ops[place]? = some pc → At store pc
  positive : ∀ (item : Item) (value : Int), store.committed item = some value → 0 ≤ value
  books : ∀ item, stockOf store.committed item + sold store.ledger item ≤ stockOf stock item

theorem lowered_positive {before after : Table} (lowered : Lowered before after)
    (positive : ∀ (item : Item) (value : Int), before item = some value → 0 ≤ value) :
    ∀ (item : Item) (value : Int), after item = some value → 0 ≤ value := by
  intro item value there
  rcases lowered item with same | ⟨old, new, _, now, left, _⟩
  · rw [same] at there
    exact positive item value there
  · rw [now] at there
    obtain rfl := Option.some.inj there
    exact left

theorem stock_lowered {before after : Table} (lowered : Lowered before after) (item : Item) :
    stockOf after item ≤ stockOf before item := by
  unfold stockOf
  rcases lowered item with same | ⟨old, new, there, now, _, less⟩
  · exact Int.le_of_eq (by rw [same])
  · rw [there, now]
    exact less

theorem sold_grows {store after : Store} {pc : RepoPc} (books : Books store after pc)
    (item : Item) : sold store.ledger item ≤ sold after.ledger item := by
  cases books with
  | same same => exact Int.le_of_eq (by rw [same])
  | sells _ positive ledger _ _ _ =>
      rw [ledger, sold_snoc, soldBy]
      split <;> omega

theorem books_step {store after : Store} {pc : RepoPc}
    (lowered : Lowered store.committed after.committed) (books : Books store after pc)
    (item : Item) : stockOf after.committed item + sold after.ledger item ≤
      stockOf store.committed item + sold store.ledger item := by
  have less := stock_lowered lowered item
  cases books with
  | same same =>
      rw [same]
      omega
  | sells _ positive ledger there now enough =>
      rw [ledger, sold_snoc, soldBy]
      split
      · next same =>
          subst same
          unfold stockOf
          rw [there, now, Option.getD_some, Option.getD_some]
          omega
      · omega

theorem at_queue {store : Store} {pc : RepoPc} (before : At store pc) (queue : List Nat) :
    At { store with idle := queue } pc := by
  cases pc with
  | connect op => cases op <;> exact before
  | _ => exact before

theorem sound_move {stock : Table} {store after : Store} {ops : List RepoPc} {place : Nat}
    {pc next : RepoPc} {answer : RepoAnswer} (sound : Sound stock store ops)
    (at_pc : ops[place]? = some pc) (good : loses pc answer = false)
    (move : RepoMove store pc answer after next) :
    Sound stock after (ops.set place next) ∧ Books store after pc := by
  have before := sound.points place pc at_pc
  have placed := placed_move sound.placed at_pc move
    fun id conn _ found => (sound.sessions id conn found).1.owned
  cases move with
  | @takes op taken rest queue =>
      refine ⟨⟨placed, ?_, ?_, sound.positive, sound.books⟩, .same rfl⟩
      · intro id conn found
        obtain ⟨disciplined, guarded⟩ := sound.sessions id conn found
        exact ⟨⟨disciplined.owned, disciplined.writes, disciplined.bare⟩, guarded⟩
      · intro other seen found
        rcases lookup_move found with ⟨_, rfl⟩ | ⟨_, old⟩
        · cases op with
          | deductStock item quantity => exact before
          | plain op => cases before
        · exact at_queue (sound.points other seen old) rest
  | timesOut | throws =>
      refine ⟨⟨placed, sound.sessions, ?_, sound.positive, sound.books⟩, .same rfl⟩
      intro other seen found
      rcases lookup_move found with ⟨_, rfl⟩ | ⟨_, old⟩
      · exact True.intro
      · exact sound.points other seen old
  | @calls _ _ id conn _ _ held found step =>
      obtain ⟨disciplined, guarded⟩ := sound.sessions id conn found
      have framed := conn_move_framed step held disciplined.owned
      have deducts := deducts_move found held disciplined guarded before good step
      refine ⟨⟨placed, ?_, ?_, lowered_positive deducts.lowered sound.positive, ?_⟩,
        deducts.books⟩
      · intro other seen there
        by_cases same : other = id
        · subst same
          obtain ⟨kept, now, still, mode⟩ := deducts.session
          obtain rfl := Option.some.inj (now.symm.trans there)
          exact ⟨still, mode⟩
        · rw [framed.conns other same] at there
          obtain ⟨own, mode⟩ := sound.sessions other seen there
          exact ⟨disciplined_framed framed same own, mode⟩
      · intro other seen looked
        rcases lookup_move looked with ⟨_, rfl⟩ | ⟨different, old⟩
        · exact deducts.point
        · have foreign := placed_apart sound.placed at_pc held old different
          exact at_framed framed foreign (fun other conn there => (sound.sessions other conn there).1)
            (sound.points other seen old)
      · intro item
        have total := books_step deducts.lowered deducts.books item
        exact Int.le_trans total (sound.books item)
  | @returns id result =>
      refine ⟨⟨placed, ?_, ?_, sound.positive, sound.books⟩, .same rfl⟩
      · intro other conn found
        obtain ⟨disciplined, guarded⟩ := sound.sessions other conn found
        exact ⟨⟨disciplined.owned, disciplined.writes, disciplined.bare⟩, guarded⟩
      · intro other seen found
        rcases lookup_move found with ⟨_, rfl⟩ | ⟨_, old⟩
        · exact True.intro
        · exact at_queue (sound.points other seen old) _

theorem sound_set {stock : Table} {store : Store} {ops : List RepoPc} {place : Nat}
    {pc next : RepoPc} (sound : Sound stock store ops) (at_pc : ops[place]? = some pc)
    (same : connOf next = connOf pc) (there : At store next) :
    Sound stock store (ops.set place next) := by
  refine ⟨placed_set sound.placed at_pc same, sound.sessions, ?_, sound.positive, sound.books⟩
  intro other seen found
  rcases lookup_move found with ⟨_, rfl⟩ | ⟨_, old⟩
  · exact there
  · exact sound.points other seen old

theorem sound_spawn {stock : Table} {store : Store} {ops : List RepoPc}
    (sound : Sound stock store ops) : Sound stock store (ops ++ [.idle]) := by
  refine ⟨placed_spawn sound.placed rfl, sound.sessions, ?_, sound.positive, sound.books⟩
  intro place seen found
  rcases lookup_append found with old | ⟨_, rfl⟩
  · exact sound.points place seen old
  · exact True.intro

theorem sound_grow {stock : Table} {store : Store} {ops : List RepoPc}
    (sound : Sound stock store ops) : Sound stock (grow store) ops := by
  have old : ∀ (id : Nat) (conn : Connection), store.conns[id]? = some conn →
      (grow store).conns[id]? = some conn := fun _ _ found => lookup_spawn_old _ found
  refine ⟨placed_grow sound.placed, ?_, ?_, sound.positive, sound.books⟩
  · intro id conn found
    rcases lookup_append found with before | ⟨_, rfl⟩
    · obtain ⟨disciplined, guarded⟩ := sound.sessions id conn before
      exact ⟨⟨disciplined.owned, disciplined.writes, disciplined.bare⟩, guarded⟩
    · exact ⟨disciplined_bare rfl, fun flag => by cases flag⟩
  · intro place pc found
    have before := sound.points place pc found
    cases pc with
    | connect op => cases op <;> exact before
    | select id item quantity =>
        obtain ⟨positive, conn, there, flag⟩ := before
        exact ⟨positive, conn, old id conn there, flag⟩
    | update id item quantity newStock =>
        obtain ⟨positive, left, conn, there, rest⟩ := before
        exact ⟨positive, left, conn, old id conn there, rest⟩
    | commit id item quantity newStock =>
        obtain ⟨positive, conn, there, rest⟩ := before
        exact ⟨positive, conn, old id conn there, rest⟩
    | _ => exact before

theorem sound_recycle {stock : Table} {store after : Store} {ops : List RepoPc} {place : Nat}
    (sound : Sound stock store ops) (taken : recycle store place = some after) :
    Sound stock after ops := by
  have placed := placed_recycle sound.placed taken
  obtain ⟨id, conn, queued, found, rfl⟩ := recycle_cases taken
  have member : id ∈ store.idle := List.mem_of_getElem? queued
  obtain ⟨own, mode⟩ := sound.sessions id conn found
  have kept : Disciplined id { store with idle := store.idle.eraseIdx place } conn :=
    ⟨own.owned, own.writes, own.bare⟩
  have framed : Framed id { store with idle := store.idle.eraseIdx place }
      (endTransaction false { store with idle := store.idle.eraseIdx place } id conn) :=
    framed_end kept.owned
  refine ⟨placed, ?_, ?_, sound.positive, sound.books⟩
  · intro other seen there
    by_cases same : other = id
    · subst same
      obtain rfl := Option.some.inj ((lookup_move_self found).symm.trans there)
      exact ⟨disciplined_bare rfl, mode⟩
    · rw [framed.conns other same] at there
      obtain ⟨disciplined, guarded⟩ := sound.sessions other seen there
      exact ⟨disciplined_framed framed same
        ⟨disciplined.owned, disciplined.writes, disciplined.bare⟩, guarded⟩
  · intro other pc looked
    have foreign : connOf pc ≠ some id := by
      intro held
      exact placed_busy sound.placed looked held member
    refine at_framed framed foreign ?_ (at_queue (sound.points other pc looked) _)
    intro another seen there
    obtain ⟨disciplined, _⟩ := sound.sessions another seen there
    exact ⟨disciplined.owned, disciplined.writes, disciplined.bare⟩

theorem sound_opened (stock : Table) (connections : Nat)
    (positive : ∀ (item : Item) (value : Int), stock item = some value → 0 ≤ value) :
    Sound stock (opened stock connections) [] := by
  refine ⟨placed_opened stock connections, ?_, ?_, positive, ?_⟩
  · intro id conn found
    obtain rfl : conn = freshConnection := List.eq_of_mem_replicate (List.mem_of_getElem? found)
    exact ⟨disciplined_bare rfl, fun flag => by cases flag⟩
  · intro place pc found
    cases found
  · intro item
    simp [opened, sold]

/-! ## Calls of the service -/

def secured : CallPc → Bool
  | .repository _ pc => committedPc pc
  | .returned (.success _) => true
  | _ => false

def earning (item : Item) (call : Call) : Int :=
  if call.item = item ∧ secured call.point = true then call.quantity else 0

theorem committed_conn {store after : Store} {conn : Connection} {answer : DriverAnswer}
    {pc next : RepoPc} {id : Nat} (held : connOf pc = some id)
    (found : store.conns[id]? = some conn) (before : At store pc)
    (move : ConnMove store conn answer pc after next) (past : committedPc next = true) :
    committedPc pc = true ∨ ∃ place item quantity newStock,
      pc = .commit place item quantity newStock ∧
        after.ledger = store.ledger ++ [.deducted item quantity] := by
  cases move with
  | fails _ _ _ | skipsBegin _ _ | begins _ _ | updates _ | rollsBack _ _ | skipsRollback _ _
  | restoresError _ => cases past
  | @selects id item quantity _ _ =>
      unfold afterSelect at past
      split at past
      · cases past
      · split at past <;> cases past
  | commits _ driveCall =>
      refine .inr ⟨_, _, _, _, rfl, ?_⟩
      cases drive_outcome driveCall with
      | returned answered performed =>
          obtain rfl := Option.some.inj performed
          rw [answered]
          rfl
  | skipsCommit flag _ =>
      obtain rfl := Option.some.inj held
      obtain ⟨_, own, there, set, _⟩ := before
      obtain rfl := Option.some.inj (found.symm.trans there)
      rw [flag] at set
      cases set
  | restores _ => exact .inl rfl
  | states _ => cases before

theorem committed_move {store after : Store} {pc next : RepoPc} {answer : RepoAnswer}
    (before : At store pc) (move : RepoMove store pc answer after next)
    (past : committedPc next = true) :
    committedPc pc = true ∨ ∃ place item quantity newStock,
      pc = .commit place item quantity newStock ∧
        after.ledger = store.ledger ++ [.deducted item quantity] := by
  cases move with
  | @takes op _ _ _ => cases op <;> cases past
  | timesOut | throws => cases past
  | calls held found step => exact committed_conn held found before step past
  | @returns _ result => cases result <;> first | exact .inl rfl | cases past

theorem secured_move {state after : State} {call : Call} {answer : Answer} {next : CallPc}
    (before : At state.store (repoPc call)) (move : CallMove state call answer after next)
    (past : secured next = true) :
    secured call.point = true ∨ ∃ place item quantity newStock,
      repoPc call = .commit place item quantity newStock ∧
        after.store.ledger = state.store.ledger ++ [.deducted item quantity] := by
  cases move with
  | rejected _ | accepted _ _ _ | connected _ | degraded _ | scriptThrows _ | increments _
  | incrementThrows _ => cases past
  | replied _ =>
      unfold afterScript at past
      split at past <;> cases past
  | @finished route result _ at_point known =>
      rw [at_point]
      cases route <;> cases result <;> cases known <;> first | exact .inl rfl | cases past
  | advances at_point step =>
      simp only [repoPc, at_point] at before ⊢
      exact committed_move before step past
  | retries _ target => rcases target with rfl | rfl | rfl <;> cases past

theorem admitted_of_secured {point : CallPc} (past : secured point = true) :
    admitted point = true := by
  cases point with
  | repository route pc => rfl
  | returned outcome => cases outcome <;> first | rfl | cases past
  | _ => cases past

theorem earning_nonneg {call : Call} (admissible : Admissible call) (item : Item) :
    0 ≤ earning item call := by
  unfold earning
  split
  · next past =>
      have positive := admissible.positive (admitted_of_secured past.2)
      omega
  · exact Int.le_refl 0

theorem earning_step {state after : State} {call : Call} {answer : Answer} {next : CallPc}
    (before : At state.store (repoPc call)) (admissible : Admissible call)
    (move : CallMove state call answer after next) (item : Item)
    (grows : sold state.store.ledger item ≤ sold after.store.ledger item) :
    earning item { call with point := next } + sold state.store.ledger item ≤
      earning item call + sold after.store.ledger item := by
  have still := earning_nonneg admissible item
  cases past : secured next with
  | false =>
      have none : earning item { call with point := next } = 0 := by
        simp [earning, past]
      omega
  | true =>
      rcases secured_move before move past with already | ⟨place, own, quantity, newStock, at_pc,
        ledger⟩
      · have same : earning item { call with point := next } = earning item call := by
          simp [earning, past, already]
        omega
      · have carried := admissible.request (own, quantity) (by rw [at_pc]; rfl)
        obtain ⟨rfl, rfl⟩ := Prod.mk.inj carried
        have mine : earning item { call with point := next } =
            soldBy item (.deducted call.item call.quantity) := by
          simp [earning, past, soldBy]
        rw [mine, ledger, sold_snoc]
        omega

structure Kept (stock : Table) (state : State) : Prop where
  sound : Sound stock state.store (operations state)
  calls : ∀ (id : Nat) (call : Call), state.calls[id]? = some call → Admissible call
  earned : ∀ item, (state.calls.map (earning item)).sum ≤ sold state.store.ledger item

/-- The step is not a `setAutoCommit(true)` that throws although it has been carried out, nor
an exception of `prepareStatement`, which would leave `m_pstmt` deleted. -/
def faithful (state : State) : Action → Bool
  | .call id (.repo answer) =>
      !unprepared answer && (state.calls[id]?).all fun call => !loses (repoPc call) answer
  | _ => true

theorem kept_call {stock : Table} {state after : State} {id : Nat} {call : Call}
    {answer : Answer} {next : CallPc} (kept : Kept stock state)
    (found : state.calls[id]? = some call) (good : faithful state (.call id answer) = true)
    (move : CallMove state call answer after next) :
    Kept stock { after with calls := state.calls.set id { call with point := next } } := by
  have at_pc := operation_of_call found
  have before := kept.sound.points id _ at_pc
  have admissible := kept.calls id call found
  have admissibleAfter := admissible_move move admissible
  have step : Sound stock after.store
      ((operations state).set id (repoPc { call with point := next })) ∧
        ∀ item, sold state.store.ledger item ≤ sold after.store.ledger item := by
    rcases call_move_repository move with ⟨route, pc, following, repoAnswer, at_point, rfl, rfl,
      moved⟩ | ⟨same, free, entering⟩
    · have mine : repoPc call = pc := by simp only [repoPc, at_point]
      simp only [faithful, found, Option.all_some, mine, Bool.and_eq_true] at good
      rw [mine] at at_pc
      have sound := sound_move kept.sound at_pc (by simpa using good.2) moved
      exact ⟨sound.1, sold_grows sound.2⟩
    · rw [same]
      have freeAfter := entering_free entering
      refine ⟨sound_set kept.sound at_pc (freeAfter.trans free.symm) ?_, fun _ => Int.le_refl _⟩
      rcases entering with ⟨route, rfl⟩ | outside
      · exact admissibleAfter.positive rfl
      · rw [outside]
        exact True.intro
  refine ⟨?_, ?_, ?_⟩
  · change Sound stock after.store ((state.calls.set id { call with point := next }).map repoPc)
    rw [operations_move]
    exact step.1
  · intro other seen looked
    rcases lookup_move looked with ⟨_, rfl⟩ | ⟨_, old⟩
    · exact admissibleAfter
    · exact kept.calls other seen old
  · intro item
    have moved : ((state.calls.set id { call with point := next }).map (earning item)).sum +
        earning item call = (state.calls.map (earning item)).sum +
          earning item { call with point := next } := sum_move (earning item) found
    have gained := earning_step before admissible move item (step.2 item)
    have earned := kept.earned item
    change ((state.calls.set id { call with point := next }).map (earning item)).sum ≤
      sold after.store.ledger item
    omega

theorem kept_step {stock : Table} {retryTimes : Int} {state after : State} {action : Action}
    (kept : Kept stock state) (good : faithful state action = true)
    (taken : step retryTimes state action = some after) : Kept stock after := by
  cases action with
  | request item quantity =>
      obtain rfl := Option.some.inj taken
      refine ⟨?_, ?_, ?_⟩
      · change Sound stock state.store ((state.calls ++ [_]).map repoPc)
        rw [List.map_append]
        exact sound_spawn kept.sound
      · intro id call found
        rcases lookup_append found with old | ⟨_, rfl⟩
        · exact kept.calls id call old
        · exact admissible_requested item quantity
      · intro other
        have earned := kept.earned other
        change ((state.calls ++ [_]).map (earning other)).sum ≤ _
        rw [List.map_append, List.sum_append]
        simpa [earning, secured] using earned
  | call id answer =>
      obtain ⟨call, found, rest⟩ := Option.bind_eq_some_iff.mp taken
      obtain ⟨moved, stepped, rfl⟩ := Option.map_eq_some_iff.mp rest
      exact kept_call kept found good (call_step_cases stepped)
  | rebuild id answer =>
      obtain ⟨rebuild, found, rest⟩ := Option.bind_eq_some_iff.mp taken
      obtain ⟨moved, stepped, rfl⟩ := Option.map_eq_some_iff.mp rest
      exact ⟨kept.sound, kept.calls, kept.earned⟩
  | evict item =>
      obtain rfl := Option.some.inj taken
      exact ⟨kept.sound, kept.calls, kept.earned⟩
  | grow =>
      obtain rfl := Option.some.inj taken
      exact ⟨sound_grow kept.sound, kept.calls, kept.earned⟩
  | recycle place =>
      obtain ⟨store, recycled, rfl⟩ := Option.map_eq_some_iff.mp taken
      have ledger : store.ledger = state.store.ledger := by
        obtain ⟨_, _, _, _, rfl⟩ := recycle_cases recycled
        rfl
      refine ⟨sound_recycle kept.sound recycled, kept.calls, ?_⟩
      intro item
      change _ ≤ sold store.ledger item
      rw [ledger]
      exact kept.earned item

/-- What the calls that have reported success have taken of an item. -/
def reported (state : State) (item : Item) : Int :=
  (state.calls.map fun call =>
    match call.point with
    | .returned (.success _) => if call.item = item then call.quantity else 0
    | _ => 0).sum

structure NoOverselling (stock : Table) (state : State) : Prop where
  positive : ∀ (item : Item) (value : Int), state.store.committed item = some value → 0 ≤ value
  bounded : ∀ item, reported state item ≤ stockOf stock item

theorem no_overselling_of_kept {stock : Table} {state : State} (kept : Kept stock state) :
    NoOverselling stock state := by
  refine ⟨kept.sound.positive, ?_⟩
  intro item
  have less : reported state item ≤ (state.calls.map (earning item)).sum := by
    apply sum_le
    intro call member
    obtain ⟨id, found⟩ := List.mem_iff_getElem?.mp member
    have still := earning_nonneg (kept.calls id call found) item
    split
    · next remaining at_point =>
        unfold earning
        rw [at_point]
        simp [secured]
    · exact still
  have left : 0 ≤ stockOf state.store.committed item := by
    unfold stockOf
    cases there : state.store.committed item with
    | none => exact Int.le_refl 0
    | some value => exact kept.sound.positive item value there
  have earned := kept.earned item
  have books := kept.sound.books item
  omega

/-- In every run without a `setAutoCommit(true)` that throws although it has been carried
out, and without an exception of `prepareStatement`, no stock is negative, and no more is
reported sold than there was. -/
theorem never_oversold (stock redis : Table) (connections : Nat) (retryTimes : Int)
    (positive : ∀ (item : Item) (value : Int), stock item = some value → 0 ≤ value)
    {trail : List (State × Action)} {last : State}
    (path : Path (step retryTimes) (start stock redis connections) trail last)
    (good : ∀ taken ∈ trail, faithful taken.1 taken.2 = true) :
    ∀ state ∈ visited trail last, NoOverselling stock state := by
  have initial : Kept stock (start stock redis connections) := by
    refine ⟨sound_opened stock connections positive, ?_, ?_⟩
    · intro id call found
      cases found
    · intro item
      exact Int.le_refl 0
  have kept : ∀ state ∈ visited trail last, Kept stock state := by
    apply path_invariant_of_good (Kept stock)
      (fun state action => faithful state action = true) initial _ path good
    intro state action after inv careful taken
    exact kept_step inv careful taken
  intro state member
  exact no_overselling_of_kept (kept state member)

/-! ## Runs -/

theorem one_item_positive {item : Item} {stock : Int} (left : 0 ≤ stock) :
    ∀ (other : Item) (value : Int), (noWrites.put item stock) other = some value → 0 ≤ value := by
  intro other value there
  unfold Table.put noWrites at there
  split at there
  · obtain rfl := Option.some.inj there
    exact left
  · cases there

/-- The driver calls of a call's operation, all of them answered in the same way. -/
def driverCalls (id count : Nat) : List Action :=
  List.replicate count (.call id (.repo (.driver .returns)))

/-- The script runs but its reply is lost, so the call deducts from MySQL as well. -/
def lostReplyRun : List Action :=
  [.request 1 4, .call 0 .go, .call 0 .connected, .call 0 (.redis (.throws true)),
    .call 0 (.repo .front)] ++ driverCalls 0 5 ++ [.call 0 (.repo .go), .call 0 .go]

theorem never_oversold_lost_reply :
    ∃ last, exec (step 3) (start (noWrites.put 1 6) (noWrites.put 1 6) 1) lostReplyRun = some last ∧
      reported last 1 = 4 ∧ NoOverselling (noWrites.put 1 6) last := by
  obtain ⟨last, executed, checked⟩ := exec_checked (step 3)
    (start (noWrites.put 1 6) (noWrites.put 1 6) 1) lostReplyRun
    (fun last => decide (reported last 1 = 4)) (by decide)
  refine ⟨last, executed, of_decide_eq_true checked, ?_⟩
  apply never_oversold (noWrites.put 1 6) (noWrites.put 1 6) 1 3 (one_item_positive (by decide))
    (path_of_exec executed) (by decide)
  exact List.mem_append_right _ List.mem_cons_self

/-- The end of `commit` throws in the first call, after autocommit is on again. The third
call gets that connection: its `begin` does nothing and its locking read locks nothing, so
it reads the stock that the second call is about to change. -/
def lostUpdateRun : List Action :=
  [.request 1 1, .call 0 .go, .call 0 .unavailable, .call 0 (.repo .front)] ++ driverCalls 0 4 ++
    [.call 0 (.repo (.driver (.throws .performed))), .call 0 (.repo .go), .call 0 .go,
      .request 1 5, .call 1 .go, .call 1 .unavailable, .call 1 (.repo .front),
      .request 1 5, .call 2 .go, .call 2 .unavailable, .call 2 (.repo .front)] ++
    driverCalls 2 2 ++ driverCalls 1 5 ++ driverCalls 2 3 ++
    [.call 1 (.repo .go), .call 1 .go, .call 2 (.repo .go), .call 2 .go]

/-- Of six pieces, ten are sold. -/
theorem lost_update_oversells :
    ∃ last, exec (step 3) (start (noWrites.put 1 6) noWrites 2) lostUpdateRun = some last ∧
      reported last 1 = 10 ∧ stockOf (noWrites.put 1 6) 1 = 6 ∧
        ¬NoOverselling (noWrites.put 1 6) last := by
  obtain ⟨last, executed, checked⟩ := exec_checked (step 3) (start (noWrites.put 1 6) noWrites 2)
    lostUpdateRun (fun last => decide (reported last 1 = 10)) (by decide)
  have sales : reported last 1 = 10 := of_decide_eq_true checked
  refine ⟨last, executed, sales, rfl, ?_⟩
  intro law
  have bound := law.bounded 1
  rw [sales] at bound
  exact absurd bound (by decide)

end BackendComponents.Inventory.Overselling
