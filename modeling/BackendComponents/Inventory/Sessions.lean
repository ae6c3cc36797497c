import BackendComponents.Inventory.Repository

/-!
# What one operation can do to the others

A driver call acts on its own session and on rows that no other session has locked,
provided the session holds the lock of each row it has written. One case for each way
out of a program point is all that later proofs use of `connStep`.
-/

namespace BackendComponents.Inventory.Sessions

open BackendComponents.Lib.Threads
open BackendComponents.Inventory.Database
open BackendComponents.Inventory.Repository

set_option autoImplicit false

@[simp] theorem set_conn_conns (store : Store) (id : Nat) (conn : Connection) :
    (setConn store id conn).conns = store.conns.set id conn := rfl

theorem set_transaction_of {store : Store} {id : Nat} {conn : Connection}
    (found : store.conns[id]? = some conn) (flag : Bool) :
    setTransaction store id flag = setConn store id { conn with transaction := flag } := by
  simp only [setTransaction, found]

@[simp] theorem record_if_conns (answer : DriverAnswer) (entry : Option LedgerEntry)
    (store : Store) : (recordIf answer entry store).conns = store.conns := by
  unfold recordIf
  split
  · rfl
  · split <;> rfl

theorem record_if_cases (answer : DriverAnswer) (entry : Option LedgerEntry) (store : Store) :
    recordIf answer entry store = store ∨
      ∃ made, entry = some made ∧ takesEffect answer = true ∧
        recordIf answer entry store = record store made := by
  unfold recordIf
  cases entry with
  | none => exact .inl rfl
  | some made =>
      cases effect : takesEffect answer with
      | false => exact .inl rfl
      | true => exact .inr ⟨made, rfl, rfl, rfl⟩

theorem record_if_committed (answer : DriverAnswer) (entry : Option LedgerEntry) (store : Store) :
    (recordIf answer entry store).committed = store.committed := by
  rcases record_if_cases answer entry store with same | ⟨made, _, _, recorded⟩
  · rw [same]
  · rw [recorded]
    rfl

/-- The session holds the lock of every row it has written. -/
def Owned (id : Nat) (store : Store) (conn : Connection) : Prop :=
  ∀ item, (conn.pending item).isSome = true → store.rowLock item = some id

/-- `Local`, with what a driver call has no access to at all. -/
structure Framed (id : Nat) (store after : Store) : Prop extends Local id store after where
  idle : after.idle = store.idle
  size : after.conns.length = store.conns.length

theorem framed_refl (id : Nat) (store : Store) : Framed id store store where
  conns := fun _ _ => rfl
  locks := fun _ _ _ locked => ⟨locked, rfl⟩
  idle := rfl
  size := rfl

theorem framed_trans {id : Nat} {store middle after : Store} (first : Framed id store middle)
    (second : Framed id middle after) : Framed id store after where
  conns := by
    intro other different
    rw [second.conns other different, first.conns other different]
  locks := by
    intro item other different locked
    have half := first.locks item other different locked
    have rest := second.locks item other different half.1
    exact ⟨rest.1, by rw [rest.2, half.2]⟩
  idle := by rw [second.idle, first.idle]
  size := by rw [second.size, first.size]

theorem framed_set_conn (id : Nat) (store : Store) (conn : Connection) :
    Framed id store (setConn store id conn) where
  conns := fun _ different => lookup_move_other different
  locks := fun _ _ _ locked => ⟨locked, rfl⟩
  idle := rfl
  size := List.length_set

theorem may_lock_iff {store : Store} {id : Nat} {item : Item} :
    mayLock store id item = true ↔ store.rowLock item = none ∨ store.rowLock item = some id := by
  simp [mayLock]

theorem may_lock_foreign {store : Store} {id other : Nat} {item row : Item}
    (free : mayLock store id item = true) (different : other ≠ id)
    (locked : store.rowLock row = some other) : row ≠ item := by
  rintro rfl
  rcases may_lock_iff.mp free with nobody | mine
  · rw [nobody] at locked
    cases locked
  · rw [mine] at locked
    exact different (Option.some.inj locked).symm

theorem framed_lock_row {store : Store} {id : Nat} {item : Item}
    (free : mayLock store id item = true) :
    Framed id store { store with rowLock := lockRow store.rowLock id item } where
  conns := fun _ _ => rfl
  locks := by
    intro row other different locked
    have apart := may_lock_foreign free different locked
    exact ⟨by simp only [lockRow, if_neg apart, locked], rfl⟩
  idle := rfl
  size := rfl

theorem framed_put {store : Store} {id : Nat} {item : Item} (stock : Int)
    (free : mayLock store id item = true) :
    Framed id store { store with committed := store.committed.put item stock } where
  conns := fun _ _ => rfl
  locks := by
    intro row other different locked
    have apart := may_lock_foreign free different locked
    exact ⟨locked, by simp only [Table.put, if_neg apart]⟩
  idle := rfl
  size := rfl

theorem framed_end {keep : Bool} {store : Store} {id : Nat} {conn : Connection}
    (owned : Owned id store conn) : Framed id store (endTransaction keep store id conn) where
  conns := fun _ different => lookup_move_other different
  locks := by
    intro row other different locked
    have foreign : store.rowLock row ≠ some id := by
      rw [locked]
      intro same
      exact different (Option.some.inj same)
    have unwritten : conn.pending row = none := by
      rw [← Option.not_isSome_iff_eq_none]
      exact fun written => foreign (owned row written)
    constructor
    · simp only [endTransaction, setConn, unlockAll]
      rw [if_neg foreign, locked]
    · cases keep with
      | false => rfl
      | true => simp [endTransaction, setConn, unwritten]
  idle := rfl
  size := List.length_set

theorem framed_write_row {store : Store} {id : Nat} {conn : Connection} {item : Item}
    (stock : Int) (free : mayLock store id item = true) :
    Framed id store (writeRow store id conn item stock) := by
  unfold writeRow
  split
  · exact framed_put stock free
  · exact framed_trans (framed_lock_row free) (framed_set_conn id _ _)

theorem framed_touch_row {store : Store} {id : Nat} {conn : Connection} {item : Item}
    (free : mayLock store id item = true) : Framed id store (touchRow store id conn item) := by
  unfold touchRow
  split
  · exact framed_refl id store
  · apply framed_trans _ (framed_set_conn id _ _)
    split
    · exact framed_lock_row free
    · exact framed_refl id store

/-- What a call that is carried out does. -/
inductive Performed (store : Store) (id : Nat) (conn : Connection) : DriverCall → Store → Prop
  | stays {call : DriverCall} : conn.autocommit = true → Performed store id conn call store
  | leavesMode : conn.autocommit = false →
      Performed store id conn (.setAutoCommit true)
        (setConn (endTransaction true store id conn) id
          { conn with active := false, pending := noWrites, autocommit := true })
  | entersMode : Performed store id conn (.setAutoCommit false)
      (setConn store id { conn with autocommit := false })
  | commits : Performed store id conn .commit (endTransaction true store id conn)
  | rollsBack : Performed store id conn .rollback (endTransaction false store id conn)
  | reads {item : Item} : conn.autocommit = false →
      Performed store id conn (.select item) (setConn store id { conn with active := true })
  | touches {call : DriverCall} {item : Item} : mayLock store id item = true →
      Performed store id conn call (touchRow store id conn item)
  | writes {call : DriverCall} {item : Item} {stock : Int} : mayLock store id item = true →
      call = .update item stock ∨ call = .insertIgnore item stock →
        Performed store id conn call (writeRow store id conn item stock)

theorem perform_cases {store after : Store} {id : Nat} {conn : Connection} {call : DriverCall}
    (performed : perform store id conn call = some after) : Performed store id conn call after := by
  cases call with
  | setAutoCommit on =>
      cases on with
      | false =>
          obtain rfl := Option.some.inj performed
          exact .entersMode
      | true =>
          obtain rfl := Option.some.inj performed
          split
          · next mode => exact .stays mode
          · next mode => exact .leavesMode (Bool.not_eq_true _ ▸ mode)
  | commit =>
      obtain rfl := Option.some.inj performed
      exact .commits
  | rollback =>
      obtain rfl := Option.some.inj performed
      exact .rollsBack
  | selectForUpdate item =>
      dsimp only [perform] at performed
      split at performed
      · next free =>
          obtain rfl := Option.some.inj performed
          exact .touches free
      · cases performed
  | select item =>
      dsimp only [perform] at performed
      split at performed
      · next mode =>
          obtain rfl := Option.some.inj performed
          exact .stays mode
      · next mode =>
          obtain rfl := Option.some.inj performed
          exact .reads (Bool.not_eq_true _ ▸ mode)
  | update item stock =>
      dsimp only [perform] at performed
      split at performed
      · next free =>
          split at performed
          · obtain rfl := Option.some.inj performed
            exact .writes free (.inl rfl)
          · obtain rfl := Option.some.inj performed
            exact .touches free
      · cases performed
  | insertIgnore item stock =>
      dsimp only [perform] at performed
      split at performed
      · next free =>
          split at performed
          · obtain rfl := Option.some.inj performed
            exact .touches free
          · obtain rfl := Option.some.inj performed
            exact .writes free (.inr rfl)
      · cases performed

theorem perform_framed {store after : Store} {id : Nat} {conn : Connection} {call : DriverCall}
    (owned : Owned id store conn) (performed : perform store id conn call = some after) :
    Framed id store after := by
  cases perform_cases performed with
  | stays _ => exact framed_refl id store
  | leavesMode _ => exact framed_trans (framed_end owned) (framed_set_conn id _ _)
  | entersMode | reads _ => exact framed_set_conn id store _
  | commits | rollsBack => exact framed_end owned
  | touches free => exact framed_touch_row free
  | writes free _ => exact framed_write_row _ free

/-- The ways a call can go: done and returned, done and thrown, or not done. -/
inductive Outcome (store : Store) (id : Nat) (conn : Connection) (call : DriverCall)
    (answer : DriverAnswer) : Store → Bool → Prop
  | returned {after : Store} : answer = .returns → perform store id conn call = some after →
      Outcome store id conn call answer after true
  | lost {after : Store} : answer = .throws .performed → perform store id conn call = some after →
      Outcome store id conn call answer after false
  | refused : answer = .throws .nothing → Outcome store id conn call answer store false
  | undone : answer = .throws .rolledBack →
      Outcome store id conn call answer (endTransaction false store id conn) false
  | unprepared : answer = .throws .unprepared → prepares call = true →
      Outcome store id conn call answer store false

theorem drive_outcome {store after : Store} {id : Nat} {conn : Connection} {call : DriverCall}
    {answer : DriverAnswer} {returned : Bool}
    (driven : drive store id conn call answer = some (after, returned)) :
    Outcome store id conn call answer after returned := by
  cases answer with
  | returns =>
      obtain ⟨made, performed, same⟩ := Option.map_eq_some_iff.mp driven
      cases same
      exact .returned rfl performed
  | throws damage =>
      cases damage with
      | performed =>
          obtain ⟨made, performed, same⟩ := Option.map_eq_some_iff.mp driven
          cases same
          exact .lost rfl performed
      | nothing =>
          cases driven
          exact .refused rfl
      | rolledBack =>
          cases driven
          exact .undone rfl
      | unprepared =>
          dsimp only [drive] at driven
          split at driven
          · next first =>
              cases driven
              exact .unprepared rfl first
          · cases driven

theorem drive_framed {store after : Store} {id : Nat} {conn : Connection} {call : DriverCall}
    {answer : DriverAnswer} {returned : Bool} (owned : Owned id store conn)
    (driven : drive store id conn call answer = some (after, returned)) :
    Framed id store after := by
  cases drive_outcome driven with
  | returned _ performed => exact perform_framed owned performed
  | lost _ performed => exact perform_framed owned performed
  | refused _ | unprepared _ _ => exact framed_refl id store
  | undone _ => exact framed_end owned

def SameFlag (id : Nat) (conn : Connection) (after : Store) : Prop :=
  ∃ kept, after.conns[id]? = some kept ∧ kept.transaction = conn.transaction

theorem same_flag_set {store : Store} {id : Nat} {conn kept : Connection}
    (bound : id < store.conns.length) (same : kept.transaction = conn.transaction) :
    SameFlag id conn (setConn store id kept) :=
  ⟨kept, List.getElem?_set_self bound, same⟩

theorem same_flag_touch {store : Store} {id : Nat} {conn : Connection} (item : Item)
    (found : store.conns[id]? = some conn) : SameFlag id conn (touchRow store id conn item) := by
  unfold touchRow
  split
  · exact ⟨conn, found, rfl⟩
  · apply same_flag_set
    · exact lookup_bound found
    · rfl

theorem same_flag_write {store : Store} {id : Nat} {conn : Connection} (item : Item)
    (stock : Int) (found : store.conns[id]? = some conn) :
    SameFlag id conn (writeRow store id conn item stock) := by
  unfold writeRow
  split
  · exact ⟨conn, found, rfl⟩
  · apply same_flag_set
    · exact lookup_bound found
    · rfl

theorem same_flag_perform {store after : Store} {id : Nat} {conn : Connection}
    {call : DriverCall} (found : store.conns[id]? = some conn)
    (performed : perform store id conn call = some after) : SameFlag id conn after := by
  have bound := lookup_bound found
  cases perform_cases performed with
  | stays _ => exact ⟨conn, found, rfl⟩
  | leavesMode _ =>
      apply same_flag_set _ rfl
      simpa [endTransaction, setConn] using bound
  | entersMode | reads _ | commits | rollsBack => exact same_flag_set bound rfl
  | touches _ => exact same_flag_touch _ found
  | writes _ _ => exact same_flag_write _ _ found

theorem same_flag_drive {store after : Store} {id : Nat} {conn : Connection} {call : DriverCall}
    {answer : DriverAnswer} {returned : Bool} (found : store.conns[id]? = some conn)
    (driven : drive store id conn call answer = some (after, returned)) :
    SameFlag id conn after := by
  cases drive_outcome driven with
  | returned _ performed => exact same_flag_perform found performed
  | lost _ performed => exact same_flag_perform found performed
  | refused _ | unprepared _ _ => exact ⟨conn, found, rfl⟩
  | undone _ => exact same_flag_set (lookup_bound found) rfl

theorem framed_set_transaction (id : Nat) (store : Store) (flag : Bool) :
    Framed id store (setTransaction store id flag) := by
  unfold setTransaction
  split
  · exact framed_refl id store
  · exact framed_set_conn id store _

theorem framed_record_if (id : Nat) (answer : DriverAnswer) (entry : Option LedgerEntry)
    (store : Store) : Framed id store (recordIf answer entry store) := by
  unfold recordIf
  split
  · exact framed_refl id store
  · split
    · exact ⟨⟨fun _ _ => rfl, fun _ _ _ locked => ⟨locked, rfl⟩⟩, rfl, rfl⟩
    · exact framed_refl id store

def callOf : RepoPc → Option DriverCall
  | .begin _ _ _ => some (.setAutoCommit false)
  | .select _ item _ => some (.selectForUpdate item)
  | .update _ item _ newStock => some (.update item newStock)
  | .commit _ _ _ _ => some .commit
  | .restore _ _ _ _ | .restoreError _ _ => some (.setAutoCommit true)
  | .rollback _ _ => some .rollback
  | .statement _ op => some (statementOf op)
  | .idle | .connect _ | .release _ _ | .done _ => none

def entryOf : RepoPc → Option LedgerEntry
  | .commit _ item quantity _ => some (.deducted item quantity)
  | .statement _ op => statementEntry op
  | _ => none

/-- The ways out of a program point with a connection. -/
inductive ConnMove (store : Store) (conn : Connection) (answer : DriverAnswer) :
    RepoPc → Store → RepoPc → Prop
  | fails {pc : RepoPc} {id : Nat} {call : DriverCall} {driven : Store} :
      connOf pc = some id → callOf pc = some call →
        drive store id conn call answer = some (driven, false) →
          ConnMove store conn answer pc (recordIf answer (entryOf pc) driven) (failed id)
  | skipsBegin {id : Nat} {item : Item} {quantity : Int} :
      conn.transaction = true → answer = .returns →
        ConnMove store conn answer (.begin id item quantity) store (.select id item quantity)
  | begins {id : Nat} {item : Item} {quantity : Int} {driven : Store} :
      conn.transaction = false →
        drive store id conn (.setAutoCommit false) answer = some (driven, true) →
          ConnMove store conn answer (.begin id item quantity)
            (setTransaction driven id true) (.select id item quantity)
  | selects {id : Nat} {item : Item} {quantity : Int} {driven : Store} :
      drive store id conn (.selectForUpdate item) answer = some (driven, true) →
        ConnMove store conn answer (.select id item quantity) driven
          (afterSelect store id conn item quantity)
  | updates {id : Nat} {item : Item} {quantity newStock : Int} {driven : Store} :
      drive store id conn (.update item newStock) answer = some (driven, true) →
        ConnMove store conn answer (.update id item quantity newStock) driven
          (.commit id item quantity newStock)
  | commits {id : Nat} {item : Item} {quantity newStock : Int} {driven : Store} :
      conn.transaction = true → drive store id conn .commit answer = some (driven, true) →
        ConnMove store conn answer (.commit id item quantity newStock)
          (recordIf answer (some (.deducted item quantity)) driven)
          (.restore id item quantity newStock)
  | skipsCommit {id : Nat} {item : Item} {quantity newStock : Int} :
      conn.transaction = false → answer = .returns →
        ConnMove store conn answer (.commit id item quantity newStock) store
          (.release id (.stock newStock))
  | restores {id : Nat} {item : Item} {quantity newStock : Int} {driven : Store} :
      drive store id conn (.setAutoCommit true) answer = some (driven, true) →
        ConnMove store conn answer (.restore id item quantity newStock)
          (setTransaction driven id false) (.release id (.stock newStock))
  | rollsBack {id : Nat} {code : ErrorCode} {driven : Store} :
      conn.transaction = true → drive store id conn .rollback answer = some (driven, true) →
        ConnMove store conn answer (.rollback id code) driven (.restoreError id code)
  | skipsRollback {id : Nat} {code : ErrorCode} :
      conn.transaction = false → answer = .returns →
        ConnMove store conn answer (.rollback id code) store (.release id (.error code))
  | restoresError {id : Nat} {code : ErrorCode} {driven : Store} :
      drive store id conn (.setAutoCommit true) answer = some (driven, true) →
        ConnMove store conn answer (.restoreError id code)
          (setTransaction driven id false) (.release id (.error code))
  | states {id : Nat} {op : PlainOp} {driven : Store} :
      drive store id conn (statementOf op) answer = some (driven, true) →
        ConnMove store conn answer (.statement id op)
          (recordIf answer (statementEntry op) driven) (.release id (statementResult store conn op))

theorem driven_cases {Result : Type} {driven : Option (Store × Bool)}
    {goesOn : Store × Bool → Result} {result : Result}
    (taken : driven.map goesOn = some result) :
    (∃ store, driven = some (store, true) ∧ goesOn (store, true) = result) ∨
      ∃ store, driven = some (store, false) ∧ goesOn (store, false) = result := by
  obtain ⟨⟨store, returned⟩, call, same⟩ := Option.map_eq_some_iff.mp taken
  cases returned with
  | true => exact .inl ⟨store, call, same⟩
  | false => exact .inr ⟨store, call, same⟩

theorem conn_step_cases {store after : Store} {conn : Connection} {answer : DriverAnswer}
    {pc next : RepoPc} (taken : connStep store conn answer pc = some (after, next)) :
    ConnMove store conn answer pc after next := by
  cases pc with
  | begin id item quantity =>
      dsimp only [connStep] at taken
      split at taken
      · next flag =>
          split at taken
          · next returned =>
              cases taken
              exact .skipsBegin flag returned
          · cases taken
      · next flag =>
          rcases driven_cases taken with ⟨driven, call, same⟩ | ⟨driven, call, same⟩
          · cases same
            exact .begins (Bool.not_eq_true _ ▸ flag) call
          · cases same
            exact .fails rfl rfl call
  | select id item quantity =>
      rcases driven_cases taken with ⟨driven, call, same⟩ | ⟨driven, call, same⟩
      · cases same
        exact .selects call
      · cases same
        exact .fails rfl rfl call
  | update id item quantity newStock =>
      rcases driven_cases taken with ⟨driven, call, same⟩ | ⟨driven, call, same⟩
      · cases same
        exact .updates call
      · cases same
        exact .fails rfl rfl call
  | commit id item quantity newStock =>
      dsimp only [connStep] at taken
      split at taken
      · next flag =>
          rcases driven_cases taken with ⟨driven, call, same⟩ | ⟨driven, call, same⟩
          · cases same
            exact .commits flag call
          · cases same
            exact .fails rfl rfl call
      · next flag =>
          split at taken
          · next returned =>
              cases taken
              exact .skipsCommit (Bool.not_eq_true _ ▸ flag) returned
          · cases taken
  | restore id item quantity newStock =>
      rcases driven_cases taken with ⟨driven, call, same⟩ | ⟨driven, call, same⟩
      · cases same
        exact .restores call
      · cases same
        exact .fails rfl rfl call
  | rollback id code =>
      dsimp only [connStep] at taken
      split at taken
      · next flag =>
          rcases driven_cases taken with ⟨driven, call, same⟩ | ⟨driven, call, same⟩
          · cases same
            exact .rollsBack flag call
          · cases same
            exact .fails rfl rfl call
      · next flag =>
          split at taken
          · next returned =>
              cases taken
              exact .skipsRollback (Bool.not_eq_true _ ▸ flag) returned
          · cases taken
  | restoreError id code =>
      rcases driven_cases taken with ⟨driven, call, same⟩ | ⟨driven, call, same⟩
      · cases same
        exact .restoresError call
      · cases same
        exact .fails rfl rfl call
  | statement id op =>
      rcases driven_cases taken with ⟨driven, call, same⟩ | ⟨driven, call, same⟩
      · cases same
        exact .states call
      · cases same
        exact .fails rfl rfl call
  | idle => cases taken
  | connect op => cases taken
  | release id result => cases taken
  | done result => cases taken

theorem conn_move_conn {store after : Store} {conn : Connection} {answer : DriverAnswer}
    {pc next : RepoPc} {id : Nat} (move : ConnMove store conn answer pc after next)
    (held : connOf pc = some id) : connOf next = some id := by
  cases move with
  | fails same _ _ =>
      rw [← held, same]
      rfl
  | selects _ =>
      rw [← held]
      unfold afterSelect
      split
      · rfl
      · split <;> rfl
  | _ => exact held

theorem conn_move_framed {store after : Store} {conn : Connection} {answer : DriverAnswer}
    {pc next : RepoPc} {id : Nat} (move : ConnMove store conn answer pc after next)
    (held : connOf pc = some id) (owned : Owned id store conn) : Framed id store after := by
  cases move with
  | fails same _ call =>
      obtain rfl := Option.some.inj (held.symm.trans same)
      exact framed_trans (drive_framed owned call) (framed_record_if _ _ _ _)
  | begins _ call =>
      obtain rfl := Option.some.inj held
      exact framed_trans (drive_framed owned call) (framed_set_transaction _ _ _)
  | selects call | updates call | rollsBack _ call =>
      obtain rfl := Option.some.inj held
      exact drive_framed owned call
  | commits _ call | states call =>
      obtain rfl := Option.some.inj held
      exact framed_trans (drive_framed owned call) (framed_record_if _ _ _ _)
  | restores call | restoresError call =>
      obtain rfl := Option.some.inj held
      exact framed_trans (drive_framed owned call) (framed_set_transaction _ _ _)
  | skipsBegin _ _ | skipsCommit _ _ | skipsRollback _ _ => exact framed_refl id store

inductive RepoMove (store : Store) : RepoPc → RepoAnswer → Store → RepoPc → Prop
  | takes {op : RepoOp} {id : Nat} {rest : List Nat} : store.idle = id :: rest →
      RepoMove store (.connect op) .front { store with idle := rest } (started id op)
  | timesOut {op : RepoOp} :
      RepoMove store (.connect op) .timeout store (.done (.error .mysqlUnavailable))
  | throws {op : RepoOp} : RepoMove store (.connect op) .createThrows store (.done .threw)
  | calls {pc next : RepoPc} {id : Nat} {conn : Connection} {answer : DriverAnswer}
      {after : Store} :
      connOf pc = some id → store.conns[id]? = some conn →
        ConnMove store conn answer pc after next → RepoMove store pc (.driver answer) after next
  | returns {id : Nat} {result : RepoResult} :
      RepoMove store (.release id result) .go { store with idle := store.idle ++ [id] }
        (.done result)

theorem repo_step_cases {store after : Store} {pc next : RepoPc} {answer : RepoAnswer}
    (taken : repoStep store pc answer = some (after, next)) :
    RepoMove store pc answer after next := by
  unfold repoStep at taken
  split at taken
  · split at taken
    · cases taken
    · next id rest queue =>
        cases taken
        exact .takes queue
  · cases taken
    exact .timesOut
  · cases taken
    exact .throws
  · cases taken
    exact .returns
  · obtain ⟨id, held, rest⟩ := Option.bind_eq_some_iff.mp taken
    obtain ⟨conn, found, moved⟩ := Option.bind_eq_some_iff.mp rest
    exact .calls held found (conn_step_cases moved)
  · cases taken

def holds (id : Nat) (pc : RepoPc) : Bool := decide (connOf pc = some id)

/-- Each connection is in one place: in the queue or in the hands of one operation. -/
structure Placed (store : Store) (ops : List RepoPc) : Prop where
  once : ∀ id, ops.countP (holds id) + store.idle.count id ≤ 1
  known : ∀ id, 0 < ops.countP (holds id) + store.idle.count id → id < store.conns.length

theorem holds_iff {id : Nat} {pc : RepoPc} : holds id pc = true ↔ connOf pc = some id := by
  simp [holds]

theorem placed_apart {store : Store} {ops : List RepoPc} (placed : Placed store ops)
    {place other id : Nat} {pc seen : RepoPc} (at_pc : ops[place]? = some pc)
    (held : connOf pc = some id) (found : ops[other]? = some seen) (different : other ≠ place) :
    connOf seen ≠ some id := by
  intro same
  apply different
  have few : ops.countP (holds id) ≤ 1 := by
    have := placed.once id
    omega
  exact lookup_unique few at_pc (holds_iff.mpr held) found (holds_iff.mpr same)

theorem placed_busy {store : Store} {ops : List RepoPc} (placed : Placed store ops)
    {place id : Nat} {pc : RepoPc} (at_pc : ops[place]? = some pc) (held : connOf pc = some id) :
    id ∉ store.idle := by
  intro queued
  have one := placed.once id
  have counted : 0 < store.idle.count id := List.count_pos_iff.mpr queued
  have also : 0 < ops.countP (holds id) :=
    List.countP_pos_iff.mpr ⟨pc, List.mem_of_getElem? at_pc, holds_iff.mpr held⟩
  omega

theorem placed_move {store after : Store} {ops : List RepoPc} {place : Nat} {pc next : RepoPc}
    {answer : RepoAnswer} (placed : Placed store ops) (at_pc : ops[place]? = some pc)
    (move : RepoMove store pc answer after next)
    (owned : ∀ id conn, connOf pc = some id → store.conns[id]? = some conn → Owned id store conn) :
    Placed after (ops.set place next) := by
  have counts : ∀ id, after.conns.length = store.conns.length ∧
      indicator (holds id next) + after.idle.count id =
        indicator (holds id pc) + store.idle.count id := by
    intro id
    cases move with
    | takes queue =>
        refine ⟨rfl, ?_⟩
        rw [queue, List.count_cons]
        rename_i op taken rest
        have same : holds id (started taken op) = (taken == id) := by
          cases op <;> exact decide_eq_decide.mpr (by simp [connOf, started])
        rw [same]
        cases taken == id <;> simp [holds, connOf, indicator, Nat.add_comm]
    | timesOut | throws => exact ⟨rfl, rfl⟩
    | calls held found step =>
        have framed := conn_move_framed step held (owned _ _ held found)
        rw [framed.idle]
        refine ⟨framed.size, ?_⟩
        simp only [holds, conn_move_conn step held, held]
    | returns =>
        refine ⟨rfl, ?_⟩
        rename_i freed result
        rw [List.count_append, List.count_singleton]
        have same : holds id (.release freed result) = (freed == id) :=
          decide_eq_decide.mpr (by simp [connOf])
        rw [same]
        cases freed == id <;> simp [holds, connOf, indicator, Nat.add_comm]
  constructor
  · intro id
    have one := placed.once id
    have moved : (ops.set place next).countP (holds id) + indicator (holds id pc) =
        ops.countP (holds id) + indicator (holds id next) := countP_move (holds id) at_pc
    have same := (counts id).2
    omega
  · intro id positive
    have moved : (ops.set place next).countP (holds id) + indicator (holds id pc) =
        ops.countP (holds id) + indicator (holds id next) := countP_move (holds id) at_pc
    have same := (counts id).2
    rw [(counts id).1]
    exact placed.known id (by omega)

theorem placed_set {store : Store} {ops : List RepoPc} {place : Nat} {pc next : RepoPc}
    (placed : Placed store ops) (at_pc : ops[place]? = some pc) (same : connOf next = connOf pc) :
    Placed store (ops.set place next) := by
  have counts : ∀ id, (ops.set place next).countP (holds id) = ops.countP (holds id) := by
    intro id
    have moved : (ops.set place next).countP (holds id) + indicator (holds id pc) =
        ops.countP (holds id) + indicator (holds id next) := countP_move (holds id) at_pc
    have equal : holds id next = holds id pc := by simp [holds, same]
    rw [equal] at moved
    omega
  constructor
  · intro id
    rw [counts id]
    exact placed.once id
  · intro id positive
    rw [counts id] at positive
    exact placed.known id positive

theorem placed_spawn {store : Store} {ops : List RepoPc} {pc : RepoPc}
    (placed : Placed store ops) (free : connOf pc = none) : Placed store (ops ++ [pc]) := by
  have counts : ∀ id, (ops ++ [pc]).countP (holds id) = ops.countP (holds id) := by
    intro id
    simp [holds, free]
  constructor
  · intro id
    rw [counts id]
    exact placed.once id
  · intro id positive
    rw [counts id] at positive
    exact placed.known id positive

theorem placed_grow {store : Store} {ops : List RepoPc} (placed : Placed store ops) :
    Placed (grow store) ops := by
  constructor
  · intro id
    have one := placed.once id
    have known := placed.known id
    simp only [grow, List.count_append, List.count_singleton]
    split
    · next new =>
        have : store.conns.length = id := by simpa using new
        omega
    · omega
  · intro id positive
    have known := placed.known id
    simp only [grow, List.count_append, List.count_singleton, List.length_append,
      List.length_singleton] at positive ⊢
    split at positive
    · next new =>
        have : store.conns.length = id := by simpa using new
        omega
    · have := known (by omega)
      omega

theorem recycle_cases {store after : Store} {place : Nat}
    (taken : recycle store place = some after) :
    ∃ id conn, store.idle[place]? = some id ∧ store.conns[id]? = some conn ∧
      after = endTransaction false { store with idle := store.idle.eraseIdx place } id conn := by
  obtain ⟨id, queued, rest⟩ := Option.bind_eq_some_iff.mp taken
  obtain ⟨conn, found, same⟩ := Option.map_eq_some_iff.mp rest
  exact ⟨id, conn, queued, found, same.symm⟩

theorem placed_recycle {store after : Store} {ops : List RepoPc} {place : Nat}
    (placed : Placed store ops) (taken : recycle store place = some after) : Placed after ops := by
  obtain ⟨id, conn, queued, found, rfl⟩ := recycle_cases taken
  have fewer : ∀ other, (store.idle.eraseIdx place).count other ≤ store.idle.count other :=
    fun other => (List.eraseIdx_sublist store.idle place).count_le other
  constructor
  · intro other
    have one := placed.once other
    have less := fewer other
    simp only [endTransaction, setConn]
    omega
  · intro other positive
    have less := fewer other
    simp only [endTransaction, setConn, List.length_set] at positive ⊢
    exact placed.known other (by omega)

theorem placed_opened (initial : Table) (connections : Nat) :
    Placed (opened initial connections) [] := by
  constructor
  · intro id
    simp only [opened, List.countP_nil, Nat.zero_add]
    exact List.nodup_iff_count_le_one.mp List.nodup_range id
  · intro id positive
    simp only [opened, List.countP_nil, Nat.zero_add, List.length_replicate] at positive ⊢
    exact List.mem_range.mp (List.count_pos_iff.mp positive)

end BackendComponents.Inventory.Sessions
