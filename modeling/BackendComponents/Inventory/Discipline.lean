import BackendComponents.Inventory.Sessions

/-!
# Sessions that only take stock off

What survives the exceptions of `deduct_stock`: the uncommitted writes of a session, its
own or left over from an earlier call, are on rows that it has locked and lower than what
is committed there. Committing them can only lower the stock. This needs the row locks,
so a connection whose `m_transaction` is set has to be in transaction mode.
-/

namespace BackendComponents.Inventory.Discipline

open BackendComponents.Lib.Threads
open BackendComponents.Inventory.Database
open BackendComponents.Inventory.Repository
open BackendComponents.Inventory.Sessions

set_option autoImplicit false

/-- No stock has been added, and none is negative that was not before. -/
def Lowered (before after : Table) : Prop :=
  ∀ item, after item = before item ∨
    ∃ old new, before item = some old ∧ after item = some new ∧ 0 ≤ new ∧ new ≤ old

theorem lowered_refl (table : Table) : Lowered table table := fun _ => .inl rfl

structure Disciplined (id : Nat) (store : Store) (conn : Connection) : Prop where
  owned : Owned id store conn
  writes : ∀ item value, conn.pending item = some value →
    0 ≤ value ∧ ∃ old, store.committed item = some old ∧ value ≤ old
  bare : conn.autocommit = true → conn.pending = noWrites

/-- The writes that keep this discipline. -/
def Modest (store : Store) (conn : Connection) : DriverCall → Prop
  | .update item value => conn.autocommit = false ∧ 0 ≤ value ∧
      ∃ old, store.committed item = some old ∧ value ≤ old
  | .insertIgnore _ _ => False
  | .setAutoCommit _ | .commit | .rollback | .selectForUpdate _ | .select _ => True

/-- What a call leaves of its session and of the committed stock; `quits` says that it has
left the transaction mode. -/
structure Follows (id : Nat) (store after : Store) (conn kept : Connection)
    (quits : Bool) : Prop where
  found : after.conns[id]? = some kept
  disciplined : Disciplined id after kept
  lowered : Lowered store.committed after.committed
  flag : kept.transaction = conn.transaction
  mode : conn.autocommit = false → quits = false → kept.autocommit = false
  ledger : after.ledger = store.ledger

theorem disciplined_bare {id : Nat} {store : Store} {conn : Connection}
    (empty : conn.pending = noWrites) : Disciplined id store conn where
  owned := by
    intro item written
    rw [empty] at written
    cases written
  writes := by
    intro item value written
    rw [empty] at written
    cases written
  bare := fun _ => empty

theorem disciplined_framed {id other : Nat} {store after : Store} {conn : Connection}
    (framed : Framed id store after) (different : other ≠ id)
    (disciplined : Disciplined other store conn) : Disciplined other after conn where
  owned := by
    intro item written
    exact (framed.locks item other different (disciplined.owned item written)).1
  writes := by
    intro item value written
    have locked := disciplined.owned item (by rw [written]; rfl)
    rw [(framed.locks item other different locked).2]
    exact disciplined.writes item value written
  bare := disciplined.bare

theorem lowered_end {keep : Bool} {id : Nat} {store : Store} {conn : Connection}
    (disciplined : Disciplined id store conn) :
    Lowered store.committed (endTransaction keep store id conn).committed := by
  cases keep with
  | false => exact lowered_refl _
  | true =>
      intro item
      change (conn.pending item).or (store.committed item) = _ ∨ _
      cases written : conn.pending item with
      | none => exact .inl rfl
      | some value =>
          obtain ⟨positive, old, there, less⟩ := disciplined.writes item value written
          refine .inr ⟨old, value, there, ?_, positive, less⟩
          change (conn.pending item).or (store.committed item) = some value
          rw [written]
          rfl

theorem follows_end {keep : Bool} {id : Nat} {store : Store} {conn : Connection}
    {quits : Bool} (found : store.conns[id]? = some conn)
    (disciplined : Disciplined id store conn) :
    Follows id store (endTransaction keep store id conn) conn
      { conn with active := false, pending := noWrites } quits where
  found := lookup_move_self found
  disciplined := disciplined_bare rfl
  lowered := lowered_end disciplined
  flag := rfl
  mode := fun mode _ => mode
  ledger := rfl

theorem follows_same {id : Nat} {store : Store} {conn : Connection} {quits : Bool}
    (found : store.conns[id]? = some conn) (disciplined : Disciplined id store conn) :
    Follows id store store conn conn quits where
  found := found
  disciplined := disciplined
  lowered := lowered_refl _
  flag := rfl
  mode := fun mode _ => mode
  ledger := rfl

theorem follows_touch {id : Nat} {store : Store} {conn : Connection} {quits : Bool}
    {item : Item} (found : store.conns[id]? = some conn)
    (disciplined : Disciplined id store conn) :
    ∃ kept, Follows id store (touchRow store id conn item) conn kept quits := by
  unfold touchRow
  split
  · exact ⟨conn, follows_same found disciplined⟩
  · next mode =>
      refine ⟨{ conn with active := true }, lookup_move_self found, ?_, lowered_refl _, rfl,
        fun mode _ => mode, rfl⟩
      constructor
      · intro row written
        have own := disciplined.owned row written
        change (if _ then lockRow store.rowLock id item else store.rowLock) row = some id
        split
        · unfold lockRow
          split
          · rfl
          · exact own
        · exact own
      · exact disciplined.writes
      · exact disciplined.bare

theorem follows_write {id : Nat} {store : Store} {conn : Connection} {item : Item} {value : Int}
    (found : store.conns[id]? = some conn) (disciplined : Disciplined id store conn)
    (modest : Modest store conn (.update item value)) :
    Follows id store (writeRow store id conn item value) conn
      { conn with active := true, pending := conn.pending.put item value } false := by
  obtain ⟨mode, positive, less⟩ := modest
  have shape : writeRow store id conn item value =
      setConn { store with rowLock := lockRow store.rowLock id item } id
        { conn with active := true, pending := conn.pending.put item value } := by
    unfold writeRow
    rw [if_neg (by rw [mode]; decide)]
  rw [shape]
  refine ⟨lookup_move_self found, ?_, lowered_refl _, rfl, fun mode _ => mode, rfl⟩
  constructor
  · intro row written
    change (if row = item then some id else store.rowLock row) = some id
    split
    · rfl
    · next apart =>
        apply disciplined.owned
        simpa [Table.put, apart] using written
  · intro row old written
    by_cases same : row = item
    · subst same
      have equal : value = old := by simpa [Table.put] using written
      rw [← equal]
      exact ⟨positive, less⟩
    · apply disciplined.writes
      simpa [Table.put, same] using written
  · intro auto
    rw [mode] at auto
    cases auto

theorem perform_follows {id : Nat} {store after : Store} {conn : Connection} {call : DriverCall}
    (found : store.conns[id]? = some conn) (disciplined : Disciplined id store conn)
    (modest : Modest store conn call) (performed : perform store id conn call = some after) :
    ∃ kept, Follows id store after conn kept (decide (call = .setAutoCommit true)) := by
  cases perform_cases performed with
  | stays _ => exact ⟨conn, follows_same found disciplined⟩
  | leavesMode _ =>
      have lowered : Lowered store.committed (endTransaction true store id conn).committed :=
        lowered_end disciplined
      refine ⟨{ conn with active := false, pending := noWrites, autocommit := true }, ?_,
        disciplined_bare rfl, lowered, rfl, fun _ same => (by cases same), rfl⟩
      apply List.getElem?_set_self
      simpa [endTransaction, setConn] using lookup_bound found
  | entersMode =>
      refine ⟨{ conn with autocommit := false }, lookup_move_self found, ?_, lowered_refl _, rfl,
        fun _ _ => rfl, rfl⟩
      exact ⟨disciplined.owned, disciplined.writes, fun mode => by cases mode⟩
  | commits => exact ⟨_, follows_end found disciplined⟩
  | rollsBack => exact ⟨_, follows_end found disciplined⟩
  | reads mode =>
      refine ⟨{ conn with active := true }, lookup_move_self found, ?_, lowered_refl _, rfl,
        fun mode _ => mode, rfl⟩
      exact ⟨disciplined.owned, disciplined.writes, disciplined.bare⟩
  | touches _ => exact follows_touch found disciplined
  | writes _ kind =>
      rcases kind with rfl | rfl
      · exact ⟨_, follows_write found disciplined modest⟩
      · cases modest

theorem drive_follows {id : Nat} {store after : Store} {conn : Connection} {call : DriverCall}
    {answer : DriverAnswer} {returned : Bool} (found : store.conns[id]? = some conn)
    (disciplined : Disciplined id store conn) (modest : Modest store conn call)
    (driven : drive store id conn call answer = some (after, returned)) :
    ∃ kept, Follows id store after conn kept
      (takesEffect answer && decide (call = .setAutoCommit true)) := by
  cases drive_outcome driven with
  | returned answered performed =>
      rw [answered]
      exact perform_follows found disciplined modest performed
  | lost answered performed =>
      rw [answered]
      exact perform_follows found disciplined modest performed
  | refused _ | unprepared _ _ => exact ⟨conn, follows_same found disciplined⟩
  | undone _ => exact ⟨_, follows_end found disciplined⟩

/-! ## Operations that deduct -/

def Guarded (conn : Connection) : Prop := conn.transaction = true → conn.autocommit = false

/-- What holds at the program points of a deduction of a positive quantity. -/
def At (store : Store) : RepoPc → Prop
  | .connect (.deductStock _ quantity) => 0 < quantity
  | .connect (.plain _) | .statement _ _ => False
  | .begin _ _ quantity | .restore _ _ quantity _ => 0 < quantity
  | .select id _ quantity => 0 < quantity ∧
      ∃ conn, store.conns[id]? = some conn ∧ conn.transaction = true
  | .update id item quantity newStock => 0 < quantity ∧ 0 ≤ newStock ∧
      ∃ conn, store.conns[id]? = some conn ∧ conn.transaction = true ∧
        store.rowLock item = some id ∧ visible store conn item = some (newStock + quantity)
  | .commit id item quantity newStock => 0 < quantity ∧
      ∃ conn, store.conns[id]? = some conn ∧ conn.transaction = true ∧
        conn.pending item = some newStock ∧
          ∃ old, store.committed item = some old ∧ newStock + quantity ≤ old
  | .idle | .rollback _ _ | .restoreError _ _ | .release _ _ | .done _ => True

/-- A `setAutoCommit(true)` that throws although the server has carried it out. -/
def loses (pc : RepoPc) : RepoAnswer → Bool
  | .driver (.throws .performed) =>
      match pc with
      | .restore _ _ _ _ | .restoreError _ _ => true
      | _ => false
  | _ => false

theorem visible_committed {id : Nat} {store : Store} {conn : Connection} {item : Item}
    {value : Int} (disciplined : Disciplined id store conn)
    (seen : visible store conn item = some value) :
    ∃ old, store.committed item = some old ∧ value ≤ old := by
  unfold visible at seen
  cases written : conn.pending item with
  | none =>
      rw [written, Option.none_or] at seen
      exact ⟨value, seen, Int.le_refl value⟩
  | some own =>
      rw [written, Option.some_or] at seen
      obtain rfl := Option.some.inj seen
      exact (disciplined.writes item own written).2

theorem at_framed {id : Nat} {store after : Store} {pc : RepoPc}
    (framed : Framed id store after) (foreign : connOf pc ≠ some id)
    (sessions : ∀ other conn, store.conns[other]? = some conn → Disciplined other store conn)
    (before : At store pc) : At after pc := by
  have apart : ∀ other, connOf pc = some other → other ≠ id := by
    rintro other held rfl
    exact foreign held
  cases pc with
  | select other item quantity =>
      obtain ⟨positive, conn, found, flag⟩ := before
      exact ⟨positive, conn, (framed.conns other (apart other rfl)).trans found, flag⟩
  | update other item quantity newStock =>
      obtain ⟨positive, left, conn, found, flag, locked, seen⟩ := before
      have kept := framed.locks item other (apart other rfl) locked
      refine ⟨positive, left, conn, (framed.conns other (apart other rfl)).trans found, flag,
        kept.1, ?_⟩
      unfold visible at seen ⊢
      rw [kept.2]
      exact seen
  | commit other item quantity newStock =>
      obtain ⟨positive, conn, found, flag, written, old, there, less⟩ := before
      have locked := (sessions other conn found).owned item (by rw [written]; rfl)
      have kept := framed.locks item other (apart other rfl) locked
      exact ⟨positive, conn, (framed.conns other (apart other rfl)).trans found, flag, written,
        old, kept.2.trans there, less⟩
  | connect op => cases op <;> exact before
  | _ => exact before

/-- What a step of a deduction does to the committed stock and to the ledger. -/
inductive Books (store after : Store) (pc : RepoPc) : Prop
  | same : after.ledger = store.ledger → Books store after pc
  | sells {id : Nat} {item : Item} {quantity newStock old : Int} :
      pc = .commit id item quantity newStock → 0 < quantity →
        after.ledger = store.ledger ++ [.deducted item quantity] →
          store.committed item = some old → after.committed item = some newStock →
            newStock + quantity ≤ old → Books store after pc

structure Deducts (id : Nat) (store after : Store) (pc next : RepoPc) : Prop where
  session : ∃ kept, after.conns[id]? = some kept ∧ Disciplined id after kept ∧ Guarded kept
  point : At after next
  lowered : Lowered store.committed after.committed
  books : Books store after pc

theorem disciplined_record_if {id : Nat} {store : Store} {conn : Connection}
    (disciplined : Disciplined id store conn) (answer : DriverAnswer)
    (entry : Option LedgerEntry) : Disciplined id (recordIf answer entry store) conn := by
  rcases record_if_cases answer entry store with same | ⟨made, _, _, recorded⟩
  · rw [same]
    exact disciplined
  · rw [recorded]
    exact ⟨disciplined.owned, disciplined.writes, disciplined.bare⟩

section Call

variable {id : Nat} {store after : Store} {conn : Connection} {answer : DriverAnswer}
variable {pc next : RepoPc}

theorem modest_call {call : DriverCall} (found : store.conns[id]? = some conn)
    (held : connOf pc = some id) (disciplined : Disciplined id store conn)
    (guarded : Guarded conn) (before : At store pc) (made : callOf pc = some call) :
    Modest store conn call := by
  cases pc with
  | update other item quantity newStock =>
      obtain rfl := Option.some.inj held
      obtain rfl := Option.some.inj made
      obtain ⟨positive, left, own, there, flag, locked, seen⟩ := before
      obtain rfl := Option.some.inj (found.symm.trans there)
      obtain ⟨old, present, less⟩ := visible_committed disciplined seen
      exact ⟨guarded flag, left, old, present, by omega⟩
  | statement other op => cases before
  | begin _ _ _ | select _ _ _ | commit _ _ _ _ | restore _ _ _ _ | rollback _ _
  | restoreError _ _ =>
      obtain rfl := Option.some.inj made
      exact True.intro
  | idle | connect _ | release _ _ | done _ => cases made

theorem sells_commit {item : Item} {quantity newStock : Int}
    (found : store.conns[id]? = some conn)
    (before : At store (.commit id item quantity newStock)) (effective : takesEffect answer = true)
    (performed : perform store id conn .commit = some after) :
    Books store (recordIf answer (some (.deducted item quantity)) after)
      (.commit id item quantity newStock) := by
  obtain ⟨positive, own, there, flag, written, old, present, less⟩ := before
  obtain rfl := Option.some.inj (found.symm.trans there)
  obtain rfl := Option.some.inj performed
  simp only [recordIf, effective, if_true]
  refine .sells rfl positive rfl present ?_ less
  change (conn.pending item).or (store.committed item) = some newStock
  rw [written]
  rfl

theorem books_fails {call : DriverCall} (found : store.conns[id]? = some conn)
    (held : connOf pc = some id) (before : At store pc) (made : callOf pc = some call)
    (same : after.ledger = store.ledger)
    (driven : drive store id conn call answer = some (after, false)) :
    Books store (recordIf answer (entryOf pc) after) pc := by
  cases pc with
  | commit other item quantity newStock =>
      obtain rfl := Option.some.inj held
      obtain rfl := Option.some.inj made
      cases effect : takesEffect answer with
      | false =>
          apply Books.same
          rw [entryOf, recordIf, effect]
          exact same
      | true =>
          cases drive_outcome driven with
          | lost _ performed => exact sells_commit found before effect performed
          | refused refused =>
              rw [refused] at effect
              cases effect
          | undone refused =>
              rw [refused] at effect
              cases effect
          | unprepared _ first => cases first
  | statement other op => cases before
  | _ => exact .same same

theorem stays_in_mode {call : DriverCall} (made : callOf pc = some call)
    (good : loses pc (.driver answer) = false)
    (driven : drive store id conn call answer = some (after, false)) :
    (takesEffect answer && decide (call = .setAutoCommit true)) = false := by
  cases drive_outcome driven with
  | lost thrown _ =>
      rw [thrown] at good ⊢
      cases pc with
      | restore _ _ _ _ | restoreError _ _ => cases good
      | statement other op => cases op <;> cases made <;> rfl
      | begin _ _ _ | select _ _ _ | update _ _ _ _ | commit _ _ _ _ | rollback _ _ =>
          cases made
          rfl
      | idle | connect _ | release _ _ | done _ => cases made
  | refused thrown | undone thrown | unprepared thrown _ =>
      rw [thrown]
      rfl

theorem deducts_fails {driven : Store} {call : DriverCall} (found : store.conns[id]? = some conn)
    (disciplined : Disciplined id store conn) (guarded : Guarded conn)
    (held : connOf pc = some id) (before : At store pc)
    (good : loses pc (.driver answer) = false) (made : callOf pc = some call)
    (driveCall : drive store id conn call answer = some (driven, false)) :
    Deducts id store (recordIf answer (entryOf pc) driven) pc (failed id) := by
  have modest := modest_call found held disciplined guarded before made
  obtain ⟨kept, follows⟩ := drive_follows found disciplined modest driveCall
  refine ⟨⟨kept, ?_, disciplined_record_if follows.disciplined _ _, ?_⟩, True.intro, ?_,
    books_fails found held before made follows.ledger driveCall⟩
  · rw [record_if_conns]
    exact follows.found
  · intro flag
    rw [follows.flag] at flag
    exact follows.mode (guarded flag) (stays_in_mode made good driveCall)
  · rw [record_if_committed]
    exact follows.lowered

theorem guarded_after {kept : Connection} {call : DriverCall} (guarded : Guarded conn)
    (follows : Follows id store after conn kept
      (takesEffect answer && decide (call = .setAutoCommit true)))
    (other : call ≠ .setAutoCommit true) : Guarded kept := by
  intro flag
  rw [follows.flag] at flag
  apply follows.mode (guarded flag)
  rw [decide_eq_false other, Bool.and_false]

theorem deducts_begins {driven : Store} {item : Item} {quantity : Int}
    (found : store.conns[id]? = some conn) (disciplined : Disciplined id store conn)
    (before : 0 < quantity)
    (driveCall : drive store id conn (.setAutoCommit false) answer = some (driven, true)) :
    Deducts id store (setTransaction driven id true) (.begin id item quantity)
      (.select id item quantity) := by
  cases drive_outcome driveCall with
  | returned _ performed =>
      obtain rfl := Option.some.inj performed
      have there : (store.conns.set id { conn with autocommit := false })[id]? =
          some { conn with autocommit := false } := lookup_move_self found
      rw [set_transaction_of there]
      have now : ((store.conns.set id { conn with autocommit := false }).set id
          { conn with autocommit := false, transaction := true })[id]? =
            some { conn with autocommit := false, transaction := true } := lookup_move_self there
      refine ⟨⟨_, now, ?_, fun _ => rfl⟩, ⟨before, _, now, rfl⟩, lowered_refl _, .same rfl⟩
      exact ⟨disciplined.owned, disciplined.writes, fun mode => by cases mode⟩

theorem deducts_selects {driven : Store} {item : Item} {quantity : Int}
    (found : store.conns[id]? = some conn) (disciplined : Disciplined id store conn)
    (guarded : Guarded conn) (before : At store (.select id item quantity))
    (driveCall : drive store id conn (.selectForUpdate item) answer = some (driven, true)) :
    Deducts id store driven (.select id item quantity)
      (afterSelect store id conn item quantity) := by
  obtain ⟨positive, own, there, flag⟩ := before
  obtain rfl := Option.some.inj (found.symm.trans there)
  have mode := guarded flag
  have modest : Modest store conn (.selectForUpdate item) := True.intro
  obtain ⟨kept, follows⟩ := drive_follows found disciplined modest driveCall
  refine ⟨⟨kept, follows.found, follows.disciplined, guarded_after guarded follows (by rintro ⟨⟩)⟩,
    ?_, follows.lowered, .same follows.ledger⟩
  unfold afterSelect
  split
  · exact True.intro
  · next current seen =>
      split
      · exact True.intro
      · next enough =>
          cases drive_outcome driveCall with
          | returned _ performed =>
              dsimp only [perform] at performed
              split at performed
              · obtain rfl := Option.some.inj performed
                have shape : touchRow store id conn item =
                    setConn { store with rowLock := lockRow store.rowLock id item } id
                      { conn with active := true } := by
                  unfold touchRow
                  rw [if_neg (by rw [mode]; decide), if_pos (by rw [seen]; rfl)]
                rw [shape]
                refine ⟨positive, by omega, _, lookup_move_self found, flag, if_pos rfl, ?_⟩
                change visible store conn item = _
                rw [seen]
                congr 1
                omega
              · cases performed

theorem deducts_updates {driven : Store} {item : Item} {quantity newStock : Int}
    (found : store.conns[id]? = some conn) (disciplined : Disciplined id store conn)
    (guarded : Guarded conn) (before : At store (.update id item quantity newStock))
    (driveCall : drive store id conn (.update item newStock) answer = some (driven, true)) :
    Deducts id store driven (.update id item quantity newStock)
      (.commit id item quantity newStock) := by
  have modest : Modest store conn (.update item newStock) :=
    modest_call found rfl disciplined guarded before rfl
  obtain ⟨positive, left, own, there, flag, locked, seen⟩ := before
  obtain rfl := Option.some.inj (found.symm.trans there)
  have mode := guarded flag
  obtain ⟨kept, follows⟩ := drive_follows found disciplined modest driveCall
  refine ⟨⟨kept, follows.found, follows.disciplined, guarded_after guarded follows (by rintro ⟨⟩)⟩,
    ?_, follows.lowered, .same follows.ledger⟩
  obtain ⟨old, present, less⟩ := visible_committed disciplined seen
  cases drive_outcome driveCall with
  | returned _ performed =>
      have shown : (visible store conn item).isSome = true := by
        rw [seen]
        rfl
      dsimp only [perform] at performed
      rw [if_pos shown] at performed
      split at performed
      · obtain rfl := Option.some.inj performed
        have shape : writeRow store id conn item newStock =
            setConn { store with rowLock := lockRow store.rowLock id item } id
              { conn with active := true, pending := conn.pending.put item newStock } := by
          unfold writeRow
          rw [if_neg (by rw [mode]; decide)]
        rw [shape]
        exact ⟨positive, _, lookup_move_self found, flag, if_pos rfl, old, present, less⟩
      · cases performed

theorem deducts_commits {driven : Store} {item : Item} {quantity newStock : Int}
    (found : store.conns[id]? = some conn) (disciplined : Disciplined id store conn)
    (guarded : Guarded conn) (before : At store (.commit id item quantity newStock))
    (driveCall : drive store id conn .commit answer = some (driven, true)) :
    Deducts id store (recordIf answer (some (.deducted item quantity)) driven)
      (.commit id item quantity newStock) (.restore id item quantity newStock) := by
  have modest : Modest store conn .commit := True.intro
  obtain ⟨kept, follows⟩ := drive_follows found disciplined modest driveCall
  have books : Books store (recordIf answer (some (.deducted item quantity)) driven)
      (.commit id item quantity newStock) := by
    cases drive_outcome driveCall with
    | returned answered performed =>
        apply sells_commit found before _ performed
        rw [answered]
        rfl
  refine ⟨⟨kept, ?_, disciplined_record_if follows.disciplined _ _,
    guarded_after guarded follows (by rintro ⟨⟩)⟩, before.1, ?_, books⟩
  · rw [record_if_conns]
    exact follows.found
  · rw [record_if_committed]
    exact follows.lowered

theorem deducts_restores {driven : Store} {result : RepoResult}
    (found : store.conns[id]? = some conn) (disciplined : Disciplined id store conn)
    (driveCall : drive store id conn (.setAutoCommit true) answer = some (driven, true)) :
    Deducts id store (setTransaction driven id false) pc (.release id result) := by
  have modest : Modest store conn (.setAutoCommit true) := True.intro
  obtain ⟨kept, follows⟩ := drive_follows found disciplined modest driveCall
  rw [set_transaction_of follows.found]
  refine ⟨⟨_, lookup_move_self follows.found, ?_, fun flag => by cases flag⟩, True.intro,
    follows.lowered, .same follows.ledger⟩
  have kept_disciplined := follows.disciplined
  exact ⟨kept_disciplined.owned, kept_disciplined.writes, kept_disciplined.bare⟩

theorem deducts_move (found : store.conns[id]? = some conn) (held : connOf pc = some id)
    (disciplined : Disciplined id store conn) (guarded : Guarded conn) (before : At store pc)
    (good : loses pc (.driver answer) = false)
    (move : ConnMove store conn answer pc after next) : Deducts id store after pc next := by
  cases move with
  | fails same made driveCall =>
      obtain rfl := Option.some.inj (held.symm.trans same)
      exact deducts_fails found disciplined guarded held before good made driveCall
  | skipsBegin flag _ =>
      obtain rfl := Option.some.inj held
      exact ⟨⟨conn, found, disciplined, guarded⟩, ⟨before, conn, found, flag⟩, lowered_refl _,
        .same rfl⟩
  | begins _ driveCall =>
      obtain rfl := Option.some.inj held
      exact deducts_begins found disciplined before driveCall
  | selects driveCall =>
      obtain rfl := Option.some.inj held
      exact deducts_selects found disciplined guarded before driveCall
  | updates driveCall =>
      obtain rfl := Option.some.inj held
      exact deducts_updates found disciplined guarded before driveCall
  | commits _ driveCall =>
      obtain rfl := Option.some.inj held
      exact deducts_commits found disciplined guarded before driveCall
  | skipsCommit flag _ =>
      obtain rfl := Option.some.inj held
      obtain ⟨_, own, there, set, _⟩ := before
      obtain rfl := Option.some.inj (found.symm.trans there)
      rw [flag] at set
      cases set
  | restores driveCall =>
      obtain rfl := Option.some.inj held
      exact deducts_restores found disciplined driveCall
  | rollsBack _ driveCall =>
      obtain rfl := Option.some.inj held
      have modest : Modest store conn .rollback := True.intro
      obtain ⟨kept, follows⟩ := drive_follows found disciplined modest driveCall
      exact ⟨⟨kept, follows.found, follows.disciplined,
        guarded_after guarded follows (by rintro ⟨⟩)⟩, True.intro, follows.lowered,
        .same follows.ledger⟩
  | skipsRollback _ _ =>
      exact ⟨⟨conn, found, disciplined, guarded⟩, True.intro, lowered_refl _, .same rfl⟩
  | restoresError driveCall =>
      obtain rfl := Option.some.inj held
      exact deducts_restores found disciplined driveCall
  | states _ => cases before

end Call

end BackendComponents.Inventory.Discipline
