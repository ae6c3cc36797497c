import BackendComponents.Inventory.LuaScript
import BackendComponents.Inventory.Calls

/-!
# The service on a Redis of texts

The same calls of `InventoryService`, with keys built by `make_key` and stocks written as
texts: the script is executed statement by statement, and every command is sent to the
server. Read as integers, its states and steps are those of the service on a table.
-/

namespace BackendComponents.Inventory.TextService

open BackendComponents.Lib
open BackendComponents.Lib.Scripts (Text Arithmetic Reply)
open BackendComponents.Lib.Paths
open BackendComponents.Inventory.Database
open BackendComponents.Inventory.Repository
open BackendComponents.Inventory.Service
open BackendComponents.Inventory.Calls
open BackendComponents.Inventory.LuaScript (Redis RedisLaws ArithmeticLaws IsInt IsLong Exact put
  observed counted executeDeduct wp_accounted Accounted exact_of_int long_of_exact)

set_option autoImplicit false

def makeKey (keyPrefix : Text) (item : Item) : Text := keyPrefix ++ Decimal.text item

theorem make_key_injective {keyPrefix : Text} {item other : Item}
    (same : makeKey keyPrefix item = makeKey keyPrefix other) : item = other :=
  Decimal.text_injective (List.append_cancel_left same)

/-- The state of the service with the server's own state in place of the table. -/
structure TextState (Server : Type) where
  store : Store
  redis : Server
  calls : List Call
  rebuilds : List Rebuild

section Steps

variable {Server Number : Type} (redis : Redis Server) (arithmetic : Arithmetic Number)
  (keyPrefix : Text) (retryTimes : Int)

def textCallStep (state : TextState Server) (call : Call) (answer : Answer) :
    Option (TextState Server × CallPc) :=
  match call.point, answer with
  | .validate, .go =>
      if call.item ≤ 0 ∨ call.quantity ≤ 0 then some (state, .returned (.error .invalidArg))
      else some (state, .connect)
  | .connect, .connected => some (state, .script)
  | .connect, .unavailable => some (state, enterRepository call .fallback)
  | .script, .redis command =>
      let run := executeDeduct redis arithmetic (makeKey keyPrefix call.item) call.quantity
        state.redis
      let server := if carriedOut command then run.2 else state.redis
      some ({ state with redis := server },
        if command = .returns then afterScript call run.1 else enterRepository call .fallback)
  | .repository route (.done result), .go =>
      (afterRepository route result).map fun next =>
        ({ state with rebuilds := state.rebuilds ++ detached call.item route result }, next)
  | .repository route pc, .repo answer =>
      (repoStep state.store pc answer).map fun moved =>
        ({ state with store := moved.1 }, .repository route moved.2)
  | .retry attempt, .go =>
      if (attempt : Int) < retryTimes then none
      else some (state, .returned (.error .mysqlUpdateFailed))
  | .retry attempt, .connected =>
      if (attempt : Int) < retryTimes then some (state, .increment attempt) else none
  | .retry attempt, .unavailable =>
      if (attempt : Int) < retryTimes then some (state, .retry (attempt + 1)) else none
  | .increment attempt, .redis command =>
      let run := redis.command ["INCRBY".toList, makeKey keyPrefix call.item,
        Decimal.text call.quantity] state.redis
      let server := if carriedOut command then run.2 else state.redis
      some ({ state with redis := server },
        if command = .returns ∧ run.1 ≠ .error then .returned (.error .mysqlUpdateFailed)
        else .retry (attempt + 1))
  | _, _ => none

def textRebuildStep (server : Server) (rebuild : Rebuild) (answer : Answer) :
    Option (Server × RebuildPc) :=
  match rebuild.point, answer with
  | .connect, .connected => some (server, .set)
  | .connect, .unavailable => some (server, .done)
  | .set, .redis command =>
      let run := redis.command ["SET".toList, makeKey keyPrefix rebuild.item,
        Decimal.text rebuild.stock] server
      some (if carriedOut command then run.2 else server, .done)
  | _, _ => none

def textStep (state : TextState Server) : Action → Option (TextState Server)
  | .request item quantity =>
      some { state with
        calls := state.calls ++ [{ item := item, quantity := quantity, point := .validate }] }
  | .call id answer =>
      (state.calls[id]?).bind fun call =>
        (textCallStep redis arithmetic keyPrefix retryTimes state call answer).map fun moved =>
          { moved.1 with calls := state.calls.set id { call with point := moved.2 } }
  | .rebuild id answer =>
      (state.rebuilds[id]?).bind fun rebuild =>
        (textRebuildStep redis keyPrefix state.redis rebuild answer).map fun moved =>
          { state with
            redis := moved.1
            rebuilds := state.rebuilds.set id { rebuild with point := moved.2 } }
  | .evict item => some { state with redis := redis.evict (makeKey keyPrefix item) state.redis }
  | .grow => some { state with store := grow state.store }
  | .recycle place => (recycle state.store place).map fun store => { state with store := store }

def textStart (stock : Table) (server : Server) (connections : Nat) : TextState Server where
  store := opened stock connections
  redis := server
  calls := []
  rebuilds := []

end Steps

def tableOf (keyPrefix : Text) (integer : Text → Option Int) (values : Text → Option Text) : Table :=
  fun item => (values (makeKey keyPrefix item)).bind integer

/-- No stock key holds anything but an integer. -/
def Countable (keyPrefix : Text) (integer : Text → Option Int) (values : Text → Option Text) :
    Prop :=
  ∀ item text, values (makeKey keyPrefix item) = some text → integer text ≠ none

section Tables

variable {keyPrefix : Text} {integer : Text → Option Int} {values : Text → Option Text}

theorem table_put (item : Item) (text : Option Text) :
    tableOf keyPrefix integer (put values (makeKey keyPrefix item) text) =
      setKey (tableOf keyPrefix integer values) item (text.bind integer) := by
  funext other
  unfold tableOf put setKey
  by_cases same : other = item
  · rw [same, if_pos rfl, if_pos rfl]
  · have apart : makeKey keyPrefix other ≠ makeKey keyPrefix item := fun equal =>
      same (make_key_injective equal)
    rw [if_neg apart, if_neg same]

theorem countable_put (countable : Countable keyPrefix integer values) (item : Item)
    {text : Option Text} (fine : ∀ written, text = some written → integer written ≠ none) :
    Countable keyPrefix integer (put values (makeKey keyPrefix item) text) := by
  intro other found present
  unfold put at present
  split at present
  · exact fine found present
  · exact countable other found present

theorem countable_write (countable : Countable keyPrefix integer values) (item : Item)
    {text : Text} {stock : Int} (written : integer text = some stock) :
    Countable keyPrefix integer (put values (makeKey keyPrefix item) (some text)) := by
  apply countable_put countable
  intro found equal
  rw [← Option.some.inj equal, written]
  exact Option.some_ne_none _

theorem table_write (item : Item) {text : Text} {stock : Int}
    (written : integer text = some stock) :
    tableOf keyPrefix integer (put values (makeKey keyPrefix item) (some text)) =
      setKey (tableOf keyPrefix integer values) item (some stock) := by
  rw [table_put, Option.bind_some, written]

theorem set_key_same (table : Table) (item : Item) : setKey table item (table item) = table := by
  funext other
  unfold setKey
  split
  · next same => rw [same]
  · rfl

end Tables

section Refinement

variable {Server Number : Type} {redis : Redis Server} {arithmetic : Arithmetic Number}
  {integer : Text → Option Int} {keyPrefix : Text}

theorem script_on_table (redisLaws : RedisLaws redis integer)
    (numberLaws : ArithmeticLaws arithmetic integer) {server : Server} {item : Item}
    {quantity : Int} (int : IsInt quantity) (positive : 0 < quantity)
    (countable : Countable keyPrefix integer (redis.value server))
    (exact : ∀ held, tableOf keyPrefix integer (redis.value server) item = some held →
      Exact held) :
    let table := tableOf keyPrefix integer (redis.value server)
    let run := executeDeduct redis arithmetic (makeKey keyPrefix item) quantity server
    run.1 = parseResult (deductScript (table item) quantity).2 ∧
      tableOf keyPrefix integer (redis.value run.2) =
        setKey table item (deductScript (table item) quantity).1 ∧
      Countable keyPrefix integer (redis.value run.2) := by
  intro table run
  have before := @wp_accounted _ _ _ _ _ redisLaws numberLaws (makeKey keyPrefix item) quantity int
    positive server (by
      intro text held found stands
      apply exact held
      unfold tableOf
      rw [found]
      exact stands)
  have accounted : Accounted integer (redis.value server) (makeKey keyPrefix item) quantity run.1
      (redis.value run.2) := (Scripts.wp_iff _ _ _ _).mp before
  have kept : ∀ values, values = redis.value server →
      tableOf keyPrefix integer values = setKey table item (table item) := by
    rintro values rfl
    exact (set_key_same table item).symm
  unfold Accounted at accounted
  cases found : redis.value server (makeKey keyPrefix item) with
  | none =>
      rw [found] at accounted
      have absent : table item = none := by
        unfold table tableOf
        rw [found]
        rfl
      refine ⟨?_, ?_, ?_⟩
      · rw [absent]
        exact accounted.1
      · rw [kept _ accounted.2, absent]
        rfl
      · rw [accounted.2]
        exact countable
  | some text =>
      rw [found] at accounted
      cases stands : integer text with
      | none => exact absurd stands (countable item text found)
      | some held =>
          have present : table item = some held := by
            unfold table tableOf
            rw [found]
            exact stands
          dsimp only at accounted
          rw [stands] at accounted
          dsimp only at accounted
          rw [present]
          unfold deductScript
          dsimp only
          by_cases short : held < quantity
          · rw [if_pos short] at accounted ⊢
            refine ⟨accounted.1, ?_, ?_⟩
            · rw [kept _ accounted.2, present]
            · rw [accounted.2]
              exact countable
          · rw [if_neg short] at accounted ⊢
            have inside := exact held present
            have written : integer (Decimal.text (held - quantity)) = some (held - quantity) := by
              apply redisLaws.integer_text
              unfold Exact at inside
              unfold IsLong
              omega
            refine ⟨accounted.1, ?_, ?_⟩
            · rw [accounted.2]
              exact table_write item written
            · rw [accounted.2]
              exact countable_write countable item written

theorem increment_on_table (redisLaws : RedisLaws redis integer) {server : Server} {item : Item}
    {quantity : Int} (int : IsInt quantity)
    (countable : Countable keyPrefix integer (redis.value server))
    (exact : ∀ held, tableOf keyPrefix integer (redis.value server) item = some held →
      Exact held) :
    let table := tableOf keyPrefix integer (redis.value server)
    let run := redis.command ["INCRBY".toList, makeKey keyPrefix item, Decimal.text quantity] server
    run.1 ≠ .error ∧
      tableOf keyPrefix integer (redis.value run.2) = incrBy table item quantity ∧
      Countable keyPrefix integer (redis.value run.2) := by
  intro table run
  have counts := redisLaws.incrby (makeKey keyPrefix item) quantity server int
  have held : ∃ stock, (redis.value server (makeKey keyPrefix item)).elim (some 0) integer =
      some stock ∧ (table item).getD 0 = stock ∧ IsLong (stock + quantity) := by
    have room : ∀ stock, Exact stock → IsLong (stock + quantity) := by
      intro stock inside
      unfold Exact at inside
      unfold IsInt at int
      unfold IsLong
      omega
    cases found : redis.value server (makeKey keyPrefix item) with
    | none =>
        have absent : table item = none := by
          unfold table tableOf
          rw [found]
          rfl
        refine ⟨0, rfl, ?_, room 0 (by decide)⟩
        rw [absent]
        rfl
    | some text =>
        cases stands : integer text with
        | none => exact absurd stands (countable item text found)
        | some stock =>
            have present : table item = some stock := by
              unfold table tableOf
              rw [found]
              exact stands
            refine ⟨stock, stands, ?_, room stock (exact stock present)⟩
            rw [present]
            rfl
  obtain ⟨stock, stands, counted', fits⟩ := held
  unfold observed counted at counts
  rw [stands] at counts
  dsimp only at counts
  rw [if_pos fits] at counts
  obtain ⟨replied, changed⟩ := Prod.mk.inj counts
  have written := redisLaws.integer_text _ fits
  refine ⟨?_, ?_, ?_⟩
  · rw [replied]
    nofun
  · rw [changed, table_write item written]
    unfold incrBy
    rw [counted']
  · rw [changed]
    exact countable_write countable item written

theorem set_on_table (redisLaws : RedisLaws redis integer) {server : Server} (item : Item)
    {stock : Int} (exact : Exact stock)
    (countable : Countable keyPrefix integer (redis.value server)) :
    let run := redis.command ["SET".toList, makeKey keyPrefix item, Decimal.text stock] server
    tableOf keyPrefix integer (redis.value run.2) =
        (tableOf keyPrefix integer (redis.value server)).put item stock ∧
      Countable keyPrefix integer (redis.value run.2) := by
  intro run
  have sets := redisLaws.set (makeKey keyPrefix item) (Decimal.text stock) server
  obtain ⟨_, changed⟩ := Prod.mk.inj sets
  have written := redisLaws.integer_text stock (long_of_exact exact)
  constructor
  · rw [changed, table_write item written]
    rfl
  · rw [changed]
    exact countable_write countable item written

theorem evict_on_table (redisLaws : RedisLaws redis integer) {server : Server} (item : Item)
    (countable : Countable keyPrefix integer (redis.value server)) :
    let after := redis.evict (makeKey keyPrefix item) server
    tableOf keyPrefix integer (redis.value after) =
        setKey (tableOf keyPrefix integer (redis.value server)) item none ∧
      Countable keyPrefix integer (redis.value after) := by
  intro after
  have lost := redisLaws.evict (makeKey keyPrefix item) server
  constructor
  · rw [lost, table_put]
    rfl
  · rw [lost]
    exact countable_put countable item nofun

end Refinement

section Runs

variable {Server Number : Type} (redis : Redis Server) (arithmetic : Arithmetic Number)
  (integer : Text → Option Int) (keyPrefix : Text) (retryTimes : Int)

/-- The state of the service with the texts read as integers. -/
def abstracted (state : TextState Server) : State where
  store := state.store
  redis := tableOf keyPrefix integer (redis.value state.redis)
  calls := state.calls
  rebuilds := state.rebuilds

/-- Quantities are of type `int`, and no stock leaves the range in which Lua is exact. -/
structure InRange (state : TextState Server) : Prop where
  stocks : ∀ item held, tableOf keyPrefix integer (redis.value state.redis) item = some held →
    Exact held
  calls : ∀ call ∈ state.calls, IsInt call.quantity
  rebuilds : ∀ rebuild ∈ state.rebuilds, Exact rebuild.stock

structure Sound (state : TextState Server) : Prop where
  countable : Countable keyPrefix integer (redis.value state.redis)
  admissible : ∀ call ∈ state.calls, Admissible call

variable {redis arithmetic integer keyPrefix}

theorem text_call_step (redisLaws : RedisLaws redis integer)
    (numberLaws : ArithmeticLaws arithmetic integer) {state after : TextState Server} {call : Call}
    {answer : Answer} {next : CallPc} (int : IsInt call.quantity) (admissible : Admissible call)
    (countable : Countable keyPrefix integer (redis.value state.redis))
    (exact : ∀ held, tableOf keyPrefix integer (redis.value state.redis) call.item = some held →
      Exact held)
    (taken : textCallStep redis arithmetic keyPrefix retryTimes state call answer =
      some (after, next)) :
    callStep retryTimes (abstracted redis integer keyPrefix state) call answer =
        some (abstracted redis integer keyPrefix after, next) ∧
      Countable keyPrefix integer (redis.value after.redis) := by
  unfold textCallStep at taken
  split at taken
  · next at_point =>
      unfold callStep
      rw [at_point]
      split at taken <;> cases taken
      · next invalid => exact ⟨if_pos invalid, countable⟩
      · next valid => exact ⟨if_neg valid, countable⟩
  · next at_point =>
      unfold callStep
      rw [at_point]
      cases taken
      exact ⟨rfl, countable⟩
  · next at_point =>
      unfold callStep
      rw [at_point]
      cases taken
      exact ⟨rfl, countable⟩
  · next command at_point =>
      have positive := admissible.positive (by rw [at_point]; rfl)
      obtain ⟨result, table, kept⟩ := script_on_table redisLaws numberLaws int positive countable
        exact
      unfold callStep
      rw [at_point]
      cases taken
      dsimp only
      rw [result]
      constructor
      · unfold abstracted
        cases carriedOut command with
        | true =>
            rw [if_pos rfl, if_pos rfl, table]
        | false => rfl
      · cases carriedOut command with
        | true => exact kept
        | false => exact countable
  · next route result at_point =>
      unfold callStep
      rw [at_point]
      obtain ⟨point, known, same⟩ := Option.map_eq_some_iff.mp taken
      cases same
      exact ⟨Option.map_eq_some_iff.mpr ⟨_, known, rfl⟩, countable⟩
  · next route pc repoAnswer at_point =>
      unfold callStep
      rw [at_point]
      obtain ⟨moved, stepped, same⟩ := Option.map_eq_some_iff.mp taken
      cases same
      have here : callStep retryTimes (abstracted redis integer keyPrefix state)
          { call with point := .repository route pc } (.repo repoAnswer) =
          some (abstracted redis integer keyPrefix { state with store := moved.1 },
            .repository route moved.2) := by
        cases pc <;> exact Option.map_eq_some_iff.mpr ⟨moved, stepped, rfl⟩
      exact ⟨here, countable⟩
  · next attempt at_point =>
      unfold callStep
      rw [at_point]
      split at taken <;> cases taken
      · next done => exact ⟨if_neg done, countable⟩
  · next attempt at_point =>
      unfold callStep
      rw [at_point]
      split at taken <;> cases taken
      · next early => exact ⟨if_pos early, countable⟩
  · next attempt at_point =>
      unfold callStep
      rw [at_point]
      split at taken <;> cases taken
      · next early => exact ⟨if_pos early, countable⟩
  · next attempt command at_point =>
      obtain ⟨fine, table, kept⟩ := increment_on_table redisLaws int countable exact
      unfold callStep
      rw [at_point]
      cases taken
      dsimp only
      constructor
      · unfold abstracted
        have reported : (command = .returns ∧ (redis.command ["INCRBY".toList,
            makeKey keyPrefix call.item, Decimal.text call.quantity] state.redis).1 ≠ .error) ↔
            command = .returns := and_iff_left fine
        simp only [reported]
        cases carriedOut command with
        | true =>
            rw [if_pos rfl, if_pos rfl, table]
        | false => rfl
      · cases carriedOut command with
        | true => exact kept
        | false => exact countable
  · cases taken

theorem text_rebuild_step (redisLaws : RedisLaws redis integer) {server after : Server}
    {rebuild : Rebuild} {answer : Answer} {next : RebuildPc} (exact : Exact rebuild.stock)
    (countable : Countable keyPrefix integer (redis.value server))
    (taken : textRebuildStep redis keyPrefix server rebuild answer = some (after, next)) :
    rebuildStep (tableOf keyPrefix integer (redis.value server)) rebuild answer =
        some (tableOf keyPrefix integer (redis.value after), next) ∧
      Countable keyPrefix integer (redis.value after) := by
  unfold textRebuildStep at taken
  split at taken
  · next at_point =>
      unfold rebuildStep
      rw [at_point]
      cases taken
      exact ⟨rfl, countable⟩
  · next at_point =>
      unfold rebuildStep
      rw [at_point]
      cases taken
      exact ⟨rfl, countable⟩
  · next command at_point =>
      obtain ⟨table, kept⟩ := set_on_table redisLaws rebuild.item exact countable
      unfold rebuildStep
      rw [at_point]
      cases taken
      dsimp only
      cases carriedOut command with
      | true =>
          rw [if_pos rfl, if_pos rfl, table]
          exact ⟨rfl, kept⟩
      | false => exact ⟨rfl, countable⟩
  · cases taken

theorem text_step (redisLaws : RedisLaws redis integer)
    (numberLaws : ArithmeticLaws arithmetic integer) {state after : TextState Server}
    {action : Action} (sound : Sound redis integer keyPrefix state)
    (inRange : InRange redis integer keyPrefix state)
    (taken : textStep redis arithmetic keyPrefix retryTimes state action = some after) :
    step retryTimes (abstracted redis integer keyPrefix state) action =
        some (abstracted redis integer keyPrefix after) ∧
      Sound redis integer keyPrefix after := by
  obtain ⟨countable, admissible⟩ := sound
  cases action with
  | request item quantity =>
      cases taken
      refine ⟨rfl, countable, ?_⟩
      intro call member
      rcases List.mem_append.mp member with old | new
      · exact admissible call old
      · rw [List.mem_singleton.mp new]
        exact admissible_requested item quantity
  | call id answer =>
      obtain ⟨call, found, advanced⟩ := Option.bind_eq_some_iff.mp taken
      obtain ⟨moved, stepped, rfl⟩ := Option.map_eq_some_iff.mp advanced
      have member := List.mem_of_getElem? found
      have moves := text_call_step retryTimes redisLaws numberLaws (inRange.calls call member)
        (admissible call member) countable (inRange.stocks call.item) stepped
      constructor
      · apply Option.bind_eq_some_iff.mpr
        exact ⟨call, found, Option.map_eq_some_iff.mpr ⟨_, moves.1, rfl⟩⟩
      · refine ⟨moves.2, ?_⟩
        intro other present
        rcases List.mem_or_eq_of_mem_set present with old | rfl
        · exact admissible other old
        · exact admissible_move (call_step_cases moves.1) (admissible call member)
  | rebuild id answer =>
      obtain ⟨rebuild, found, advanced⟩ := Option.bind_eq_some_iff.mp taken
      obtain ⟨moved, stepped, rfl⟩ := Option.map_eq_some_iff.mp advanced
      have exact := inRange.rebuilds rebuild (List.mem_of_getElem? found)
      have moves := text_rebuild_step redisLaws exact countable stepped
      constructor
      · apply Option.bind_eq_some_iff.mpr
        exact ⟨rebuild, found, Option.map_eq_some_iff.mpr ⟨_, moves.1, rfl⟩⟩
      · exact ⟨moves.2, admissible⟩
  | evict item =>
      cases taken
      obtain ⟨table, kept⟩ := evict_on_table redisLaws item countable
      constructor
      · unfold abstracted
        rw [table]
        rfl
      · exact ⟨kept, admissible⟩
  | grow =>
      cases taken
      exact ⟨rfl, countable, admissible⟩
  | recycle place =>
      obtain ⟨store, removed, rfl⟩ := Option.map_eq_some_iff.mp taken
      constructor
      · exact Option.map_eq_some_iff.mpr ⟨store, removed, rfl⟩
      · exact ⟨countable, admissible⟩

/-- Every run of the service on texts is a run of the service on the table, as long as no
stock leaves the range in which Lua computes exactly. -/
theorem text_run_refines (redisLaws : RedisLaws redis integer)
    (numberLaws : ArithmeticLaws arithmetic integer) {stock : Table} {server : Server}
    {connections : Nat} (countable : Countable keyPrefix integer (redis.value server))
    {trail : List (TextState Server × Action)} {last : TextState Server}
    (path : Path (textStep redis arithmetic keyPrefix retryTimes)
      (textStart stock server connections) trail last)
    (inRange : ∀ state ∈ visited trail last, InRange redis integer keyPrefix state) :
    Path (step retryTimes)
        (start stock (tableOf keyPrefix integer (redis.value server)) connections)
        (trail.map fun taken => (abstracted redis integer keyPrefix taken.1, taken.2))
        (abstracted redis integer keyPrefix last) ∧
      Countable keyPrefix integer (redis.value last.redis) := by
  have simulated : Path (step retryTimes)
        (start stock (tableOf keyPrefix integer (redis.value server)) connections)
        (trail.map fun taken => (abstracted redis integer keyPrefix taken.1, taken.2))
        (abstracted redis integer keyPrefix last) ∧
      Sound redis integer keyPrefix last := by
    induction path with
    | here => exact ⟨.here, countable, nofun⟩
    | @next trail state after action path taken ih =>
        have earlier : ∀ other ∈ visited trail state, InRange redis integer keyPrefix other := by
          intro other member
          apply inRange
          simp only [visited, List.map_append, List.map_cons, List.map_nil]
          exact List.mem_append_left _ member
        obtain ⟨front, sound⟩ := ih earlier
        have here : InRange redis integer keyPrefix state := earlier state (by simp [visited])
        obtain ⟨stepped, kept⟩ := text_step retryTimes redisLaws numberLaws sound here taken
        rw [List.map_append]
        exact ⟨.next front stepped, kept⟩
  exact ⟨simulated.1, simulated.2.countable⟩

end Runs

def stockPrefix : Text := "stock:".toList

def tenEverywhere : TextState (Text → Option Text) :=
  textStart (fun _ => some 10) LuaScript.tenStored 1

def selling (point : CallPc) : TextState (Text → Option Text) :=
  { tenEverywhere with calls := [{ item := 1, quantity := 3, point }] }

def scriptDone : TextState (Text → Option Text) :=
  { selling (.repository (.fast 7) (.connect (.deductStock 1 3))) with
    redis := put LuaScript.tenStored (makeKey stockPrefix 1) (some (Decimal.text 7)) }

def oneSale : List (TextState (Text → Option Text) × Action) :=
  [(tenEverywhere, .request 1 3), (selling .validate, .call 0 .go),
    (selling .connect, .call 0 .connected), (selling .script, .call 0 (.redis .returns))]

theorem one_sale_path :
    Path (textStep LuaScript.mapRedis LuaScript.intArithmetic stockPrefix 3) tenEverywhere oneSale
      scriptDone := by
  have requested := @path_step _ _
    (textStep LuaScript.mapRedis LuaScript.intArithmetic stockPrefix 3) tenEverywhere
    (selling .validate) (.request 1 3) rfl
  have validated := Path.next requested (show _ = some (selling .connect) from
    (rfl : textStep LuaScript.mapRedis LuaScript.intArithmetic stockPrefix 3 (selling .validate)
      (.call 0 .go) = _))
  have connected := Path.next validated (show _ = some (selling .script) from
    (rfl : textStep LuaScript.mapRedis LuaScript.intArithmetic stockPrefix 3 (selling .connect)
      (.call 0 .connected) = _))
  exact Path.next connected (show _ = some scriptDone from
    (rfl : textStep LuaScript.mapRedis LuaScript.intArithmetic stockPrefix 3 (selling .script)
      (.call 0 (.redis .returns)) = _))

theorem selling_in_range {state : TextState (Text → Option Text)}
    (server : state.redis = LuaScript.tenStored ∨
      state.redis = put LuaScript.tenStored (makeKey stockPrefix 1) (some (Decimal.text 7)))
    (calls : ∀ call ∈ state.calls, call.quantity = 3) (rebuilds : state.rebuilds = []) :
    InRange LuaScript.mapRedis LuaScript.longText stockPrefix state := by
  have ten : ∀ item held, tableOf stockPrefix LuaScript.longText LuaScript.tenStored item =
      some held → Exact held := by
    intro item held found
    have stored : LuaScript.longText (Decimal.text 10) = some 10 :=
      LuaScript.long_text_text (by decide)
    obtain rfl : (10 : Int) = held := Option.some.inj (stored.symm.trans found)
    decide
  constructor
  · intro item held found
    rcases server with same | same
    · rw [same] at found
      exact ten item held found
    · have stored : LuaScript.longText (Decimal.text 7) = some 7 :=
        LuaScript.long_text_text (by decide)
      have left := @table_write stockPrefix LuaScript.longText LuaScript.tenStored 1 _ _ stored
      have changed : setKey (tableOf stockPrefix LuaScript.longText LuaScript.tenStored) 1 (some 7)
          item = some held := by
        rw [← left, ← same]
        exact found
      unfold setKey at changed
      split at changed
      · obtain rfl : (7 : Int) = held := Option.some.inj changed
        decide
      · exact ten item held changed
  · intro call member
    rw [calls call member]
    decide
  · rw [rebuilds]
    nofun

/-- A sale of three pieces out of ten, up to its call of the repository. -/
theorem one_sale_refines :
    Path (step 3) (start (fun _ => some 10)
        (tableOf stockPrefix LuaScript.longText (LuaScript.mapRedis.value LuaScript.tenStored)) 1)
      (oneSale.map fun taken =>
        (abstracted LuaScript.mapRedis LuaScript.longText stockPrefix taken.1, taken.2))
      (abstracted LuaScript.mapRedis LuaScript.longText stockPrefix scriptDone) ∧
    Countable stockPrefix LuaScript.longText (LuaScript.mapRedis.value scriptDone.redis) := by
  apply text_run_refines 3 LuaScript.map_redis_laws LuaScript.int_arithmetic_laws _ one_sale_path
  · intro state member
    simp only [visited, oneSale, List.map_cons, List.map_nil, List.cons_append, List.nil_append,
      List.mem_cons, List.not_mem_nil, or_false] at member
    rcases member with rfl | rfl | rfl | rfl | rfl
    · exact selling_in_range (.inl rfl) (fun call member => by cases member) rfl
    · exact selling_in_range (.inl rfl) (by simp [selling]) rfl
    · exact selling_in_range (.inl rfl) (by simp [selling]) rfl
    · exact selling_in_range (.inl rfl) (by simp [selling]) rfl
    · exact selling_in_range (.inr rfl) (by simp [scriptDone, selling]) rfl
  · intro item text found
    obtain rfl : Decimal.text 10 = text := Option.some.inj found
    rw [LuaScript.long_text_text (by decide)]
    exact Option.some_ne_none _

end BackendComponents.Inventory.TextService
