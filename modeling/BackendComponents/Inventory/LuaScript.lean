import BackendComponents.Lib.Scripts
import BackendComponents.Lib.Decimal
import BackendComponents.Inventory.Service

/-!
# The deduction script on texts

`RedisLuaManager` over a Redis that holds texts. Redis and the numbers of Lua are parameters
with their documented behaviour: what its commands reply and change, and that a double is
exact up to 2^53. What a text stands for as an integer is for the server to decide, so a
key may hold anything.
-/

namespace BackendComponents.Inventory.LuaScript

open BackendComponents.Lib
open BackendComponents.Lib.Scripts
open BackendComponents.Inventory.Service (LuaResult DeductResult parseResult toInt)

set_option autoImplicit false

/-- A Redis server: the texts under its keys, its commands, and the loss of a key. -/
structure Redis (State : Type) where
  value : State → Text → Option Text
  command : List Text → State → Reply × State
  evict : Text → State → State

def IsInt (value : Int) : Prop := -2 ^ 31 ≤ value ∧ value < 2 ^ 31

def IsLong (value : Int) : Prop := -2 ^ 63 ≤ value ∧ value < 2 ^ 63

/-- The integers that a double holds exactly, with all between them. -/
def Exact (value : Int) : Prop := -2 ^ 53 ≤ value ∧ value ≤ 2 ^ 53

instance (value : Int) : Decidable (IsInt value) := inferInstanceAs (Decidable (_ ∧ _))

instance (value : Int) : Decidable (IsLong value) := inferInstanceAs (Decidable (_ ∧ _))

instance (value : Int) : Decidable (Exact value) := inferInstanceAs (Decidable (_ ∧ _))

def put (values : Text → Option Text) (key : Text) (text : Option Text) : Text → Option Text :=
  fun other => if other = key then text else values other

/-- The counting commands: an absent key counts from zero, and what is no integer or would
become none is an error that changes nothing. -/
def counted (integer : Text → Option Int) (values : Text → Option Text) (key : Text)
    (change : Int) : Reply × (Text → Option Text) :=
  match (values key).elim (some 0) integer with
  | none => (.error, values)
  | some held =>
      if IsLong (held + change) then
        (.integer (held + change), put values key (some (Decimal.text (held + change))))
      else (.error, values)

section Laws

variable {State Number : Type} (redis : Redis State) (arithmetic : Arithmetic Number)
  (integer : Text → Option Int)

def observed (ended : Reply × State) : Reply × (Text → Option Text) :=
  (ended.1, redis.value ended.2)

/-- The documented commands. -/
structure RedisLaws : Prop where
  integer_text : ∀ value, IsLong value → integer (Decimal.text value) = some value
  get : ∀ key state, observed redis (redis.command ["GET".toList, key] state) =
    ((redis.value state key).elim .nothing .text, redis.value state)
  set : ∀ key text state, observed redis (redis.command ["SET".toList, key, text] state) =
    (.status, put (redis.value state) key (some text))
  decrby : ∀ key quantity state, IsInt quantity →
    observed redis (redis.command ["DECRBY".toList, key, Decimal.text quantity] state) =
      counted integer (redis.value state) key (-quantity)
  incrby : ∀ key quantity state, IsInt quantity →
    observed redis (redis.command ["INCRBY".toList, key, Decimal.text quantity] state) =
      counted integer (redis.value state) key quantity
  evict : ∀ key state, redis.value (redis.evict key state) = put (redis.value state) key none

/-- Lua reads what the server takes for an integer as the same number, and computes exactly
within the exact range. -/
structure ArithmeticLaws : Prop where
  read : ∀ text value, integer text = some value → Exact value →
    arithmetic.read text = some (arithmetic.ofInt value)
  less : ∀ first second, Exact first → Exact second →
    arithmetic.less (arithmetic.ofInt first) (arithmetic.ofInt second) = decide (first < second)
  write : ∀ value, Exact value → arithmetic.write (arithmetic.ofInt value) = Decimal.text value
  truncate : ∀ value, Exact value → arithmetic.truncate (arithmetic.ofInt value) = value

end Laws

inductive Variable
  | key
  | deductQty
  | current
  | newStock
  deriving DecidableEq

def deductScript : Statement Variable :=
  .seq (.assign .key (.key 1)) <|
  .seq (.assign .deductQty (.toNumber (.argument 1))) <|
  .seq (.call .current "GET".toList [.name .key]) <|
  .seq (.branch (.negation (.name .current)) (.giveBack [.integer (-1), .integer 0])) <|
  .seq (.assign .current (.toNumber (.name .current))) <|
  .seq (.branch (.less (.name .current) (.name .deductQty))
    (.giveBack [.integer 0, .name .current])) <|
  .seq (.call .newStock "DECRBY".toList [.name .key, .name .deductQty])
    (.giveBack [.integer 1, .name .newStock])

/-- `sw::redis::OptionalLongLong`; any other reply is an error of the client. -/
def longLong : Reply → Option (Option Int)
  | .nothing => some none
  | .integer value => some (some value)
  | _ => none

section Commands

variable {State Number : Type} (redis : Redis State) (arithmetic : Arithmetic Number)

def initial (key : Text) (qty : Int) : Env Variable Number where
  keys := [key]
  arguments := [Decimal.text qty]
  names := fun _ => .nil

/-- `redis.eval` with a vector as its result; `none` is an exception. -/
def evaluated : Scripts.Outcome Variable Number → Option (List (Option Int))
  | .returned replies => replies.mapM longLong
  | .next _ => none
  | .raised => none

def resultOf (outcome : Scripts.Outcome Variable Number) : DeductResult :=
  match evaluated outcome with
  | some reply => parseResult reply
  | none => { result := .keyNotFound, remainingStock := 0 }

/-- `RedisLuaManager::execute_deduct`, with a server that answers. -/
def executeDeduct (key : Text) (qty : Int) (state : State) : DeductResult × State :=
  let ended := Scripts.run arithmetic redis.command deductScript (initial key qty) state
  (resultOf ended.1, ended.2)

end Commands

section Script

variable {State Number : Type} {redis : Redis State} {arithmetic : Arithmetic Number}
  {integer : Text → Option Int}

theorem exact_of_int {value : Int} (inside : IsInt value) : Exact value := by
  unfold IsInt at inside
  unfold Exact
  omega

theorem long_of_exact {value : Int} (exact : Exact value) : IsLong value := by
  unfold Exact at exact
  unfold IsLong
  omega

def looked (arithmetic : Arithmetic Number) (key : Text) (qty : Int) (current : Value Number) :
    Env Variable Number :=
  (((initial key qty).assign .key (.text key)).assign .deductQty
    (.number (arithmetic.ofInt qty))).assign .current current

def compareAndTake : Statement Variable :=
  .seq (.assign .current (.toNumber (.name .current))) <|
  .seq (.branch (.less (.name .current) (.name .deductQty))
    (.giveBack [.integer 0, .name .current])) <|
  .seq (.call .newStock "DECRBY".toList [.name .key, .name .deductQty])
    (.giveBack [.integer 1, .name .newStock])

section Laws

variable (redisLaws : RedisLaws redis integer) (numberLaws : ArithmeticLaws arithmetic integer)
  {key : Text} {qty : Int} (quantity : IsInt qty) {state : State}
  {post : Scripts.Outcome Variable Number → State → Prop}

include redisLaws numberLaws quantity

theorem eval_quantity (env : Env Variable Number) (given : env.arguments = [Decimal.text qty]) :
    eval arithmetic env (.toNumber (.argument 1)) = some (.number (arithmetic.ofInt qty)) := by
  have read : arithmetic.read (Decimal.text qty) = some (arithmetic.ofInt qty) := by
    apply numberLaws.read
    · exact redisLaws.integer_text qty (long_of_exact (exact_of_int quantity))
    · exact exact_of_int quantity
  simp [eval, given, textAt, toNumber, read]

theorem wp_absent (absent : redis.value state key = none)
    (returns : ∀ after, redis.value after = redis.value state →
      post (.returned [.integer (-1), .integer 0]) after) :
    wp arithmetic redis.command deductScript post (initial key qty) state := by
  have got := redisLaws.get key state
  cases answered : redis.command ["GET".toList, key] state with
  | mk reply after =>
      rw [answered, absent] at got
      obtain ⟨replied, same⟩ := Prod.mk.inj got
      obtain rfl : reply = .nothing := replied
      apply wp_assign rfl
      apply wp_assign (eval_quantity redisLaws numberLaws quantity _ rfl)
      apply wp_call rfl answered nofun
      apply wp_branch_returns rfl rfl rfl
      have minusOne : arithmetic.truncate (arithmetic.ofInt (-1)) = -1 :=
        numberLaws.truncate (-1) (by decide)
      have zero : arithmetic.truncate (arithmetic.ofInt 0) = 0 := numberLaws.truncate 0 (by decide)
      have given := returns after same
      rw [← minusOne, ← zero] at given
      exact given

theorem wp_found {text : Text} (found : redis.value state key = some text)
    (later : ∀ after, redis.value after = redis.value state →
      wp arithmetic redis.command compareAndTake post (looked arithmetic key qty (.text text))
        after) :
    wp arithmetic redis.command deductScript post (initial key qty) state := by
  have got := redisLaws.get key state
  cases answered : redis.command ["GET".toList, key] state with
  | mk reply after =>
      rw [answered, found] at got
      obtain ⟨replied, same⟩ := Prod.mk.inj got
      obtain rfl : reply = .text text := replied
      apply wp_assign rfl
      apply wp_assign (eval_quantity redisLaws numberLaws quantity _ rfl)
      apply wp_call rfl answered nofun
      apply wp_branch_skipped rfl rfl
      exact later after same

end Laws

theorem wp_unread {key text : Text} {qty : Int} {state : State}
    {post : Scripts.Outcome Variable Number → State → Prop}
    (unread : arithmetic.read text = none) (raised : post .raised state) :
    wp arithmetic redis.command compareAndTake post (looked arithmetic key qty (.text text))
      state := by
  have nil : eval arithmetic (looked arithmetic key qty (.text text))
      (.toNumber (.name .current)) = some .nil := by
    simp [eval, looked, Env.assign, toNumber, unread]
  apply wp_assign nil
  exact wp_branch_raised rfl raised

theorem eval_current {key text : Text} {qty : Int} {number : Number}
    (read : arithmetic.read text = some number) :
    eval arithmetic (looked arithmetic key qty (.text text)) (.toNumber (.name .current)) =
      some (.number number) := by
  simp [eval, looked, Env.assign, toNumber, read]

theorem wp_short {key text : Text} {qty : Int} {state : State} {number : Number}
    {post : Scripts.Outcome Variable Number → State → Prop}
    (read : arithmetic.read text = some number)
    (less : arithmetic.less number (arithmetic.ofInt qty) = true)
    (returns : post (.returned [.integer (arithmetic.truncate (arithmetic.ofInt 0)),
      .integer (arithmetic.truncate number)]) state) :
    wp arithmetic redis.command compareAndTake post (looked arithmetic key qty (.text text))
      state := by
  apply wp_assign (eval_current read)
  apply wp_branch_returns rfl
  · exact less
  · rfl
  · exact returns

theorem sent_texts {key text : Text} {qty : Int} {number : Number}
    (write : arithmetic.write (arithmetic.ofInt qty) = Decimal.text qty) :
    ([.name .key, .name .deductQty] : List (Term Variable)).mapM (fun term =>
      (eval arithmetic ((looked arithmetic key qty (.text text)).assign .current
        (.number number)) term).bind (argumentText arithmetic)) =
      some [key, Decimal.text qty] := by
  rw [← write]
  rfl

theorem wp_refused {key text : Text} {qty : Int} {state after : State} {number : Number}
    {post : Scripts.Outcome Variable Number → State → Prop}
    (read : arithmetic.read text = some number)
    (enough : arithmetic.less number (arithmetic.ofInt qty) = false)
    (write : arithmetic.write (arithmetic.ofInt qty) = Decimal.text qty)
    (answered : redis.command ["DECRBY".toList, key, Decimal.text qty] state = (.error, after))
    (raised : post .raised after) :
    wp arithmetic redis.command compareAndTake post (looked arithmetic key qty (.text text))
      state := by
  apply wp_assign (eval_current read)
  apply wp_branch_skipped rfl
  · exact enough
  · exact wp_call_refused (sent_texts write) answered raised

theorem wp_taken {key text : Text} {qty left : Int} {state after : State} {number : Number}
    {post : Scripts.Outcome Variable Number → State → Prop}
    (read : arithmetic.read text = some number)
    (enough : arithmetic.less number (arithmetic.ofInt qty) = false)
    (write : arithmetic.write (arithmetic.ofInt qty) = Decimal.text qty)
    (answered : redis.command ["DECRBY".toList, key, Decimal.text qty] state =
      (.integer left, after))
    (returns : post (.returned [.integer (arithmetic.truncate (arithmetic.ofInt 1)),
      .integer (arithmetic.truncate (arithmetic.ofInt left))]) after) :
    wp arithmetic redis.command compareAndTake post (looked arithmetic key qty (.text text))
      state := by
  apply wp_assign (eval_current read)
  apply wp_branch_skipped rfl
  · exact enough
  · apply wp_call (sent_texts write) answered nofun
    exact wp_give_back rfl returns

/-- What an execution has to report and to change, whatever the key holds. -/
def Accounted (integer : Text → Option Int) (before : Text → Option Text) (key : Text) (qty : Int)
    (result : DeductResult) (after : Text → Option Text) : Prop :=
  match before key with
  | none => result = { result := .keyNotFound, remainingStock := 0 } ∧ after = before
  | some text =>
      match integer text with
      | none => result.result ≠ .deductSuccess ∧ after = before
      | some held =>
          if held < qty then
            result = { result := .stockInsufficient, remainingStock := toInt held } ∧
              after = before
          else
            result = { result := .deductSuccess, remainingStock := toInt (held - qty) } ∧
              after = put before key (some (Decimal.text (held - qty)))

theorem accounted_short {before : Text → Option Text} {key text : Text} {qty held : Int}
    (found : before key = some text) (stands : integer text = some held) (short : held < qty) :
    Accounted integer before key qty (parseResult [some 0, some held]) before := by
  unfold Accounted
  rw [found]
  dsimp only
  rw [stands]
  dsimp only
  rw [if_pos short]
  exact ⟨rfl, rfl⟩

theorem accounted_taken {before : Text → Option Text} {key text : Text} {qty held : Int}
    (found : before key = some text) (stands : integer text = some held) (enough : ¬held < qty) :
    Accounted integer before key qty (parseResult [some 1, some (held - qty)])
      (put before key (some (Decimal.text (held - qty)))) := by
  unfold Accounted
  rw [found]
  dsimp only
  rw [stands]
  dsimp only
  rw [if_neg enough]
  exact ⟨rfl, rfl⟩

theorem accounted_foreign {before : Text → Option Text} {key text : Text} {qty : Int}
    (found : before key = some text) (foreign : integer text = none) {result : DeductResult}
    (failed : result.result ≠ .deductSuccess) : Accounted integer before key qty result before := by
  unfold Accounted
  rw [found]
  dsimp only
  rw [foreign]
  exact ⟨failed, rfl⟩

theorem wp_accounted (redisLaws : RedisLaws redis integer)
    (numberLaws : ArithmeticLaws arithmetic integer) {key : Text} {qty : Int}
    (quantity : IsInt qty) (positive : 0 < qty) {state : State}
    (exact : ∀ text held, redis.value state key = some text → integer text = some held →
      Exact held) :
    wp arithmetic redis.command deductScript (fun outcome after =>
      Accounted integer (redis.value state) key qty (resultOf outcome) (redis.value after))
      (initial key qty) state := by
  have zero : arithmetic.truncate (arithmetic.ofInt 0) = 0 := numberLaws.truncate 0 (by decide)
  have one : arithmetic.truncate (arithmetic.ofInt 1) = 1 := numberLaws.truncate 1 (by decide)
  have write := numberLaws.write qty (exact_of_int quantity)
  cases found : redis.value state key with
  | none =>
      apply wp_absent redisLaws numberLaws quantity found
      intro after same
      unfold Accounted
      rw [found, same]
      exact ⟨rfl, rfl⟩
  | some text =>
      apply wp_found redisLaws numberLaws quantity found
      intro after same
      have counts := redisLaws.decrby key qty after quantity
      cases answered : redis.command ["DECRBY".toList, key, Decimal.text qty] after with
      | mk reply last =>
      rw [answered, same] at counts
      unfold observed counted at counts
      rw [found, Option.elim_some] at counts
      cases stands : integer text with
      | none =>
          rw [stands] at counts
          obtain ⟨replied, kept⟩ := Prod.mk.inj counts
          obtain rfl : reply = .error := replied
          cases read : arithmetic.read text with
          | none =>
              apply wp_unread read
              rw [same]
              exact accounted_foreign found stands nofun
          | some number =>
              cases less : arithmetic.less number (arithmetic.ofInt qty) with
              | true =>
                  apply wp_short read less
                  rw [same, zero]
                  exact accounted_foreign found stands nofun
              | false =>
                  apply wp_refused read less write answered
                  dsimp only at kept
                  rw [kept]
                  exact accounted_foreign found stands nofun
      | some held =>
          have inside := exact text held found stands
          have read := numberLaws.read text held stands inside
          have compared := numberLaws.less held qty inside (exact_of_int quantity)
          have fits : IsLong (held + -qty) := by
            unfold Exact at inside
            unfold IsInt at quantity
            unfold IsLong
            omega
          rw [stands] at counts
          dsimp only at counts
          rw [if_pos fits, ← Int.sub_eq_add_neg] at counts
          obtain ⟨replied, changed⟩ := Prod.mk.inj counts
          obtain rfl : reply = .integer (held - qty) := replied
          by_cases short : held < qty
          · apply wp_short read (compared.trans (decide_eq_true short))
            rw [same, zero, numberLaws.truncate held inside]
            exact accounted_short found stands short
          · have left : Exact (held - qty) := by
              unfold Exact at inside ⊢
              omega
            apply wp_taken read (compared.trans (decide_eq_false short)) write answered
            rw [one, numberLaws.truncate _ left]
            rw [changed]
            exact accounted_taken found stands short

/-- Every execution takes the quantity whole or nothing, and never takes a key below zero. -/
theorem execute_deduct_accounted (redisLaws : RedisLaws redis integer)
    (numberLaws : ArithmeticLaws arithmetic integer) {key : Text} {qty : Int}
    (quantity : IsInt qty) (positive : 0 < qty) {state : State}
    (exact : ∀ text held, redis.value state key = some text → integer text = some held →
      Exact held) :
    Accounted integer (redis.value state) key qty
      (executeDeduct redis arithmetic key qty state).1
      (redis.value (executeDeduct redis arithmetic key qty state).2) := by
  have before := wp_accounted redisLaws numberLaws quantity positive exact
  exact (wp_iff _ _ _ _).mp before

end Script

def longText (text : Text) : Option Int := (Decimal.readExact text).filter fun value => IsLong value

def mapRedis : Redis (Text → Option Text) where
  value values := values
  command
    | [name, key], values =>
        if name = "GET".toList then ((values key).elim .nothing .text, values)
        else (.error, values)
    | [name, key, text], values =>
        if name = "SET".toList then (.status, put values key (some text))
        else match longText text with
          | none => (.error, values)
          | some quantity =>
              if name = "DECRBY".toList then counted longText values key (-quantity)
              else counted longText values key quantity
    | _, values => (.error, values)
  evict key values := put values key none

def intArithmetic : Arithmetic Int where
  ofInt value := value
  less first second := decide (first < second)
  read := longText
  write := Decimal.text
  truncate value := value

theorem long_text_text {value : Int} (inside : IsLong value) :
    longText (Decimal.text value) = some value := by
  unfold longText
  rw [Decimal.read_exact_text]
  simp [inside]

theorem map_redis_laws : RedisLaws mapRedis longText where
  integer_text _ inside := long_text_text inside
  get key values := by simp [mapRedis, observed]
  set key text values := by simp [mapRedis, observed]
  decrby key quantity values inside := by
    have stands := long_text_text (long_of_exact (exact_of_int inside))
    simp [mapRedis, observed, stands]
  incrby key quantity values inside := by
    have stands := long_text_text (long_of_exact (exact_of_int inside))
    simp [mapRedis, observed, stands]
  evict _ _ := rfl

theorem int_arithmetic_laws : ArithmeticLaws intArithmetic longText where
  read _ _ stands _ := stands
  less _ _ _ _ := rfl
  write _ _ := rfl
  truncate _ _ := rfl

def tenStored : Text → Option Text := fun _ => some (Decimal.text 10)

theorem three_of_ten_accounted :
    Accounted longText tenStored ['k'] 3 (executeDeduct mapRedis intArithmetic ['k'] 3 tenStored).1
      (executeDeduct mapRedis intArithmetic ['k'] 3 tenStored).2 := by
  apply execute_deduct_accounted map_redis_laws int_arithmetic_laws (by decide) (by decide)
  intro text held found stands
  obtain rfl := Option.some.inj found
  rw [long_text_text (by decide)] at stands
  obtain rfl := Option.some.inj stands
  decide

end BackendComponents.Inventory.LuaScript
