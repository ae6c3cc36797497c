import BackendComponents.Lib.Threads

/-!
# The books of a pool

A pool makes items, numbered in the order of the attempts, keeps the idle ones in a queue,
hands them out to holders and discards some of them. `size` is what the pool itself counts.
An exchange is one operation on the books: it may get an item from a holder and may hand
one out. Exchanges compose, and from what they keep it follows that every item made is in
one place, and when the count is right.
-/

namespace BackendComponents.Lib.Books

open BackendComponents.Lib.Threads

set_option autoImplicit false

/-- `attempts` is the number of items asked of the maker so far. -/
structure Stock where
  size : Int
  idle : List Nat
  gone : List Nat
  attempts : Nat
  deriving DecidableEq, Repr

/-- Whether the attempt with this number yields an item. -/
abbrev Maker := Nat → Bool

def isItem (item : Nat) (place : Option Nat) : Nat := indicator (decide (place = some item))

@[simp] theorem is_item_none (item : Nat) : isItem item none = 0 := rfl

def stored (stock : Stock) (item : Nat) : Nat := stock.idle.count item + stock.gone.count item

def made (maker : Maker) (stock : Stock) (item : Nat) : Nat :=
  indicator (decide (item < stock.attempts) && maker item)

theorem made_le (maker : Maker) (stock : Stock) (item : Nat) : made maker stock item ≤ 1 := by
  unfold made indicator
  split <;> omega

theorem made_known (maker : Maker) {before after : Stock} {item : Nat}
    (old : item < before.attempts) (more : before.attempts ≤ after.attempts) :
    made maker after item = made maker before item := by
  unfold made
  rw [decide_eq_true old, decide_eq_true (Nat.lt_of_lt_of_le old more)]

section Operations

/-- A new item, or with `false` an attempt that yields none; `counted` is what it adds to
the size. -/
def Stock.attempt (stock : Stock) (succeeds : Bool) (counted : Int) : Stock :=
  { stock with
    size := stock.size + counted
    idle := if succeeds then stock.idle ++ [stock.attempts] else stock.idle
    attempts := stock.attempts + 1 }

def Stock.put (stock : Stock) (item : Nat) : Stock := { stock with idle := stock.idle ++ [item] }

def Stock.discard (stock : Stock) (item : Nat) : Stock :=
  { stock with size := stock.size - 1, gone := stock.gone ++ [item] }

/-- Everything idle is discarded and the count starts afresh. -/
def Stock.close (stock : Stock) : Stock :=
  { stock with size := 0, idle := [], gone := stock.gone ++ stock.idle }

end Operations

/-- An operation that gets `given`, hands out `taken` and counts `phantom` items that do
not exist. -/
structure Exchange (maker : Maker) (before : Stock) (given : Option Nat) (after : Stock)
    (taken : Option Nat) (phantom : Nat) : Prop where
  size : after.size - after.idle.length + indicator given.isSome =
    before.size - before.idle.length + indicator taken.isSome + phantom
  places : ∀ item, stored after item + isItem item taken + made maker before item =
    stored before item + isItem item given + made maker after item
  attempts : before.attempts ≤ after.attempts

theorem exchange_refl (maker : Maker) (stock : Stock) (item : Option Nat) :
    Exchange maker stock item stock item 0 := by
  constructor
  · omega
  · intro _
    rfl
  · exact Nat.le_refl _

theorem exchange_trans {maker : Maker} {before middle after : Stock}
    {given between taken : Option Nat} {first second : Nat}
    (front : Exchange maker before given middle between first)
    (back : Exchange maker middle between after taken second) :
    Exchange maker before given after taken (first + second) := by
  constructor
  · have left := front.size
    have right := back.size
    push_cast
    omega
  · intro item
    have left := front.places item
    have right := back.places item
    omega
  · exact Nat.le_trans front.attempts back.attempts

theorem count_snoc (items : List Nat) (new item : Nat) :
    (items ++ [new]).count item = items.count item + isItem item (some new) := by
  rw [List.count_append, List.count_singleton]
  unfold isItem indicator
  by_cases same : new = item <;> simp [same]

theorem count_front (first item : Nat) (rest : List Nat) :
    (first :: rest).count item = rest.count item + isItem item (some first) := by
  rw [List.count_cons]
  unfold isItem indicator
  by_cases same : first = item <;> simp [same]

theorem made_next (maker : Maker) (attempts item : Nat) :
    indicator (decide (item < attempts + 1) && maker item) =
      indicator (decide (item < attempts) && maker item) +
        indicator (decide (attempts = item) && maker attempts) := by
  rcases Nat.lt_trichotomy item attempts with below | rfl | above
  · have different : attempts ≠ item := by omega
    have next : item < attempts + 1 := by omega
    simp [below, next, different]
  · simp
  · have different : attempts ≠ item := by omega
    have notYet : ¬item < attempts := by omega
    have notNext : ¬item < attempts + 1 := by omega
    simp [notYet, notNext, different]

theorem exchange_attempt {maker : Maker} {stock : Stock} {succeeds : Bool} {counted : Int}
    {phantom : Nat} (yields : maker stock.attempts = succeeds)
    (excess : counted = indicator succeeds + phantom) :
    Exchange maker stock none (stock.attempt succeeds counted) none phantom := by
  constructor
  · unfold Stock.attempt
    cases succeeds with
    | true =>
        simp only [if_true, List.length_append, List.length_singleton] at *
        push_cast
        rw [indicator_true] at excess
        omega
    | false =>
        rw [indicator_false] at excess
        simp only [Bool.false_eq_true, if_false]
        omega
  · intro item
    unfold stored made Stock.attempt
    dsimp only
    rw [made_next, yields]
    cases succeeds with
    | true =>
        rw [if_pos rfl, count_snoc, Bool.and_true]
        unfold isItem
        simp only [Option.some.injEq, reduceCtorEq, decide_false, indicator_false]
        omega
    | false =>
        rw [if_neg Bool.false_ne_true, Bool.and_false]
        rfl
  · exact Nat.le_succ _

/-- How many of `count` attempts from `first` on yield nothing. -/
def misses (maker : Maker) : Nat → Nat → Nat
  | _, 0 => 0
  | first, count + 1 => indicator (!maker first) + misses maker (first + 1) count

theorem misses_eq_zero_iff (maker : Maker) (first count : Nat) :
    misses maker first count = 0 ↔
      ∀ attempt, first ≤ attempt → attempt < first + count → maker attempt = true := by
  induction count generalizing first with
  | zero =>
      apply iff_of_true rfl
      intro attempt lower upper
      omega
  | succ count ih =>
      have later := ih (first + 1)
      unfold misses
      rw [Nat.add_eq_zero_iff, later]
      constructor
      · rintro ⟨here, rest⟩ attempt lower upper
        by_cases same : attempt = first
        · subst same
          cases yields : maker attempt with
          | true => rfl
          | false =>
              rw [yields] at here
              cases here
        · exact rest attempt (by omega) (by omega)
      · intro all
        constructor
        · rw [all first (Nat.le_refl _) (by omega)]
          rfl
        · intro attempt lower upper
          exact all attempt (by omega) (by omega)

theorem exchange_put (maker : Maker) (stock : Stock) (item : Nat) :
    Exchange maker stock (some item) (stock.put item) none 0 := by
  constructor
  · unfold Stock.put
    dsimp only
    rw [List.length_append, List.length_singleton]
    push_cast
    simp only [Option.isSome_some, Option.isSome_none, indicator_true, indicator_false]
    omega
  · intro other
    unfold stored made Stock.put
    dsimp only
    rw [count_snoc, is_item_none]
    omega
  · exact Nat.le_refl _

theorem exchange_take (maker : Maker) {stock : Stock} {item : Nat} {rest : List Nat}
    (front : stock.idle = item :: rest) :
    Exchange maker stock none { stock with idle := rest } (some item) 0 := by
  constructor
  · dsimp only
    rw [front, List.length_cons]
    push_cast
    simp only [Option.isSome_some, Option.isSome_none, indicator_true, indicator_false]
    omega
  · intro other
    unfold stored made
    dsimp only
    rw [front, count_front, is_item_none]
    omega
  · exact Nat.le_refl _

theorem exchange_discard (maker : Maker) (stock : Stock) (item : Nat) :
    Exchange maker stock (some item) (stock.discard item) none 0 := by
  constructor
  · unfold Stock.discard
    simp only [Option.isSome_some, Option.isSome_none, indicator_true, indicator_false]
    omega
  · intro other
    unfold stored made Stock.discard
    dsimp only
    rw [count_snoc, is_item_none]
    omega
  · exact Nat.le_refl _

theorem exchange_retire_all (maker : Maker) (stock : Stock) {retired rest : List Nat}
    (split : (retired ++ rest).Perm stock.idle) :
    Exchange maker stock none { stock with
      size := stock.size - retired.length, idle := rest, gone := stock.gone ++ retired } none 0 := by
  constructor
  · have lengths := split.length_eq
    rw [List.length_append] at lengths
    dsimp only
    omega
  · intro item
    have counts := split.count_eq item
    rw [List.count_append] at counts
    unfold stored made
    dsimp only
    rw [List.count_append]
    omega
  · exact Nat.le_refl _

/-! ## Holders -/

section Holders

variable {Holder : Type*} (held : Holder → Option Nat)

def lent (holders : List Holder) : Nat := holders.countP fun holder => (held holder).isSome

def lentTo (holders : List Holder) (item : Nat) : Nat :=
  holders.countP fun holder => decide (held holder = some item)

/-- Every item made is idle, gone or with a holder, and only one of these. -/
def Placed (maker : Maker) (stock : Stock) (holders : List Holder) : Prop :=
  ∀ item, stored stock item + lentTo held holders item = made maker stock item

variable {held} {maker : Maker} {stock after : Stock} {holders : List Holder}

theorem lent_set (held : Holder → Option Nat) {holders : List Holder} {id : Nat} {holder : Holder}
    (found : holders[id]? = some holder) (moved : Holder) :
    lent held (holders.set id moved) + indicator (held holder).isSome =
      lent held holders + indicator (held moved).isSome :=
  countP_move (fun holder => (held holder).isSome) found

theorem lent_to_set (held : Holder → Option Nat) {holders : List Holder} {id : Nat}
    {holder : Holder} (found : holders[id]? = some holder) (moved : Holder) (item : Nat) :
    lentTo held (holders.set id moved) item + isItem item (held holder) =
      lentTo held holders item + isItem item (held moved) :=
  countP_move (fun holder => decide (held holder = some item)) found

theorem lent_snoc (held : Holder → Option Nat) (holders : List Holder) (new : Holder) :
    lent held (holders ++ [new]) = lent held holders + indicator (held new).isSome := by
  have counted := countP_spawn (fun holder => (held holder).isSome) holders 1 new
  rw [Nat.one_mul] at counted
  exact counted

theorem lent_to_snoc (held : Holder → Option Nat) (holders : List Holder) (new : Holder) (item : Nat) :
    lentTo held (holders ++ [new]) item = lentTo held holders item + isItem item (held new) := by
  have counted := countP_spawn (fun holder => decide (held holder = some item)) holders 1 new
  rw [Nat.one_mul] at counted
  exact counted

theorem placed_exchange {id : Nat} {holder moved : Holder} {phantom : Nat}
    (placed : Placed held maker stock holders) (found : holders[id]? = some holder)
    (exchange : Exchange maker stock (held holder) after (held moved) phantom) :
    Placed held maker after (holders.set id moved) := by
  intro item
  have located := placed item
  have shift := exchange.places item
  have counts := lent_to_set held found moved item
  omega

theorem placed_new {new : Holder} {phantom : Nat} (placed : Placed held maker stock holders)
    (exchange : Exchange maker stock none after (held new) phantom) :
    Placed held maker after (holders ++ [new]) := by
  intro item
  have located := placed item
  have shift := exchange.places item
  have counts := lent_to_snoc held holders new item
  rw [is_item_none] at shift
  omega

theorem placed_inside {phantom : Nat} (placed : Placed held maker stock holders)
    (exchange : Exchange maker stock none after none phantom) :
    Placed held maker after holders := by
  intro item
  have located := placed item
  have shift := exchange.places item
  rw [is_item_none] at shift
  omega

theorem placed_close (placed : Placed held maker stock holders) :
    Placed held maker stock.close holders := by
  intro item
  have located := placed item
  have moved : stored stock.close item = stored stock item := by
    unfold stored Stock.close
    rw [List.count_append, List.count_nil, Nat.zero_add, Nat.add_comm]
  have kept : made maker stock.close item = made maker stock item := rfl
  omega

theorem stored_le (placed : Placed held maker stock holders) (item : Nat) :
    stored stock item ≤ 1 := by
  have located := placed item
  have few := made_le maker stock item
  omega

theorem idle_nodup (placed : Placed held maker stock holders) : stock.idle.Nodup := by
  apply List.nodup_iff_count_le_one.mpr
  intro item
  have few := stored_le placed item
  unfold stored at few
  omega

theorem idle_not_gone (placed : Placed held maker stock holders) {item : Nat}
    (idle : item ∈ stock.idle) : item ∉ stock.gone := by
  intro gone
  have here : 0 < stock.idle.count item := List.count_pos_iff.mpr idle
  have there : 0 < stock.gone.count item := List.count_pos_iff.mpr gone
  have few := stored_le placed item
  unfold stored at few
  omega

theorem gone_once (placed : Placed held maker stock holders) (empty : stock.idle = [])
    (returned : lent held holders = 0) {item : Nat} (old : item < stock.attempts)
    (exists_item : maker item = true) : stock.gone.count item = 1 := by
  have nobody : lentTo held holders item = 0 := by
    apply List.countP_eq_zero.mpr
    intro holder member
    have none := List.countP_eq_zero.mp returned holder member
    intro some
    rw [of_decide_eq_true some] at none
    exact none rfl
  have located := placed item
  unfold stored made at located
  rw [empty, List.count_nil, nobody, decide_eq_true old, exists_item] at located
  simpa using located

end Holders

/-! ## Lifecycles -/

section Lifecycle

/-- A pool that can be stopped and started again, with those who hold its items. -/
structure Depot where
  stock : Stock
  limit : Int
  running : Bool
  holders : List (Option Nat)

def Depot.existing (depot : Depot) : Nat := depot.stock.idle.length + lent id depot.holders

def Depot.close (depot : Depot) : Depot :=
  { depot with stock := depot.stock.close, running := false }

/-- The books are right, the limit is kept, and a stopped pool that has got everything back
has discarded every item once. -/
structure Lawful (maker : Maker) (depot : Depot) : Prop where
  counted : depot.stock.size = depot.existing
  nonneg : 0 ≤ depot.stock.size
  bounded : (depot.existing : Int) ≤ depot.limit
  settled : depot.running = false → lent id depot.holders = 0 →
    ∀ item, item < depot.stock.attempts → maker item = true → depot.stock.gone.count item = 1

/-- What holds after every history, also when items have come back to a stopped pool. -/
structure Kept (maker : Maker) (depot : Depot) : Prop where
  placed : Placed id maker depot.stock depot.holders
  stopped : depot.running = false → depot.stock.size ≤ 0

variable {maker : Maker} {before after : Depot}

theorem lawful_iff (kept : Kept maker after) :
    Lawful maker after ↔
      after.stock.size = after.existing ∧ after.stock.size ≤ after.limit := by
  constructor
  · intro lawful
    have counted := lawful.counted
    have bounded := lawful.bounded
    constructor <;> omega
  · rintro ⟨counted, bounded⟩
    constructor
    · exact counted
    · omega
    · omega
    · intro off returned item old exists_item
      have few := kept.stopped off
      have empty : after.stock.idle = [] := by
        apply List.eq_nil_of_length_eq_zero
        unfold Depot.existing at counted
        omega
      exact gone_once kept.placed empty returned old exists_item

/-- A call between a start and a stop, or a start. -/
structure Trade (maker : Maker) (before after : Depot) (phantom : Nat) : Prop where
  drift : after.stock.size - after.existing = before.stock.size - before.existing + phantom
  placed : Placed id maker before.stock before.holders → Placed id maker after.stock after.holders
  stopped : after.running = false →
    before.running = false ∧ after.stock.size ≤ before.stock.size

theorem trade_refl (maker : Maker) (depot : Depot) : Trade maker depot depot 0 := by
  constructor
  · omega
  · exact fun placed => placed
  · exact fun off => ⟨off, Int.le_refl _⟩

theorem kept_trade {phantom : Nat} (kept : Kept maker before)
    (trade : Trade maker before after phantom) : Kept maker after := by
  constructor
  · exact trade.placed kept.placed
  · intro off
    obtain ⟨was, less⟩ := trade.stopped off
    exact Int.le_trans less (kept.stopped was)

theorem kept_close (kept : Kept maker before) : Kept maker before.close := by
  constructor
  · exact placed_close kept.placed
  · intro _
    exact Int.le_refl 0

/-- From right books a call leads to right books exactly if it has counted no phantom and
stays within the limit. -/
theorem lawful_trade_iff {phantom : Nat} (kept : Kept maker before) (lawful : Lawful maker before)
    (trade : Trade maker before after phantom) :
    Lawful maker after ↔ phantom = 0 ∧ after.stock.size ≤ after.limit := by
  rw [lawful_iff (kept_trade kept trade)]
  have drift := trade.drift
  have counted := lawful.counted
  constructor
  · rintro ⟨right, bounded⟩
    constructor <;> omega
  · rintro ⟨rfl, bounded⟩
    constructor <;> omega

theorem lawful_close_iff (kept : Kept maker before) (lawful : Lawful maker before) :
    Lawful maker before.close ↔ lent id before.holders = 0 := by
  rw [lawful_iff (kept_close kept)]
  have existing : before.close.existing = lent id before.holders := Nat.zero_add _
  have size : before.close.stock.size = 0 := rfl
  have limit : before.close.limit = before.limit := rfl
  have bounded := lawful.bounded
  rw [existing, size, limit]
  constructor
  · rintro ⟨right, _⟩
    omega
  · intro none
    constructor <;> omega

section Trades

variable {stock : Stock} {phantom : Nat} {limit : Int} {running : Bool}

theorem trade_inside (exchange : Exchange maker before.stock none stock none phantom)
    (stopped : running = false → before.running = false ∧ stock.size ≤ before.stock.size) :
    Trade maker before ⟨stock, limit, running, before.holders⟩ phantom := by
  constructor
  · have shift := exchange.size
    dsimp only [Depot.existing]
    push_cast
    omega
  · intro placed
    exact placed_inside placed exchange
  · exact stopped

theorem trade_new {new : Option Nat}
    (exchange : Exchange maker before.stock none stock new phantom)
    (stopped : running = false → before.running = false ∧ stock.size ≤ before.stock.size) :
    Trade maker before ⟨stock, limit, running, before.holders ++ [new]⟩ phantom := by
  constructor
  · have shift := exchange.size
    have counts := lent_snoc id before.holders new
    dsimp only [Depot.existing, id_eq, Option.isSome_none, indicator_false] at *
    push_cast
    omega
  · intro placed
    exact placed_new placed exchange
  · exact stopped

theorem trade_back {place : Nat} {item : Nat} (found : before.holders[place]? = some (some item))
    (exchange : Exchange maker before.stock (some item) stock none phantom)
    (stopped : running = false → before.running = false ∧ stock.size ≤ before.stock.size) :
    Trade maker before ⟨stock, limit, running, before.holders.set place none⟩ phantom := by
  constructor
  · have shift := exchange.size
    have counts := lent_set id found none
    dsimp only [Depot.existing, id_eq, Option.isSome_some, Option.isSome_none, indicator_true,
      indicator_false] at *
    push_cast
    omega
  · intro placed
    exact placed_exchange placed found exchange
  · exact stopped

end Trades

end Lifecycle

end BackendComponents.Lib.Books
