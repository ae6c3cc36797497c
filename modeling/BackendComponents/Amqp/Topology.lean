import BackendComponents.Amqp.Channels
import BackendComponents.Lib.FirstFailure

/-!
# Declaring a topology

`broker.cpp`, `exchange.cpp` and `queue.cpp`. `setup` goes on after a failure, yet it
has one channel for the whole topology, and the broker closes that channel with the
first operation it refuses. What comes later is not even looked at.
-/

namespace BackendComponents.Amqp.Topology

open Channels
open Lib.FirstFailure

set_option autoImplicit false

inductive ExchangeType
  | direct
  | fanout
  | topic
  | headers
  deriving DecidableEq, Repr

def exchangeTypeToString : ExchangeType → String
  | .direct => "direct"
  | .fanout => "fanout"
  | .topic => "topic"
  | .headers => "headers"

/-- `amqp_table_t`, the values as they are sent. -/
abbrev Table := List (String × String)

structure ExchangeConfig where
  name : String
  type : ExchangeType := .direct
  durable : Bool := false
  autoDelete : Bool := false
  internal : Bool := false
  arguments : Table := []
  deriving DecidableEq, Repr

structure QueueConfig where
  name : String
  durable : Bool := false
  exclusive : Bool := false
  autoDelete : Bool := true
  arguments : Table := []
  deriving DecidableEq, Repr

structure Binding where
  exchange : String
  routingKey : String
  deriving DecidableEq, Repr

structure Broker where
  exchanges : List ExchangeConfig
  queues : List (QueueConfig × List Binding)
  deriving Repr

/-- The request behind one step of `setup`, with what `Exchange::declare`,
`Queue::declare` and `Queue::bind` put into it. -/
inductive Element
  | exchange (name type : String) (durable autoDelete internal : Bool) (arguments : Table)
  | queue (name : String) (durable exclusive autoDelete : Bool) (arguments : Table)
  | binding (queue exchange routingKey : String)
  deriving DecidableEq, Repr

def ExchangeConfig.declare (cfg : ExchangeConfig) : Element :=
  .exchange cfg.name (exchangeTypeToString cfg.type) cfg.durable cfg.autoDelete cfg.internal
    cfg.arguments

def QueueConfig.declare (cfg : QueueConfig) : Element :=
  .queue cfg.name cfg.durable cfg.exclusive cfg.autoDelete cfg.arguments

def QueueConfig.bind (cfg : QueueConfig) (binding : Binding) : Element :=
  .binding cfg.name binding.exchange binding.routingKey

def Element.operation : Element → Operation
  | .exchange .. => .exchangeDeclare
  | .queue .. => .queueDeclare
  | .binding .. => .queueBind

/-- What exists at the broker, by name. -/
structure Server where
  exchanges : List String
  queues : List String
  bindings : List (String × String × String)
  deriving DecidableEq, Repr

namespace Server

def add (server : Server) : Element → Server
  | .exchange name .. => { server with exchanges := name :: server.exchanges }
  | .queue name .. => { server with queues := name :: server.queues }
  | .binding queue exchange key =>
    { server with bindings := (queue, exchange, key) :: server.bindings }

def has (server : Server) : Element → Bool
  | .exchange name .. => server.exchanges.contains name
  | .queue name .. => server.queues.contains name
  | .binding queue exchange key => server.bindings.contains (queue, exchange, key)

def hasEnds (server : Server) : Element → Bool
  | .binding queue exchange _ =>
    server.queues.contains queue && server.exchanges.contains exchange
  | _ => true

end Server

/-- The declarations the broker refuses, for a name it reserves, say, or for one that
stands with other properties. -/
abbrev Refusals := Element → Bool

def refusedDeclaration (refusals : Refusals) : Element → Bool
  | .binding .. => false
  | element => refusals element

def accepts (refusals : Refusals) (server : Server) (element : Element) : Bool :=
  !refusedDeclaration refusals element && server.hasEnds element

/-- `declared` are the elements that the broker has carried out for this call. -/
structure World where
  server : Server
  link : Link
  declared : List Element
  deriving Repr

def start (server : Server) (link : Link) : World where
  server := server
  link := link
  declared := []

/-- On a closed channel nothing reaches the broker any more. -/
def answer (refusals : Refusals) (world : World) (element : Element) : Reply :=
  if !world.link.broker.isOpen then .libraryException false
  else if accepts refusals world.server element then .normal
  else .serverException

def perform (refusals : Refusals) (element : Element) (world : World) : Bool × World :=
  let reply := answer refusals world element
  let (ok, link) := operate element.operation reply world.link
  if performed reply then
    (ok, { server := world.server.add element, link := link,
           declared := world.declared ++ [element] })
  else (ok, { world with link := link })

section Setup

variable (refusals : Refusals)

def declareExchange (state : Bool × World) (exchange : ExchangeConfig) : Bool × World :=
  let (ok, world) := perform refusals exchange.declare state.2
  if !ok then (false, world) else (state.1, world)

def bindQueue (queue : QueueConfig) (state : Bool × World) (binding : Binding) : Bool × World :=
  let (ok, world) := perform refusals (queue.bind binding) state.2
  if !ok then (false, world) else (state.1, world)

def declareQueue (state : Bool × World) (entry : QueueConfig × List Binding) : Bool × World :=
  let (ok, world) := perform refusals entry.1.declare state.2
  -- `continue`: the bindings of this queue are left out
  if !ok then (false, world) else entry.2.foldl (bindQueue refusals entry.1) (state.1, world)

/-- `Broker::setup`; the first component of the state is `all_ok`. -/
def setup (broker : Broker) (world : World) : Bool × World :=
  broker.queues.foldl (declareQueue refusals)
    (broker.exchanges.foldl (declareExchange refusals) (true, world))

end Setup

/-! ### One list of operations -/

def queueElements (entry : QueueConfig × List Binding) : List Element :=
  entry.1.declare :: entry.2.map entry.1.bind

def elements (broker : Broker) : List Element :=
  broker.exchanges.map ExchangeConfig.declare ++ broker.queues.flatMap queueElements

def attempt (refusals : Refusals) (state : Bool × World) (element : Element) : Bool × World :=
  let (ok, world) := perform refusals element state.2
  if !ok then (false, world) else (state.1, world)

section Attempts

variable {refusals : Refusals} {element : Element} {world : World}

theorem perform_accepted (isOpen : world.link.broker.isOpen = true)
    (accepted : accepts refusals world.server element = true) :
    perform refusals element world =
      (true, { server := world.server.add element, link := world.link,
               declared := world.declared ++ [element] }) := by
  have reply : answer refusals world element = .normal := by
    simp [answer, isOpen, accepted]
  cases element <;> simp [perform, reply, operate, settle, performed, result, checkRpcReply,
    Element.operation]

theorem perform_refused (isOpen : world.link.broker.isOpen = true)
    (refused : accepts refusals world.server element = false) :
    perform refusals element world =
      (false, { world with
                link := { world.link with broker := { isOpen := false, refused := true } } }) := by
  have reply : answer refusals world element = .serverException := by
    simp [answer, isOpen, refused]
  cases element <;> simp [perform, reply, operate, settle, performed, result, checkRpcReply,
    Element.operation]

theorem perform_closed (closed : world.link.broker.isOpen = false) :
    perform refusals element world = (false, world) := by
  have reply : answer refusals world element = .libraryException false := by
    simp [answer, closed]
  cases element <;> simp [perform, reply, operate, settle, performed, result, checkRpcReply,
    Element.operation]

theorem attempts_closed (closed : world.link.broker.isOpen = false) (ops : List Element) :
    ops.foldl (attempt refusals) (false, world) = (false, world) := by
  induction ops with
  | nil => rfl
  | cons op rest ih =>
    have stays : attempt refusals (false, world) op = (false, world) := by
      unfold attempt
      dsimp only
      rw [perform_closed closed]
      rfl
    rw [List.foldl_cons, stays]
    exact ih

theorem perform_failed (failed : (perform refusals element world).1 = false) :
    (perform refusals element world).2.link.broker.isOpen = false := by
  by_cases isOpen : world.link.broker.isOpen = true
  · by_cases accepted : accepts refusals world.server element = true
    · rw [perform_accepted isOpen accepted] at failed
      cases failed
    · rw [perform_refused isOpen (Bool.eq_false_iff.mpr accepted)]
  · have closed := Bool.eq_false_iff.mpr isOpen
    rw [perform_closed closed]
    exact closed

end Attempts

theorem declareQueue_eq (refusals : Refusals) (state : Bool × World)
    (entry : QueueConfig × List Binding) :
    declareQueue refusals state entry =
      (queueElements entry).foldl (attempt refusals) state := by
  unfold declareQueue queueElements
  dsimp only
  rw [List.foldl_cons, List.foldl_map]
  by_cases ok : (perform refusals entry.1.declare state.2).1 = true
  · have head : attempt refusals state entry.1.declare =
        (state.1, (perform refusals entry.1.declare state.2).2) := by
      simp [attempt, ok]
    rw [head, if_neg (by simp [ok])]
    rfl
  · have failed := Bool.eq_false_iff.mpr ok
    have head : attempt refusals state entry.1.declare =
        (false, (perform refusals entry.1.declare state.2).2) := by
      simp [attempt, failed]
    rw [head, if_pos (by simp [failed]), ← List.foldl_map]
    exact (attempts_closed (perform_failed failed) _).symm

theorem setup_eq (refusals : Refusals) (broker : Broker) (world : World) :
    setup refusals broker world =
      (elements broker).foldl (attempt refusals) (true, world) := by
  unfold setup elements
  rw [List.foldl_append, List.foldl_map, List.foldl_flatMap]
  apply congrArg₂ (fun step state => List.foldl step state broker.queues)
  · funext state entry
    exact declareQueue_eq refusals state entry
  · rfl

/-! ### Up to the first refusal -/

/-- The operations that the broker carries out: none on a channel closed before. -/
def carriedOut (refusals : Refusals) (broker : Broker) (server : Server) (link : Link) :
    List Element :=
  if link.broker.isOpen then early (accepts refusals) Server.add server (elements broker) else []

/-- The first operation the broker does not carry out, and those after it. -/
def leftOut (refusals : Refusals) (broker : Broker) (server : Server) (link : Link) :
    List Element :=
  if link.broker.isOpen then late (accepts refusals) Server.add server (elements broker)
  else elements broker

section Prefix

variable (refusals : Refusals) (broker : Broker) (server : Server) (link : Link)

theorem attempts_open (refusals : Refusals) {world : World} (isOpen : world.link.broker.isOpen = true)
    (ops : List Element) :
    ∃ link, ops.foldl (attempt refusals) (true, world) =
      ((late (accepts refusals) Server.add world.server ops).isEmpty,
        { server := reached (accepts refusals) Server.add world.server ops, link := link,
          declared := world.declared ++ early (accepts refusals) Server.add world.server ops }) := by
  induction ops generalizing world with
  | nil =>
    use world.link
    simp [late, reached, early]
  | cons op rest ih =>
    unfold late reached early
    by_cases accepted : accepts refusals world.server op = true
    · have head : attempt refusals (true, world) op =
          (true, { server := world.server.add op, link := world.link,
                   declared := world.declared ++ [op] }) := by
        simp [attempt, perform_accepted isOpen accepted]
      have next : (World.mk (world.server.add op) world.link
          (world.declared ++ [op])).link.broker.isOpen = true := isOpen
      rcases ih next with ⟨link, same⟩
      use link
      rw [List.foldl_cons, head, same, if_pos accepted, if_pos accepted, List.append_assoc]
      rfl
    · have refused := Bool.eq_false_iff.mpr accepted
      use { world.link with broker := { isOpen := false, refused := true } }
      rw [if_neg accepted, if_neg accepted, List.foldl_cons]
      have head := perform_refused isOpen refused
      have first : attempt refusals (true, world) op = (false, { world with
          link := { world.link with broker := { isOpen := false, refused := true } } }) := by
        simp [attempt, head]
      rw [first, attempts_closed rfl]
      simp

theorem setup_start :
    (setup refusals broker (start server link)).1 =
        (leftOut refusals broker server link).isEmpty ∧
      (setup refusals broker (start server link)).2.server =
        (carriedOut refusals broker server link).foldl Server.add server ∧
      (setup refusals broker (start server link)).2.declared =
        carriedOut refusals broker server link := by
  rw [setup_eq]
  unfold leftOut carriedOut
  by_cases isOpen : link.broker.isOpen = true
  · have opened : (start server link).link.broker.isOpen = true := isOpen
    rcases attempts_open refusals opened (elements broker) with ⟨after, same⟩
    rw [same, if_pos isOpen, if_pos isOpen]
    exact ⟨rfl, rfl, rfl⟩
  · rw [if_neg isOpen, if_neg isOpen]
    cases elements broker with
    | nil => exact ⟨rfl, rfl, rfl⟩
    | cons op rest =>
      have closed : (start server link).link.broker.isOpen = false :=
        Bool.eq_false_iff.mpr isOpen
      have head : attempt refusals (true, start server link) op =
          (false, start server link) := by
        simp [attempt, perform_closed closed]
      rw [List.foldl_cons, head, attempts_closed closed]
      exact ⟨rfl, rfl, rfl⟩

theorem carriedOut_append_leftOut :
    carriedOut refusals broker server link ++ leftOut refusals broker server link =
      elements broker := by
  unfold carriedOut leftOut
  split
  · exact early_append_late _ _ server (elements broker)
  · rfl

end Prefix

/-! ### What a server holds -/

section Holding

variable {server : Server} {element : Element}

theorem hasEnds_add (server : Server) (next : Element) (ends : server.hasEnds element = true) :
    (server.add next).hasEnds element = true := by
  cases element with
  | exchange => rfl
  | queue => rfl
  | binding queue exchange key =>
    simp only [Server.hasEnds, Bool.and_eq_true, List.contains_iff_mem] at ends ⊢
    cases next with
    | exchange => exact ⟨ends.1, List.mem_cons_of_mem _ ends.2⟩
    | queue => exact ⟨List.mem_cons_of_mem _ ends.1, ends.2⟩
    | binding => exact ends

theorem accepts_add (refusals : Refusals) (server : Server) (element next : Element)
    (accepted : accepts refusals server element = true) :
    accepts refusals (server.add next) element = true := by
  unfold accepts at accepted ⊢
  rw [Bool.and_eq_true] at accepted ⊢
  exact ⟨accepted.1, hasEnds_add server next accepted.2⟩

theorem has_add_self (server : Server) (element : Element) :
    (server.add element).has element = true := by
  cases element <;> simp [Server.add, Server.has]

theorem has_add (next : Element) (held : server.has element = true) :
    (server.add next).has element = true := by
  cases element <;> cases next <;>
    simp only [Server.has, Server.add, List.contains_iff_mem] at held ⊢ <;>
    first
      | exact held
      | exact List.mem_cons_of_mem _ held

theorem has_foldl (ops : List Element) (held : server.has element = true) :
    (ops.foldl Server.add server).has element = true := by
  induction ops generalizing server with
  | nil => exact held
  | cons next rest ih => exact ih (has_add next held)

theorem has_of_mem {ops : List Element} (listed : element ∈ ops) :
    (ops.foldl Server.add server).has element = true := by
  induction ops generalizing server with
  | nil => cases listed
  | cons next rest ih =>
    rcases List.mem_cons.mp listed with rfl | later
    · exact has_foldl rest (has_add_self server element)
    · exact ih later

end Holding

/-! ### Best effort -/

namespace Broker

def exchangeRefused (broker : Broker) (refusals : Refusals) (name : String) : Bool :=
  broker.exchanges.any fun exchange => exchange.name == name && refusals exchange.declare

def queueRefused (broker : Broker) (refusals : Refusals) (name : String) : Bool :=
  broker.queues.any fun entry => entry.1.name == name && refusals entry.1.declare

end Broker

/-- What a caller of `setup` counts on, given its result and the world it leaves. -/
structure BestEffort (refusals : Refusals) (broker : Broker) (outcome : Bool × World) : Prop where
  honest : outcome.1 = true ↔
    (∀ exchange ∈ broker.exchanges, exchange.declare ∈ outcome.2.declared) ∧
    ∀ entry ∈ broker.queues, entry.1.declare ∈ outcome.2.declared ∧
      ∀ binding ∈ entry.2, entry.1.bind binding ∈ outcome.2.declared
  exchanges : ∀ exchange ∈ broker.exchanges, refusals exchange.declare = false →
    exchange.name ∈ outcome.2.server.exchanges
  queues : ∀ entry ∈ broker.queues, refusals entry.1.declare = false →
    entry.1.name ∈ outcome.2.server.queues
  bindings : ∀ entry ∈ broker.queues, ∀ binding ∈ entry.2,
    broker.queueRefused refusals entry.1.name = false →
    broker.exchangeRefused refusals binding.exchange = false →
    entry.1.name ∈ outcome.2.server.queues → binding.exchange ∈ outcome.2.server.exchanges →
    (entry.1.name, binding.exchange, binding.routingKey) ∈ outcome.2.server.bindings

/-- Nothing stands against the element but the channel: no refusal, and for a binding an
exchange that exists beforehand or is part of the topology. -/
def obtainable (refusals : Refusals) (broker : Broker) (server : Server) : Element → Bool
  | .binding queue exchange _ =>
    !broker.queueRefused refusals queue && !broker.exchangeRefused refusals exchange &&
      (server.exchanges.contains exchange ||
        broker.exchanges.any fun cfg => cfg.name == exchange)
  | element => !refusals element

section Completeness

variable {refusals : Refusals} {broker : Broker} {server : Server} {link : Link}

theorem fine_exchange {exchange : ExchangeConfig} (present : exchange ∈ broker.exchanges)
    (fine : broker.exchangeRefused refusals exchange.name = false) :
    refusals exchange.declare = false := by
  have each := List.any_eq_false.mp fine exchange present
  simpa using each

theorem fine_queue {entry : QueueConfig × List Binding} (present : entry ∈ broker.queues)
    (fine : broker.queueRefused refusals entry.1.name = false) :
    refusals entry.1.declare = false := by
  have each := List.any_eq_false.mp fine entry present
  simpa using each

theorem mem_elements {element : Element} :
    element ∈ elements broker ↔
      (∃ exchange ∈ broker.exchanges, exchange.declare = element) ∨
      ∃ entry ∈ broker.queues, entry.1.declare = element ∨
        ∃ binding ∈ entry.2, entry.1.bind binding = element := by
  simp [elements, queueElements, eq_comm]

theorem exchanges_foldl {name : String} {ops : List Element}
    (held : name ∈ (ops.foldl Server.add server).exchanges) :
    name ∈ server.exchanges ∨ ∃ type durable autoDelete internal arguments,
      Element.exchange name type durable autoDelete internal arguments ∈ ops := by
  induction ops generalizing server with
  | nil => exact Or.inl held
  | cons next rest ih =>
    rcases ih held with before | ⟨type, durable, autoDelete, internal, arguments, later⟩
    · cases next with
      | exchange other type durable autoDelete internal arguments =>
        rcases List.mem_cons.mp before with same | before
        · rw [same]
          exact Or.inr ⟨type, durable, autoDelete, internal, arguments, List.mem_cons_self⟩
        · exact Or.inl before
      | queue => exact Or.inl before
      | binding => exact Or.inl before
    · exact Or.inr ⟨type, durable, autoDelete, internal, arguments,
        List.mem_cons_of_mem next later⟩

theorem exchange_known {name : String}
    (held : name ∈ ((carriedOut refusals broker server link).foldl Server.add server).exchanges) :
    (server.exchanges.contains name ||
      broker.exchanges.any fun cfg => cfg.name == name) = true := by
  rw [Bool.or_eq_true, List.contains_iff_mem, List.any_eq_true]
  rcases exchanges_foldl held with before | ⟨type, durable, autoDelete, internal, arguments, done⟩
  · exact Or.inl before
  · have listed : Element.exchange name type durable autoDelete internal arguments ∈
        elements broker := by
      rw [← carriedOut_append_leftOut refusals broker server link]
      exact List.mem_append_left _ done
    rcases mem_elements.mp listed with ⟨exchange, known, same⟩ | ⟨entry, known, same | rest⟩
    · injection same with sameName
      exact Or.inr ⟨exchange, known, beq_iff_eq.mpr sameName⟩
    · cases same
    · rcases rest with ⟨binding, bound, same⟩
      cases same

theorem honest_setup :
    (setup refusals broker (start server link)).1 = true ↔
      ∀ element ∈ elements broker,
        element ∈ (setup refusals broker (start server link)).2.declared := by
  rcases setup_start refusals broker server link with ⟨result, -, declared⟩
  rw [result, declared, List.isEmpty_iff]
  unfold leftOut carriedOut
  split
  · exact late_nil_iff (accepts_add refusals) server (elements broker)
  · cases elements broker with
    | nil => simp
    | cons op rest =>
      constructor
      · intro none
        cases none
      · intro all
        cases all op List.mem_cons_self

/-- Everything obtainable exists afterwards exactly when that part of it does that the
broker was not asked for or refused. -/
theorem obtained_iff :
    (∀ element ∈ elements broker, obtainable refusals broker server element = true →
        ((carriedOut refusals broker server link).foldl Server.add server).has element = true) ↔
      ∀ element ∈ leftOut refusals broker server link,
        obtainable refusals broker server element = true →
        ((carriedOut refusals broker server link).foldl Server.add server).has element = true := by
  constructor
  · intro all element left
    apply all
    rw [← carriedOut_append_leftOut refusals broker server link]
    exact List.mem_append_right _ left
  · intro rest element listed possible
    rw [← carriedOut_append_leftOut refusals broker server link]
      at listed
    rcases List.mem_append.mp listed with done | left
    · exact has_of_mem done
    · exact rest element left possible

theorem forall_elements {good : Element → Prop} :
    (∀ element ∈ elements broker, good element) ↔
      (∀ exchange ∈ broker.exchanges, good exchange.declare) ∧
      ∀ entry ∈ broker.queues, good entry.1.declare ∧
        ∀ binding ∈ entry.2, good (entry.1.bind binding) := by
  constructor
  · intro all
    constructor
    · intro exchange present
      exact all _ (mem_elements.mpr (Or.inl ⟨exchange, present, rfl⟩))
    · intro entry present
      constructor
      · exact all _ (mem_elements.mpr (Or.inr ⟨entry, present, Or.inl rfl⟩))
      · intro binding bound
        exact all _ (mem_elements.mpr (Or.inr ⟨entry, present, Or.inr ⟨binding, bound, rfl⟩⟩))
  · rintro ⟨exchanges, entries⟩ element listed
    rcases mem_elements.mp listed with ⟨exchange, present, same⟩ | ⟨entry, present, same | bound⟩
    · rw [← same]
      exact exchanges exchange present
    · rw [← same]
      exact (entries entry present).1
    · rcases bound with ⟨binding, bound, same⟩
      rw [← same]
      exact (entries entry present).2 binding bound

theorem obtainable_exchange {exchange : ExchangeConfig} :
    obtainable refusals broker server exchange.declare = true ↔
      refusals exchange.declare = false := by
  change (!refusals exchange.declare) = true ↔ _
  rw [Bool.not_eq_true']

theorem obtainable_queue {cfg : QueueConfig} :
    obtainable refusals broker server cfg.declare = true ↔ refusals cfg.declare = false := by
  change (!refusals cfg.declare) = true ↔ _
  rw [Bool.not_eq_true']

theorem obtainable_bind {cfg : QueueConfig} {binding : Binding} :
    obtainable refusals broker server (cfg.bind binding) = true ↔
      broker.queueRefused refusals cfg.name = false ∧
      broker.exchangeRefused refusals binding.exchange = false ∧
      (server.exchanges.contains binding.exchange ||
        broker.exchanges.any fun cfg => cfg.name == binding.exchange) = true := by
  unfold QueueConfig.bind obtainable
  dsimp only
  rw [Bool.and_eq_true, Bool.and_eq_true, Bool.not_eq_true', Bool.not_eq_true', and_assoc]

/-- Once all obtainable exchanges exist, so does every exchange with which a binding is
obtainable. -/
theorem exchange_exists {after : Server} {name : String}
    (kept : server.exchanges ⊆ after.exchanges)
    (exchanges : ∀ exchange ∈ broker.exchanges, refusals exchange.declare = false →
      exchange.name ∈ after.exchanges)
    (fine : broker.exchangeRefused refusals name = false)
    (there : (server.exchanges.contains name ||
      broker.exchanges.any fun cfg => cfg.name == name) = true) :
    name ∈ after.exchanges := by
  rw [Bool.or_eq_true, List.contains_iff_mem, List.any_eq_true] at there
  rcases there with before | ⟨cfg, present, same⟩
  · exact kept before
  · rw [beq_iff_eq] at same
    rw [← same] at fine ⊢
    exact exchanges cfg present (fine_exchange present fine)

theorem exchanges_kept (ops : List Element) :
    server.exchanges ⊆ (ops.foldl Server.add server).exchanges := by
  intro name held
  have before : server.has (.exchange name "" false false false []) = true :=
    List.contains_iff_mem.mpr held
  exact List.contains_iff_mem.mp (has_foldl ops before)

end Completeness

/-- `setup` does its best exactly when the part of the topology from the first refusal on
holds nothing obtainable that does not exist already. -/
theorem best_effort_iff_rest_exists (refusals : Refusals) (broker : Broker) (server : Server)
    (link : Link) :
    BestEffort refusals broker (setup refusals broker (start server link)) ↔
      ∀ element ∈ leftOut refusals broker server link,
        obtainable refusals broker server element = true →
        ((carriedOut refusals broker server link).foldl Server.add server).has element = true := by
  have servers := (setup_start refusals broker server link).2.1
  rw [← obtained_iff, forall_elements]
  constructor
  · rintro ⟨-, exchanges, queues, bindings⟩
    rw [servers] at exchanges queues bindings
    constructor
    · intro exchange present possible
      apply List.contains_iff_mem.mpr
      exact exchanges exchange present (obtainable_exchange.mp possible)
    · intro entry present
      constructor
      · intro possible
        apply List.contains_iff_mem.mpr
        exact queues entry present (obtainable_queue.mp possible)
      · intro binding bound possible
        rcases obtainable_bind.mp possible with ⟨queueFine, exchangeFine, there⟩
        apply List.contains_iff_mem.mpr
        apply bindings entry present binding bound queueFine exchangeFine
        · exact queues entry present (fine_queue present queueFine)
        · exact exchange_exists (exchanges_kept _) exchanges exchangeFine there
  · rintro ⟨exchanges, entries⟩
    constructor
    · rw [honest_setup, forall_elements]
    · intro exchange present fine
      rw [servers]
      exact List.contains_iff_mem.mp
        (exchanges exchange present (obtainable_exchange.mpr fine))
    · intro entry present fine
      rw [servers]
      exact List.contains_iff_mem.mp
        ((entries entry present).1 (obtainable_queue.mpr fine))
    · intro entry present binding bound queueFine exchangeFine _ exchangeThere
      rw [servers] at exchangeThere ⊢
      exact List.contains_iff_mem.mp ((entries entry present).2 binding bound
        (obtainable_bind.mpr ⟨queueFine, exchangeFine, exchange_known exchangeThere⟩))

/-- The broker has `audit` with another type and refuses the declaration; `orders`, which
it would accept, does not exist afterwards. -/
theorem accepted_exchange_missing :
    ¬ BestEffort (fun element => element == ExchangeConfig.declare { name := "audit" })
      { exchanges := [{ name := "audit" }, { name := "orders", type := .topic }], queues := [] }
      (setup (fun element => element == ExchangeConfig.declare { name := "audit" })
        { exchanges := [{ name := "audit" }, { name := "orders", type := .topic }], queues := [] }
        (start { exchanges := ["audit"], queues := [], bindings := [] }
          { channel := { channelId := 1, isOpen := true },
            broker := { isOpen := true, refused := false } })) := by
  intro effort
  have exists_orders := effort.exchanges { name := "orders", type := .topic } (by decide)
    (by decide)
  exact absurd exists_orders (by decide)

end BackendComponents.Amqp.Topology
