import BackendComponents.Amqp.Topology

/-!
# Taking a topology down

`Broker::teardown` unbinds, deletes the queues and then the exchanges on one channel, and
looks at the results of the deletions only. A refused request closes the channel for the
ones that follow, so what it returns says of the unbindings too whether they were made.

An exchange that was declared with `auto_delete` goes with its last binding, before
`teardown` asks for it. A queue with `auto_delete` goes with its last consumer, and here
nobody consumes.
-/

namespace BackendComponents.Amqp.Teardown

open BackendComponents.Amqp.Channels
open BackendComponents.Amqp.Topology
open BackendComponents.Lib.FirstFailure

set_option autoImplicit false

/-- The request behind one step of `teardown`. -/
inductive Removal
  | unbind (queue exchange routingKey : String)
  | queue (name : String) (ifUnused ifEmpty : Bool)
  | exchange (name : String) (ifUnused : Bool)
  deriving DecidableEq, Repr

def QueueConfig.unbind (cfg : QueueConfig) (binding : Binding) : Removal :=
  .unbind cfg.name binding.exchange binding.routingKey

def QueueConfig.remove (cfg : QueueConfig) (ifUnused ifEmpty : Bool) : Removal :=
  .queue cfg.name ifUnused ifEmpty

def ExchangeConfig.remove (cfg : ExchangeConfig) (ifUnused : Bool) : Removal :=
  .exchange cfg.name ifUnused

def Removal.operation : Removal → Operation
  | .unbind .. => .queueUnbind
  | .queue .. => .queueDelete
  | .exchange .. => .exchangeDelete

def Removal.keepsExchange : Removal → String → Bool
  | .exchange name _, other => other != name
  | _, _ => true

def Removal.keepsQueue : Removal → String → Bool
  | .queue name _ _, other => other != name
  | _, _ => true

def Removal.keepsBinding : Removal → String × String × String → Bool
  | .unbind source target key, binding => binding != (source, target, key)
  | .queue name _ _, binding => binding.1 != name
  | .exchange name _, binding => binding.2.1 != name

def bound (bindings : List (String × String × String)) (exchange : String) : Bool :=
  bindings.any fun binding => binding.2.1 == exchange

/-- The exchange has not just lost its last binding, or it stays without one. -/
def outlives (autoDelete : String → Bool) (before after : List (String × String × String))
    (exchange : String) : Bool :=
  !autoDelete exchange || bound after exchange || !bound before exchange

/-- `autoDelete` are the exchanges declared with that flag, by whomever. -/
def remove (autoDelete : String → Bool) (server : Server) (removal : Removal) : Server :=
  let bindings := server.bindings.filter removal.keepsBinding
  { exchanges := server.exchanges.filter fun name =>
      removal.keepsExchange name && outlives autoDelete server.bindings bindings name
    queues := server.queues.filter removal.keepsQueue
    bindings := bindings }

/-- The removals the broker refuses: of a name that does not exist, say, which some
versions accept, or of one that is in use. -/
abbrev Objections := Server → Removal → Bool

def permits (objections : Objections) (server : Server) (removal : Removal) : Bool :=
  !objections server removal

/-- `removed` are the removals that the broker has carried out for this call. -/
structure Site where
  server : Server
  link : Link
  removed : List Removal
  deriving Repr

def opened (server : Server) (link : Link) : Site where
  server := server
  link := link
  removed := []

def reply (objections : Objections) (site : Site) (removal : Removal) : Reply :=
  if !site.link.broker.isOpen then .libraryException false
  else if permits objections site.server removal then .normal
  else .serverException

section Teardown

variable (autoDelete : String → Bool) (objections : Objections)

def request (removal : Removal) (site : Site) : Bool × Site :=
  let answer := reply objections site removal
  let (ok, link) := operate removal.operation answer site.link
  if performed answer then
    (ok, { server := remove autoDelete site.server removal, link := link,
           removed := site.removed ++ [removal] })
  else (ok, { site with link := link })

def unbindQueue (queue : QueueConfig) (state : Bool × Site) (binding : Binding) : Bool × Site :=
  (state.1, (request autoDelete objections (QueueConfig.unbind queue binding) state.2).2)

def unbindAll (state : Bool × Site) (entry : QueueConfig × List Binding) : Bool × Site :=
  entry.2.foldl (unbindQueue autoDelete objections entry.1) state

def removeQueue (state : Bool × Site) (entry : QueueConfig × List Binding) : Bool × Site :=
  let (ok, site) := request autoDelete objections (QueueConfig.remove entry.1 false false) state.2
  if !ok then (false, site) else (state.1, site)

def removeExchange (state : Bool × Site) (exchange : ExchangeConfig) : Bool × Site :=
  let (ok, site) := request autoDelete objections (ExchangeConfig.remove exchange false) state.2
  if !ok then (false, site) else (state.1, site)

/-- `Broker::teardown`; the first component of the state is `all_ok`. -/
def teardown (broker : Broker) (site : Site) : Bool × Site :=
  broker.exchanges.foldl (removeExchange autoDelete objections)
    (broker.queues.foldl (removeQueue autoDelete objections)
      (broker.queues.foldl (unbindAll autoDelete objections) (true, site)))

end Teardown

/-! ### Two lists of requests -/

def unbinds (broker : Broker) : List Removal :=
  broker.queues.flatMap fun entry => entry.2.map (QueueConfig.unbind entry.1)

def deletions (broker : Broker) : List Removal :=
  (broker.queues.map fun entry => QueueConfig.remove entry.1 false false) ++
    broker.exchanges.map fun exchange => ExchangeConfig.remove exchange false

section Requests

variable (autoDelete : String → Bool) (objections : Objections)

def ignore (state : Bool × Site) (removal : Removal) : Bool × Site :=
  (state.1, (request autoDelete objections removal state.2).2)

def demand (state : Bool × Site) (removal : Removal) : Bool × Site :=
  let (ok, site) := request autoDelete objections removal state.2
  if !ok then (false, site) else (state.1, site)

theorem teardown_eq (broker : Broker) (site : Site) :
    teardown autoDelete objections broker site =
      (deletions broker).foldl (demand autoDelete objections)
        ((unbinds broker).foldl (ignore autoDelete objections) (true, site)) := by
  unfold teardown deletions unbinds
  rw [List.foldl_append, List.foldl_map, List.foldl_map, List.foldl_flatMap]
  apply congrArg (List.foldl (removeExchange autoDelete objections) · broker.exchanges)
  apply congrArg (List.foldl (removeQueue autoDelete objections) · broker.queues)
  apply congrArg (fun step => List.foldl step (true, site) broker.queues)
  funext state entry
  unfold unbindAll
  rw [List.foldl_map]
  rfl

end Requests

section Answers

variable {autoDelete : String → Bool} {objections : Objections} {removal : Removal} {site : Site}

theorem request_permitted (isOpen : site.link.broker.isOpen = true)
    (permitted : permits objections site.server removal = true) :
    request autoDelete objections removal site =
      (true, { server := remove autoDelete site.server removal, link := site.link,
               removed := site.removed ++ [removal] }) := by
  have answered : reply objections site removal = .normal := by
    simp [reply, isOpen, permitted]
  cases removal <;> simp [request, answered, operate, settle, performed, result, checkRpcReply,
    Removal.operation]

theorem request_refused (isOpen : site.link.broker.isOpen = true)
    (refused : permits objections site.server removal = false) :
    request autoDelete objections removal site =
      (false, { site with
                link := { site.link with broker := { isOpen := false, refused := true } } }) := by
  have answered : reply objections site removal = .serverException := by
    simp [reply, isOpen, refused]
  cases removal <;> simp [request, answered, operate, settle, performed, result, checkRpcReply,
    Removal.operation]

theorem request_closed (closed : site.link.broker.isOpen = false) :
    request autoDelete objections removal site = (false, site) := by
  have answered : reply objections site removal = .libraryException false := by
    simp [reply, closed]
  cases removal <;> simp [request, answered, operate, settle, performed, result, checkRpcReply,
    Removal.operation]

theorem ignores_closed (closed : site.link.broker.isOpen = false) (flag : Bool)
    (ops : List Removal) : ops.foldl (ignore autoDelete objections) (flag, site) = (flag, site) := by
  induction ops with
  | nil => rfl
  | cons op rest ih =>
    have stays : ignore autoDelete objections (flag, site) op = (flag, site) := by
      unfold ignore
      dsimp only
      rw [request_closed closed]
    rw [List.foldl_cons, stays]
    exact ih

theorem demands_closed (closed : site.link.broker.isOpen = false) (flag : Bool)
    (ops : List Removal) :
    ops.foldl (demand autoDelete objections) (flag, site) = (flag && ops.isEmpty, site) := by
  induction ops generalizing flag with
  | nil => simp
  | cons op rest ih =>
    have fails : demand autoDelete objections (flag, site) op = (false, site) := by
      unfold demand
      dsimp only
      rw [request_closed closed]
      rfl
    rw [List.foldl_cons, fails, ih]
    simp

end Answers

/-! ### Up to the first refusal -/

def removals (broker : Broker) : List Removal := unbinds broker ++ deletions broker

section Parts

variable (autoDelete : String → Bool) (objections : Objections)

/-- The removals that the broker carries out: none on a channel closed before. -/
def carriedOut (broker : Broker) (server : Server) (link : Link) : List Removal :=
  if link.broker.isOpen then early (permits objections) (remove autoDelete) server (removals broker) else []

def leftOut (broker : Broker) (server : Server) (link : Link) : List Removal :=
  if link.broker.isOpen then late (permits objections) (remove autoDelete) server (removals broker)
  else removals broker

end Parts

section Outcome

variable {autoDelete : String → Bool} {objections : Objections}

theorem ignores_open {site : Site} (isOpen : site.link.broker.isOpen = true) (flag : Bool)
    (ops : List Removal) :
    ∃ link, ops.foldl (ignore autoDelete objections) (flag, site) =
        (flag, { server := reached (permits objections) (remove autoDelete) site.server ops, link := link,
                 removed := site.removed ++ early (permits objections) (remove autoDelete) site.server ops }) ∧
      link.broker.isOpen = (late (permits objections) (remove autoDelete) site.server ops).isEmpty := by
  induction ops generalizing site with
  | nil =>
    use site.link
    simp [late, reached, early, isOpen]
  | cons op rest ih =>
    unfold late reached early
    by_cases permitted : permits objections site.server op = true
    · have head : ignore autoDelete objections (flag, site) op =
          (flag, { server := remove autoDelete site.server op, link := site.link,
                   removed := site.removed ++ [op] }) := by
        simp [ignore, request_permitted isOpen permitted]
      have next : (Site.mk (remove autoDelete site.server op) site.link
          (site.removed ++ [op])).link.broker.isOpen = true := isOpen
      rcases ih next with ⟨link, same, still⟩
      use link
      rw [List.foldl_cons, head, same, if_pos permitted, if_pos permitted, List.append_assoc]
      exact ⟨rfl, still⟩
    · have refused := Bool.eq_false_iff.mpr permitted
      use { site.link with broker := { isOpen := false, refused := true } }
      have first : ignore autoDelete objections (flag, site) op = (flag, { site with
          link := { site.link with broker := { isOpen := false, refused := true } } }) := by
        simp [ignore, request_refused isOpen refused]
      rw [if_neg permitted, if_neg permitted, List.foldl_cons, first, ignores_closed rfl]
      simp

theorem demands_open {site : Site} (isOpen : site.link.broker.isOpen = true) (flag : Bool)
    (ops : List Removal) :
    ∃ link, ops.foldl (demand autoDelete objections) (flag, site) =
      (flag && (late (permits objections) (remove autoDelete) site.server ops).isEmpty,
        { server := reached (permits objections) (remove autoDelete) site.server ops, link := link,
          removed := site.removed ++ early (permits objections) (remove autoDelete) site.server ops }) := by
  induction ops generalizing site with
  | nil =>
    use site.link
    simp [late, reached, early]
  | cons op rest ih =>
    unfold late reached early
    by_cases permitted : permits objections site.server op = true
    · have head : demand autoDelete objections (flag, site) op =
          (flag, { server := remove autoDelete site.server op, link := site.link,
                   removed := site.removed ++ [op] }) := by
        simp [demand, request_permitted isOpen permitted]
      have next : (Site.mk (remove autoDelete site.server op) site.link
          (site.removed ++ [op])).link.broker.isOpen = true := isOpen
      rcases ih next with ⟨link, same⟩
      use link
      rw [List.foldl_cons, head, same, if_pos permitted, if_pos permitted, List.append_assoc]
      rfl
    · have refused := Bool.eq_false_iff.mpr permitted
      use { site.link with broker := { isOpen := false, refused := true } }
      have first : demand autoDelete objections (flag, site) op = (false, { site with
          link := { site.link with broker := { isOpen := false, refused := true } } }) := by
        simp [demand, request_refused isOpen refused]
      rw [if_neg permitted, if_neg permitted, List.foldl_cons, first, demands_closed rfl]
      simp

theorem unbinds_nil {broker : Broker} (none : deletions broker = []) : unbinds broker = [] := by
  have queues : broker.queues = [] := by
    simpa using (List.append_eq_nil_iff.mp none).1
  unfold unbinds
  rw [queues]
  rfl

theorem teardown_start (autoDelete : String → Bool) (objections : Objections) (broker : Broker)
    (server : Server) (link : Link) :
    (teardown autoDelete objections broker (opened server link)).1 =
        (leftOut autoDelete objections broker server link).isEmpty ∧
      (teardown autoDelete objections broker (opened server link)).2.server =
        (carriedOut autoDelete objections broker server link).foldl (remove autoDelete) server ∧
      (teardown autoDelete objections broker (opened server link)).2.removed =
        carriedOut autoDelete objections broker server link := by
  rw [teardown_eq]
  unfold leftOut carriedOut removals
  by_cases isOpen : link.broker.isOpen = true
  · have here : (opened server link).link.broker.isOpen = true := isOpen
    rcases @ignores_open _ objections _ here true (unbinds broker) with ⟨after, same, still⟩
    rw [same, if_pos isOpen, if_pos isOpen, late_append, early_append]
    by_cases all : late (permits objections) (remove autoDelete) server (unbinds broker) = []
    · have stillOpen : after.broker.isOpen = true := by
        rw [still]
        exact List.isEmpty_iff.mpr all
      rcases @demands_open _ objections ⟨_, after, _⟩ stillOpen true (deletions broker) with
        ⟨final, ends⟩
      rw [ends, if_pos all, if_pos all, List.foldl_append]
      exact ⟨Bool.true_and _, rfl, rfl⟩
    · have closed : after.broker.isOpen = false := by
        rw [still]
        exact Bool.eq_false_iff.mpr fun none => all (List.isEmpty_iff.mp none)
      rw [demands_closed closed, if_neg all, if_neg all, List.append_nil]
      refine ⟨?_, rfl, rfl⟩
      -- a refused unbinding leaves a queue whose deletion fails
      have some : deletions broker ≠ [] := by
        intro none
        apply all
        rw [unbinds_nil none]
        rfl
      rw [List.isEmpty_eq_false_iff.mpr some,
        List.isEmpty_eq_false_iff.mpr (List.append_ne_nil_of_right_ne_nil _ some)]
      rfl
  · have closed : (opened server link).link.broker.isOpen = false := Bool.eq_false_iff.mpr isOpen
    rw [ignores_closed closed, demands_closed closed, if_neg isOpen, if_neg isOpen]
    refine ⟨?_, rfl, rfl⟩
    rw [Bool.true_and]
    by_cases none : deletions broker = []
    · rw [none, unbinds_nil none]
      rfl
    · rw [List.isEmpty_eq_false_iff.mpr none,
        List.isEmpty_eq_false_iff.mpr (List.append_ne_nil_of_right_ne_nil _ none)]

end Outcome

/-! ### What is left -/

section Removals

variable {autoDelete : String → Bool}

theorem keeps_foldl (server : Server) (ops : List Removal) :
    (ops.foldl (remove autoDelete) server).queues =
        server.queues.filter (fun name => ops.all fun op => op.keepsQueue name) ∧
      (ops.foldl (remove autoDelete) server).bindings =
        server.bindings.filter (fun binding => ops.all fun op => op.keepsBinding binding) := by
  induction ops generalizing server with
  | nil => simp
  | cons op rest ih =>
    rcases ih (remove autoDelete server op) with ⟨queues, bindings⟩
    rw [List.foldl_cons, queues, bindings]
    unfold remove
    simp only [List.filter_filter, List.all_cons]
    simp only [Bool.and_comm, and_self]

/-- No removal deletes the exchange, on request or with its last binding. -/
def survives (autoDelete : String → Bool) (server : Server) : List Removal → String → Bool
  | [], _ => true
  | op :: rest, name =>
    (op.keepsExchange name &&
      outlives autoDelete server.bindings (server.bindings.filter op.keepsBinding) name) &&
        survives autoDelete (remove autoDelete server op) rest name

theorem exchanges_foldl (server : Server) (ops : List Removal) :
    (ops.foldl (remove autoDelete) server).exchanges =
      server.exchanges.filter (survives autoDelete server ops) := by
  induction ops generalizing server with
  | nil =>
    rw [List.foldl_nil, List.filter_eq_self.mpr]
    intro _ _
    rfl
  | cons op rest ih =>
    rw [List.foldl_cons, ih]
    unfold remove
    dsimp only
    rw [List.filter_filter]
    apply List.filter_congr
    intro name _
    exact Bool.and_comm _ _

theorem survives_requested {server : Server} {ops : List Removal} {name : String}
    (requested : ∃ op ∈ ops, op.keepsExchange name = false) :
    survives autoDelete server ops name = false := by
  induction ops generalizing server with
  | nil => simp at requested
  | cons op rest ih =>
    rcases requested with ⟨wanted, member, goes⟩
    unfold survives
    rcases List.mem_cons.mp member with rfl | later
    · rw [goes, Bool.false_and, Bool.false_and]
    · rw [ih ⟨wanted, later, goes⟩, Bool.and_false]

theorem survives_kept {server : Server} {ops : List Removal} {name : String}
    (kept : ∀ op ∈ ops, op.keepsExchange name = true)
    (lasts : autoDelete name = true → (∃ binding ∈ server.bindings, binding.2.1 = name ∧
      ∀ op ∈ ops, op.keepsBinding binding = true) ∨ bound server.bindings name = false) :
    survives autoDelete server ops name = true := by
  induction ops generalizing server with
  | nil => rfl
  | cons op rest ih =>
    have more : ∀ next ∈ rest, next ∈ op :: rest :=
      fun next member => List.mem_cons_of_mem _ member
    unfold survives
    rw [kept op List.mem_cons_self, Bool.true_and, ih (fun next member => kept next (more next member)),
      Bool.and_true]
    · unfold outlives
      cases flag : autoDelete name with
      | false => rfl
      | true =>
        rcases lasts flag with ⟨binding, present, same, stays⟩ | unbound
        · have still : bound (server.bindings.filter op.keepsBinding) name = true := by
            apply List.any_eq_true.mpr
            refine ⟨binding, List.mem_filter.mpr ⟨present, stays op List.mem_cons_self⟩, ?_⟩
            exact beq_iff_eq.mpr same
          rw [still]
          rfl
        · rw [unbound]
          exact Bool.or_true _
    · intro flag
      rcases lasts flag with ⟨binding, present, same, stays⟩ | unbound
      · refine .inl ⟨binding, ?_, same, fun next member => stays next (more next member)⟩
        exact List.mem_filter.mpr ⟨present, stays op List.mem_cons_self⟩
      · right
        apply List.any_eq_false.mpr
        intro binding member
        exact List.any_eq_false.mp unbound binding (List.mem_of_mem_filter member)

end Removals

section Names

variable (broker : Broker)

def exchangeNames : List String := broker.exchanges.map ExchangeConfig.name

def queueNames : List String := broker.queues.map fun entry => entry.1.name

def boundNames : List String :=
  broker.queues.flatMap fun entry => entry.2.map Binding.exchange

variable {broker}

theorem mem_removals {removal : Removal} :
    removal ∈ removals broker ↔
      (∃ entry ∈ broker.queues, ∃ binding ∈ entry.2,
        removal = .unbind entry.1.name binding.exchange binding.routingKey) ∨
      (∃ entry ∈ broker.queues, removal = .queue entry.1.name false false) ∨
      ∃ exchange ∈ broker.exchanges, removal = .exchange exchange.name false := by
  simp [removals, unbinds, deletions, QueueConfig.unbind, QueueConfig.remove,
    ExchangeConfig.remove, eq_comm]

/-- `teardown` has nothing to say about the names of others. -/
theorem removals_keep {removal : Removal} (listed : removal ∈ removals broker) :
    (∀ name, name ∉ exchangeNames broker → removal.keepsExchange name = true) ∧
      (∀ name, name ∉ queueNames broker → removal.keepsQueue name = true) ∧
      ∀ binding : String × String × String, binding.1 ∉ queueNames broker →
        binding.2.1 ∉ exchangeNames broker → removal.keepsBinding binding = true := by
  have queueName : ∀ entry ∈ broker.queues, entry.1.name ∈ queueNames broker :=
    fun entry present => List.mem_map.mpr ⟨entry, present, rfl⟩
  rcases mem_removals.mp listed with ⟨entry, present, binding, bound, rfl⟩ |
    ⟨entry, present, rfl⟩ | ⟨exchange, present, rfl⟩
  · refine ⟨fun _ _ => rfl, fun _ _ => rfl, ?_⟩
    intro other foreign _
    apply bne_iff_ne.mpr
    intro same
    apply foreign
    rw [same]
    exact queueName entry present
  · refine ⟨fun _ _ => rfl, ?_, ?_⟩
    · intro name foreign
      apply bne_iff_ne.mpr
      rintro rfl
      exact foreign (queueName entry present)
    · intro other foreign _
      apply bne_iff_ne.mpr
      intro same
      apply foreign
      rw [same]
      exact queueName entry present
  · have exchangeName : exchange.name ∈ exchangeNames broker :=
      List.mem_map.mpr ⟨exchange, present, rfl⟩
    refine ⟨?_, fun _ _ => rfl, ?_⟩
    · intro name foreign
      apply bne_iff_ne.mpr
      rintro rfl
      exact foreign exchangeName
    · intro other _ foreign
      apply bne_iff_ne.mpr
      intro same
      apply foreign
      rw [same]
      exact exchangeName

/-- What `setup` has added to a server, in front of what was there. -/
structure Added (broker : Broker) (before after : Server) : Prop where
  exchanges : ∃ names, after.exchanges = names ++ before.exchanges ∧
    ∀ name ∈ names, name ∈ exchangeNames broker
  queues : ∃ names, after.queues = names ++ before.queues ∧
    ∀ name ∈ names, name ∈ queueNames broker
  bindings : ∃ made, after.bindings = made ++ before.bindings ∧
    ∀ binding ∈ made, binding.1 ∈ queueNames broker ∧ binding.2.1 ∈ boundNames broker

theorem added_trans {before middle after : Server} (first : Added broker before middle)
    (second : Added broker middle after) : Added broker before after := by
  rcases first with ⟨⟨e, exchanges, knownE⟩, ⟨q, queues, knownQ⟩, ⟨b, bindings, knownB⟩⟩
  rcases second with ⟨⟨e', exchanges', knownE'⟩, ⟨q', queues', knownQ'⟩, ⟨b', bindings', knownB'⟩⟩
  refine ⟨⟨e' ++ e, ?_, ?_⟩, ⟨q' ++ q, ?_, ?_⟩, ⟨b' ++ b, ?_, ?_⟩⟩
  · rw [exchanges', exchanges, List.append_assoc]
  · exact fun name member => (List.mem_append.mp member).elim (knownE' name) (knownE name)
  · rw [queues', queues, List.append_assoc]
  · exact fun name member => (List.mem_append.mp member).elim (knownQ' name) (knownQ name)
  · rw [bindings', bindings, List.append_assoc]
  · exact fun made member => (List.mem_append.mp member).elim (knownB' made) (knownB made)

theorem added_refl (server : Server) : Added broker server server :=
  ⟨⟨[], rfl, by simp⟩, ⟨[], rfl, by simp⟩, ⟨[], rfl, by simp⟩⟩

theorem added_one {server : Server} {element : Element} (listed : element ∈ elements broker) :
    Added broker server (server.add element) := by
  rcases mem_elements.mp listed with ⟨exchange, present, rfl⟩ | ⟨entry, present, rfl | bound⟩
  · refine ⟨⟨[exchange.name], rfl, ?_⟩, ⟨[], rfl, by simp⟩, ⟨[], rfl, by simp⟩⟩
    intro name member
    rw [List.mem_singleton.mp member]
    exact List.mem_map.mpr ⟨exchange, present, rfl⟩
  · refine ⟨⟨[], rfl, by simp⟩, ⟨[entry.1.name], rfl, ?_⟩, ⟨[], rfl, by simp⟩⟩
    intro name member
    rw [List.mem_singleton.mp member]
    exact List.mem_map.mpr ⟨entry, present, rfl⟩
  · rcases bound with ⟨binding, bound, rfl⟩
    refine ⟨⟨[], rfl, by simp⟩, ⟨[], rfl, by simp⟩,
      ⟨[(entry.1.name, binding.exchange, binding.routingKey)], rfl, ?_⟩⟩
    intro made member
    rw [List.mem_singleton.mp member]
    refine ⟨List.mem_map.mpr ⟨entry, present, rfl⟩, ?_⟩
    exact List.mem_flatMap.mpr ⟨entry, present, List.mem_map.mpr ⟨binding, bound, rfl⟩⟩

theorem added_foldl (server : Server) {ops : List Element}
    (listed : ∀ op ∈ ops, op ∈ elements broker) :
    Added broker server (ops.foldl Server.add server) := by
  induction ops generalizing server with
  | nil => exact added_refl server
  | cons op rest ih =>
    apply added_trans (added_one (listed op List.mem_cons_self))
    exact ih (server.add op) fun next member => listed next (List.mem_cons_of_mem _ member)

theorem added_setup (refusals : Refusals) (server : Server) (link : Link) :
    Added broker server (setup refusals broker (start server link)).2.server := by
  rw [(setup_start refusals broker server link).2.1]
  apply added_foldl
  intro op done
  rw [← carriedOut_append_leftOut refusals broker server link]
  exact List.mem_append_left _ done

/-- What others than the topology have put there, none of it under the topology's names. An
exchange of others that would go with its last binding has one of theirs if the topology
binds to it, and the topology names its queues itself: for an empty name the broker makes
one up. -/
structure Fresh (autoDelete : String → Bool) (broker : Broker) (server : Server) : Prop where
  exchanges : ∀ name ∈ server.exchanges, name ∉ exchangeNames broker
  queues : ∀ name ∈ server.queues, name ∉ queueNames broker
  bindings : ∀ binding ∈ server.bindings,
    binding.1 ∈ server.queues ∧ binding.2.1 ∈ server.exchanges
  lasting : ∀ name ∈ server.exchanges, autoDelete name = true → name ∈ boundNames broker →
    bound server.bindings name = true
  named : ∀ name ∈ queueNames broker, name ≠ ""

theorem server_eq {left right : Server} (exchanges : left.exchanges = right.exchanges)
    (queues : left.queues = right.queues) (bindings : left.bindings = right.bindings) :
    left = right := by
  cases left
  cases right
  dsimp only at exchanges queues bindings
  rw [exchanges, queues, bindings]

theorem filter_new {Item : Type} {keeps : Item → Bool} {new old : List Item}
    (goes : ∀ item ∈ new, keeps item = false) (stays : ∀ item ∈ old, keeps item = true) :
    (new ++ old).filter keeps = old := by
  rw [List.filter_append, List.filter_eq_nil_iff.mpr, List.filter_eq_self.mpr stays,
    List.nil_append]
  intro item member
  rw [goes item member]
  exact Bool.false_ne_true

theorem survives_foreign {autoDelete : String → Bool} {before after : Server}
    (fresh : Fresh autoDelete broker before) {made : List (String × String × String)}
    (bindings : after.bindings = made ++ before.bindings)
    (known : ∀ binding ∈ made, binding.1 ∈ queueNames broker ∧ binding.2.1 ∈ boundNames broker)
    {name : String} (member : name ∈ before.exchanges) :
    survives autoDelete after (removals broker) name = true := by
  apply survives_kept
  · intro op listed
    exact (removals_keep listed).1 name (fresh.exchanges name member)
  · intro flag
    cases theirs : bound before.bindings name with
    | true =>
      left
      rcases List.any_eq_true.mp theirs with ⟨binding, present, same⟩
      refine ⟨binding, ?_, beq_iff_eq.mp same, ?_⟩
      · rw [bindings]
        exact List.mem_append_right _ present
      · intro op listed
        have ends := fresh.bindings binding present
        exact (removals_keep listed).2.2 binding (fresh.queues _ ends.1) (fresh.exchanges _ ends.2)
    | false =>
      right
      have untouched : name ∉ boundNames broker := by
        intro touched
        rw [fresh.lasting name member flag touched] at theirs
        cases theirs
      unfold bound at theirs ⊢
      rw [bindings, List.any_append, theirs, Bool.or_false]
      apply List.any_eq_false.mpr
      intro binding own same
      apply untouched
      rw [← beq_iff_eq.mp same]
      exact (known binding own).2

theorem queue_requested {name : String} (known : name ∈ queueNames broker) :
    ∃ op ∈ removals broker, op.keepsQueue name = false ∧
      ∀ binding : String × String × String, binding.1 = name →
        op.keepsBinding binding = false := by
  rcases List.mem_map.mp known with ⟨entry, present, rfl⟩
  refine ⟨_, mem_removals.mpr (.inr (.inl ⟨entry, present, rfl⟩)), ?_, ?_⟩
  · simp [Removal.keepsQueue]
  · intro binding same
    simp [Removal.keepsBinding, same]

theorem remove_added {autoDelete : String → Bool} {before after : Server}
    (fresh : Fresh autoDelete broker before) (added : Added broker before after) :
    (removals broker).foldl (remove autoDelete) after = before := by
  rcases added with ⟨⟨e, exchanges, knownE⟩, ⟨q, queues, knownQ⟩, ⟨b, bindings, knownB⟩⟩
  rcases @keeps_foldl autoDelete after (removals broker) with ⟨leftQ, leftB⟩
  have sameE : ((removals broker).foldl (remove autoDelete) after).exchanges =
      before.exchanges := by
    rw [exchanges_foldl, exchanges]
    apply filter_new
    · intro name member
      rcases List.mem_map.mp (knownE name member) with ⟨exchange, present, rfl⟩
      apply survives_requested
      refine ⟨_, mem_removals.mpr (.inr (.inr ⟨exchange, present, rfl⟩)), ?_⟩
      simp [Removal.keepsExchange]
    · intro name member
      exact survives_foreign fresh bindings knownB member
  have sameQ : ((removals broker).foldl (remove autoDelete) after).queues = before.queues := by
    rw [leftQ, queues]
    apply filter_new
    · intro name member
      rcases queue_requested (knownQ name member) with ⟨op, listed, goes, _⟩
      exact List.all_eq_false.mpr ⟨op, listed, by simp [goes]⟩
    · intro name member
      apply List.all_eq_true.mpr
      intro op listed
      exact (removals_keep listed).2.1 name (fresh.queues name member)
  have sameB : ((removals broker).foldl (remove autoDelete) after).bindings =
      before.bindings := by
    rw [leftB, bindings]
    apply filter_new
    · intro binding member
      rcases queue_requested (knownB binding member).1 with ⟨op, listed, _, goes⟩
      exact List.all_eq_false.mpr ⟨op, listed, by simp [goes binding rfl]⟩
    · intro binding member
      apply List.all_eq_true.mpr
      intro op listed
      have ends := fresh.bindings binding member
      exact (removals_keep listed).2.2 binding (fresh.queues _ ends.1) (fresh.exchanges _ ends.2)
  exact server_eq sameE sameQ sameB

end Names

theorem left_out_nil_iff {autoDelete : String → Bool} {objections : Objections} {broker : Broker}
    {server : Server} {link : Link} :
    leftOut autoDelete objections broker server link = [] ↔
      carriedOut autoDelete objections broker server link = removals broker := by
  unfold leftOut carriedOut
  split
  · have parts := early_append_late (permits objections) (remove autoDelete) server
      (removals broker)
    constructor
    · intro none
      rw [none, List.append_nil] at parts
      exact parts
    · intro all
      rw [all] at parts
      exact List.append_right_eq_self.mp parts
  · exact eq_comm

/-- After any `setup`, complete or not, a `teardown` that returns true leaves the server as
it was before: nothing of the topology stays, and nothing of others goes, whichever exchanges
go with their last binding. -/
theorem teardown_undoes_setup (autoDelete : String → Bool) (refusals : Refusals)
    (objections : Objections) (broker : Broker) (server : Server) (link later : Link)
    (fresh : Fresh autoDelete broker server)
    (down : (teardown autoDelete objections broker
      (opened (setup refusals broker (start server link)).2.server later)).1 = true) :
    (teardown autoDelete objections broker
      (opened (setup refusals broker (start server link)).2.server later)).2.server = server := by
  rcases teardown_start autoDelete objections broker
    (setup refusals broker (start server link)).2.server later with ⟨outcome, after, -⟩
  rw [outcome, List.isEmpty_iff] at down
  rw [after, left_out_nil_iff.mp down]
  exact remove_added fresh (added_setup refusals server link)

/-- A queue between an own exchange and two that were there before. -/
def orders : Broker where
  exchanges := [{ name := "orders", type := .topic, autoDelete := true }]
  queues := [({ name := "paid" },
    [⟨"orders", "paid.#"⟩, ⟨"amq.direct", "paid"⟩, ⟨"events", "paid"⟩])]

def shared : Server where
  exchanges := ["amq.direct", "events"]
  queues := ["audit"]
  bindings := [("audit", "events", "all")]

/-- All exchanges but the predeclared one. -/
def flagged (name : String) : Bool := name != "amq.direct"

def channel : Link where
  channel := { channelId := 1, isOpen := true }
  broker := { isOpen := true, refused := false }

theorem orders_undone :
    (setup (fun _ => false) orders (start shared channel)).2.server ≠ shared ∧
      (teardown flagged (fun _ _ => false) orders
        (opened (setup (fun _ => false) orders (start shared channel)).2.server channel)).2.server =
          shared := by
  refine ⟨by decide, ?_⟩
  apply teardown_undoes_setup flagged (fun _ => false) (fun _ _ => false) orders shared channel
    channel
  · exact ⟨by decide, by decide, by decide, by decide, by decide⟩
  · decide

end BackendComponents.Amqp.Teardown
