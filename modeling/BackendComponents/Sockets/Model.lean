import BackendComponents.Lib.Paths
import BackendComponents.Lib.Ownership

/-!
# Communicators and their descriptors

A transcription of `communicator.cpp`, of `CommunicatorFactory::create` and of what the
strategies do with the descriptor. The kernel numbers the descriptors it returns from
`socket` and `accept`; it may give any number that is free, also one that has been in use
before. `origin` is not a member: it is the place of the descriptor in the kernel's count.
-/

namespace BackendComponents.Sockets.Model

open BackendComponents.Lib.Ownership

set_option autoImplicit false

inductive ProtocolStrategy
  | tcp
  | udp
  deriving DecidableEq, Repr

def sockStream : Int := 1

def sockDgram : Int := 2

structure CommunicatorConfig where
  domain : Int
  type : Int
  protocol : Int
  deriving DecidableEq, Repr

structure Communicator where
  fd : Int
  domain : Int
  type : Int
  protocol : Int
  strategy : Option ProtocolStrategy
  origin : Nat
  deriving DecidableEq, Repr

/-- A number in use and its place in the count of all descriptors. -/
abbrev Descriptor := Int × Nat

/-- `closed` lists what has been passed to `close`. A call with a number that is not in
use, or is in use for another descriptor than the one meant, is a fault. -/
structure Kernel where
  inUse : List Descriptor
  issued : Nat
  closed : List Nat
  faults : List Descriptor
  deriving DecidableEq, Repr

namespace Kernel

/-- `socket` and `accept`: the number they return, if they succeed. -/
def fresh (kernel : Kernel) (number : Int) : Bool :=
  decide (0 ≤ number ∧ number ∉ kernel.inUse.map Prod.fst)

def issue (kernel : Kernel) (number : Int) : Kernel :=
  { kernel with
    inUse := kernel.inUse ++ [(number, kernel.issued)]
    issued := kernel.issued + 1 }

def check (kernel : Kernel) (descriptor : Descriptor) : Kernel :=
  if descriptor ∈ kernel.inUse then kernel
  else { kernel with faults := kernel.faults ++ [descriptor] }

/-- `close` frees the number, whatever it is in use for. -/
def close (kernel : Kernel) (descriptor : Descriptor) : Kernel :=
  let checked := kernel.check descriptor
  { checked with
    inUse := checked.inUse.filter fun other => decide (other.1 ≠ descriptor.1)
    closed := checked.closed ++ [descriptor.2] }

end Kernel

def defaultCommunicator : Communicator where
  fd := -1
  domain := 0
  type := 0
  protocol := 0
  strategy := none
  origin := 0

/-- What is left of the object that a move constructor or assignment has taken over. -/
def movedFrom (other : Communicator) : Communicator :=
  { other with fd := -1, domain := 0, type := 0, protocol := 0, strategy := none }

def closeCommunicator (kernel : Kernel) (self : Communicator) : Kernel × Communicator :=
  if 0 ≤ self.fd then
    (kernel.close (self.fd, self.origin), { self with fd := -1, strategy := none })
  else (kernel, { self with strategy := none })

/-- `CommunicatorFactory::create`; `answer` is what `socket` returns, -1 for a failure. -/
def create (kernel : Kernel) (config : CommunicatorConfig) (answer : Int) :
    Kernel × Communicator :=
  if answer < 0 then (kernel, defaultCommunicator)
  else
    let issued := kernel.issue answer
    let assembled (strategy : ProtocolStrategy) : Communicator :=
      { fd := answer, domain := config.domain, type := config.type, protocol := config.protocol,
        strategy := some strategy, origin := kernel.issued }
    if config.type = sockStream then (issued, assembled .tcp)
    else if config.type = sockDgram then (issued, assembled .udp)
    else (issued.close (answer, kernel.issued), defaultCommunicator)

/-- `Communicator::accept`; `answer` is what `accept` returns, if it is called at all. -/
def accept (kernel : Kernel) (self : Communicator) (answer : Int) :
    Kernel × Option Communicator :=
  if self.fd < 0 then (kernel, none)
  else match self.strategy with
    | none | some .udp => (kernel, none)
    | some .tcp =>
        let called := kernel.check (self.fd, self.origin)
        if answer < 0 then (called, none)
        else (called.issue answer,
          some { fd := answer, domain := self.domain, type := self.type, protocol := 0,
                 strategy := some .tcp, origin := called.issued })

/-- The methods that use the descriptor, except for `accept` and `close`. -/
inductive Method
  | connect
  | bind
  | listen
  | send
  | recv
  | sendTo
  | recvFrom
  | setNonBlocking
  | setSockOpt
  | getLocalAddress
  | getPeerAddress
  deriving DecidableEq, Repr

/-- Whether a call gets as far as a system call; `valid` says that the address given has a
`sockaddr`. -/
def reaches (self : Communicator) (valid : Bool) : Method → Bool
  | .connect | .bind => decide (0 ≤ self.fd) && valid
  | .listen => decide (0 ≤ self.fd) && decide (self.strategy = some .tcp)
  | .send | .recv => decide (0 ≤ self.fd) && self.strategy.isSome
  | .sendTo => decide (0 ≤ self.fd) && decide (self.strategy = some .udp) && valid
  | .recvFrom => decide (0 ≤ self.fd) && decide (self.strategy = some .udp)
  | .setNonBlocking | .setSockOpt | .getLocalAddress | .getPeerAddress => decide (0 ≤ self.fd)

def call (kernel : Kernel) (self : Communicator) (valid : Bool) (method : Method) : Kernel :=
  if reaches self valid method then kernel.check (self.fd, self.origin) else kernel

/-- The objects of a program in the order of their construction, `none` once destroyed. -/
structure State where
  kernel : Kernel
  objects : List (Option Communicator)
  deriving DecidableEq, Repr

inductive Action
  | construct
  | create (config : CommunicatorConfig) (answer : Int)
  | accept (id : Nat) (answer : Int)
  | moveConstruct (other : Nat)
  | moveAssign (id other : Nat)
  | call (id : Nat) (method : Method) (valid : Bool)
  | close (id : Nat)
  | destroy (id : Nat)
  deriving DecidableEq, Repr

/-- `objects[id]` while it lives. -/
def object (state : State) (id : Nat) : Option Communicator := state.objects[id]?.join

def put (state : State) (id : Nat) (self : Communicator) : State :=
  { state with objects := state.objects.set id (some self) }

def add (state : State) (self : Communicator) : State :=
  { state with objects := state.objects ++ [some self] }

def answers (kernel : Kernel) (answer : Int) : Bool := decide (answer = -1) || kernel.fresh answer

def step (state : State) : Action → Option State
  | .construct => some (add state defaultCommunicator)
  | .create config answer =>
      if answers state.kernel answer then
        let (kernel, self) := create state.kernel config answer
        some (add { state with kernel := kernel } self)
      else none
  | .accept id answer =>
      if answers state.kernel answer then
        (object state id).map fun self =>
          match accept state.kernel self answer with
          | (kernel, none) => { state with kernel := kernel }
          | (kernel, some accepted) => add { state with kernel := kernel } accepted
      else none
  | .moveConstruct other =>
      (object state other).map fun source =>
        add (put state other (movedFrom source)) source
  | .moveAssign id other =>
      (object state id).bind fun self =>
        (object state other).map fun source =>
          if id = other then state
          else
            let (kernel, _) := closeCommunicator state.kernel self
            put (put { state with kernel := kernel } id source) other (movedFrom source)
  | .call id method valid =>
      (object state id).map fun self =>
        { state with kernel := call state.kernel self valid method }
  | .close id =>
      (object state id).map fun self =>
        let (kernel, closed) := closeCommunicator state.kernel self
        put { state with kernel := kernel } id closed
  | .destroy id =>
      (object state id).map fun self =>
        let (kernel, _) := closeCommunicator state.kernel self
        { kernel := kernel, objects := state.objects.set id none }

def started : State where
  kernel := { inUse := [], issued := 0, closed := [], faults := [] }
  objects := []

end BackendComponents.Sockets.Model
