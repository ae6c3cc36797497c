import BackendComponents.Sockets.Addresses
import BackendComponents.Sockets.Model

/-!
# Answering the sender of a datagram

`recvFrom` makes an address of the sender and assigns it to its parameter, which is a
reference to the abstract class. The assignment leaves every member of the concrete class as
it was, so that an answer goes to the sender only if the address was the sender's before.
-/

namespace BackendComponents.Sockets.Replies

open BackendComponents.Lib.CStrings
open BackendComponents.Lib.DottedDecimal
open BackendComponents.Sockets.Model
open BackendComponents.Sockets.Addresses

set_option autoImplicit false

def ebadf : Int := 9

def einval : Int := 22

def eopnotsupp : Int := 95

/-- A path that a Unix socket is bound to, with room for a NUL. -/
structure BoundPath where
  path : List Char
  nonempty : path ≠ []
  plain : nul ∉ path
  short : path.length < sunPathSize

inductive Source
  | inet (address : Octets) (port : UInt16)
  | unix (bound : BoundPath)

def BoundPath.sunPath (bound : BoundPath) : List Char :=
  bound.path ++ List.replicate (sunPathSize - bound.path.length) nul

theorem BoundPath.sun_path_length (bound : BoundPath) : bound.sunPath.length = sunPathSize := by
  have short := bound.short
  unfold BoundPath.sunPath
  rw [List.length_append, List.length_replicate]
  omega

namespace Source

def family : Source → Int
  | .inet _ _ => afInet
  | .unix _ => afUnix

/-- What the kernel writes into the buffer, which is cleared before. -/
def sockAddr : Source → SockAddr
  | .inet address port => .inet ⟨htons port, address⟩
  | .unix bound => .unix ⟨bound.sunPath, bound.sun_path_length⟩

def length : Source → Nat
  | .inet _ _ => sockAddrInSize
  | .unix bound => sunPathOffset + bound.path.length + 1

end Source

structure Datagram where
  source : Source
  size : Nat

/-- `UdpStrategy::recvFrom`; `arrival` is what the kernel answers, a datagram or an `errno`. -/
def udpRecvFrom (domain : Int) (addr : Address) :
    Except Int Datagram → Except Int Nat × Address
  | .error errno => (.error errno, addr)
  | .ok datagram =>
      match decoded domain datagram.source.sockAddr with
      | some other => (.ok datagram.size, addr.assign other)
      | none => (.ok datagram.size, addr)

/-- `Communicator::recvFrom`: the number of bytes, or -1 with `errno`, and the address. -/
def recvFrom (self : Communicator) (addr : Address) (arrival : Except Int Datagram) :
    Except Int Nat × Address :=
  if self.fd < 0 then (.error ebadf, addr)
  else
    match self.strategy with
    | none => (.error ebadf, addr)
    | some .tcp => (.error eopnotsupp, addr)
    | some .udp => udpRecvFrom self.domain addr arrival

/-- `UdpStrategy::sendTo`: what the kernel's `sendto` is given. -/
def udpSendTo (addr : Address) : Except Int (SockAddr × Nat) :=
  match getSockAddr addr with
  | none => .error einval
  | some destination => .ok destination

def sendTo (self : Communicator) (addr : Address) : Except Int (SockAddr × Nat) :=
  if self.fd < 0 then .error ebadf
  else
    match self.strategy with
    | none => .error ebadf
    | some .tcp => .error eopnotsupp
    | some .udp => udpSendTo addr

/-- Family, address and port or path are the source's. -/
def Denotes (addr : Address) (source : Source) : Prop :=
  getSockAddr addr = some (source.sockAddr, source.length)

/-- What the caller of `recvFrom` relies on. -/
structure Answerable (receiver : Communicator) (addr : Address) (source : Source) : Prop where
  denotes : Denotes addr source
  returned : sendTo receiver addr = .ok (source.sockAddr, source.length)

/-- The members of the address are those that an address of the source has. -/
def NamedBy (addr : Address) (source : Source) : Prop :=
  match addr.derived, source with
  | .inet ip port, .inet address sender => cString ip = inetNtop address ∧ port = sender
  | .unix path, .unix bound => keptPath path = bound.path
  | _, _ => False

theorem denotes_inet_iff (ip : List Char) (port : UInt16) (address : Octets) (sender : UInt16) :
    Denotes (inetAddress ip port) (.inet address sender) ↔
      cString ip = inetNtop address ∧ port = sender := by
  rw [← inet_pton_iff]
  apply Iff.intro
  · intro encoded
    obtain ⟨found, parsed, pair⟩ := Option.map_eq_some_iff.mp encoded
    injection pair with buffer length
    injection buffer with members
    injection members with swapped same
    rw [parsed, same]
    exact ⟨rfl, htons_inj.mp swapped⟩
  · intro named
    apply Option.map_eq_some_iff.mpr
    exists address
    rw [named.2]
    exact ⟨named.1, rfl⟩

theorem denotes_unix_iff (path : List Char) (bound : BoundPath) :
    Denotes (unixAddress path) (.unix bound) ↔ keptPath path = bound.path := by
  unfold Denotes getSockAddr unixAddress unixSockAddr
  apply Iff.intro
  · intro encoded
    injection encoded with pair
    injection pair with buffer length
    injection buffer with members
    injection members with stored
    have decoded := congrArg cString stored
    rw [c_string_encoded_path] at decoded
    rw [decoded]
    exact c_string_padded bound.plain bound.short
  · intro named
    have stored : encodedPath path = bound.sunPath := by
      rw [encoded_path, named]
      rfl
    have counted : strlen (encodedPath path) = bound.path.length := by
      unfold strlen
      rw [c_string_encoded_path, named]
    dsimp only
    rw [counted]
    congr 3
    exact sock_addr_un_ext stored

theorem denotes_iff_named (addr : Address) (source : Source) :
    Denotes addr source ↔ NamedBy addr source := by
  cases addr with
  | mk base derived =>
      cases derived with
      | inet ip port =>
          cases source with
          | inet address sender => exact denotes_inet_iff ip port address sender
          | unix bound =>
              apply iff_of_false
              · intro encoded
                obtain ⟨found, parsed, pair⟩ := Option.map_eq_some_iff.mp encoded
                exact nomatch pair
              · exact id
      | unix path =>
          cases source with
          | inet address sender => exact iff_of_false nofun id
          | unix bound => exact denotes_unix_iff path bound

theorem assign_unchanged (addr other : Address) : addr.assign other = addr := rfl

theorem address_unchanged (self : Communicator) (addr : Address)
    (arrival : Except Int Datagram) : (recvFrom self addr arrival).2 = addr := by
  unfold recvFrom udpRecvFrom
  split
  · rfl
  · split
    · rfl
    · rfl
    · split
      · rfl
      · split
        · rw [assign_unchanged]
        · rfl

theorem reaches_of_received {self : Communicator} {addr : Address} {datagram : Datagram}
    (received : (recvFrom self addr (.ok datagram)).1 = .ok datagram.size) (valid : Bool) :
    reaches self valid .recvFrom = true := by
  unfold recvFrom at received
  split at received
  · exact nomatch received
  · next opened =>
      split at received
      · exact nomatch received
      · exact nomatch received
      · next udp =>
          unfold reaches
          rw [udp, decide_eq_true (Int.not_lt.mp opened)]
          rfl

theorem send_to_of_reaches {self : Communicator} {valid : Bool}
    (reached : reaches self valid .recvFrom = true) (addr : Address) :
    sendTo self addr = udpSendTo addr := by
  unfold reaches at reached
  have parts := Bool.and_eq_true_iff.mp reached
  have opened : ¬ self.fd < 0 := Int.not_lt.mpr (of_decide_eq_true parts.1)
  unfold sendTo
  rw [if_neg opened, of_decide_eq_true parts.2]

theorem answerable_iff_denotes {self : Communicator} {valid : Bool}
    (reached : reaches self valid .recvFrom = true) (addr : Address) (source : Source) :
    Answerable self addr source ↔ Denotes addr source := by
  apply Iff.intro
  · exact Answerable.denotes
  · intro denotes
    apply Answerable.mk denotes
    rw [send_to_of_reaches reached]
    unfold udpSendTo
    rw [denotes]

/-- A datagram that has been received can be answered exactly where the address given to
`recvFrom` was the sender's before the call. -/
theorem reply_address_iff_named_before (self : Communicator) (addr : Address)
    (datagram : Datagram)
    (received : (recvFrom self addr (.ok datagram)).1 = .ok datagram.size) :
    Answerable self (recvFrom self addr (.ok datagram)).2 datagram.source ↔
      NamedBy addr datagram.source := by
  rw [address_unchanged]
  rw [answerable_iff_denotes (reaches_of_received received true)]
  exact denotes_iff_named addr datagram.source

def receiver : Communicator where
  fd := 3
  domain := afInet
  type := sockDgram
  protocol := 0
  strategy := some .udp
  origin := 0

def localhost : Octets := ⟨127, 0, 0, 1⟩

theorem answered_before :
    Answerable receiver
        (recvFrom receiver (inetAddress (inetNtop localhost) 5000)
          (.ok ⟨.inet localhost 5000, 4⟩)).2 (.inet localhost 5000) ↔
      NamedBy (inetAddress (inetNtop localhost) 5000) (.inet localhost 5000) :=
  reply_address_iff_named_before receiver _ ⟨.inet localhost 5000, 4⟩ rfl

/-- The address given to `recvFrom` is 0.0.0.0:0, and it still is when four bytes have come
from 127.0.0.1:5000. -/
theorem sender_not_stored :
    (recvFrom receiver (inetAddress (inetNtop ⟨0, 0, 0, 0⟩) 0)
        (.ok ⟨.inet localhost 5000, 4⟩)).1 = .ok 4 ∧
      ¬ Denotes
        (recvFrom receiver (inetAddress (inetNtop ⟨0, 0, 0, 0⟩) 0)
          (.ok ⟨.inet localhost 5000, 4⟩)).2 (.inet localhost 5000) ∧
      ¬ Answerable receiver
        (recvFrom receiver (inetAddress (inetNtop ⟨0, 0, 0, 0⟩) 0)
          (.ok ⟨.inet localhost 5000, 4⟩)).2 (.inet localhost 5000) := by
  have other : ¬ Denotes (inetAddress (inetNtop ⟨0, 0, 0, 0⟩) 0) (.inet localhost 5000) := by
    rw [denotes_inet_iff]
    intro named
    exact absurd named.2 (by decide)
  rw [address_unchanged]
  exact ⟨rfl, other, fun answerable => other answerable.denotes⟩

end BackendComponents.Sockets.Replies
