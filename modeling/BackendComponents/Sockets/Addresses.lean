import BackendComponents.Lib.CStrings
import BackendComponents.Lib.DottedDecimal

/-!
# Addresses and their `sockaddr`

A transcription of `address.cpp` and of what `getLocalAddress`, `getPeerAddress` and
`recvFrom` make of a `sockaddr` that the kernel has filled in. The buffer of `getSockAddr`
is cleared by every call, so that nothing is left of an earlier one.
-/

namespace BackendComponents.Sockets.Addresses

open BackendComponents.Lib.CStrings
open BackendComponents.Lib.DottedDecimal

set_option autoImplicit false

def afUnix : Int := 1

def afInet : Int := 2

def sunPathSize : Nat := 108

def sunPathOffset : Nat := 2

def sockAddrInSize : Nat := 16

def htons (port : UInt16) : UInt16 := UInt16.ofNat (port.toNat % 256 * 256 + port.toNat / 256)

def ntohs (port : UInt16) : UInt16 := htons port

def inetNtop (address : Octets) : List Char := dotted address

/-- `inet_pton`, which takes the dotted decimal text of an address and nothing else; `none`
where it does not return 1. -/
def inetPton (text : List Char) : Option Octets := read (cString text)

structure SockAddrIn where
  sinPort : UInt16
  sinAddr : Octets
  deriving DecidableEq, Repr

structure SockAddrUn where
  sunPath : List Char
  size : sunPath.length = sunPathSize

inductive SockAddr
  | inet (address : SockAddrIn)
  | unix (address : SockAddrUn)

/-- The members of `Address`: it has none. -/
structure Base where
  deriving DecidableEq, Repr

inductive Derived
  | unix (path : List Char)
  | inet (ip : List Char) (port : UInt16)
  deriving DecidableEq, Repr

/-- An object of `UnixAddress` or of `InetAddress`, and the `Address` inside it. -/
structure Address where
  base : Base
  derived : Derived
  deriving DecidableEq, Repr

def unixAddress (path : List Char) : Address := ⟨⟨⟩, .unix path⟩

def inetAddress (ip : List Char) (port : UInt16) : Address := ⟨⟨⟩, .inet ip port⟩

/-- `addr = other` for an `Address& addr`: the operator that the compiler declares for
`Address`, which is not virtual and assigns the members of `Address`. -/
def Address.assign (addr other : Address) : Address := { addr with base := other.base }

/-- `sun_path` after `memset`, `strncpy` and the NUL put at the end. -/
def encodedPath (path : List Char) : List Char :=
  store (strncpy (List.replicate sunPathSize nul) (sunPathSize - 1) path) (sunPathSize - 1) [nul]

/-- What is left of a path in `sun_path`. -/
def keptPath (path : List Char) : List Char := (cString path).take (sunPathSize - 1)

theorem kept_path_short (path : List Char) : (keptPath path).length < sunPathSize := by
  unfold keptPath
  rw [List.length_take]
  exact Nat.lt_of_le_of_lt (Nat.min_le_left _ _) (by decide)

theorem kept_path_plain (path : List Char) : nul ∉ keptPath path := by
  intro inside
  exact c_string_plain path (List.mem_of_mem_take inside)

theorem kept_path_of_short {path : List Char} (plain : nul ∉ path)
    (short : path.length < sunPathSize) : keptPath path = path := by
  unfold keptPath
  rw [c_string_eq_self plain]
  exact List.take_of_length_le (Nat.le_pred_of_lt short)

theorem encoded_path (path : List Char) :
    encodedPath path =
      keptPath path ++ List.replicate (sunPathSize - (keptPath path).length) nul := by
  have short := kept_path_short path
  have behind : sunPathSize - (keptPath path).length =
      (sunPathSize - 1 - (keptPath path).length) + 1 := by omega
  have front : (keptPath path ++
      List.replicate (sunPathSize - 1 - (keptPath path).length) nul).length =
        sunPathSize - 1 := by
    rw [List.length_append, List.length_replicate]
    omega
  unfold encodedPath
  rw [strncpy_zeroed path (Nat.sub_le _ _)]
  rw [← keptPath, behind, List.replicate_succ', ← List.append_assoc]
  have stored := store_append (keptPath path ++
    List.replicate (sunPathSize - 1 - (keptPath path).length) nul) [nul] [nul]
  rw [front] at stored
  exact stored

theorem encoded_path_length (path : List Char) : (encodedPath path).length = sunPathSize := by
  have short := kept_path_short path
  rw [encoded_path, List.length_append, List.length_replicate]
  omega

theorem c_string_encoded_path (path : List Char) : cString (encodedPath path) = keptPath path := by
  rw [encoded_path]
  exact c_string_padded (kept_path_plain path) (kept_path_short path)

/-- `UnixAddress::getSockAddr` -/
def unixSockAddr (path : List Char) : SockAddr × Nat :=
  (.unix ⟨encodedPath path, encoded_path_length path⟩,
    sunPathOffset + strlen (encodedPath path) + 1)

/-- `InetAddress::getSockAddr`, `none` for a null pointer. -/
def inetSockAddr (ip : List Char) (port : UInt16) : Option (SockAddr × Nat) :=
  (inetPton ip).map fun address => (.inet ⟨htons port, address⟩, sockAddrInSize)

def getSockAddr (addr : Address) : Option (SockAddr × Nat) :=
  match addr.derived with
  | .unix path => some (unixSockAddr path)
  | .inet ip port => inetSockAddr ip port

/-- The object made of a `sockaddr`. In a socket of a family there are only addresses of
that family, and other families are not looked at. -/
def decoded (domain : Int) (buffer : SockAddr) : Option Address :=
  if domain = afInet then
    match buffer with
    | .inet address => some (inetAddress (inetNtop address.sinAddr) (ntohs address.sinPort))
    | .unix _ => none
  else if domain = afUnix then
    match buffer with
    | .unix address => some (unixAddress (cString address.sunPath))
    | .inet _ => none
  else none

theorem htons_to_nat (port : UInt16) :
    (htons port).toNat = port.toNat % 256 * 256 + port.toNat / 256 := by
  have bounded := port.toNat_lt
  unfold htons
  apply UInt16.toNat_ofNat_of_lt'
  show _ < 65536
  omega

theorem ntohs_htons (port : UInt16) : ntohs (htons port) = port := by
  apply UInt16.toNat_inj.mp
  unfold ntohs
  rw [htons_to_nat, htons_to_nat]
  have bounded : port.toNat < 65536 := port.toNat_lt
  omega

theorem htons_inj {port other : UInt16} : htons port = htons other ↔ port = other := by
  apply Iff.intro
  · intro swapped
    rw [← ntohs_htons port, swapped, ntohs_htons]
  · intro same
    rw [same]

theorem inet_pton_iff (text : List Char) (address : Octets) :
    inetPton text = some address ↔ cString text = inetNtop address :=
  read_iff (cString text) address

theorem sock_addr_un_ext {address other : SockAddrUn} (same : address.sunPath = other.sunPath) :
    address = other := by
  cases address
  cases other
  congr 1

end BackendComponents.Sockets.Addresses
