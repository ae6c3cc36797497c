import BackendComponents.Sockets.Replies
import Mathlib.Data.Set.Defs

/-!
# Paths that fit into a socket address

`UnixAddress::getSockAddr` never returns a null pointer. A path that is too long or has a
NUL in it becomes the address of another path, which a shorter `UnixAddress` has as well.
-/

namespace BackendComponents.Sockets.Encoding

open BackendComponents.Lib.CStrings
open BackendComponents.Sockets.Model
open BackendComponents.Sockets.Addresses
open BackendComponents.Sockets.Replies

set_option autoImplicit false

/-- A call that passes an address on; `answer` is what the system call returns, compared
with zero. -/
def passOn (self : Communicator) (addr : Address) (answer : SockAddr × Nat → Bool) : Bool :=
  if self.fd < 0 then false
  else
    match getSockAddr addr with
    | none => false
    | some destination => answer destination

def connect (self : Communicator) (addr : Address) (answer : SockAddr × Nat → Bool) : Bool :=
  passOn self addr answer

def bind (self : Communicator) (addr : Address) (answer : SockAddr × Nat → Bool) : Bool :=
  passOn self addr answer

/-- A call that asks the kernel for an address; `none` stands for a failing system call, and
for a null pointer. -/
def askFor (self : Communicator) (answer : Option SockAddr) : Option Address :=
  if self.fd < 0 then none
  else
    match answer with
    | none => none
    | some buffer => decoded self.domain buffer

def getLocalAddress (self : Communicator) (getsockname : Option SockAddr) : Option Address :=
  askFor self getsockname

def getPeerAddress (self : Communicator) (getpeername : Option SockAddr) : Option Address :=
  askFor self getpeername

/-- An address that no call of a communicator gets further with. -/
structure Rejected (addr : Address) : Prop where
  null : getSockAddr addr = none
  connect : ∀ self answer, connect self addr answer = false
  bind : ∀ self answer, bind self addr answer = false
  sendTo : ∀ self, ∃ errno, sendTo self addr = .error errno

/-- A `sockaddr_un` that everybody who decodes it reads as the path, and its length. -/
structure Decodes (destination : SockAddr × Nat) (path : List Char) : Prop where
  recvFrom : decoded afUnix destination.1 = some (unixAddress path)
  localAddress : ∀ self : Communicator, 0 ≤ self.fd → self.domain = afUnix →
    getLocalAddress self (some destination.1) = some (unixAddress path)
  peerAddress : ∀ self : Communicator, 0 ≤ self.fd → self.domain = afUnix →
    getPeerAddress self (some destination.1) = some (unixAddress path)
  covers : destination.2 = sunPathOffset + path.length + 1

def FaithfulOrRejected (path : List Char) : Prop :=
  Rejected (unixAddress path) ∨
    ∃ destination, getSockAddr (unixAddress path) = some destination ∧ Decodes destination path

/-- What a program with these paths relies on. -/
structure EncodedFaithfully (paths : Set (List Char)) : Prop where
  each : ∀ path ∈ paths, FaithfulOrRejected path
  apart : ∀ path ∈ paths, ∀ other ∈ paths, ∀ destination,
    getSockAddr (unixAddress path) = some destination →
      getSockAddr (unixAddress other) = some destination → path = other

/-- A path that `sun_path` has room for, with a NUL behind it and none inside. -/
def Fits (path : List Char) : Prop := nul ∉ path ∧ path.length < sunPathSize

instance (path : List Char) : Decidable (Fits path) := inferInstanceAs (Decidable (_ ∧ _))

theorem rejected_iff_null (addr : Address) : Rejected addr ↔ getSockAddr addr = none := by
  apply Iff.intro
  · exact Rejected.null
  · intro null
    have stopped : ∀ self answer, passOn self addr answer = false := by
      intro self answer
      unfold passOn
      rw [null]
      split
      · rfl
      · rfl
    apply Rejected.mk null stopped stopped
    intro self
    unfold sendTo udpSendTo
    rw [null]
    split
    · exact ⟨ebadf, rfl⟩
    · split
      · exact ⟨ebadf, rfl⟩
      · exact ⟨eopnotsupp, rfl⟩
      · exact ⟨einval, rfl⟩

theorem decoded_encoded (path : List Char) :
    decoded afUnix (unixSockAddr path).1 = some (unixAddress (keptPath path)) := by
  have text := c_string_encoded_path path
  exact congrArg (fun kept => some (unixAddress kept)) text

theorem encoded_length (path : List Char) :
    (unixSockAddr path).2 = sunPathOffset + (keptPath path).length + 1 := by
  unfold unixSockAddr strlen
  rw [c_string_encoded_path]

theorem same_address_iff (path other : List Char) :
    getSockAddr (unixAddress path) = getSockAddr (unixAddress other) ↔
      keptPath path = keptPath other := by
  apply Iff.intro
  · intro same
    have encoded : unixSockAddr path = unixSockAddr other := Option.some.inj same
    have read := decoded_encoded path
    rw [encoded, decoded_encoded other] at read
    injection read with equal
    injection equal with _ members
    injection members with kept
    exact kept.symm
  · intro kept
    have stored : encodedPath path = encodedPath other := by
      rw [encoded_path, encoded_path, kept]
    have buffers : (unixSockAddr path).1 = (unixSockAddr other).1 :=
      congrArg SockAddr.unix (sock_addr_un_ext stored)
    have lengths : (unixSockAddr path).2 = (unixSockAddr other).2 := by
      rw [encoded_length, encoded_length, kept]
    exact congrArg some (Prod.ext buffers lengths)

theorem fits_iff_kept (path : List Char) : Fits path ↔ keptPath path = path := by
  apply Iff.intro
  · intro fits
    exact kept_path_of_short fits.1 fits.2
  · intro kept
    rw [← kept]
    exact ⟨kept_path_plain path, kept_path_short path⟩

theorem decodes_kept (path : List Char) : Decodes (unixSockAddr path) (keptPath path) := by
  have asked : ∀ self : Communicator, 0 ≤ self.fd → self.domain = afUnix →
      askFor self (some (unixSockAddr path).1) = some (unixAddress (keptPath path)) := by
    intro self opened domain
    unfold askFor
    rw [if_neg (Int.not_lt.mpr opened), domain]
    exact decoded_encoded path
  exact ⟨decoded_encoded path, asked, asked, encoded_length path⟩

theorem faithful_iff_fits (path : List Char) : FaithfulOrRejected path ↔ Fits path := by
  rw [fits_iff_kept]
  apply Iff.intro
  · intro faithful
    cases faithful with
    | inl rejected => exact nomatch (rejected_iff_null _).mp rejected
    | inr encoded =>
        rcases encoded with ⟨destination, same, decodes⟩
        have read := decodes.recvFrom
        rw [← Option.some.inj same, decoded_encoded path] at read
        injection read with equal
        injection equal with _ members
        injection members with kept
  · intro kept
    apply Or.inr
    exists unixSockAddr path
    apply And.intro rfl
    have decodes := decodes_kept path
    rw [kept] at decodes
    exact decodes

/-- Paths are all encoded faithfully, no two of them alike, exactly when each one fits. -/
theorem encoded_faithfully_iff_fit (paths : Set (List Char)) :
    EncodedFaithfully paths ↔ ∀ path ∈ paths, Fits path := by
  apply Iff.intro
  · intro encoded path member
    exact (faithful_iff_fits path).mp (encoded.each path member)
  · intro fit
    apply EncodedFaithfully.mk
    · intro path member
      exact (faithful_iff_fits path).mpr (fit path member)
    · intro path member other present destination first second
      have kept := (same_address_iff path other).mp (first.trans second.symm)
      rw [(fits_iff_kept path).mp (fit path member)] at kept
      rw [(fits_iff_kept other).mp (fit other present)] at kept
      exact kept

/-- Two long names for one socket. -/
theorem long_paths_collide :
    getSockAddr (unixAddress (List.replicate 108 'a')) =
        getSockAddr (unixAddress (List.replicate 109 'a')) ∧
      getSockAddr (unixAddress ['a', nul, 'b']) = getSockAddr (unixAddress ['a']) ∧
        ¬EncodedFaithfully Set.univ := by
  apply And.intro
  · exact (same_address_iff _ _).mpr (by decide)
  · apply And.intro
    · exact (same_address_iff _ _).mpr (by decide)
    · intro encoded
      have faithful := encoded.each (List.replicate 108 'a') trivial
      exact absurd ((faithful_iff_fits _).mp faithful) (by decide)

end BackendComponents.Sockets.Encoding
