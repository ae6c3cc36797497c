import BackendComponents.Lib.CStrings
import BackendComponents.Lib.Paths

/-!
# Error objects

A transcription of the class `Error` in `error.h` and `error.cpp`. The chain that `m_cause`
owns is a list, from the immediate cause on. What `std::string` leaves in an object that has
been moved from is an input of the move.
-/

namespace BackendComponents.Errors.Model

open BackendComponents.Lib.CStrings

set_option autoImplicit false

structure SourceLocation where
  file : List Char
  line : Int
  function : List Char
  deriving DecidableEq, Repr

structure Text where
  chars : List Char
  plain : nul ∉ chars
  deriving DecidableEq

def kSboSize : Nat := 64

/-- The members without `m_cause`. -/
structure Fields where
  code : Int
  location : SourceLocation
  sboBuf : List Char
  heapBuf : List Char
  sized : sboBuf.length = kSboSize
  deriving DecidableEq

structure Error where
  self : Fields
  causes : List Fields
  deriving DecidableEq

def emptyBuf : List Char := List.replicate kSboSize nul

theorem empty_sized : emptyBuf.length = kSboSize := List.length_replicate

theorem printed_sized (text : List Char) :
    (snprintf emptyBuf 0 kSboSize text).1.length = kSboSize :=
  (snprintf_length text (Nat.le_of_eq (Nat.zero_add _))).trans empty_sized

theorem cleared_sized (text : List Char) :
    ((snprintf emptyBuf 0 kSboSize text).1.set 0 nul).length = kSboSize :=
  List.length_set.trans (printed_sized text)

/-- The text of a call that needs the heap, through a `std::vector` of `count` zeros. -/
def formatted (count : Nat) (text : List Char) : List Char :=
  cString (snprintf (List.replicate count nul) 0 count text).1

/-- The formatting constructor. There is no object if `n + 1` overflows: the size of the
vector is then negative. -/
def construct (code : Int) (location : SourceLocation) (text : Text) : Option Error :=
  let first := snprintf emptyBuf 0 kSboSize text.chars
  if (kSboSize : Int) ≤ first.2 then
    if first.2 = intMax then none
    else
      some {
        self := {
          code := code
          location := location
          sboBuf := first.1.set 0 nul
          heapBuf := formatted (first.2.toNat + 1) text.chars
          sized := cleared_sized text.chars }
        causes := [] }
  else
    some {
      self := {
        code := code
        location := location
        sboBuf := first.1
        heapBuf := []
        sized := printed_sized text.chars }
      causes := [] }

def constructPlain (code : Int) (location : SourceLocation) : Error where
  self := {
    code := code
    location := location
    sboBuf := emptyBuf
    heapBuf := []
    sized := empty_sized }
  causes := []

def copyFields (other : Fields) : Fields where
  code := other.code
  location := other.location
  sboBuf := other.sboBuf
  heapBuf := other.heapBuf
  sized := other.sized

/-- `std::make_unique<Error>(*other.m_cause)`, which copies the cause of the cause, too. -/
def copyCauses : List Fields → List Fields
  | [] => []
  | cause :: rest => copyFields cause :: copyCauses rest

/-- The copy constructor and, for another object, copy assignment. -/
def copy (other : Error) : Error where
  self := copyFields other.self
  causes := copyCauses other.causes

/-- The move constructor and, for another object, move assignment: the string and the cause
go over, the array is copied. -/
def moveTo (other : Error) : Error where
  self := copyFields other.self
  causes := other.causes

def movedFrom (leftover : List Char) (other : Error) : Error where
  self := { other.self with heapBuf := leftover }
  causes := []

def causedBy (self cause : Error) : Error where
  self := self.self
  causes := cause.self :: cause.causes

def descend : Nat → Error → Option Error
  | 0, self => some self
  | depth + 1, self =>
      match self.causes with
      | [] => none
      | cause :: rest => descend depth { self := cause, causes := rest }

def message (self : Fields) : List Char :=
  if self.sboBuf.head? = some nul then self.heapBuf else cString self.sboBuf

/-- The objects; there is none where a constructor has thrown. -/
abbrev State := List (Option Error)

/-- A copy is made of an object or of a cause of one, `depth` times removed. -/
inductive Action
  | construct (code : Int) (location : SourceLocation) (text : Text)
  | constructPlain (code : Int) (location : SourceLocation)
  | copyConstruct (other depth : Nat)
  | copyAssign (id other depth : Nat)
  | moveConstruct (other : Nat) (leftover : List Char)
  | moveAssign (id other : Nat) (leftover : List Char)
  | causedBy (id other : Nat) (leftover : List Char)

def object (state : State) (id : Nat) : Option Error := state[id]?.join

def source (state : State) (other depth : Nat) : Option Error :=
  (object state other).bind (descend depth)

def step (state : State) : Action → Option State
  | .construct code location text => some (state ++ [construct code location text])
  | .constructPlain code location => some (state ++ [some (constructPlain code location)])
  | .copyConstruct other depth =>
      (source state other depth).map fun found => state ++ [some (copy found)]
  | .copyAssign id other depth =>
      (object state id).bind fun _ => (source state other depth).map fun found =>
        if id = other ∧ depth = 0 then state else state.set id (some (copy found))
  | .moveConstruct other leftover =>
      (object state other).map fun found =>
        state.set other (some (movedFrom leftover found)) ++ [some (moveTo found)]
  | .moveAssign id other leftover =>
      (object state id).bind fun _ => (object state other).map fun found =>
        if id = other then state
        else (state.set other (some (movedFrom leftover found))).set id (some (moveTo found))
  | .causedBy id other leftover =>
      (object state other).bind fun found =>
        let emptied : State := state.set other (some (movedFrom leftover found))
        (object emptied id).map fun self =>
          emptied.set id (some (causedBy self (moveTo found)))

end BackendComponents.Errors.Model
