import BackendComponents.Errors.Model
import BackendComponents.Lib.Histories

/-!
# Error objects as values

Without the two buffers an error would be a record that is copied and moved as a whole.
The objects show the same as such records as long as every text that is formatted has a
length below the largest `int`.
-/

namespace BackendComponents.Errors.Values

open BackendComponents.Lib.CStrings
open BackendComponents.Lib.Paths
open BackendComponents.Lib.Histories
open BackendComponents.Errors.Model

set_option autoImplicit false

structure Record where
  code : Int
  location : SourceLocation
  text : List Char
  deriving DecidableEq, Repr

/-- A record with an optional cause. Nothing is said of an object that has been moved from,
nor of what is copied or moved from it. -/
inductive Value
  | unspecified
  | error (record : Record)
  | chained (record : Record) (cause : Value)
  deriving DecidableEq, Repr

def Value.descend : Nat → Value → Value
  | 0, value => value
  | depth + 1, .chained _ cause => descend depth cause
  | _ + 1, .error _ | _ + 1, .unspecified => .unspecified

def Value.withCause : Value → Value → Value
  | .unspecified, _ => .unspecified
  | .error record, cause | .chained record _, cause => .chained record cause

def valueOf (values : List Value) (id : Nat) : Value := values[id]?.getD .unspecified

def valueStep (values : List Value) : Action → List Value
  | .construct code location text => values ++ [.error ⟨code, location, text.chars⟩]
  | .constructPlain code location => values ++ [.error ⟨code, location, []⟩]
  | .copyConstruct other depth => values ++ [(valueOf values other).descend depth]
  | .copyAssign id other depth =>
      if id = other ∧ depth = 0 then values
      else values.set id ((valueOf values other).descend depth)
  | .moveConstruct other _ => values.set other .unspecified ++ [valueOf values other]
  | .moveAssign id other _ =>
      if id = other then values
      else (values.set other .unspecified).set id (valueOf values other)
  | .causedBy id other _ =>
      let emptied := values.set other .unspecified
      emptied.set id ((valueOf emptied id).withCause (valueOf values other))

structure Shows (fields : Fields) (record : Record) : Prop where
  code : fields.code = record.code
  location : fields.location = record.location
  text : message fields = record.text

/-- An object and its causes show what the value and its causes say. -/
def Agrees : Error → Value → Prop
  | _, .unspecified => True
  | error, .error record => Shows error.self record ∧ error.causes = []
  | error, .chained record cause => Shows error.self record ∧
      ∃ next rest, error.causes = next :: rest ∧ Agrees { self := next, causes := rest } cause

/-- Each object of the program agrees with the value that stands for it. -/
structure Transparent (state : State) (values : List Value) : Prop where
  count : state.length = values.length
  agrees : ∀ (id : Nat) (value : Value), values[id]? = some value →
    ∃ error, object state id = some error ∧ Agrees error value

def remember (values : List Value) (_ : State) (action : Action) : List Value :=
  valueStep values action

def TransparencyLaw : Prop :=
  ∀ (trail : List (State × Action)) (last : State), Path step [] trail last →
    Transparent last (recollect remember [] trail)

def short : Action → Prop
  | .construct _ _ text => text.chars.length < intMax
  | _ => True

instance : (action : Action) → Decidable (short action)
  | .construct _ _ text => Nat.decLt text.chars.length intMax
  | .constructPlain _ _ | .copyConstruct _ _ | .copyAssign _ _ _ | .moveConstruct _ _
  | .moveAssign _ _ _ | .causedBy _ _ _ => isTrue True.intro

/-! ## Messages -/

theorem printed_array (array text : List Char) {size : Nat}
    (fits : text.length < size) :
    ∃ rest, (snprintf array 0 size text).1 = text ++ nul :: rest := by
  have stored := store_append [] array (fitted size text)
  rw [fitted_short fits] at stored
  refine ⟨array.drop (text ++ [nul]).length, ?_⟩
  dsimp only [snprintf]
  rw [fitted_short fits]
  rw [List.nil_append, List.length_nil, List.nil_append, List.append_assoc] at stored
  exact stored

theorem message_short {self : Fields} {text : Text}
    (array : self.sboBuf = (snprintf emptyBuf 0 kSboSize text.chars).1)
    (heap : self.heapBuf = []) (fits : text.chars.length < kSboSize) :
    message self = text.chars := by
  obtain ⟨rest, printed⟩ := printed_array emptyBuf text.chars fits
  rw [printed] at array
  unfold message
  rw [array, heap]
  split
  · next first =>
      cases chars : text.chars with
      | nil => rfl
      | cons char later =>
          rw [chars] at first
          have same : char = nul := Option.some.inj first
          apply absurd _ text.plain
          rw [chars, same]
          exact List.mem_cons_self
  · exact c_string_nul text.plain rest

theorem message_heap {self : Fields} (cleared : self.sboBuf.head? = some nul) :
    message self = self.heapBuf :=
  if_pos cleared

theorem formatted_eq (text : Text) : formatted (text.chars.length + 1) text.chars = text.chars := by
  obtain ⟨rest, printed⟩ := printed_array (List.replicate (text.chars.length + 1) nul) text.chars
    (Nat.lt_succ_self text.chars.length)
  unfold formatted
  rw [printed]
  exact c_string_nul text.plain rest

theorem cleared_head {array : List Char} (sized : array.length = kSboSize) :
    (array.set 0 nul).head? = some nul := by
  cases array with
  | nil => cases sized
  | cons char rest => rfl

theorem message_length_le {self : Fields} (heap : self.heapBuf = []) :
    (message self).length ≤ kSboSize := by
  unfold message
  split
  · rw [heap]
    exact Nat.zero_le _
  · exact Nat.le_trans (c_string_length_le _) (Nat.le_of_eq self.sized)

theorem construct_agrees_iff (code : Int) (location : SourceLocation) (text : Text) :
    (∃ error, construct code location text = some error ∧
      Agrees error (.error ⟨code, location, text.chars⟩)) ↔ text.chars.length < intMax := by
  have small : kSboSize < intMax := by decide
  unfold construct
  dsimp only [snprintf]
  by_cases bounded : text.chars.length ≤ intMax
  · rw [printed_of_le bounded]
    by_cases long : (kSboSize : Int) ≤ (text.chars.length : Int)
    · rw [if_pos long]
      by_cases largest : (text.chars.length : Int) = (intMax : Int)
      · rw [if_pos largest]
        apply iff_of_false
        · rintro ⟨error, none, _⟩
          cases none
        · omega
      · rw [if_neg largest]
        apply iff_of_true
        · refine ⟨_, rfl, ⟨rfl, rfl, ?_⟩, rfl⟩
          rw [message_heap (cleared_head (printed_sized text.chars))]
          exact formatted_eq text
        · omega
    · rw [if_neg long]
      apply iff_of_true
      · exact ⟨_, rfl, ⟨rfl, rfl, message_short rfl rfl (by omega)⟩, rfl⟩
      · omega
  · have huge : intMax < text.chars.length := Nat.not_le.mp bounded
    have negative : ¬(kSboSize : Int) ≤ -1 := by decide
    rw [printed_of_gt huge, if_neg negative]
    apply iff_of_false
    · rintro ⟨error, found, shows, _⟩
      have heap : error.self.heapBuf = [] := by rw [← Option.some.inj found]
      have few := message_length_le heap
      rw [shows.text] at few
      dsimp only at few
      omega
    · omega

/-! ## Copies -/

theorem copy_causes_eq (causes : List Fields) : copyCauses causes = causes := by
  induction causes with
  | nil => rfl
  | cons cause rest ih =>
      unfold copyCauses
      rw [ih]
      rfl

theorem copy_eq (other : Error) : copy other = other := by
  unfold copy
  rw [copy_causes_eq]
  rfl

theorem agrees_descend {depth : Nat} {error found : Error} {value : Value}
    (agrees : Agrees error value) (taken : descend depth error = some found) :
    Agrees found (value.descend depth) := by
  induction depth generalizing error value with
  | zero =>
      rw [← Option.some.inj taken]
      exact agrees
  | succ depth ih =>
      cases value with
      | unspecified => exact True.intro
      | error record => exact True.intro
      | chained record cause =>
          obtain ⟨_, next, rest, causes, later⟩ := agrees
          unfold descend at taken
          rw [causes] at taken
          exact ih later taken

theorem agrees_caused {self cause : Error} {value causeValue : Value}
    (agrees : Agrees self value) (later : Agrees cause causeValue) :
    Agrees (causedBy self (moveTo cause)) (value.withCause causeValue) := by
  cases value with
  | unspecified => exact True.intro
  | error record => exact ⟨agrees.1, cause.self, cause.causes, rfl, later⟩
  | chained record old => exact ⟨agrees.1, cause.self, cause.causes, rfl, later⟩

/-! ## The steps -/

section Steps

variable {state : State} {values : List Value} (transparent : Transparent state values)

include transparent

theorem transparent_add {slot : Option Error} {value : Value} :
    Transparent (state ++ [slot]) (values ++ [value]) ↔
      ∃ error, slot = some error ∧ Agrees error value := by
  have count := transparent.count
  have last : object (state ++ [slot]) values.length = slot := by
    unfold object
    rw [← count, List.getElem?_concat_length]
    rfl
  constructor
  · intro after
    have found := after.agrees values.length value List.getElem?_concat_length
    rw [last] at found
    exact found
  · intro here
    constructor
    · rw [List.length_append, List.length_append, count]
      rfl
    · intro id other found
      by_cases old : id < values.length
      · rw [List.getElem?_append_left old] at found
        have before := transparent.agrees id other found
        unfold object at before ⊢
        rw [List.getElem?_append_left (by omega)]
        exact before
      · have new : id = values.length := by
          have inside := (List.getElem?_eq_some_iff.mp found).1
          rw [List.length_append, List.length_singleton] at inside
          omega
        rw [new, List.getElem?_concat_length] at found
        rw [new, last, ← Option.some.inj found]
        exact here

theorem transparent_set (id : Nat) {error : Error} {value : Value} (agrees : Agrees error value) :
    Transparent (state.set id (some error)) (values.set id value) := by
  constructor
  · rw [List.length_set, List.length_set, transparent.count]
  · intro other seen found
    by_cases same : id = other
    · have inside : other < values.length := by
        have bound := (List.getElem?_eq_some_iff.mp found).1
        rw [List.length_set] at bound
        exact bound
      subst same
      rw [List.getElem?_set_self inside] at found
      rw [← Option.some.inj found]
      refine ⟨error, ?_, agrees⟩
      unfold object
      rw [List.getElem?_set_self (by rw [transparent.count]; exact inside)]
      rfl
    · rw [List.getElem?_set_ne same] at found
      unfold object
      rw [List.getElem?_set_ne same]
      exact transparent.agrees other seen found

theorem agrees_object {id : Nat} {error : Error} (found : object state id = some error) :
    Agrees error (valueOf values id) := by
  unfold valueOf
  cases value : values[id]? with
  | none => exact True.intro
  | some seen =>
      obtain ⟨other, present, agrees⟩ := transparent.agrees id seen value
      rw [found] at present
      rw [Option.some.inj present]
      exact agrees

theorem agrees_source {other depth : Nat} {error : Error}
    (found : source state other depth = some error) :
    Agrees error ((valueOf values other).descend depth) := by
  obtain ⟨outer, present, taken⟩ := Option.bind_eq_some_iff.mp found
  exact agrees_descend (agrees_object transparent present) taken

theorem transparent_moved (other : Nat) (leftover : List Char) (found : Error) :
    Transparent (state.set other (some (movedFrom leftover found)))
      (values.set other .unspecified) :=
  transparent_set transparent other True.intro

theorem transparent_step_iff {after : State} {action : Action}
    (taken : step state action = some after) :
    Transparent after (valueStep values action) ↔ short action := by
  cases action with
  | construct code location text =>
      rw [← Option.some.inj taken]
      exact (transparent_add transparent).trans (construct_agrees_iff code location text)
  | constructPlain code location =>
      rw [← Option.some.inj taken]
      apply iff_of_true _ True.intro
      exact (transparent_add transparent).mpr ⟨_, rfl, ⟨rfl, rfl, rfl⟩, rfl⟩
  | copyConstruct other depth =>
      obtain ⟨found, present, rfl⟩ := Option.map_eq_some_iff.mp taken
      apply iff_of_true _ True.intro
      apply (transparent_add transparent).mpr
      exact ⟨copy found, rfl, (copy_eq found).symm ▸ agrees_source transparent present⟩
  | copyAssign id other depth =>
      obtain ⟨_, _, continued⟩ := Option.bind_eq_some_iff.mp taken
      obtain ⟨found, present, rfl⟩ := Option.map_eq_some_iff.mp continued
      apply iff_of_true _ True.intro
      dsimp only [valueStep]
      split
      · exact transparent
      · rw [copy_eq]
        exact transparent_set transparent id (agrees_source transparent present)
  | moveConstruct other leftover =>
      obtain ⟨found, present, rfl⟩ := Option.map_eq_some_iff.mp taken
      apply iff_of_true _ True.intro
      have moved := transparent_moved transparent other leftover found
      exact (transparent_add moved).mpr ⟨moveTo found, rfl, agrees_object transparent present⟩
  | moveAssign id other leftover =>
      obtain ⟨_, _, continued⟩ := Option.bind_eq_some_iff.mp taken
      obtain ⟨found, present, rfl⟩ := Option.map_eq_some_iff.mp continued
      apply iff_of_true _ True.intro
      dsimp only [valueStep]
      split
      · exact transparent
      · have moved := transparent_moved transparent other leftover found
        exact transparent_set moved id (agrees_object transparent present)
  | causedBy id other leftover =>
      obtain ⟨found, present, continued⟩ := Option.bind_eq_some_iff.mp taken
      obtain ⟨self, target, rfl⟩ := Option.map_eq_some_iff.mp continued
      apply iff_of_true _ True.intro
      have moved := transparent_moved transparent other leftover found
      apply transparent_set moved id
      exact agrees_caused (agrees_object moved target) (agrees_object transparent present)

end Steps

theorem transparent_started : Transparent [] [] := by
  constructor
  · rfl
  · intro id value found
    cases found

/-- In every run: the objects show what the values say in every state if and only if every
text that is formatted is shorter than the largest `int`. -/
theorem transparent_iff_short {trail : List (State × Action)} {last : State}
    (path : Path step [] trail last) :
    (∀ here ∈ visited (chronicle remember [] trail) (last, recollect remember [] trail),
        Transparent here.1 here.2) ↔
      ∀ taken ∈ chronicle remember [] trail, short taken.2 := by
  apply path_property_iff_good (fun _ => True)
    (fun here : State × List Value => Transparent here.1 here.2)
    (fun _ action => short action) True.intro transparent_started _ _
    (path_chronicle remember [] path)
  · exact fun _ _ _ _ _ => True.intro
  · intro here action after _ transparent taken
    obtain ⟨moved, note⟩ := watched_cases taken
    rw [note]
    exact transparent_step_iff transparent moved

/-! ## Runs -/

theorem letters_plain (count : Nat) : nul ∉ List.replicate count 'x' := by
  intro member
  have same : nul = 'x' := List.eq_of_mem_replicate member
  exact absurd same (by decide)

def letters (count : Nat) : Text where
  chars := List.replicate count 'x'
  plain := letters_plain count

def here : SourceLocation where
  file := "main.cpp".toList
  line := 7
  function := "main".toList

/-- A text that just fits into the array gets a cause whose text does not. Both are copied,
and the copies change places. -/
def aroundBoundary : List Action :=
  [.construct 1 here (letters 63), .construct 2 here (letters 64), .causedBy 0 1 [],
    .copyConstruct 0 0, .copyConstruct 0 1, .constructPlain 3 here, .moveAssign 4 2 [],
    .moveAssign 2 3 [], .copyAssign 3 4 0, .copyAssign 0 0 1]

def lengths (state : State) (id : Nat) : Option (Nat × Nat) :=
  (object state id).map fun error => ((message error.self).length, error.causes.length)

theorem transparent_around_boundary :
    ∃ last, exec step [] aroundBoundary = some last ∧
      Transparent last (recollect remember [] (trailOf step [] aroundBoundary)) ∧
      [0, 2, 3, 4].map (lengths last) =
        [some (64, 0), some (64, 0), some (63, 1), some (63, 1)] := by
  obtain ⟨last, executed, checked⟩ := exec_checked step [] aroundBoundary
    (fun last => decide ([0, 2, 3, 4].map (lengths last) =
      [some (64, 0), some (64, 0), some (63, 1), some (63, 1)])) (by decide)
  have transparent := (transparent_iff_short (path_of_exec executed)).mpr (by decide)
  exact ⟨last, executed, transparent _ (List.mem_append_right _ List.mem_cons_self),
    of_decide_eq_true checked⟩

theorem law_bounds_text (law : TransparencyLaw) (text : Text) : text.chars.length < intMax := by
  have taken : step [] (.construct 1 here text) = some [construct 1 here text] := rfl
  exact (transparent_step_iff transparent_started taken).mp (law _ _ (.next .here taken))

/-- A text of two gibibytes: `snprintf` returns a negative number, and what the array holds
is taken for the whole. -/
theorem huge_text_cut : ¬TransparencyLaw := by
  intro law
  have bounded := law_bounds_text law (letters 2147483648)
  have size : (letters 2147483648).chars.length = 2147483648 := List.length_replicate
  rw [size] at bounded
  exact absurd bounded (by decide)

end BackendComponents.Errors.Values
