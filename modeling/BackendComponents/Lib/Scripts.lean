import Mathlib.Data.List.Basic

/-!
# Scripts that call a server

A part of a small dynamically typed language: names, numbers and texts, comparisons,
conditional blocks, and calls of the commands of a server. A script runs alone on the state
of the server; when it fails, what its commands have done stays. `wp` is what must hold
before a statement so that its end meets a condition.
-/

namespace BackendComponents.Lib.Scripts

set_option autoImplicit false

abbrev Text := List Char

structure Arithmetic (Number : Type) where
  ofInt : Int → Number
  less : Number → Number → Bool
  /-- The number a text stands for. -/
  read : Text → Option Number
  /-- A number as an argument of a command. -/
  write : Number → Text
  /-- A number in what the script returns. -/
  truncate : Number → Int

inductive Value (Number : Type)
  | nil
  | truth (bool : Bool)
  | number (number : Number)
  | text (text : Text)
  | status

/-- What a command replies, and an entry of what a script returns. -/
inductive Reply
  | nothing
  | integer (value : Int)
  | text (text : Text)
  | status
  | error
  deriving DecidableEq, Repr

inductive Term (Name : Type)
  | name (name : Name)
  | integer (value : Int)
  | key (place : Nat)
  | argument (place : Nat)
  | toNumber (term : Term Name)
  | less (left right : Term Name)
  | negation (term : Term Name)

inductive Statement (Name : Type)
  | skip
  | assign (name : Name) (term : Term Name)
  | call (name : Name) (command : Text) (arguments : List (Term Name))
  | seq (first second : Statement Name)
  | branch (condition : Term Name) (body : Statement Name)
  | giveBack (terms : List (Term Name))

structure Env (Name Number : Type) where
  keys : List Text
  arguments : List Text
  names : Name → Value Number

inductive Outcome (Name Number : Type)
  | next (env : Env Name Number)
  | returned (replies : List Reply)
  | raised

section Semantics

variable {Name Number State : Type} [DecidableEq Name] (arithmetic : Arithmetic Number)

def Env.assign (env : Env Name Number) (name : Name) (value : Value Number) : Env Name Number :=
  { env with names := fun other => if other = name then value else env.names other }

def truthy : Value Number → Bool
  | .nil => false
  | .truth bool => bool
  | _ => true

def toNumber : Value Number → Value Number
  | .number number => .number number
  | .text text =>
      match arithmetic.read text with
      | some number => .number number
      | none => .nil
  | _ => .nil

def textAt (texts : List Text) : Nat → Value Number
  | 0 => .nil
  | place + 1 =>
      match texts[place]? with
      | some text => .text text
      | none => .nil

def eval (env : Env Name Number) : Term Name → Option (Value Number)
  | .name name => some (env.names name)
  | .integer value => some (.number (arithmetic.ofInt value))
  | .key place => some (textAt env.keys place)
  | .argument place => some (textAt env.arguments place)
  | .toNumber term => (eval env term).map (toNumber arithmetic)
  | .less left right =>
      match eval env left, eval env right with
      | some (.number first), some (.number second) =>
          some (.truth (arithmetic.less first second))
      | some (.text first), some (.text second) => some (.truth (decide (first < second)))
      | _, _ => none
  | .negation term => (eval env term).map fun value => .truth !truthy value

def argumentText : Value Number → Option Text
  | .number number => some (arithmetic.write number)
  | .text text => some text
  | _ => none

def ofReply : Reply → Value Number
  | .nothing => .truth false
  | .integer value => .number (arithmetic.ofInt value)
  | .text text => .text text
  | .status => .status
  | .error => .nil

/-- A list is returned up to its first `nil`. -/
def returned : List (Value Number) → List Reply
  | [] => []
  | .nil :: _ => []
  | .truth bool :: rest => (if bool then .integer 1 else .nothing) :: returned rest
  | .number number :: rest => .integer (arithmetic.truncate number) :: returned rest
  | .text text :: rest => .text text :: returned rest
  | .status :: rest => .status :: returned rest

variable (server : List Text → State → Reply × State)

def run : Statement Name → Env Name Number → State → Outcome Name Number × State
  | .skip, env, state => (.next env, state)
  | .assign name term, env, state =>
      match eval arithmetic env term with
      | some value => (.next (env.assign name value), state)
      | none => (.raised, state)
  | .call name command arguments, env, state =>
      match arguments.mapM fun term => (eval arithmetic env term).bind (argumentText arithmetic) with
      | none => (.raised, state)
      | some texts =>
          match server (command :: texts) state with
          | (.error, after) => (.raised, after)
          | (reply, after) => (.next (env.assign name (ofReply arithmetic reply)), after)
  | .seq first second, env, state =>
      match run first env state with
      | (.next later, after) => run second later after
      | stopped => stopped
  | .branch condition body, env, state =>
      match eval arithmetic env condition with
      | none => (.raised, state)
      | some value => if truthy value then run body env state else (.next env, state)
  | .giveBack terms, env, state =>
      match terms.mapM (eval arithmetic env) with
      | none => (.raised, state)
      | some values => (.returned (returned arithmetic values), state)

/-- A statement from this state on, with a condition on how it ends. -/
def wp : Statement Name → (Outcome Name Number → State → Prop) → Env Name Number → State → Prop
  | .skip, post, env, state => post (.next env) state
  | .assign name term, post, env, state =>
      match eval arithmetic env term with
      | some value => post (.next (env.assign name value)) state
      | none => post .raised state
  | .call name command arguments, post, env, state =>
      match arguments.mapM fun term => (eval arithmetic env term).bind (argumentText arithmetic) with
      | none => post .raised state
      | some texts =>
          match server (command :: texts) state with
          | (.error, after) => post .raised after
          | (reply, after) => post (.next (env.assign name (ofReply arithmetic reply))) after
  | .seq first second, post, env, state =>
      wp first (fun outcome after =>
        match outcome with
        | .next later => wp second post later after
        | stopped => post stopped after) env state
  | .branch condition body, post, env, state =>
      match eval arithmetic env condition with
      | none => post .raised state
      | some value => if truthy value then wp body post env state else post (.next env) state
  | .giveBack terms, post, env, state =>
      match terms.mapM (eval arithmetic env) with
      | none => post .raised state
      | some values => post (.returned (returned arithmetic values)) state

variable {arithmetic server}

/-- The condition before a statement says exactly what its run does. -/
theorem wp_iff (statement : Statement Name) (post : Outcome Name Number → State → Prop)
    (env : Env Name Number) (state : State) :
    wp arithmetic server statement post env state ↔
      post (run arithmetic server statement env state).1
        (run arithmetic server statement env state).2 := by
  induction statement generalizing post env state with
  | skip => rfl
  | assign name term =>
      unfold wp run
      cases eval arithmetic env term <;> rfl
  | call name command arguments =>
      unfold wp run
      split
      · rfl
      · split <;> rfl
  | seq first second ihFirst ihSecond =>
      unfold wp run
      rw [ihFirst]
      obtain ⟨outcome, after⟩ := run arithmetic server first env state
      cases outcome with
      | next later => exact ihSecond post later after
      | returned replies => rfl
      | raised => rfl
  | branch condition body ih =>
      unfold wp run
      cases eval arithmetic env condition with
      | none => rfl
      | some value =>
          dsimp only
          split
          · exact ih post env state
          · rfl
  | giveBack terms =>
      unfold wp run
      cases terms.mapM (eval arithmetic env) <;> rfl

/-! One rule for each way a statement at the front can go. -/

section Rules

variable {post : Outcome Name Number → State → Prop} {env : Env Name Number} {state : State}
  {rest : Statement Name}

theorem wp_assign {name : Name} {term : Term Name} {value : Value Number}
    (evaluated : eval arithmetic env term = some value)
    (later : wp arithmetic server rest post (env.assign name value) state) :
    wp arithmetic server (.seq (.assign name term) rest) post env state := by
  unfold wp wp
  rw [evaluated]
  exact later

theorem wp_call {name : Name} {command : Text} {arguments : List (Term Name)}
    {texts : List Text} {reply : Reply} {after : State}
    (sent : (arguments.mapM fun term => (eval arithmetic env term).bind
      (argumentText arithmetic)) = some texts)
    (answered : server (command :: texts) state = (reply, after)) (fine : reply ≠ .error)
    (later : wp arithmetic server rest post (env.assign name (ofReply arithmetic reply)) after) :
    wp arithmetic server (.seq (.call name command arguments) rest) post env state := by
  unfold wp wp
  rw [sent]
  dsimp only
  rw [answered]
  cases reply with
  | error => exact absurd rfl fine
  | nothing => exact later
  | integer value => exact later
  | text text => exact later
  | status => exact later

theorem wp_call_refused {name : Name} {command : Text} {arguments : List (Term Name)}
    {texts : List Text} {after : State}
    (sent : (arguments.mapM fun term => (eval arithmetic env term).bind
      (argumentText arithmetic)) = some texts)
    (answered : server (command :: texts) state = (.error, after)) (raised : post .raised after) :
    wp arithmetic server (.seq (.call name command arguments) rest) post env state := by
  unfold wp wp
  rw [sent]
  dsimp only
  rw [answered]
  exact raised

theorem wp_branch_returns {condition : Term Name} {terms : List (Term Name)}
    {value : Value Number} {values : List (Value Number)}
    (evaluated : eval arithmetic env condition = some value) (holds : truthy value = true)
    (given : terms.mapM (eval arithmetic env) = some values)
    (returns : post (.returned (returned arithmetic values)) state) :
    wp arithmetic server (.seq (.branch condition (.giveBack terms)) rest) post env state := by
  unfold wp wp
  rw [evaluated]
  dsimp only
  rw [if_pos holds]
  unfold wp
  rw [given]
  exact returns

theorem wp_branch_skipped {condition : Term Name} {body : Statement Name}
    {value : Value Number} (evaluated : eval arithmetic env condition = some value)
    (fails : truthy value = false) (later : wp arithmetic server rest post env state) :
    wp arithmetic server (.seq (.branch condition body) rest) post env state := by
  unfold wp wp
  rw [evaluated]
  dsimp only
  rw [if_neg (by simp [fails])]
  exact later

theorem wp_branch_raised {condition : Term Name} {body : Statement Name}
    (evaluated : eval arithmetic env condition = none) (raised : post .raised state) :
    wp arithmetic server (.seq (.branch condition body) rest) post env state := by
  unfold wp wp
  rw [evaluated]
  exact raised

theorem wp_give_back {terms : List (Term Name)} {values : List (Value Number)}
    (given : terms.mapM (eval arithmetic env) = some values)
    (returns : post (.returned (returned arithmetic values)) state) :
    wp arithmetic server (.giveBack terms) post env state := by
  unfold wp
  rw [given]
  exact returns

end Rules

end Semantics

end BackendComponents.Lib.Scripts
