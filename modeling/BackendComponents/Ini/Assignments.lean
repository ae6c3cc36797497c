import BackendComponents.Ini.Lines
import Mathlib.Order.Bounds.Basic
import Mathlib.Order.Lattice.Nat

/-!
# Which assignments survive

`load` empties a section whenever it opens it: at every header, also a repeated one, and
when an assignment without a section opens `Global`, also when `Global` has entries. An
assignment survives if nothing after it assigns its key again or opens its section.
-/

namespace BackendComponents.Ini.Assignments

open BackendComponents.Ini.Model
open BackendComponents.Ini.Lines

set_option autoImplicit false

def closestHeader (before : List Line) : Option Text :=
  before.foldl (fun last line => match line with
    | .header name => some name
    | _ => last) none

def inForce (before : List Line) : Text :=
  match closestHeader before with
  | none => globalName
  | some name => if name = [] then globalName else name

/-- No header, or one with the empty name, and no assignment since. -/
def unassigned (before : List Line) : Bool :=
  before.foldl (fun waiting line => match line with
    | .skipped => waiting
    | .header name => name.isEmpty
    | .assignment _ _ => false) true

structure Assigns (lines : List Line) (place : Nat) (name key : Text) (value : Value) : Prop where
  line : lines[place]? = some (.assignment key value)
  section_eq : inForce (lines.take place) = name

def Resets (lines : List Line) (place : Nat) (name : Text) : Prop :=
  lines[place]? = some (.header name) ∨
    ∃ key value, lines[place]? = some (.assignment key value) ∧
      unassigned (lines.take place) = true ∧ name = globalName

structure AssignsLast (lines : List Line) (place : Nat) (name key : Text) (value : Value) :
    Prop where
  assigns : Assigns lines place name key value
  final : ∀ later, place < later → ∀ other, ¬Assigns lines later name key other

structure NoAssignmentLost (text : Text) : Prop where
  kept : ∀ place name key value, Assigns (linesOf text) place name key value →
    ∃ final last, AssignsLast (linesOf text) final name key last ∧
      entry (loaded text) name key = some last
  justified : ∀ name key value, entry (loaded text) name key = some value →
    ∃ place, Assigns (linesOf text) place name key value

/-- What a section was assigned before a line that opens it is assigned to it again. -/
def Reassigned (lines : List Line) : Prop :=
  ∀ reset name, Resets lines reset name → ∀ place, place < reset → ∀ key value,
    Assigns lines place name key value →
      ∃ again, reset ≤ again ∧ ∃ other, Assigns lines again name key other

theorem in_force_snoc (lines : List Line) (line : Line) :
    inForce (lines ++ [line]) = match line with
      | .header name => if name = [] then globalName else name
      | _ => inForce lines := by
  cases line <;> simp [inForce, closestHeader]

theorem unassigned_snoc (lines : List Line) (line : Line) :
    unassigned (lines ++ [line]) = match line with
      | .skipped => unassigned lines
      | .header name => name.isEmpty
      | .assignment _ _ => false := by
  cases line <;> simp [unassigned]

/-- `current_section` is the section in force, except that it stays empty until an
assignment opens `Global`. -/
structure Follows (lines : List Line) : Prop where
  waiting : unassigned lines = true →
    (run lines).currentSection = [] ∧ inForce lines = globalName
  settled : unassigned lines = false →
    (run lines).currentSection = inForce lines ∧ inForce lines ≠ []

theorem follows_run (lines : List Line) : Follows lines := by
  induction lines using List.reverseRecOn with
  | nil =>
      constructor
      · intro _
        exact ⟨rfl, rfl⟩
      · intro impossible
        cases impossible
  | append_singleton lines line ih =>
      constructor
      · rw [unassigned_snoc, in_force_snoc, run_snoc]
        cases line with
        | skipped => exact ih.waiting
        | header name =>
            intro empty
            have nameEmpty : name = [] := by simpa using empty
            subst nameEmpty
            exact ⟨rfl, rfl⟩
        | assignment key value =>
            intro impossible
            cases impossible
      · rw [unassigned_snoc, in_force_snoc, run_snoc]
        cases line with
        | skipped => exact ih.settled
        | header name =>
            intro nonempty
            have named : name ≠ [] := by simpa using nonempty
            simp [after, Loading.openSection, named]
        | assignment key value =>
            intro _
            cases early : unassigned lines with
            | true =>
                obtain ⟨current, force⟩ := ih.waiting early
                simp [after, Loading.openSection, Loading.put, current, force,
                  global_name_nonempty]
            | false =>
                obtain ⟨current, force⟩ := ih.settled early
                simp [after, Loading.put, current, force]

/-- The last line that assigns this entry, with no line after it that opens the section. -/
structure Survives (lines : List Line) (place : Nat) (name key : Text) (value : Value) :
    Prop where
  last : AssignsLast lines place name key value
  untouched : ∀ later, place < later → ¬Resets lines later name

theorem assigns_bound {lines : List Line} {place : Nat} {name key : Text} {value : Value}
    (assigns : Assigns lines place name key value) : place < lines.length :=
  (List.getElem?_eq_some_iff.mp assigns.line).1

theorem resets_bound {lines : List Line} {place : Nat} {name : Text}
    (resets : Resets lines place name) : place < lines.length := by
  rcases resets with found | ⟨key, value, found, _⟩ <;>
    exact (List.getElem?_eq_some_iff.mp found).1

theorem getElem_snoc_old {lines : List Line} (line : Line) {place : Nat}
    (early : place < lines.length) : (lines ++ [line])[place]? = lines[place]? :=
  List.getElem?_append_left early

theorem take_snoc_old {lines : List Line} (line : Line) {place : Nat}
    (early : place < lines.length) : (lines ++ [line]).take place = lines.take place :=
  List.take_append_of_le_length (Nat.le_of_lt early)

theorem assigns_snoc_old {lines : List Line} (line : Line) {place : Nat} {name key : Text}
    {value : Value} (early : place < lines.length) :
    Assigns (lines ++ [line]) place name key value ↔ Assigns lines place name key value := by
  constructor
  · rintro ⟨found, force⟩
    rw [getElem_snoc_old line early] at found
    rw [take_snoc_old line early] at force
    exact ⟨found, force⟩
  · rintro ⟨found, force⟩
    rw [← getElem_snoc_old line early] at found
    rw [← take_snoc_old line early] at force
    exact ⟨found, force⟩

theorem assigns_snoc_new (lines : List Line) (line : Line) (name key : Text) (value : Value) :
    Assigns (lines ++ [line]) lines.length name key value ↔
      line = .assignment key value ∧ inForce lines = name := by
  constructor
  · rintro ⟨found, force⟩
    exact ⟨by simpa using found, by simpa using force⟩
  · rintro ⟨found, force⟩
    exact ⟨by simpa using found, by simpa using force⟩

theorem resets_snoc_old {lines : List Line} (line : Line) {place : Nat} {name : Text}
    (early : place < lines.length) :
    Resets (lines ++ [line]) place name ↔ Resets lines place name := by
  unfold Resets
  rw [getElem_snoc_old line early, take_snoc_old line early]

theorem resets_snoc_new (lines : List Line) (line : Line) (name : Text) :
    Resets (lines ++ [line]) lines.length name ↔
      line = .header name ∨
        (∃ key value, line = .assignment key value) ∧ unassigned lines = true ∧
          name = globalName := by
  unfold Resets
  simp

/-- An entry survives one more line if that line assigns it, or if the line leaves it and
its section alone. -/
theorem survives_snoc_iff (lines : List Line) (line : Line) (name key : Text) (value : Value) :
    (∃ place, Survives (lines ++ [line]) place name key value) ↔
      (line = .assignment key value ∧ inForce lines = name) ∨
        ((∀ other, ¬(line = .assignment key other ∧ inForce lines = name)) ∧
          ¬Resets (lines ++ [line]) lines.length name ∧
            ∃ place, Survives lines place name key value) := by
  constructor
  · rintro ⟨place, ⟨assigns, final⟩, untouched⟩
    have bound := assigns_bound assigns
    rw [List.length_append, List.length_singleton] at bound
    rcases Nat.lt_succ_iff_lt_or_eq.mp bound with early | rfl
    · apply Or.inr
      refine ⟨?_, untouched lines.length early, place, ⟨?_, ?_⟩, ?_⟩
      · intro other now
        exact final lines.length early other ((assigns_snoc_new lines line name key other).mpr now)
      · exact (assigns_snoc_old line early).mp assigns
      · intro later above other again
        have inside := assigns_bound again
        exact final later above other ((assigns_snoc_old line inside).mpr again)
      · intro later above again
        have inside := resets_bound again
        exact untouched later above ((resets_snoc_old line inside).mpr again)
    · exact Or.inl ((assigns_snoc_new lines line name key value).mp assigns)
  · rintro (now | ⟨leaves, opens, place, ⟨assigns, final⟩, untouched⟩)
    · refine ⟨lines.length, ⟨(assigns_snoc_new lines line name key value).mpr now, ?_⟩, ?_⟩
      · intro later above other again
        have bound := assigns_bound again
        rw [List.length_append, List.length_singleton] at bound
        omega
      · intro later above again
        have bound := resets_bound again
        rw [List.length_append, List.length_singleton] at bound
        omega
    · have early := assigns_bound assigns
      refine ⟨place, ⟨(assigns_snoc_old line early).mpr assigns, ?_⟩, ?_⟩
      · intro later above other again
        have bound := assigns_bound again
        rw [List.length_append, List.length_singleton] at bound
        rcases Nat.lt_succ_iff_lt_or_eq.mp bound with inside | rfl
        · exact final later above other ((assigns_snoc_old line inside).mp again)
        · exact leaves other ((assigns_snoc_new lines line name key other).mp again)
      · intro later above again
        have bound := resets_bound again
        rw [List.length_append, List.length_singleton] at bound
        rcases Nat.lt_succ_iff_lt_or_eq.mp bound with inside | rfl
        · exact untouched later above ((resets_snoc_old line inside).mp again)
        · exact opens again

theorem entry_snoc (lines : List Line) (line : Line) (name key : Text) :
    entry (run (lines ++ [line])).ini name key = match line with
      | .skipped => entry (run lines).ini name key
      | .header opened => if name = opened then none else entry (run lines).ini name key
      | .assignment assigned value =>
          if name = inForce lines ∧ key = assigned then some value
          else if unassigned lines = true ∧ name = globalName then none
          else entry (run lines).ini name key := by
  rw [run_snoc]
  cases line with
  | skipped => rfl
  | header opened => exact entry_open _ _ _ _
  | assignment assigned value =>
      dsimp only [after]
      cases waiting : unassigned lines with
      | true =>
          obtain ⟨current, force⟩ := (follows_run lines).waiting waiting
          rw [if_pos current, entry_put, entry_open, force]
          by_cases same : name = globalName <;> simp [Loading.openSection, same]
      | false =>
          obtain ⟨current, force⟩ := (follows_run lines).settled waiting
          rw [if_neg (by rw [current]; exact force), entry_put, current]
          simp

theorem survives_assigned {lines : List Line} {name key : Text} {assigned : Value}
    (force : inForce lines = name) (value : Value) :
    (∃ place, Survives (lines ++ [.assignment key assigned]) place name key value) ↔
      assigned = value := by
  rw [survives_snoc_iff]
  constructor
  · rintro (⟨same, _⟩ | ⟨leaves, _⟩)
    · exact (Line.assignment.inj same).2
    · exact absurd ⟨rfl, force⟩ (leaves assigned)
  · rintro rfl
    exact Or.inl ⟨rfl, force⟩

theorem survives_kept {lines : List Line} {line : Line} {name key : Text}
    (leaves : ∀ other, ¬(line = .assignment key other ∧ inForce lines = name))
    (closed : ¬Resets (lines ++ [line]) lines.length name) (value : Value) :
    (∃ place, Survives (lines ++ [line]) place name key value) ↔
      ∃ place, Survives lines place name key value := by
  rw [survives_snoc_iff]
  constructor
  · rintro (now | ⟨_, _, found⟩)
    · exact absurd now (leaves value)
    · exact found
  · intro found
    exact Or.inr ⟨leaves, closed, found⟩

theorem survives_emptied {lines : List Line} {line : Line} {name key : Text}
    (leaves : ∀ other, ¬(line = .assignment key other ∧ inForce lines = name))
    (opens : Resets (lines ++ [line]) lines.length name) (value : Value) :
    ¬∃ place, Survives (lines ++ [line]) place name key value := by
  rw [survives_snoc_iff]
  rintro (now | ⟨_, closed, _⟩)
  · exact leaves value now
  · exact closed opens

theorem entry_run (lines : List Line) (name key : Text) (value : Value) :
    entry (run lines).ini name key = some value ↔
      ∃ place, Survives lines place name key value := by
  induction lines using List.reverseRecOn with
  | nil =>
      constructor
      · intro impossible
        cases impossible
      · rintro ⟨place, survives⟩
        cases assigns_bound survives.last.assigns
  | append_singleton lines line ih =>
      rw [entry_snoc]
      cases line with
      | skipped =>
          rw [survives_kept (by simp) (by simp [resets_snoc_new])]
          exact ih
      | header opened =>
          have leaves : ∀ other, ¬(Line.header opened = .assignment key other ∧
              inForce lines = name) := by simp
          dsimp only
          by_cases same : name = opened
          · rw [if_pos same]
            have emptied := survives_emptied leaves (by simp [resets_snoc_new, same]) value
            simpa using emptied
          · rw [if_neg same, survives_kept leaves]
            · exact ih
            · intro opens
              rcases (resets_snoc_new lines _ name).mp opens with equal | ⟨⟨_, _, equal⟩, _⟩
              · exact same (Line.header.inj equal).symm
              · cases equal
      | assignment assigned written =>
          dsimp only
          by_cases here : name = inForce lines ∧ key = assigned
          · obtain ⟨force, rfl⟩ := here
            rw [if_pos ⟨force, rfl⟩, survives_assigned force.symm]
            exact Option.some_inj
          · rw [if_neg here]
            have leaves : ∀ other, ¬(Line.assignment assigned written = .assignment key other ∧
                inForce lines = name) := by
              rintro other ⟨same, force⟩
              exact here ⟨force.symm, (Line.assignment.inj same).1.symm⟩
            by_cases opens : unassigned lines = true ∧ name = globalName
            · rw [if_pos opens]
              have emptied := survives_emptied leaves (by simp [resets_snoc_new, opens]) value
              simpa using emptied
            · rw [if_neg opens, survives_kept leaves]
              · exact ih
              · simpa [resets_snoc_new] using opens

theorem exists_greatest (holds : Nat → Prop) (bound : Nat) (some : ∃ place, holds place)
    (below : ∀ place, holds place → place < bound) :
    ∃ place, holds place ∧ ∀ later, place < later → ¬holds later := by
  have above : BddAbove {place | holds place} :=
    ⟨bound, fun place found => Nat.le_of_lt (below place found)⟩
  apply Exists.intro (sSup {place | holds place})
  constructor
  · exact Nat.sSup_mem some above
  · intro later beyond found
    have least := le_csSup above found
    omega

theorem exists_assigns_last {lines : List Line} {place : Nat} {name key : Text} {value : Value}
    (assigns : Assigns lines place name key value) :
    ∃ final last, place ≤ final ∧ AssignsLast lines final name key last := by
  obtain ⟨final, ⟨later, last, found⟩, beyond⟩ := exists_greatest
    (fun other => place ≤ other ∧ ∃ last, Assigns lines other name key last) lines.length
    ⟨place, Nat.le_refl _, value, assigns⟩ (fun other found => assigns_bound found.2.choose_spec)
  refine ⟨final, last, later, found, ?_⟩
  intro after above other again
  exact beyond after above ⟨Nat.le_trans later (Nat.le_of_lt above), other, again⟩

theorem reassigned_of_kept {lines : List Line}
    (kept : ∀ place name key value, Assigns lines place name key value →
      ∃ final last, Survives lines final name key last) : Reassigned lines := by
  intro reset name opens place before key value assigns
  obtain ⟨final, last, survives⟩ := kept place name key value assigns
  refine ⟨final, ?_, last, survives.last.assigns⟩
  by_contra early
  exact survives.untouched reset (by omega) opens

theorem kept_of_reassigned {lines : List Line} (reassigned : Reassigned lines) {place : Nat}
    {name key : Text} {value : Value} (assigns : Assigns lines place name key value) :
    ∃ final last, Survives lines final name key last := by
  obtain ⟨final, last, _, finalAssigns⟩ := exists_assigns_last assigns
  refine ⟨final, last, finalAssigns, ?_⟩
  intro reset later opens
  obtain ⟨again, after, other, found⟩ :=
    reassigned reset name opens final later key last finalAssigns.assigns
  exact finalAssigns.final again (by omega) other found

/-- `load` loses no assignment exactly when every section that is opened again is given
its earlier keys again. -/
theorem no_assignment_lost_iff (text : Text) :
    NoAssignmentLost text ↔ Reassigned (linesOf text) := by
  constructor
  · intro property
    apply reassigned_of_kept
    intro place name key value assigns
    obtain ⟨_, last, _, present⟩ := property.kept place name key value assigns
    rw [loaded_eq] at present
    obtain ⟨final, survives⟩ := (entry_run _ _ _ _).mp present
    exact ⟨final, last, survives⟩
  · intro reassigned
    constructor
    · intro place name key value assigns
      obtain ⟨final, last, survives⟩ := kept_of_reassigned reassigned assigns
      refine ⟨final, last, survives.last, ?_⟩
      rw [loaded_eq]
      exact (entry_run _ _ _ _).mpr ⟨final, survives⟩
    · intro name key value present
      rw [loaded_eq] at present
      obtain ⟨place, survives⟩ := (entry_run _ _ _ _).mp present
      exact ⟨place, survives.last.assigns⟩

/-- Loading a file whose global entry is followed by the header `[Global]`. -/
theorem repeated_header_loses_entry :
    ¬∀ text, NoAssignmentLost text := by
  intro law
  have assigns : Assigns (linesOf "a=1\n[Global]\nb=2".toList) 0 "Global".toList ['a'] ['1'] := by
    constructor <;> decide
  obtain ⟨final, last, _, present⟩ := (law _).kept 0 _ _ _ assigns
  have missing : entry (loaded "a=1\n[Global]\nb=2".toList) "Global".toList ['a'] = none := by
    decide
  rw [missing] at present
  cases present

end BackendComponents.Ini.Assignments
