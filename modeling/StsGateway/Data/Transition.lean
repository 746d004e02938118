namespace StsGateway.Data

/-! Deterministic labelled machines and their finite runs.

The label of a step carries everything the environment decides, so a run is a
list of labels. Clients state assumptions about a run as a condition on each
step, and state safety as an invariant that the steps meeting it preserve.
-/

/-- One step per label; a label that is not enabled in a state has no successor. -/
structure Machine (State Label : Type) where
  start : State
  step : State → Label → Option State

namespace Machine

variable {State Label : Type} (machine : Machine State Label)

def runFrom : State → List Label → Option State
  | state, [] => some state
  | state, label :: rest =>
      match machine.step state label with
      | none => none
      | some next => runFrom next rest

def run (labels : List Label) : Option State :=
  machine.runFrom machine.start labels

def StepsMeet (condition : State → Label → Prop) : State → List Label → Prop
  | _, [] => True
  | state, label :: rest =>
      condition state label ∧
        ∀ next, machine.step state label = some next → StepsMeet condition next rest

instance decidableStepsMeet (condition : State → Label → Prop)
    [∀ state label, Decidable (condition state label)] :
    ∀ state labels, Decidable (machine.StepsMeet condition state labels)
  | _, [] => isTrue trivial
  | state, label :: rest =>
      match stepped : machine.step state label with
      | none => decidable_of_iff (condition state label)
          ⟨fun meets => ⟨meets, fun next reached => by rw [stepped] at reached; contradiction⟩,
            fun meets => meets.1⟩
      | some next =>
          have := decidableStepsMeet condition next rest
          decidable_of_iff (condition state label ∧ machine.StepsMeet condition next rest)
            ⟨fun meets => ⟨meets.1, fun reached same => by
                rw [stepped] at same
                cases same
                exact meets.2⟩,
              fun meets => ⟨meets.1, meets.2 next stepped⟩⟩

variable {machine} {condition : State → Label → Prop}

theorem runFrom_cons {state after : State} {label : Label} {rest : List Label}
    (executed : machine.runFrom state (label :: rest) = some after) :
    ∃ next, machine.step state label = some next ∧ machine.runFrom next rest = some after := by
  cases stepped : machine.step state label with
  | none => simp [runFrom, stepped] at executed
  | some next => exact ⟨next, rfl, by simpa only [runFrom, stepped] using executed⟩

/-- The induction behind every safety result: what holds at the start and is
preserved by each step that meets the condition holds after every run of such steps. -/
theorem invariant_runFrom {invariant : State → Prop} {state after : State} {labels : List Label}
    (preserved : ∀ {before next label}, invariant before → condition before label →
      machine.step before label = some next → invariant next)
    (initial : invariant state) (meets : machine.StepsMeet condition state labels)
    (executed : machine.runFrom state labels = some after) : invariant after := by
  induction labels generalizing state with
  | nil =>
      cases executed
      exact initial
  | cons label rest ih =>
      obtain ⟨next, stepped, remaining⟩ := runFrom_cons executed
      exact ih (preserved initial meets.1 stepped) (meets.2 next stepped) remaining

theorem invariant_run {invariant : State → Prop} {after : State} {labels : List Label}
    (preserved : ∀ {before next label}, invariant before → condition before label →
      machine.step before label = some next → invariant next)
    (initial : invariant machine.start) (meets : machine.StepsMeet condition machine.start labels)
    (executed : machine.run labels = some after) : invariant after :=
  invariant_runFrom preserved initial meets executed

theorem stepsMeet_true (state : State) (labels : List Label) :
    machine.StepsMeet (fun _ _ => True) state labels := by
  induction labels generalizing state with
  | nil => trivial
  | cons label rest ih => exact ⟨trivial, fun next _ => ih next⟩

theorem stepsMeet_of_always (always : ∀ state label, condition state label) (state : State)
    (labels : List Label) : machine.StepsMeet condition state labels := by
  induction labels generalizing state with
  | nil => trivial
  | cons label rest ih => exact ⟨always state label, fun next _ => ih next⟩

theorem invariant_always {invariant : State → Prop} {after : State} {labels : List Label}
    (preserved : ∀ {before next label}, invariant before →
      machine.step before label = some next → invariant next)
    (initial : invariant machine.start)
    (executed : machine.run labels = some after) : invariant after := by
  have meets : machine.StepsMeet (fun _ _ => True) machine.start labels := stepsMeet_true _ _
  exact invariant_run (fun holds _ stepped => preserved holds stepped) initial meets executed

/-- Reached by a run whose steps all meet the condition. -/
def ReachedMeeting (machine : Machine State Label) (condition : State → Label → Prop) (state : State) :
    Prop :=
  ∃ labels, machine.run labels = some state ∧ machine.StepsMeet condition machine.start labels

theorem ReachedMeeting.start : machine.ReachedMeeting condition machine.start := ⟨[], rfl, trivial⟩

theorem runFrom_snoc_meeting {state before after : State} {labels : List Label} {label : Label}
    (executed : machine.runFrom state labels = some before)
    (earlier : machine.StepsMeet condition state labels) (meets : condition before label)
    (stepped : machine.step before label = some after) :
    machine.runFrom state (labels ++ [label]) = some after ∧
      machine.StepsMeet condition state (labels ++ [label]) := by
  induction labels generalizing state with
  | nil =>
      cases executed
      exact ⟨by rw [List.nil_append, runFrom, stepped]; rfl, meets, fun _ _ => trivial⟩
  | cons first rest ih =>
      obtain ⟨next, taken, remaining⟩ := runFrom_cons executed
      obtain ⟨ran, met⟩ := ih remaining (earlier.2 next taken)
      refine ⟨by rw [List.cons_append, runFrom, taken]; exact ran, earlier.1, ?_⟩
      intro other same
      rw [taken] at same
      cases same
      exact met

theorem ReachedMeeting.step {before after : State} {label : Label}
    (reached : machine.ReachedMeeting condition before) (meets : condition before label)
    (stepped : machine.step before label = some after) : machine.ReachedMeeting condition after := by
  obtain ⟨labels, executed, earlier⟩ := reached
  exact ⟨labels ++ [label], runFrom_snoc_meeting executed earlier meets stepped⟩

theorem ReachedMeeting.invariant {invariant : State → Prop} {state : State}
    (reached : machine.ReachedMeeting condition state)
    (preserved : ∀ {before next label}, invariant before → condition before label →
      machine.step before label = some next → invariant next)
    (initial : invariant machine.start) : invariant state := by
  obtain ⟨labels, executed, meets⟩ := reached
  exact invariant_run preserved initial meets executed

/-- If every step keeps a property exactly when it meets the condition, a run
keeps it exactly when all of its steps do. -/
theorem property_iff_stepsMeet {base property : State → Prop} {state after : State}
    {labels : List Label}
    (kept : ∀ {before next label}, base before →
      machine.step before label = some next → base next)
    (decided : ∀ {before next label}, base before → machine.step before label = some next →
      (property next ↔ property before ∧ condition before label))
    (based : base state) (executed : machine.runFrom state labels = some after) :
    property after ↔ property state ∧ machine.StepsMeet condition state labels := by
  induction labels generalizing state with
  | nil =>
      cases executed
      simp [StepsMeet]
  | cons label rest ih =>
      obtain ⟨next, stepped, remaining⟩ := runFrom_cons executed
      rw [ih (kept based stepped) remaining, decided based stepped, and_assoc, StepsMeet]
      simp [stepped]

/-! ### Variants -/

section Variant

variable {internal : Label → Prop} {measure : State → Nat}

/-- Steps that each spend some of a measure cannot go on for longer than it lasts. -/
theorem length_le_of_decreases
    (decreases : ∀ {before next label}, internal label →
      machine.step before label = some next → measure next < measure before)
    {state after : State} {labels : List Label} (all : ∀ label ∈ labels, internal label)
    (executed : machine.runFrom state labels = some after) :
    labels.length + measure after ≤ measure state := by
  induction labels generalizing state with
  | nil =>
      cases executed
      exact Nat.le_of_eq (Nat.zero_add _)
  | cons label rest ih =>
      obtain ⟨next, stepped, remaining⟩ := runFrom_cons executed
      obtain ⟨here, later⟩ := List.forall_mem_cons.mp all
      have spent := decreases here stepped
      have bound := ih later remaining
      rw [List.length_cons]
      omega

/-- Where no such step is enabled any more. -/
def Stuck (machine : Machine State Label) (internal : Label → Prop) (state : State) : Prop :=
  ∀ label, internal label → machine.step state label = none

/-- From every state such steps lead to one where none is left. -/
theorem exists_stuck
    (decreases : ∀ {before next label}, internal label →
      machine.step before label = some next → measure next < measure before) (state : State) :
    ∃ labels after, (∀ label ∈ labels, internal label) ∧
      machine.runFrom state labels = some after ∧ machine.Stuck internal after := by
  induction bound : measure state using Nat.strongRecOn generalizing state with
  | ind amount ih =>
      by_cases enabled : ∃ label next, internal label ∧ machine.step state label = some next
      · obtain ⟨label, next, here, stepped⟩ := enabled
        obtain ⟨labels, after, all, executed, stuck⟩ :=
          ih (measure next) (bound ▸ decreases here stepped) next rfl
        exact ⟨label :: labels, after, List.forall_mem_cons.mpr ⟨here, all⟩,
          by rw [runFrom, stepped]; exact executed, stuck⟩
      · refine ⟨[], state, nofun, rfl, ?_⟩
        intro label here
        cases stepped : machine.step state label with
        | none => rfl
        | some next => exact absurd ⟨label, next, here, stepped⟩ enabled

end Variant

theorem runFrom_append {state : State} {earlier later : List Label} :
    machine.runFrom state (earlier ++ later) =
      (machine.runFrom state earlier).bind fun between => machine.runFrom between later := by
  induction earlier generalizing state with
  | nil => rfl
  | cons label rest ih =>
      rw [List.cons_append, runFrom, runFrom]
      cases machine.step state label with
      | none => rfl
      | some next => exact ih

theorem run_concat {labels : List Label} {label : Label} {after : State}
    (executed : machine.run (labels ++ [label]) = some after) :
    ∃ before, machine.run labels = some before ∧ machine.step before label = some after := by
  rw [run, runFrom_append] at executed
  obtain ⟨before, earlier, last⟩ := Option.bind_eq_some_iff.mp executed
  obtain ⟨next, stepped, done⟩ := runFrom_cons last
  cases done
  exact ⟨before, earlier, stepped⟩

/-- Where each step of one machine is matched by another on the same label, so is a run. -/
theorem runFrom_matched {Opposite : Type} {other : Machine Opposite Label}
    (related : State → Opposite → Prop)
    (matched : ∀ {before next opposite label}, related before opposite →
      machine.step before label = some next →
        ∃ reached, other.step opposite label = some reached ∧ related next reached)
    {state after : State} {opposite : Opposite} {labels : List Label}
    (initial : related state opposite) (executed : machine.runFrom state labels = some after) :
    ∃ reached, other.runFrom opposite labels = some reached ∧ related after reached := by
  induction labels generalizing state opposite with
  | nil =>
      cases executed
      exact ⟨opposite, rfl, initial⟩
  | cons label rest ih =>
      obtain ⟨next, stepped, remaining⟩ := runFrom_cons executed
      obtain ⟨between, taken, holds⟩ := matched initial stepped
      obtain ⟨reached, ran, final⟩ := ih holds remaining
      exact ⟨reached, by rw [runFrom, taken]; exact ran, final⟩

/-- A log to which each step adds the event of its label holds those of the whole run. -/
theorem runFrom_logs {Event : Type} (log : State → List Event) (event : Label → Option Event)
    (logged : ∀ {before next label}, machine.step before label = some next →
      log next = log before ++ (event label).toList)
    {state after : State} {labels : List Label}
    (executed : machine.runFrom state labels = some after) :
    log after = log state ++ labels.filterMap event := by
  induction labels generalizing state with
  | nil =>
      cases executed
      exact (List.append_nil _).symm
  | cons label rest ih =>
      obtain ⟨next, stepped, remaining⟩ := runFrom_cons executed
      rw [ih remaining, logged stepped, List.append_assoc, List.filterMap_cons]
      cases event label <;> rfl

end Machine

end StsGateway.Data
