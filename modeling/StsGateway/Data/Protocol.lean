import Mathlib.Logic.Function.Basic
import StsGateway.Data.Interaction
import StsGateway.Data.Transition

namespace StsGateway.Data

/-! Programs that keep to a protocol, and threads that share one world.

A protocol says which operation may be performed in which phase and where its reply leads.
What a program follows is shown once, on the program; a property of the threads together
is then an invariant of the world and the phases, in which no program occurs.
-/

structure Protocol (Op : Type) (Reply : Op → Type) (Phase : Type) where
  step : Phase → (op : Op) → Reply op → Phase → Prop
  mayCrash : Phase → Prop

namespace Program

variable {Op Crash Phase α β : Type} {Reply : Op → Type}

/-- The program keeps to the protocol from this phase on, and what it returns is right
for the phase it ends in. -/
def Follows (protocol : Protocol Op Reply Phase) :
    Program Op Reply Crash α → (α → Phase → Prop) → Phase → Prop
  | .done value, post, phase => post value phase
  | .crash _, _, phase => protocol.mayCrash phase
  | .perform op next, post, phase => ∀ reply, ∃ after,
      protocol.step phase op reply after ∧ (next reply).Follows protocol post after

variable {protocol : Protocol Op Reply Phase} {phase : Phase}

theorem Follows.bind {first : Program Op Reply Crash α} {next : α → Program Op Reply Crash β}
    {middle : α → Phase → Prop} {post : β → Phase → Prop}
    (follows : first.Follows protocol middle phase)
    (continues : ∀ value after, middle value after → (next value).Follows protocol post after) :
    (first >>= next).Follows protocol post phase := by
  induction first generalizing phase with
  | done value => exact continues value phase follows
  | crash reason => exact follows
  | perform op continuation ih =>
      intro reply
      obtain ⟨after, led, rest⟩ := follows reply
      exact ⟨after, led, ih reply rest⟩

theorem Follows.call_bind {op : Op} {next : Reply op → Program Op Reply Crash β}
    {post : β → Phase → Prop}
    (answered : ∀ reply, ∃ after, protocol.step phase op reply after ∧
      (next reply).Follows protocol post after) :
    (Program.call op >>= next).Follows protocol post phase :=
  answered

theorem Follows.ofExcept_bind {result : Except Crash α} {next : α → Program Op Reply Crash β}
    {post : β → Phase → Prop}
    (crashes : ∀ reason, result = .error reason → protocol.mayCrash phase)
    (continues : ∀ value, result = .ok value → (next value).Follows protocol post phase) :
    (Program.ofExcept result >>= next).Follows protocol post phase := by
  cases result with
  | ok value => exact continues value rfl
  | error reason => exact crashes reason rfl

theorem Follows.iterate {body : Program Op Reply Crash Unit}
    (follows : body.Follows protocol (fun _ after => after = phase) phase) (count : Nat) :
    (body.iterate count).Follows protocol (fun _ after => after = phase) phase := by
  induction count with
  | zero => rfl
  | succ count ih =>
      refine Follows.bind follows ?_
      rintro _ _ rfl
      exact ih

/-- In a phase with no way on and no return, the program has crashed. -/
theorem Follows.crashed {program : Program Op Reply Crash α} {post : α → Phase → Prop}
    (replies : ∀ op, Nonempty (Reply op)) (stuck : ∀ op reply after, ¬protocol.step phase op reply after)
    (away : ∀ value, ¬post value phase) (follows : program.Follows protocol post phase) :
    ∃ reason, program = .crash reason := by
  cases program with
  | done value => exact absurd follows (away value)
  | crash reason => exact ⟨reason, rfl⟩
  | perform op next =>
      obtain ⟨reply⟩ := replies op
      obtain ⟨after, led, _⟩ := follows reply
      exact absurd led (stuck op reply after)

end Program

/-! ### Threads in one world -/

/-- The world knows who asks; an operation that cannot be answered yet blocks its thread. -/
structure SharedWorld (ι Op : Type) (Reply : Op → Type) (State Choice : Type) where
  respond : State → ι → Choice → (op : Op) → Option (Reply op × State)

section Crew

variable {Op Crash State Choice ι : Type} {Reply : Op → Type} [DecidableEq ι]

/-- Threads that each run their body over and over. -/
structure Crew (Op : Type) (Reply : Op → Type) (Crash State ι : Type) where
  state : State
  standing : ι → Program Op Reply Crash Unit

def SharedWorld.crew (world : SharedWorld ι Op Reply State Choice)
    (bodies : ι → Program Op Reply Crash Unit) (start : State) :
    Machine (Crew Op Reply Crash State ι) (ι × Choice) where
  start := ⟨start, bodies⟩
  step crew move :=
    match crew.standing move.1 with
    | .done () => some { crew with standing := Function.update crew.standing move.1 (bodies move.1) }
    | .crash _ => none
    | .perform op next =>
        (world.respond crew.state move.1 move.2 op).map fun answer =>
          ⟨answer.2, Function.update crew.standing move.1 (next answer.1)⟩

/-- Threads that each run another program before their body. -/
def SharedWorld.crewFrom (world : SharedWorld ι Op Reply State Choice)
    (first bodies : ι → Program Op Reply Crash Unit) (start : State) :
    Machine (Crew Op Reply Crash State ι) (ι × Choice) :=
  { world.crew bodies start with start := ⟨start, first⟩ }

/-- A condition on the operation a thread is about to perform. -/
def Crew.Meets (condition : State → ι → Choice → Op → Prop) (crew : Crew Op Reply Crash State ι)
    (move : ι × Choice) : Prop :=
  match crew.standing move.1 with
  | .done _ => True
  | .crash _ => True
  | .perform op _ => condition crew.state move.1 move.2 op

instance Crew.decidableMeets (condition : State → ι → Choice → Op → Prop)
    [∀ state index choice op, Decidable (condition state index choice op)]
    (crew : Crew Op Reply Crash State ι) (move : ι × Choice) : Decidable (crew.Meets condition move) :=
  match standing : crew.standing move.1 with
  | .done _ => isTrue (by rw [Crew.Meets, standing]; trivial)
  | .crash _ => isTrue (by rw [Crew.Meets, standing]; trivial)
  | .perform op _ => decidable_of_iff (condition crew.state move.1 move.2 op)
      (by rw [Crew.Meets, standing])

variable {Phase : ι → Type} {world : SharedWorld ι Op Reply State Choice}
  {bodies : ι → Program Op Reply Crash Unit} {start : State}
  {condition : State → ι → Choice → Op → Prop}

/-- Every thread stands somewhere in its protocol, and the world and the phases are
related as they should be. -/
def InPhase (protocol : (index : ι) → Protocol Op Reply (Phase index)) (home : (index : ι) → Phase index)
    (invariant : State → ((index : ι) → Phase index) → Prop) (crew : Crew Op Reply Crash State ι) : Prop :=
  ∃ phases : (index : ι) → Phase index,
    (∀ index, (crew.standing index).Follows (protocol index) (fun _ after => after = home index)
      (phases index)) ∧ invariant crew.state phases

variable {protocol : (index : ι) → Protocol Op Reply (Phase index)} {home : (index : ι) → Phase index}
  {invariant : State → ((index : ι) → Phase index) → Prop}

theorem follows_update {standing : ι → Program Op Reply Crash Unit}
    {phases : (index : ι) → Phase index} {index : ι} {program : Program Op Reply Crash Unit}
    {phase : Phase index}
    (follows : ∀ other, (standing other).Follows (protocol other) (fun _ after => after = home other)
      (phases other))
    (moved : program.Follows (protocol index) (fun _ after => after = home index) phase) (other : ι) :
    (Function.update standing index program other).Follows (protocol other)
      (fun _ after => after = home other) (Function.update phases index phase other) := by
  by_cases same : other = index
  · subst same
    rwa [Function.update_self, Function.update_self]
  · rw [Function.update_of_ne same, Function.update_of_ne same]
    exact follows other

theorem InPhase.step {first : ι → Program Op Reply Crash Unit} {before after : Crew Op Reply Crash State ι}
    {move : ι × Choice}
    (follow : ∀ index, (bodies index).Follows (protocol index) (fun _ after => after = home index)
      (home index))
    (preserved : ∀ {before phases index choice op reply after phase}, invariant before phases →
      condition before index choice op → world.respond before index choice op = some (reply, after) →
      (protocol index).step (phases index) op reply phase →
      invariant after (Function.update phases index phase))
    (holds : InPhase protocol home invariant before) (meets : before.Meets condition move)
    (stepped : (world.crewFrom first bodies start).step before move = some after) :
    InPhase protocol home invariant after := by
  obtain ⟨phases, follows, kept⟩ := holds
  obtain ⟨index, choice⟩ := move
  have own := follows index
  simp only [SharedWorld.crewFrom, SharedWorld.crew] at stepped
  simp only [Crew.Meets] at meets
  split at stepped
  · rename_i ended
    cases stepped
    rw [ended] at own
    refine ⟨phases, fun other => ?_, kept⟩
    have moved := follows_update follows (follow index) other
    have unchanged : Function.update phases index (home index) = phases := by
      rw [← show phases index = home index from own, Function.update_eq_self]
    rwa [unchanged] at moved
  · contradiction
  · rename_i op next performing
    obtain ⟨answer, answered, rfl⟩ := Option.map_eq_some_iff.mp stepped
    obtain ⟨reply, state⟩ := answer
    rw [performing] at own meets
    obtain ⟨phase, led, continued⟩ := own reply
    exact ⟨Function.update phases index phase, follows_update follows continued,
      preserved kept meets answered led⟩

/-- Safety of threads that share a world: no program has to be looked at again. -/
theorem crewFrom_inPhase {first : ι → Program Op Reply Crash Unit} {entry : (index : ι) → Phase index}
    {moves : List (ι × Choice)} {after : Crew Op Reply Crash State ι}
    (enter : ∀ index, (first index).Follows (protocol index) (fun _ after => after = home index)
      (entry index))
    (follow : ∀ index, (bodies index).Follows (protocol index) (fun _ after => after = home index)
      (home index))
    (preserved : ∀ {before phases index choice op reply after phase}, invariant before phases →
      condition before index choice op → world.respond before index choice op = some (reply, after) →
      (protocol index).step (phases index) op reply phase →
      invariant after (Function.update phases index phase))
    (initial : invariant start entry)
    (meets : (world.crewFrom first bodies start).StepsMeet (Crew.Meets condition)
      (world.crewFrom first bodies start).start moves)
    (executed : (world.crewFrom first bodies start).run moves = some after) :
    InPhase protocol home invariant after := by
  have begun : InPhase protocol home invariant (world.crewFrom first bodies start).start :=
    ⟨entry, enter, initial⟩
  exact Machine.invariant_run (InPhase.step follow preserved) begun meets executed

theorem crewFrom_meets {first : ι → Program Op Reply Crash Unit}
    (always : ∀ state index choice op, condition state index choice op) (moves : List (ι × Choice))
    (before : Crew Op Reply Crash State ι) :
    (world.crewFrom first bodies start).StepsMeet (Crew.Meets condition) before moves := by
  refine Machine.stepsMeet_of_always ?_ before moves
  intro crew move
  unfold Crew.Meets
  split
  · trivial
  · trivial
  · exact always ..

end Crew

end StsGateway.Data
