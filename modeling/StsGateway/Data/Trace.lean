import Mathlib.Data.List.Forall2
import StsGateway.Data.Interaction

namespace StsGateway.Data.Program

/-! Complete executions of a program, in any environment at all.

A trace lists the operations a program performed with the replies they got. What
holds of every trace that ends in a return holds of every completed run in every
world; a world that keeps a log of some operations logs exactly those of the trace.
-/

variable {Op Crash α β γ State Choice Event : Type} {Reply : Op → Type}

inductive Returns : Program Op Reply Crash α → List ((op : Op) × Reply op) → α → Prop where
  | done (value : α) : Returns (.done value) [] value
  | perform {op : Op} {next : Reply op → Program Op Reply Crash α}
      {trace : List ((op : Op) × Reply op)} {value : α} (reply : Reply op)
      (returned : Returns (next reply) trace value) :
      Returns (.perform op next) (⟨op, reply⟩ :: trace) value

section Rules

variable {trace : List ((op : Op) × Reply op)}

theorem Returns.pure_inv {value result : α}
    (returned : (pure value : Program Op Reply Crash α).Returns trace result) :
    trace = [] ∧ result = value := by
  cases returned
  exact ⟨rfl, rfl⟩

theorem Returns.bind_inv {first : Program Op Reply Crash α}
    {next : α → Program Op Reply Crash β} {result : β}
    (returned : (first >>= next).Returns trace result) :
    ∃ earlier later value, trace = earlier ++ later ∧ first.Returns earlier value ∧
      (next value).Returns later result := by
  induction first generalizing trace with
  | done value => exact ⟨[], trace, value, rfl, .done value, returned⟩
  | crash reason => cases returned
  | perform op continuation ih =>
      cases returned with
      | perform reply returned =>
          obtain ⟨earlier, later, value, rfl, started, continued⟩ := ih reply returned
          exact ⟨_, later, value, rfl, .perform reply started, continued⟩

theorem Returns.call_bind_inv {op : Op} {next : Reply op → Program Op Reply Crash β} {result : β}
    (returned : (call op >>= next).Returns trace result) :
    ∃ reply later, trace = ⟨op, reply⟩ :: later ∧ (next reply).Returns later result := by
  cases returned with
  | perform reply returned => exact ⟨reply, _, rfl, returned⟩

theorem Returns.ofExcept_bind_inv {outcome : Except Crash α}
    {next : α → Program Op Reply Crash β} {result : β}
    (returned : (ofExcept outcome >>= next).Returns trace result) :
    ∃ value, outcome = .ok value ∧ (next value).Returns trace result := by
  cases outcome with
  | ok value => exact ⟨value, rfl, returned⟩
  | error reason => cases returned

/-- The loop rule: the invariant speaks about the items done, and about the
trace and the value so far. -/
theorem Returns.foldlM (invariant : List γ → List ((op : Op) × Reply op) → β → Prop)
    {body : β → γ → Program Op Reply Crash β} {items : List γ} {initial result : β}
    (returned : (items.foldlM body initial).Returns trace result)
    (entered : invariant [] [] initial)
    (iterated : ∀ earlier item later, items = earlier ++ item :: later →
      ∀ before value piece after, invariant earlier before value →
        (body value item).Returns piece after →
        invariant (earlier ++ [item]) (before ++ piece) after) :
    invariant items trace result := by
  suffices loop : ∀ earlier later, items = earlier ++ later → ∀ before value rest,
      invariant earlier before value → (later.foldlM body value).Returns rest result →
      invariant items (before ++ rest) result from
    loop [] items rfl [] initial trace entered returned
  intro earlier later
  induction later generalizing earlier with
  | nil =>
      intro split before value rest holds ended
      rw [List.foldlM_nil] at ended
      obtain ⟨rfl, rfl⟩ := ended.pure_inv
      rw [List.append_nil] at split ⊢
      rw [split]
      exact holds
  | cons item later ih =>
      intro split before value rest holds ended
      rw [List.foldlM_cons] at ended
      obtain ⟨piece, rest, after, rfl, stepped, remaining⟩ := ended.bind_inv
      rw [← List.append_assoc]
      exact ih (earlier ++ [item]) (by simp [split]) (before ++ piece) after rest
        (iterated earlier item later split before value piece after holds stepped) remaining

theorem Returns.calls {allowed : Op → Prop} {program : Program Op Reply Crash α} {value : α}
    (returned : program.Returns trace value) (calls : program.Calls allowed) :
    ∀ performed ∈ trace, allowed performed.1 := by
  induction returned with
  | done value => exact fun performed member => absurd member List.not_mem_nil
  | perform reply returned ih =>
      intro performed member
      rcases List.mem_cons.mp member with rfl | member
      · exact calls.1
      · exact ih (calls.2 reply) performed member

end Rules

/-- A completed run has a trace, and a world that logs its operations one by one
has logged those of the trace. -/
theorem returns_of_run {world : World Op Reply State Choice} (log : State → List Event)
    (event : Op → Option Event)
    (logged : ∀ state choice op,
      log (world.respond state choice op).2 = log state ++ (event op).toList)
    {program : Program Op Reply Crash α} {state : State} {choices : List Choice} {value : α}
    (ran : (program.run world state choices).1 = .returned value) :
    ∃ trace, program.Returns trace value ∧ log (program.run world state choices).2 =
      log state ++ trace.filterMap fun performed => event performed.1 := by
  induction program generalizing state choices with
  | done result =>
      cases ran
      exact ⟨[], .done _, (List.append_nil _).symm⟩
  | crash reason => cases ran
  | perform op next ih =>
      cases choices with
      | nil => cases ran
      | cons choice rest =>
          obtain ⟨trace, returned, recorded⟩ := ih _ ran
          refine ⟨⟨op, _⟩ :: trace, .perform _ returned, ?_⟩
          rw [run, recorded, logged, List.filterMap_cons, List.append_assoc]
          cases event op <;> rfl

/-! ### Executions under way -/

/-- Where a program stands after the operations of a trace. -/
inductive Reaches : Program Op Reply Crash α → List ((op : Op) × Reply op) →
    Program Op Reply Crash α → Prop where
  | start (program : Program Op Reply Crash α) : Reaches program [] program
  | perform {op : Op} {next : Reply op → Program Op Reply Crash α}
      {trace : List ((op : Op) × Reply op)} {standing : Program Op Reply Crash α} (reply : Reply op)
      (reached : Reaches (next reply) trace standing) :
      Reaches (.perform op next) (⟨op, reply⟩ :: trace) standing

section Progress

variable {trace : List ((op : Op) × Reply op)} {program standing : Program Op Reply Crash α}

theorem Reaches.snoc {op : Op} {next : Reply op → Program Op Reply Crash α}
    (reached : program.Reaches trace (.perform op next)) (reply : Reply op) :
    program.Reaches (trace ++ [⟨op, reply⟩]) (next reply) := by
  generalize same : Program.perform op next = standing at reached
  induction reached with
  | start program =>
      subst same
      exact .perform reply (.start _)
  | perform earlier reached ih => exact .perform earlier (ih same)

theorem Reaches.returns {value : α} (reached : program.Reaches trace (.done value)) :
    program.Returns trace value := by
  generalize same : Program.done value = standing at reached
  induction reached with
  | start program =>
      subst same
      exact .done value
  | perform reply reached ih => exact .perform reply (ih same)

/-- Either the first part is still under way, or it has returned. -/
theorem Reaches.bind_inv {first : Program Op Reply Crash α} {next : α → Program Op Reply Crash β}
    {standing : Program Op Reply Crash β} (reached : (first >>= next).Reaches trace standing) :
    (∃ before, first.Reaches trace before) ∨
      ∃ earlier later value, trace = earlier ++ later ∧ first.Returns earlier value ∧
        (next value).Reaches later standing := by
  induction first generalizing trace with
  | done value => exact .inr ⟨[], trace, value, rfl, .done value, reached⟩
  | crash reason =>
      cases reached
      exact .inl ⟨_, .start _⟩
  | perform op continuation ih =>
      cases reached with
      | start => exact .inl ⟨_, .start _⟩
      | perform reply reached =>
          rcases ih reply reached with ⟨before, under⟩ | ⟨earlier, later, value, rfl, ended, rest⟩
          · exact .inl ⟨before, .perform reply under⟩
          · exact .inr ⟨_, later, value, rfl, .perform reply ended, rest⟩

/-- A loop under way has been through its first items, one after another, and may be
somewhere inside the next. -/
theorem Reaches.foldlM {body : β → γ → Program Op Reply Crash β} {items : List γ} {initial : β}
    {standing : Program Op Reply Crash β}
    (reached : (items.foldlM body initial).Reaches trace standing) :
    ∃ done later rounds under, items = done ++ later ∧ trace = rounds.flatten ++ under ∧
      List.Forall₂ (fun item round => ∃ before after, (body before item).Returns round after)
        done rounds ∧
      (under = [] ∨ ∃ item ∈ later.head?, ∃ before standing, (body before item).Reaches under standing) := by
  induction items generalizing initial trace with
  | nil =>
      rw [List.foldlM_nil] at reached
      cases reached
      exact ⟨[], [], [], [], rfl, rfl, .nil, .inl rfl⟩
  | cons item rest ih =>
      rw [List.foldlM_cons] at reached
      rcases reached.bind_inv with ⟨before, under⟩ | ⟨round, later, value, rfl, returned, continued⟩
      · exact ⟨[], item :: rest, [], trace, rfl, rfl, .nil, .inr ⟨item, rfl, initial, before, under⟩⟩
      · obtain ⟨done, left, rounds, under, rfl, rfl, each, current⟩ := ih continued
        exact ⟨item :: done, left, round :: rounds, under, rfl, by simp,
          .cons ⟨initial, value, returned⟩ each, current⟩

end Progress

section Crashes

variable {trace : List ((op : Op) × Reply op)} {reason : Crash}

theorem Reaches.bind_crash {first : Program Op Reply Crash α} {next : α → Program Op Reply Crash β}
    (reached : (first >>= next).Reaches trace (.crash reason)) :
    first.Reaches trace (.crash reason) ∨
      ∃ earlier later value, trace = earlier ++ later ∧ first.Returns earlier value ∧
        (next value).Reaches later (.crash reason) := by
  induction first generalizing trace with
  | done value => exact .inr ⟨[], trace, value, rfl, .done value, reached⟩
  | crash other =>
      cases reached
      exact .inl (.start _)
  | perform op continuation ih =>
      cases reached with
      | perform reply reached =>
          rcases ih reply reached with crashed | ⟨earlier, later, value, rfl, ended, crashed⟩
          · exact .inl (.perform reply crashed)
          · exact .inr ⟨_, later, value, rfl, .perform reply ended, crashed⟩

theorem Reaches.ofExcept_bind_crash {outcome : Except Crash α} {next : α → Program Op Reply Crash β}
    (reached : (ofExcept outcome >>= next).Reaches trace (.crash reason)) :
    (outcome = .error reason ∧ trace = []) ∨
      ∃ value, outcome = .ok value ∧ (next value).Reaches trace (.crash reason) := by
  cases outcome with
  | ok value => exact .inr ⟨value, rfl, reached⟩
  | error other =>
      cases reached
      exact .inl ⟨rfl, rfl⟩

/-- A loop that has crashed has done so in one of its rounds. -/
theorem Reaches.foldlM_crash {body : β → γ → Program Op Reply Crash β} {items : List γ} {initial : β}
    (reached : (items.foldlM body initial).Reaches trace (.crash reason)) :
    ∃ item ∈ items, ∃ before earlier under, trace = earlier ++ under ∧
      (body before item).Reaches under (.crash reason) := by
  induction items generalizing initial trace with
  | nil => cases reached
  | cons item rest ih =>
      rw [List.foldlM_cons] at reached
      rcases reached.bind_crash with crashed | ⟨round, later, value, rfl, _, continued⟩
      · exact ⟨item, List.mem_cons_self, initial, [], trace, rfl, crashed⟩
      · obtain ⟨other, member, before, earlier, under, rfl, crashed⟩ := ih continued
        exact ⟨other, List.mem_cons_of_mem _ member, before, round ++ earlier, under,
          (List.append_assoc ..).symm, crashed⟩

theorem Completes.not_crash {allowed : Op → Prop} {program : Program Op Reply Crash α}
    (completes : program.Completes allowed) : ¬program.Reaches trace (.crash reason) := by
  intro reached
  generalize same : Program.crash reason = standing at reached
  induction reached with
  | start program =>
      subst same
      exact completes
  | perform reply reached ih => exact ih (completes.2 reply) same

/-- A run that has crashed has a trace. -/
theorem reaches_of_run {world : World Op Reply State Choice} {program : Program Op Reply Crash α}
    {state : State} {choices : List Choice}
    (ran : (program.run world state choices).1 = .crashed reason) :
    ∃ trace, program.Reaches trace (.crash reason) := by
  induction program generalizing state choices with
  | done result => cases ran
  | crash other =>
      cases ran
      exact ⟨[], .start _⟩
  | perform op next ih =>
      cases choices with
      | nil => cases ran
      | cons choice rest =>
          obtain ⟨trace, reached⟩ := ih _ ran
          exact ⟨⟨op, _⟩ :: trace, .perform _ reached⟩

end Crashes

section Concludes

variable {quiet : Op → Prop}

/-- An operation that is not quiet is the last one: nothing comes after it. -/
def Concludes (quiet : Op → Prop) : Program Op Reply Crash α → Prop
  | .done _ => True
  | .crash _ => True
  | .perform op next => ∀ reply,
      quiet op ∧ (next reply).Concludes quiet ∨ ∃ value, next reply = .done value

theorem Concludes.bind {first : Program Op Reply Crash α} {next : α → Program Op Reply Crash β}
    (calls : first.Calls quiet) (continues : ∀ value, (next value).Concludes quiet) :
    (first >>= next).Concludes quiet := by
  induction first with
  | done value => exact continues value
  | crash reason => trivial
  | perform op continuation ih =>
      intro reply
      exact .inl ⟨calls.1, ih reply (calls.2 reply)⟩

theorem Concludes.call_bind {op : Op} {next : Reply op → Program Op Reply Crash β} (silent : quiet op)
    (continues : ∀ reply, (next reply).Concludes quiet) : (call op >>= next).Concludes quiet :=
  fun reply => .inl ⟨silent, continues reply⟩

theorem Concludes.last {op : Op} (value : α) :
    (call op >>= fun _ => pure value : Program Op Reply Crash α).Concludes quiet :=
  fun _ => .inr ⟨value, rfl⟩

/-- Until it has returned, such a program has performed quiet operations only. -/
theorem Reaches.quiet_or_returns {trace : List ((op : Op) × Reply op)}
    {program standing : Program Op Reply Crash α} (reached : program.Reaches trace standing)
    (concludes : program.Concludes quiet) :
    (∀ performed ∈ trace, quiet performed.1) ∨ ∃ value, program.Returns trace value := by
  induction reached with
  | start program => exact .inl nofun
  | perform reply reached ih =>
      rcases concludes reply with ⟨silent, continued⟩ | ⟨value, ended⟩
      · rcases ih continued with later | ⟨value, returned⟩
        · exact .inl (List.forall_mem_cons.mpr ⟨silent, later⟩)
        · exact .inr ⟨value, .perform reply returned⟩
      · rw [ended] at reached
        cases reached
        exact .inr ⟨value, .perform reply (ended ▸ .done value)⟩

end Concludes

end StsGateway.Data.Program
