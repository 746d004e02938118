namespace StsGateway.Data

/-! Programs that interact with an environment.

A program returns, crashes, or performs one operation and continues with the
reply. A world answers operations: its state evolves, and one choice per
operation resolves everything the program cannot predict. `Ensures` is the
weakest precondition of a program against every choice the assumption admits,
with an invariant that holds after each single operation, so a run cut short
between two operations is covered as well.
-/

inductive Program (Op : Type) (Reply : Op → Type) (Crash α : Type) where
  | done (value : α)
  | crash (reason : Crash)
  | perform (op : Op) (next : Reply op → Program Op Reply Crash α)

inductive Progress (Crash α : Type) where
  | returned (value : α)
  | crashed (reason : Crash)
  | waiting
deriving DecidableEq

structure World (Op : Type) (Reply : Op → Type) (State Choice : Type) where
  respond : State → Choice → (op : Op) → Reply op × State

namespace Program

variable {Op Crash α β γ State Choice : Type} {Reply : Op → Type}

def bind : Program Op Reply Crash α → (α → Program Op Reply Crash β) → Program Op Reply Crash β
  | .done value, next => next value
  | .crash reason, _ => .crash reason
  | .perform op continuation, next => .perform op fun reply => (continuation reply).bind next

instance : Monad (Program Op Reply Crash) where
  pure := .done
  bind := bind

def call (op : Op) : Program Op Reply Crash (Reply op) := .perform op .done

def ofExcept : Except Crash α → Program Op Reply Crash α
  | .ok value => .done value
  | .error reason => .crash reason

def iterate (body : Program Op Reply Crash Unit) : Nat → Program Op Reply Crash Unit
  | 0 => .done ()
  | count + 1 => body.bind fun _ => iterate body count

def progress : Program Op Reply Crash α → Progress Crash α
  | .done value => .returned value
  | .crash reason => .crashed reason
  | .perform _ _ => .waiting

theorem progress_returned {program : Program Op Reply Crash α} {value : α}
    (returned : program.progress = .returned value) : program = .done value := by
  cases program with
  | done result => rw [Progress.returned.inj returned]
  | crash reason => cases returned
  | perform op next => cases returned

def run (world : World Op Reply State Choice) :
    Program Op Reply Crash α → State → List Choice → Progress Crash α × State
  | .done value, state, _ => (.returned value, state)
  | .crash reason, state, _ => (.crashed reason, state)
  | .perform _ _, state, [] => (.waiting, state)
  | .perform op next, state, choice :: rest =>
      (next (world.respond state choice op).1).run world (world.respond state choice op).2 rest

@[simp] theorem run_call_bind (world : World Op Reply State Choice) (op : Op)
    (next : Reply op → Program Op Reply Crash β) (state : State) (choice : Choice)
    (rest : List Choice) :
    (call op >>= next).run world state (choice :: rest) =
      (next (world.respond state choice op).1).run world (world.respond state choice op).2 rest := rfl

/-- The run in an environment that leaves no choice open. -/
def execute (respond : State → (op : Op) → Reply op × State) :
    Program Op Reply Crash α → State → Except Crash α × State
  | .done value, state => (.ok value, state)
  | .crash reason, state => (.error reason, state)
  | .perform op next, state => (next (respond state op).1).execute respond (respond state op).2

@[simp] theorem execute_pure (respond : State → (op : Op) → Reply op × State) (value : α)
    (state : State) :
    (pure value : Program Op Reply Crash α).execute respond state = (.ok value, state) := rfl

@[simp] theorem execute_call_bind (respond : State → (op : Op) → Reply op × State) (op : Op)
    (next : Reply op → Program Op Reply Crash β) (state : State) :
    (call op >>= next).execute respond state =
      (next (respond state op).1).execute respond (respond state op).2 := rfl

theorem execute_bind (respond : State → (op : Op) → Reply op × State)
    (first : Program Op Reply Crash α) (next : α → Program Op Reply Crash β) (state : State) :
    (first >>= next).execute respond state =
      match first.execute respond state with
      | (.ok value, after) => (next value).execute respond after
      | (.error reason, after) => (.error reason, after) := by
  induction first generalizing state with
  | done value => rfl
  | crash reason => rfl
  | perform op continuation ih => exact ih (respond state op).1 (respond state op).2

@[simp] theorem execute_crash (respond : State → (op : Op) → Reply op × State) (reason : Crash)
    (state : State) :
    (.crash reason : Program Op Reply Crash α).execute respond state = (.error reason, state) := rfl

@[simp] theorem execute_ofExcept_bind (respond : State → (op : Op) → Reply op × State)
    (result : Except Crash α) (next : α → Program Op Reply Crash β) (state : State) :
    (ofExcept result >>= next).execute respond state =
      match result with
      | .ok value => (next value).execute respond state
      | .error reason => (.error reason, state) := by
  cases result <;> rfl

/-- Every operation of the run is performed where `condition` holds. -/
def StepsMeet (world : World Op Reply State Choice) (condition : State → Choice → Op → Prop) :
    Program Op Reply Crash α → State → List Choice → Prop
  | .done _, _, _ => True
  | .crash _, _, _ => True
  | .perform _ _, _, [] => True
  | .perform op next, state, choice :: rest =>
      condition state choice op ∧ (next (world.respond state choice op).1).StepsMeet world condition
        (world.respond state choice op).2 rest

instance decidableStepsMeet (world : World Op Reply State Choice)
    (condition : State → Choice → Op → Prop) [∀ state choice op, Decidable (condition state choice op)] :
    ∀ (program : Program Op Reply Crash α) (state : State) (choices : List Choice),
      Decidable (program.StepsMeet world condition state choices)
  | .done _, _, _ => isTrue trivial
  | .crash _, _, _ => isTrue trivial
  | .perform _ _, _, [] => isTrue trivial
  | .perform op next, state, choice :: rest =>
      have := decidableStepsMeet world condition (next (world.respond state choice op).1)
        (world.respond state choice op).2 rest
      inferInstanceAs (Decidable (_ ∧ _))

theorem stepsMeet_true (world : World Op Reply State Choice) (program : Program Op Reply Crash α)
    (state : State) (choices : List Choice) :
    program.StepsMeet world (fun _ _ _ => True) state choices := by
  induction program generalizing state choices with
  | done value => trivial
  | crash reason => trivial
  | perform op next ih =>
      cases choices with
      | nil => trivial
      | cons choice rest => exact ⟨trivial, ih _ _ _⟩

section Calls

variable {allowed : Op → Prop}

/-- Whatever the replies, the program performs only operations that are allowed. -/
def Calls (allowed : Op → Prop) : Program Op Reply Crash α → Prop
  | .done _ => True
  | .crash _ => True
  | .perform op next => allowed op ∧ ∀ reply, (next reply).Calls allowed

theorem Calls.mono {wider : Op → Prop} {program : Program Op Reply Crash α}
    (calls : program.Calls allowed) (widen : ∀ op, allowed op → wider op) : program.Calls wider := by
  induction program with
  | done value => trivial
  | crash reason => trivial
  | perform op next ih => exact ⟨widen op calls.1, fun reply => ih reply (calls.2 reply)⟩

theorem Calls.bind {first : Program Op Reply Crash α} {next : α → Program Op Reply Crash β}
    (calls : first.Calls allowed) (continues : ∀ value, (next value).Calls allowed) :
    (first >>= next).Calls allowed := by
  induction first with
  | done value => exact continues value
  | crash reason => trivial
  | perform op continuation ih => exact ⟨calls.1, fun reply => ih reply (calls.2 reply)⟩

theorem Calls.call_bind {op : Op} {next : Reply op → Program Op Reply Crash β} (allows : allowed op)
    (continues : ∀ reply, (next reply).Calls allowed) : (call op >>= next).Calls allowed :=
  ⟨allows, continues⟩

theorem Calls.ofExcept {result : Except Crash α} :
    (Program.ofExcept result : Program Op Reply Crash α).Calls allowed := by
  cases result <;> trivial

theorem Calls.foldlM {body : β → γ → Program Op Reply Crash β} {items : List γ}
    (calls : ∀ value item, (body value item).Calls allowed) (initial : β) :
    (items.foldlM body initial).Calls allowed := by
  induction items generalizing initial with
  | nil => trivial
  | cons item rest ih => exact Calls.bind (calls initial item) ih

theorem Calls.iterate {body : Program Op Reply Crash Unit} (calls : body.Calls allowed) (count : Nat) :
    (body.iterate count).Calls allowed := by
  induction count with
  | zero => trivial
  | succ count ih => exact Calls.bind calls fun _ => ih

theorem Calls.preserves {world : World Op Reply State Choice} (invariant : State → Prop)
    {program : Program Op Reply Crash α} {state : State} (calls : program.Calls allowed)
    (preserved : ∀ before choice op, allowed op → invariant before →
      invariant (world.respond before choice op).2)
    (initial : invariant state) (choices : List Choice) :
    invariant (program.run world state choices).2 := by
  induction program generalizing state choices with
  | done value => exact initial
  | crash reason => exact initial
  | perform op next ih =>
      cases choices with
      | nil => exact initial
      | cons choice rest =>
          exact ih _ (calls.2 _) (preserved state choice op calls.1 initial) rest

end Calls

section Completes

variable {allowed : Op → Prop}

/-- Whatever the replies, the program performs only operations that are allowed, and returns. -/
def Completes (allowed : Op → Prop) : Program Op Reply Crash α → Prop
  | .done _ => True
  | .crash _ => False
  | .perform op next => allowed op ∧ ∀ reply, (next reply).Completes allowed

theorem Completes.call_bind {op : Op} {next : Reply op → Program Op Reply Crash β} (allows : allowed op)
    (continues : ∀ reply, (next reply).Completes allowed) : (call op >>= next).Completes allowed :=
  ⟨allows, continues⟩

theorem Completes.calls {program : Program Op Reply Crash α} (completes : program.Completes allowed) :
    program.Calls allowed := by
  induction program with
  | done value => trivial
  | crash reason => trivial
  | perform op next ih => exact ⟨completes.1, fun reply => ih reply (completes.2 reply)⟩

end Completes

section Ensures

variable (world : World Op Reply State Choice) (assume : State → Choice → Op → Prop)
  (maintain : State → Prop)

/-- Whatever the environment chooses within `assume`, every operation
re-establishes `maintain` and a returned value satisfies `post`. -/
def Ensures : Program Op Reply Crash α → (α → State → Prop) → State → Prop
  | .done value, post, state => post value state
  | .crash _, _, _ => True
  | .perform op next, post, state => ∀ choice, assume state choice op →
      maintain (world.respond state choice op).2 ∧
        (next (world.respond state choice op).1).Ensures post (world.respond state choice op).2

variable {world assume maintain} {state : State}

theorem Ensures.mono {program : Program Op Reply Crash α} {post stronger : α → State → Prop}
    (ensures : program.Ensures world assume maintain stronger state)
    (weaken : ∀ value after, stronger value after → post value after) :
    program.Ensures world assume maintain post state := by
  induction program generalizing state with
  | done value => exact weaken value state ensures
  | crash reason => trivial
  | perform op next ih =>
      intro choice admitted
      obtain ⟨maintained, continued⟩ := ensures choice admitted
      exact ⟨maintained, ih _ continued⟩

theorem Ensures.maintains {stricter : State → Prop} {program : Program Op Reply Crash α}
    {post : α → State → Prop} (ensures : program.Ensures world assume stricter post state)
    (kept : ∀ after, stricter after → maintain after) :
    program.Ensures world assume maintain post state := by
  induction program generalizing state with
  | done value => exact ensures
  | crash reason => trivial
  | perform op next ih =>
      intro choice admitted
      obtain ⟨strict, continued⟩ := ensures choice admitted
      exact ⟨kept _ strict, ih _ continued⟩

theorem Ensures.bind {first : Program Op Reply Crash α} {next : α → Program Op Reply Crash β}
    {middle : α → State → Prop} {post : β → State → Prop}
    (ensures : first.Ensures world assume maintain middle state)
    (continues : ∀ value after, middle value after →
      (next value).Ensures world assume maintain post after) :
    (first >>= next).Ensures world assume maintain post state := by
  induction first generalizing state with
  | done value => exact continues value state ensures
  | crash reason => trivial
  | perform op continuation ih =>
      intro choice admitted
      obtain ⟨maintained, rest⟩ := ensures choice admitted
      exact ⟨maintained, ih _ rest⟩

theorem Ensures.ofExcept {result : Except Crash α} {post : α → State → Prop}
    (returned : ∀ value, result = .ok value → post value state) :
    (Program.ofExcept result : Program Op Reply Crash α).Ensures world assume maintain post state := by
  cases result with
  | ok value => exact returned value rfl
  | error reason => trivial

theorem Ensures.call_bind {op : Op} {next : Reply op → Program Op Reply Crash β}
    {post : β → State → Prop}
    (answered : ∀ choice, assume state choice op → maintain (world.respond state choice op).2 ∧
      (next (world.respond state choice op).1).Ensures world assume maintain post
        (world.respond state choice op).2) :
    (Program.call op >>= next).Ensures world assume maintain post state :=
  answered

theorem Ensures.ofExcept_bind {result : Except Crash α} {next : α → Program Op Reply Crash β}
    {post : β → State → Prop}
    (continues : ∀ value, result = .ok value →
      (next value).Ensures world assume maintain post state) :
    (Program.ofExcept result >>= next).Ensures world assume maintain post state := by
  cases result with
  | ok value => exact continues value rfl
  | error reason => trivial

/-- The loop rule. The invariant may speak about the items already processed. -/
theorem Ensures.foldlM (invariant : List γ → β → State → Prop)
    {body : β → γ → Program Op Reply Crash β} {items : List γ} {initial : β}
    (entered : invariant [] initial state)
    (iterated : ∀ earlier item later, items = earlier ++ item :: later → ∀ value before,
      invariant earlier value before →
      (body value item).Ensures world assume maintain (invariant (earlier ++ [item])) before) :
    (items.foldlM body initial).Ensures world assume maintain (invariant items) state := by
  suffices loop : ∀ earlier later, items = earlier ++ later → ∀ value before,
      invariant earlier value before →
      (later.foldlM body value).Ensures world assume maintain (invariant items) before from
    loop [] items rfl initial state entered
  intro earlier later
  induction later generalizing earlier with
  | nil =>
      intro split value before holds
      rw [List.append_nil] at split
      subst split
      exact holds
  | cons item later ih =>
      intro split value before holds
      rw [List.foldlM_cons]
      apply Ensures.bind (iterated earlier item later split value before holds)
      intro next after holds
      exact ih (earlier ++ [item]) (by simp [split]) next after holds

theorem Ensures.iterate {body : Program Op Reply Crash Unit} (invariant : State → Prop)
    (preserved : ∀ before, invariant before →
      body.Ensures world assume maintain (fun _ => invariant) before)
    (entered : invariant state) (count : Nat) :
    (body.iterate count).Ensures world assume maintain (fun _ => invariant) state := by
  induction count generalizing state with
  | zero => exact entered
  | succ count ih =>
      exact Ensures.bind (preserved state entered) (fun _ after holds => ih holds)

/-- Soundness: what a program ensures is true of each of its runs, also of one
that is still waiting for the environment. -/
theorem Ensures.sound {program : Program Op Reply Crash α} {post : α → State → Prop}
    {choices : List Choice} (ensures : program.Ensures world assume maintain post state)
    (initial : maintain state) (meets : program.StepsMeet world assume state choices) :
    maintain (program.run world state choices).2 ∧
      ∀ value, (program.run world state choices).1 = .returned value →
        post value (program.run world state choices).2 := by
  induction program generalizing state choices with
  | done value =>
      refine ⟨initial, ?_⟩
      intro result returned
      cases returned
      exact ensures
  | crash reason =>
      refine ⟨initial, ?_⟩
      intro result returned
      contradiction
  | perform op next ih =>
      cases choices with
      | nil =>
          refine ⟨initial, ?_⟩
          intro result returned
          contradiction
      | cons choice rest =>
          obtain ⟨maintained, continued⟩ := ensures choice meets.1
          exact ih _ continued maintained meets.2

end Ensures

end Program

end StsGateway.Data
