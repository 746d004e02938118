import Mathlib.Logic.Function.Basic
import StsGateway.Data.Trace
import StsGateway.Data.Transition

namespace StsGateway.Data

/-! Threads beside a machine.

A thread takes steps of its own, some of which hand a message to the machine; it gets
nothing back. Any interleaving of the two splits into a run of the machine, in which
the messages are labels, and a run of each thread.
-/

/-- The messages of the thread, of all that were sent. -/
def messagesOf {ι Message : Type} [DecidableEq ι] (index : ι) (sends : List (ι × Message)) :
    List Message :=
  sends.filterMap fun send => if send.1 = index then some send.2 else none

structure Agent (Message : Type) where
  State : Type
  Choice : Type
  start : State
  step : State → Choice → Option (State × Option Message)

/-- Where a thread can be once it has sent these messages. -/
inductive Agent.Reached {Message : Type} (agent : Agent Message) : List Message → agent.State → Prop where
  | start : agent.Reached [] agent.start
  | step {sent : List Message} {before next : agent.State} {choice : agent.Choice}
      {message : Option Message} (reached : agent.Reached sent before)
      (stepped : agent.step before choice = some (next, message)) :
      agent.Reached (sent ++ message.toList) next

/-- What holds at the start and is kept by each step holds wherever the thread gets to. -/
theorem Agent.Reached.induct {Message : Type} {agent : Agent Message} {sent : List Message}
    {state : agent.State} (holds : List Message → agent.State → Prop)
    (initial : holds [] agent.start)
    (preserved : ∀ sent before choice next message, holds sent before →
      agent.step before choice = some (next, message) → holds (sent ++ message.toList) next)
    (reached : agent.Reached sent state) : holds sent state := by
  induction reached with
  | start => exact initial
  | step reached stepped ih => exact preserved _ _ _ _ _ ih stepped

section Together

variable {State Label Message ι : Type} [DecidableEq ι]

structure Together (State : Type) (agents : ι → Agent Message) where
  state : State
  threads : (index : ι) → (agents index).State

inductive Move (Label : Type) (agents : ι → Agent Message) where
  | own (label : Label)
  | thread (index : ι) (choice : (agents index).Choice)

/-- The labels that deliver a message are not the machine's to take. -/
def Machine.together (machine : Machine State Label) (agents : ι → Agent Message)
    (received : Label → Option Message) (deliver : Message → Label) :
    Machine (Together State agents) (Move Label agents) where
  start := ⟨machine.start, fun index => (agents index).start⟩
  step before
    | .own label =>
        if (received label).isSome then none
        else (machine.step before.state label).map fun state => { before with state }
    | .thread index choice =>
        match (agents index).step (before.threads index) choice with
        | none => none
        | some (next, none) =>
            some { before with threads := Function.update before.threads index next }
        | some (next, some message) =>
            (machine.step before.state (deliver message)).map fun state =>
              ⟨state, Function.update before.threads index next⟩

/-- A run of the whole, taken apart. -/
structure Split (machine : Machine State Label) (agents : ι → Agent Message)
    (received : Label → Option Message) (after : Together State agents) (labels : List Label)
    (sends : List (ι × Message)) : Prop where
  executed : machine.run labels = some after.state
  delivered : labels.filterMap received = sends.map Prod.snd
  threads : ∀ index, (agents index).Reached (messagesOf index sends) (after.threads index)

def Splits (machine : Machine State Label) (agents : ι → Agent Message)
    (received : Label → Option Message) (after : Together State agents) : Prop :=
  ∃ labels sends, Split machine agents received after labels sends

variable {machine : Machine State Label} {agents : ι → Agent Message}
  {received : Label → Option Message} {deliver : Message → Label}

theorem Machine.run_snoc {labels : List Label} {label : Label} {before after : State}
    (executed : machine.run labels = some before) (stepped : machine.step before label = some after) :
    machine.run (labels ++ [label]) = some after := by
  rw [Machine.run, Machine.runFrom_append]
  change (machine.run labels).bind _ = _
  rw [executed, Option.bind_some, Machine.runFrom, stepped]
  rfl

theorem messagesOf_snoc (index : ι) (sends : List (ι × Message)) (send : ι × Message) :
    messagesOf index (sends ++ [send]) =
      messagesOf index sends ++ if send.1 = index then [send.2] else [] := by
  rw [messagesOf, List.filterMap_append]
  split <;> rename_i same <;> simp [messagesOf, same]

theorem messagesOf_map {α : Type} (describe : Message → α) (index : ι) (sends : List (ι × Message)) :
    messagesOf index (sends.map fun send => (send.1, describe send.2)) =
      (messagesOf index sends).map describe := by
  rw [messagesOf, messagesOf, List.filterMap_map, List.map_filterMap]
  apply List.filterMap_congr
  intro send _
  dsimp only [Function.comp]
  split <;> rfl

theorem reached_update {index other : ι} {sends : List (ι × Message)}
    {threads : (index : ι) → (agents index).State} {next : (agents index).State}
    (before : (agents other).Reached (messagesOf other sends) (threads other))
    (moved : (agents index).Reached (messagesOf index sends) next) :
    (agents other).Reached (messagesOf other sends) (Function.update threads index next other) := by
  by_cases same : other = index
  · subst same
    rwa [Function.update_self]
  · rwa [Function.update_of_ne same]

theorem Split.step {before after : Together State agents} {move : Move Label agents}
    {labels : List Label} {sends : List (ι × Message)}
    (known : ∀ message, received (deliver message) = some message)
    (split : Split machine agents received before labels sends)
    (stepped : (machine.together agents received deliver).step before move = some after) :
    Splits machine agents received after := by
  cases move with
  | own label =>
      simp only [Machine.together] at stepped
      split at stepped
      · contradiction
      · rename_i internal
        obtain ⟨state, taken, rfl⟩ := Option.map_eq_some_iff.mp stepped
        refine ⟨labels ++ [label], sends, Machine.run_snoc split.executed taken, ?_, split.threads⟩
        have silent : received label = none := by simpa using internal
        rw [List.filterMap_append, split.delivered, List.filterMap_cons, silent]
        exact List.append_nil _
  | thread index choice =>
      simp only [Machine.together] at stepped
      split at stepped
      · contradiction
      · rename_i next moved
        cases stepped
        have reached := (split.threads index).step moved
        rw [Option.toList_none, List.append_nil] at reached
        exact ⟨labels, sends, split.executed, split.delivered,
          fun other => reached_update (split.threads other) reached⟩
      · rename_i next message moved
        obtain ⟨state, taken, rfl⟩ := Option.map_eq_some_iff.mp stepped
        have reached := (split.threads index).step moved
        refine ⟨labels ++ [deliver message], sends ++ [(index, message)],
          Machine.run_snoc split.executed taken, ?_, ?_⟩
        · rw [List.filterMap_append, split.delivered, List.map_append, List.filterMap_cons, known]
          rfl
        · intro other
          dsimp only
          rw [messagesOf_snoc]
          by_cases same : index = other
          · subst same
            rw [if_pos rfl, Function.update_self]
            exact reached
          · rw [if_neg same, List.append_nil, Function.update_of_ne (Ne.symm same)]
            exact split.threads other

theorem together_splits {moves : List (Move Label agents)} {after : Together State agents}
    (known : ∀ message, received (deliver message) = some message)
    (executed : (machine.together agents received deliver).run moves = some after) :
    Splits machine agents received after := by
  have initial : Splits machine agents received (machine.together agents received deliver).start :=
    ⟨[], [], rfl, rfl, fun index => .start⟩
  refine Machine.invariant_always ?_ initial executed
  intro before next move holds stepped
  obtain ⟨labels, sends, split⟩ := holds
  exact split.step known stepped

/-- The same threads beside related states. -/
def Together.Beside (related : State → State → Prop) (before opposite : Together State agents) : Prop :=
  before.threads = opposite.threads ∧ related before.state opposite.state

section Matched

variable {other : Machine State Label} {related : State → State → Prop}

theorem together_step_matched
    (matched : ∀ {before next opposite label}, related before opposite →
      machine.step before label = some next →
        ∃ reached, other.step opposite label = some reached ∧ related next reached)
    {before next opposite : Together State agents} {move : Move Label agents}
    (holds : before.Beside related opposite)
    (stepped : (machine.together agents received deliver).step before move = some next) :
    ∃ reached, (other.together agents received deliver).step opposite move = some reached ∧
      next.Beside related reached := by
  obtain ⟨state, threads⟩ := before
  obtain ⟨otherState, otherThreads⟩ := opposite
  obtain ⟨same, holds⟩ := holds
  cases same
  cases move with
  | own label =>
      simp only [Machine.together] at stepped ⊢
      split at stepped
      · contradiction
      · rename_i internal
        obtain ⟨moved, taken, rfl⟩ := Option.map_eq_some_iff.mp stepped
        obtain ⟨reached, agrees, final⟩ := matched holds taken
        exact ⟨⟨reached, threads⟩, by rw [if_neg internal, agrees]; rfl, rfl, final⟩
  | thread index choice =>
      simp only [Machine.together] at stepped ⊢
      split at stepped
      · contradiction
      · cases stepped
        exact ⟨_, rfl, rfl, holds⟩
      · obtain ⟨moved, taken, rfl⟩ := Option.map_eq_some_iff.mp stepped
        obtain ⟨reached, agrees, final⟩ := matched holds taken
        exact ⟨⟨reached, _⟩, by rw [agrees]; rfl, rfl, final⟩

/-- A machine that matches another goes on doing so beside the same threads. -/
theorem together_matched
    (matched : ∀ {before next opposite label}, related before opposite →
      machine.step before label = some next →
        ∃ reached, other.step opposite label = some reached ∧ related next reached)
    (initial : related machine.start other.start) {moves : List (Move Label agents)}
    {after : Together State agents}
    (executed : (machine.together agents received deliver).run moves = some after) :
    ∃ state, (other.together agents received deliver).run moves = some { after with state } ∧
      related after.state state := by
  have begin : (machine.together agents received deliver).start.Beside related
      (other.together agents received deliver).start := ⟨rfl, initial⟩
  obtain ⟨⟨state, threads⟩, ran, same, final⟩ := Machine.runFrom_matched (Together.Beside related)
    (together_step_matched matched) begin executed
  cases same
  exact ⟨state, ran, final⟩

end Matched

/-- Logs that the threads keep of their messages merge in the order of the sends. -/
theorem exists_merged {α : Type} (describe : α → Message) {sends : List (ι × Message)}
    {logs : ι → List α} (each : ∀ index, (logs index).map describe = messagesOf index sends) :
    ∃ merged : List (ι × α), (merged.map fun entry => (entry.1, describe entry.2)) = sends ∧
      ∀ index, messagesOf index merged = logs index := by
  induction sends generalizing logs with
  | nil =>
      refine ⟨[], rfl, fun index => ?_⟩
      exact (List.map_eq_nil_iff.mp (each index)).symm
  | cons send rest ih =>
      obtain ⟨index, message⟩ := send
      have own : (logs index).map describe = message :: messagesOf index rest := by
        rw [each index, messagesOf, List.filterMap_cons, if_pos rfl]
        rfl
      obtain ⟨entry, later, split, described, remaining⟩ := List.map_eq_cons_iff.mp own
      obtain ⟨merged, same, logged⟩ := @ih (Function.update logs index later) (by
        intro other
        by_cases same : other = index
        · subst same
          rwa [Function.update_self]
        · rw [Function.update_of_ne same, each other, messagesOf, List.filterMap_cons,
            if_neg (Ne.symm same)]
          rfl)
      refine ⟨(index, entry) :: merged, ?_, ?_⟩
      · rw [List.map_cons, same, described]
      · intro other
        have tail := logged other
        rw [messagesOf] at tail
        rw [messagesOf, List.filterMap_cons]
        by_cases same : index = other
        · subst same
          rw [if_pos rfl, tail, Function.update_self, split]
        · rw [if_neg same, tail, Function.update_of_ne (Ne.symm same)]

end Together

/-! ### Threads that run a program over and over -/

section Looping

variable {Op Crash Env Choice Message γ : Type} {Reply : Op → Type}

/-- The history is all the thread has performed so far, with the replies. -/
structure Looping (Op : Type) (Reply : Op → Type) (Crash Env : Type) where
  standing : Program Op Reply Crash Unit
  env : Env
  history : List ((op : Op) × Reply op)

def Program.looping (body : Program Op Reply Crash Unit) (world : World Op Reply Env Choice) (env : Env)
    (message : Op → Option Message) : Agent Message where
  State := Looping Op Reply Crash Env
  Choice := Choice
  start := ⟨body, env, []⟩
  step thread choice :=
    match thread.standing with
    | .done () => some ({ thread with standing := body }, none)
    | .crash _ => none
    | .perform op next =>
        some (⟨next (world.respond thread.env choice op).1, (world.respond thread.env choice op).2,
          thread.history ++ [⟨op, (world.respond thread.env choice op).1⟩]⟩, message op)

/-- Whole rounds, and one that may be under way. -/
structure Rounds (body : Program Op Reply Crash Unit) (thread : Looping Op Reply Crash Env)
    (rounds : List (List ((op : Op) × Reply op))) (under : List ((op : Op) × Reply op)) : Prop where
  history : thread.history = rounds.flatten ++ under
  whole : ∀ round ∈ rounds, body.Returns round ()
  reaches : body.Reaches under thread.standing

variable {body : Program Op Reply Crash Unit} {world : World Op Reply Env Choice} {env : Env}
  {message : Op → Option Message} {sent : List Message} {quiet : Op → Prop}

theorem looping_rounds {thread : Looping Op Reply Crash Env}
    (reached : (body.looping world env message).Reached sent thread) :
    sent = thread.history.filterMap (fun performed => message performed.1) ∧
      ∃ rounds under, Rounds body thread rounds under := by
  refine reached.induct (fun sent (thread : Looping Op Reply Crash Env) =>
    sent = thread.history.filterMap (fun performed => message performed.1) ∧
      ∃ rounds under, Rounds body thread rounds under) ⟨rfl, [], [], rfl, nofun, .start body⟩ ?_
  intro sent before choice next emitted holds stepped
  obtain ⟨logged, rounds, under, history, whole, reaches⟩ := holds
  obtain ⟨standing, env, performed⟩ := before
  cases standing with
  | done value =>
      cases stepped
      refine ⟨by simpa using logged, rounds ++ [under], [], ?_, ?_, .start body⟩
      · simpa using history
      · exact List.forall_mem_append.mpr ⟨whole, List.forall_mem_singleton.mpr reaches.returns⟩
  | crash reason => contradiction
  | perform op continuation =>
      cases stepped
      refine ⟨?_, rounds, under ++ [⟨op, _⟩], ?_, whole, reaches.snoc _⟩
      · rw [logged, List.filterMap_append, List.filterMap_cons]
        cases message op <;> rfl
      · rw [← List.append_assoc, ← history]

/-- A visit to one item of a loop, with what it performed. -/
abbrev Visit (γ Op : Type) (Reply : Op → Type) := γ × List ((op : Op) × Reply op)

/-- One visit after another, and one under way that has been quiet so far. -/
structure Visited (items : List γ) (body : γ → Program Op Reply Crash Unit) (quiet : Op → Prop)
    (history : List ((op : Op) × Reply op)) (visits : List (Visit γ Op Reply)) : Prop where
  order : ∃ rounds, visits.map Prod.fst <+: (List.replicate rounds items).flatten
  whole : ∀ visit ∈ visits, (body visit.1).Returns visit.2 ()
  history : ∃ under, history = (visits.map Prod.snd).flatten ++ under ∧
    ∀ performed ∈ under, quiet performed.1

theorem returns_visits {body : γ → Program Op Reply Crash Unit} {items : List γ}
    {trace : List ((op : Op) × Reply op)}
    (returned : (items.foldlM (fun _ item => body item) ()).Returns trace ()) :
    ∃ visits : List (Visit γ Op Reply), visits.map Prod.fst = items ∧
      (visits.map Prod.snd).flatten = trace ∧ ∀ visit ∈ visits, (body visit.1).Returns visit.2 () := by
  refine returned.foldlM (fun items trace _ => ∃ visits : List (Visit γ Op Reply),
    visits.map Prod.fst = items ∧ (visits.map Prod.snd).flatten = trace ∧
      ∀ visit ∈ visits, (body visit.1).Returns visit.2 ()) ⟨[], rfl, rfl, nofun⟩ ?_
  intro earlier item later _ before _ piece _ holds stepped
  obtain ⟨visits, rfl, rfl, whole⟩ := holds
  exact ⟨visits ++ [(item, piece)], by simp, by simp,
    List.forall_mem_append.mpr ⟨whole, List.forall_mem_singleton.mpr stepped⟩⟩

theorem reaches_visits {body : γ → Program Op Reply Crash Unit} {items : List γ}
    {trace : List ((op : Op) × Reply op)} {standing : Program Op Reply Crash Unit}
    (concludes : ∀ item, (body item).Concludes quiet)
    (reached : (items.foldlM (fun _ item => body item) ()).Reaches trace standing) :
    ∃ (visits : List (Visit γ Op Reply)) (under : List ((op : Op) × Reply op)),
      visits.map Prod.fst <+: items ∧ trace = (visits.map Prod.snd).flatten ++ under ∧
      (∀ visit ∈ visits, (body visit.1).Returns visit.2 ()) ∧
      ∀ performed ∈ under, quiet performed.1 := by
  obtain ⟨done, later, rounds, under, rfl, rfl, each, current⟩ := reached.foldlM
  have items : (done.zip rounds).map Prod.fst = done :=
    List.map_fst_zip (Nat.le_of_eq each.length_eq)
  have traces : (done.zip rounds).map Prod.snd = rounds :=
    List.map_snd_zip (Nat.le_of_eq each.length_eq.symm)
  have whole : ∀ visit ∈ done.zip rounds, (body visit.1).Returns visit.2 () := by
    intro visit member
    obtain ⟨_, _, returned⟩ := (List.forall₂_iff_zip.mp each).2 member
    exact returned
  rcases current with rfl | ⟨item, next, _, _, reaching⟩
  · exact ⟨done.zip rounds, [], by rw [items]; exact List.prefix_append _ _, by rw [traces], whole, nofun⟩
  · rcases reaching.quiet_or_returns (concludes item) with silent | ⟨_, returned⟩
    · exact ⟨done.zip rounds, under, by rw [items]; exact List.prefix_append _ _, by rw [traces],
        whole, silent⟩
    · refine ⟨done.zip rounds ++ [(item, under)], [], ?_, ?_, ?_, nofun⟩
      · rw [List.map_append, items]
        cases later with
        | nil => contradiction
        | cons first rest =>
            cases next
            exact ⟨rest, by simp⟩
      · rw [List.map_append, traces]
        simp
      · exact List.forall_mem_append.mpr ⟨whole, List.forall_mem_singleton.mpr returned⟩

/-- The history of a thread that goes round a list of items. -/
theorem looping_visited {body : γ → Program Op Reply Crash Unit} {items : List γ}
    {thread : Looping Op Reply Crash Env} (concludes : ∀ item, (body item).Concludes quiet)
    (reached : ((items.foldlM (fun _ item => body item) ()).looping world env message).Reached sent
      thread) :
    sent = thread.history.filterMap (fun performed => message performed.1) ∧
      ∃ visits, Visited items body quiet thread.history visits := by
  obtain ⟨logged, rounds, under, history, whole, reaches⟩ := looping_rounds reached
  obtain ⟨current, pending, started, rfl, done, silent⟩ := reaches_visits concludes reaches
  have earlier : ∃ visits : List (Visit γ Op Reply),
      visits.map Prod.fst = (List.replicate rounds.length items).flatten ∧
      (visits.map Prod.snd).flatten = rounds.flatten ∧
      ∀ visit ∈ visits, (body visit.1).Returns visit.2 () := by
    clear history
    induction rounds with
    | nil => exact ⟨[], rfl, rfl, nofun⟩
    | cons round rest ih =>
        obtain ⟨first, later⟩ := List.forall_mem_cons.mp whole
        obtain ⟨visits, order, same, each⟩ := ih later
        obtain ⟨front, frontOrder, frontSame, frontEach⟩ := returns_visits first
        refine ⟨front ++ visits, ?_, ?_, List.forall_mem_append.mpr ⟨frontEach, each⟩⟩
        · rw [List.map_append, order, frontOrder, List.length_cons, List.replicate_succ,
            List.flatten_cons]
        · rw [List.map_append, List.flatten_append, same, frontSame, List.flatten_cons]
  obtain ⟨visits, order, same, each⟩ := earlier
  refine ⟨logged, visits ++ current, ⟨rounds.length + 1, ?_⟩,
    List.forall_mem_append.mpr ⟨each, done⟩, pending, ?_, silent⟩
  · rw [List.map_append, order, List.replicate_succ', List.flatten_append, List.flatten_singleton]
    exact (List.prefix_append_right_inj _).mpr started
  · rw [history, ← same, List.map_append, List.flatten_append, List.append_assoc]

end Looping

end StsGateway.Data
