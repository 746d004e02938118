import StsGateway.Gateway.StorageTurns

namespace StsGateway

open Data

namespace GatewayThreads

/-! The threads refine `Gateway.machine`. -/

section Runs

variable {mayFail : Bool} {sqlite : SqliteFiles} {json : SerdeJson} {scheduler : BackupScheduler}
  {attempts : Nat} {files : HashMap PathBuf SystemTime} {moves : List (Worker × Answer)}
  {crew : Crew HostCall HostCall.Reply Panic Host Worker}

theorem start_refines (strict : Prop) (json : SerdeJson) (config : MainConfig)
    (files : HashMap PathBuf SystemTime) :
    Refines strict json config (Host.start files) .receiving .connecting .idle .idle :=
  ⟨⟨nofun, trivial⟩, fun _ _ => ⟨Gateway.start, .start,
    { messages := rfl
      point := rfl
      alive := rfl
      actions := fun _ => ⟨rfl, rfl⟩
      database := rfl
      inserted := rfl
      processed := rfl
      transportSent := rfl
      transportQueue := rfl
      connected := fun away => absurd rfl away
      published := rfl
      delivered := rfl
      readings := rfl
      backupJob := rfl }⟩⟩

theorem run_refines (strict : Prop)
    (executed : (threads mayFail sqlite json scheduler attempts files).run moves = some crew)
    (meets : (threads mayFail sqlite json scheduler attempts files).StepsMeet
      (Crew.Meets fun host worker answer op => strict → host.Forward mayFail sqlite worker answer op)
      (threads mayFail sqlite json scheduler attempts files).start moves) :
    InPhase (protocol json scheduler) home
      (fun host phases => Refines strict json scheduler.config host (phases .aggregator)
        (phases .transport) (phases .storage) (phases .scheduler)) crew := by
  refine crewFrom_inPhase (first_follows attempts) bodies_follow ?_
    (start_refines strict json scheduler.config files) meets executed
  intro before phases worker answer op reply after phase refines forward answered led
  cases worker with
  | channels =>
      have refined := channels_refine refines led answered
      rwa [Function.update_of_ne (by decide), Function.update_of_ne (by decide),
        Function.update_of_ne (by decide), Function.update_of_ne (by decide)]
  | aggregator =>
      have refined := aggregator_refines refines led forward answered
      rwa [Function.update_self, Function.update_of_ne (by decide), Function.update_of_ne (by decide),
        Function.update_of_ne (by decide)]
  | transport =>
      have refined := transport_refines refines led answered
      rwa [Function.update_self, Function.update_of_ne (by decide), Function.update_of_ne (by decide),
        Function.update_of_ne (by decide)]
  | storage =>
      have refined := storage_refines refines led forward answered
      rwa [Function.update_self, Function.update_of_ne (by decide), Function.update_of_ne (by decide),
        Function.update_of_ne (by decide)]
  | scheduler =>
      have refined := scheduler_refines refines led answered
      rwa [Function.update_self, Function.update_of_ne (by decide), Function.update_of_ne (by decide),
        Function.update_of_ne (by decide)]
  | sqlite =>
      have refined := sqlite_refines refines led answered
      rwa [Function.update_of_ne (by decide), Function.update_of_ne (by decide),
        Function.update_of_ne (by decide), Function.update_of_ne (by decide)]

theorem isPanicked_iff {program : HostProgram Unit} {phase : StoragePhase}
    (follows : program.Follows (protocol json scheduler .storage)
      (fun _ after => after = home .storage) phase) :
    phase.isPanicked = true ↔ ∃ reason, program = .crash reason := by
  constructor
  · intro panicked
    cases phase with
    | panicked overBackup =>
        refine follows.crashed (fun op => ⟨op.refused⟩) ?_ nofun
        intro op reply after led
        have none : StorageStep (.panicked overBackup) op reply after := led
        cases none
    | _ => cases panicked
  · rintro ⟨reason, rfl⟩
    obtain ⟨overBackup, rfl⟩ := follows
    rfl

/-- What is taken from a queue at one level, and is in hand at the other. -/
theorem received_inHand {α β : Type} {own : Mpsc α} {other : Mpsc β} {inHand : List β} (view : α → β)
    (sent : own.sent.map view = other.sent) (waiting : own.waiting.map view = inHand ++ other.waiting) :
    other.received = own.received.map view ++ inHand := by
  rw [Mpsc.sent, List.map_append, waiting, ← List.append_assoc, Mpsc.sent] at sent
  exact (List.append_cancel_right sent).symm

/-- What both levels show of themselves. Of the messages and actions that a thread has
taken from a queue, and of the actions storage is done with, the threads may be one ahead. -/
structure Host.Shows (host : Host) (gateway : Gateway) : Prop where
  messages : gateway.aggregatorQueue = host.messages
  storage : gateway.storage = host.connection.storage
  actions : gateway.storagePanicked = false →
    gateway.storageQueue.sent.map Queued.action = host.actions.sent ∧
      ∃ inHand : List SqliteStorageAction, inHand.length ≤ 1 ∧
        host.actions.received = gateway.storageQueue.received.map Queued.action ++ inHand
  transport : gateway.transportQueue.sent = host.transport.sent ∧
    ∃ inHand : List TransportAction, inHand.length ≤ 1 ∧
      host.transport.received = gateway.transportQueue.received ++ inHand
  published : gateway.published = host.published
  delivered : gateway.delivered = host.delivered
  readings : gateway.readings = host.readings
  inserted : gateway.inserted = host.connection.inserted
  processed : ∃ underway : List Performed, underway.length ≤ 1 ∧
    host.connection.performed = gateway.processed.map Performed.ofProcessed ++ underway

theorem StoragePhase.inHand_length (storage : StoragePhase) : storage.inHand.length ≤ 1 := by
  cases storage <;> simp [StoragePhase.inHand]

theorem TransportPhase.inHand_length (transport : TransportPhase) : transport.inHand.length ≤ 1 := by
  cases transport <;> simp [TransportPhase.inHand]

theorem Connection.performed_log (connection : Connection) :
    ∃ underway : List Performed, underway.length ≤ 1 ∧
      connection.performed = connection.log ++ underway :=
  ⟨connection.present.toList, Option.length_toList_le, rfl⟩

/-- Where the machine takes a statement under way not to delete anything, as in the
threads' table so far, the two show the same. -/
theorem Related.shows {host : Host} {aggregator : AggregatorPoint} {transport : TransportPhase}
    {storage : StoragePhase} {phase : SchedulerPhase} {gateway : Gateway}
    (related : Related false host aggregator transport storage phase gateway) : host.Shows gateway where
  messages := related.messages
  storage := by
    rw [related.database]
    cases storage <;> rfl
  actions := by
    intro alive
    obtain ⟨sent, waiting⟩ := related.actions (related.alive.symm.trans alive)
    exact ⟨sent, storage.inHand, storage.inHand_length, received_inHand Queued.action sent waiting⟩
  transport := by
    have sent := related.transportSent
    have waiting := related.transportQueue
    rw [← List.map_id gateway.transportQueue.sent] at sent
    rw [← List.map_id gateway.transportQueue.waiting] at waiting
    have received := received_inHand id sent waiting
    rw [List.map_id] at received
    exact ⟨related.transportSent, transport.inHand, transport.inHand_length, received⟩
  published := related.published
  delivered := related.delivered
  readings := related.readings
  inserted := related.inserted
  processed := by
    rw [related.processed]
    cases storage with
    | idle => exact ⟨[], Nat.zero_le _, (List.append_nil _).symm⟩
    | deleting low high => exact ⟨[], Nat.zero_le _, (List.append_nil _).symm⟩
    | _ => exact host.connection.performed_log

/-- Whatever state the threads reach, between any two of their calls, the machine reaches
one that shows the same, in which storage has panicked exactly if the storage thread has. -/
theorem threads_refine_gateway
    (executed : (threads mayFail sqlite json scheduler attempts files).run moves = some crew) :
    ∃ labels gateway, (Gateway.machine json scheduler.config).run labels = some gateway ∧
      crew.state.Shows gateway ∧
      (gateway.storagePanicked = true ↔ ∃ reason, crew.standing .storage = .crash reason) := by
  have meets : (threads mayFail sqlite json scheduler attempts files).StepsMeet
      (Crew.Meets fun host worker answer op => False → host.Forward mayFail sqlite worker answer op)
      (threads mayFail sqlite json scheduler attempts files).start moves :=
    crewFrom_meets (fun _ _ _ _ => False.elim) _ _
  obtain ⟨phases, follows, refines⟩ := run_refines False executed meets
  obtain ⟨gateway, ⟨labels, ran, _⟩, related⟩ := refines.reached false False.elim
  refine ⟨labels, gateway, ran, related.shows, ?_⟩
  rw [related.alive]
  exact isPanicked_iff (follows .storage)

end Runs

/-! ### A message and a truncation -/

namespace Sample

def scheduler : BackupScheduler := ⟨.release, StsGateway.Sample.naming, Gateway.Sample.config, 1⟩

/-- The storage thread has taken the truncation and read the clock. -/
def underway (stamped now : UtcDateTime) : List (Worker × Answer) :=
  [(.channels, answer stamped 0)] ++ List.replicate 5 (.aggregator, answer stamped 0) ++
    List.replicate 4 (.storage, answer stamped 0) ++
    [(.scheduler, answer now 0), (.scheduler, answer now 1), (.scheduler, answer now 1)] ++
    List.replicate 5 (.transport, answer now 1) ++ List.replicate 3 (.storage, answer now 1)

def machine : Machine (Crew HostCall HostCall.Reply Panic Host Worker) (Worker × Answer) :=
  threads true BackupRace.Sample.sqlite Gateway.Sample.json scheduler 1 ∅

end Sample

open Gateway.Sample (reading)

theorem truncation_underway_refines :
    ∃ crew labels gateway,
      Sample.machine.run (Sample.underway (reading 100 0) (reading 102 0)) = some crew ∧
      crew.state.connection.storage.messages.length = 1 ∧ crew.state.published.length = 1 ∧
      (Gateway.machine Gateway.Sample.json Gateway.Sample.config).run labels = some gateway ∧
      crew.state.Shows gateway := by
  have ran : (Sample.machine.run (Sample.underway (reading 100 0) (reading 102 0))).map
      (fun crew => (crew.state.connection.storage.messages.length, crew.state.published.length)) =
      some (1, 1) := by decide +kernel
  obtain ⟨crew, executed, counts⟩ := Option.map_eq_some_iff.mp ran
  obtain ⟨labels, gateway, reached, shows, _⟩ := threads_refine_gateway executed
  exact ⟨crew, labels, gateway, executed, congrArg Prod.fst counts, congrArg Prod.snd counts, reached,
    shows⟩

end GatewayThreads

end StsGateway
