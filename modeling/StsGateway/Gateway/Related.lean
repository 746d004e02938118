import StsGateway.Gateway.TableShape
import StsGateway.Gateway.World

namespace StsGateway

open Data

namespace GatewayThreads

/-! The threads against `Gateway.machine`, where the storage thread performs an action in
one step, and the transport takes a message and publishes it in one.

A truncation of the machine is where the thread reads the clock. What becomes of the
statement after that is not known yet, so until the reply the threads are matched with one
run of the machine for either outcome.
-/

/-- The clock does not step back between the readings that matter, and no call of the
storage thread fails. -/
def Host.Forward (mayFail : Bool) (sqlite : SqliteFiles) (host : Host) (worker : Worker)
    (answer : Answer) : HostCall → Prop
  | .utcNow => worker ≠ .scheduler → ∀ reading ∈ host.readings, reading.nanos ≤ answer.utc.nanos
  | op => worker = .storage → answer.commits = true ∧
      ∀ outcome ∈ host.respond mayFail sqlite worker answer op, op.Works outcome.1

instance (mayFail : Bool) (sqlite : SqliteFiles) (host : Host) (worker : Worker) (answer : Answer) :
    ∀ op, Decidable (host.Forward mayFail sqlite worker answer op)
  | .utcNow => inferInstanceAs (Decidable (_ → ∀ _ ∈ host.readings, _))
  | .recv | .send _ | .transaction | .execute _ | .finish | .delete _ _ | .openDestination _
  | .newBackup | .runToCompletion | .read _ | .compress | .write _ | .exists _ | .createDirAll _
  | .readDir _ | .nextEntry | .metadata _ | .due _ | .sleep | .outOfFuel | .channelSend | .recvMessage
  | .sendTransport _ | .createClient | .connect | .recvTransport | .publish _ | .systemNow
  | .removeFile _ | .journal => inferInstanceAs (Decidable (_ → _ = true ∧ ∀ _ ∈ Host.respond _ _ _ _ _ _, _))

/-! ### The machine's state behind the threads' -/

/-- An entry of the machine's record as the storage thread would have made it. -/
def Performed.ofProcessed (entry : Processed) : Performed :=
  ⟨entry.queued.action, (Gateway.readingsOf entry.queued.action entry.turn).head?, entry.before,
    entry.after, entry.inserted⟩

def TransportPhase.inHand : TransportPhase → List TransportAction
  | publishing action => [action]
  | connecting | receiving => []

def StoragePhase.inHand : StoragePhase → List SqliteStorageAction
  | beginning insert | executing insert _ | finishing insert _ _ => [.insertBoth insert]
  | truncating olderThan => [.truncate (.fixedWindow olderThan)]
  | opening path | starting path | copying path | reading path | compressing path | writing path
  | removing path => [.backupDb path]
  | idle | deleting _ _ | panicked _ => []

def StoragePhase.isPanicked : StoragePhase → Bool
  | panicked _ => true
  | _ => false

/-- The database, if what becomes of the statement under way is known. -/
def StoragePhase.database (deletes : Bool) (storage : SqliteStorage) : StoragePhase → SqliteStorage
  | deleting low high =>
      if deletes then { storage with messages := deleteNotBetween storage.messages low high }
      else storage
  | _ => storage

/-- The actions the thread is done with. -/
def StoragePhase.performed (deletes : Bool) (connection : Connection) : StoragePhase → List Performed
  | idle => connection.performed
  | deleting low high =>
      { connection with
        storage := (deleting low high).database deletes connection.storage }.performed
  | _ => connection.log

/-- What the connection holds of an action under way. -/
def StoragePhase.Holds (strict : Prop) (connection : Connection) : StoragePhase → Prop
  | executing insert row => insert.row = .ok row
  | finishing insert row executed => insert.row = .ok row ∧
      connection.statement = (if executed then some row else none) ∧ (strict → executed = true)
  | reading _ | compressing _ | writing _ => connection.copied = connection.storage.messages
  | removing path =>
      connection.compressed = some ⟨path.withExtension "db.zst", connection.storage.messages⟩
  | _ => True

/-- The action in hand was taken last and has not read the clock yet. -/
structure StoragePhase.Pending (strict : Prop) (connection : Connection) (storage : StoragePhase) :
    Prop where
  current : ∀ action ∈ storage.inHand,
    connection.current = some ⟨action, none, connection.storage.messages⟩
  holds : storage.Holds strict connection

def SchedulerPhase.path? : SchedulerPhase → Option PathBuf
  | truncated path => some path
  | _ => none

structure Related (deletes : Bool) (host : Host) (aggregator : AggregatorPoint)
    (transport : TransportPhase) (storage : StoragePhase) (scheduler : SchedulerPhase)
    (gateway : Gateway) : Prop where
  messages : gateway.aggregatorQueue = host.messages
  point : gateway.aggregator = aggregator
  alive : gateway.storagePanicked = storage.isPanicked
  actions : storage.isPanicked = false →
    gateway.storageQueue.sent.map Queued.action = host.actions.sent ∧
      gateway.storageQueue.waiting.map Queued.action = storage.inHand ++ host.actions.waiting
  database : gateway.storage = storage.database deletes host.connection.storage
  inserted : gateway.inserted = host.connection.inserted
  processed : gateway.processed.map Performed.ofProcessed = storage.performed deletes host.connection
  transportSent : gateway.transportQueue.sent = host.transport.sent
  transportQueue : gateway.transportQueue.waiting = transport.inHand ++ host.transport.waiting
  connected : transport ≠ .connecting → gateway.connected = true
  published : gateway.published = host.published
  delivered : gateway.delivered = host.delivered
  readings : gateway.readings = host.readings
  backupJob : gateway.backupJob = scheduler.path?

structure Refines (strict : Prop) (json : SerdeJson) (config : MainConfig) (host : Host)
    (aggregator : AggregatorPoint) (transport : TransportPhase) (storage : StoragePhase)
    (scheduler : SchedulerPhase) : Prop where
  pending : storage.Pending strict host.connection
  reached : ∀ deletes : Bool, (strict → deletes = true) → ∃ gateway,
    (Gateway.machine json config).ReachedMeeting
      (fun gateway label => strict → gateway.ClockForward label) gateway ∧
    Related deletes host aggregator transport storage scheduler gateway

section Steps

variable {mayFail : Bool} {sqlite : SqliteFiles} {strict : Prop} {json : SerdeJson}
  {config : MainConfig} {host after : Host} {answer : Answer}
  {op : HostCall} {reply : op.Reply} {deletes : Bool} {gateway : Gateway}
  {aggregator nextAggregator : AggregatorPoint} {transport nextTransport : TransportPhase}
  {storage nextStorage : StoragePhase} {scheduler nextScheduler : SchedulerPhase}

theorem Refines.silent (refines : Refines strict json config host aggregator transport storage scheduler)
    (pending : nextStorage.Pending strict after.connection)
    (each : ∀ deletes gateway, Related deletes host aggregator transport storage scheduler gateway →
      Related deletes after nextAggregator nextTransport nextStorage nextScheduler gateway) :
    Refines strict json config after nextAggregator nextTransport nextStorage nextScheduler := by
  refine ⟨pending, fun deletes outcome => ?_⟩
  obtain ⟨gateway, reached, related⟩ := refines.reached deletes outcome
  exact ⟨gateway, reached, each deletes gateway related⟩

theorem Refines.matched (refines : Refines strict json config host aggregator transport storage scheduler)
    (pending : nextStorage.Pending strict after.connection)
    (each : ∀ deletes gateway, (strict → deletes = true) →
      Related deletes host aggregator transport storage scheduler gateway →
      ∃ label next, Gateway.step json config gateway label = some next ∧
        (strict → gateway.ClockForward label) ∧
        Related deletes after nextAggregator nextTransport nextStorage nextScheduler next) :
    Refines strict json config after nextAggregator nextTransport nextStorage nextScheduler := by
  refine ⟨pending, fun deletes outcome => ?_⟩
  obtain ⟨gateway, reached, related⟩ := refines.reached deletes outcome
  obtain ⟨label, next, stepped, forward, holds⟩ := each deletes gateway outcome related
  exact ⟨next, reached.step forward stepped, holds⟩

theorem Related.sendStorage {action : SqliteStorageAction}
    (related : Related deletes host aggregator transport storage scheduler gateway) (sender : Sender) :
    Related deletes { host with actions := host.actions.send action } aggregator transport storage
      scheduler (gateway.sendStorage ⟨sender, action⟩) := by
  cases panicked : gateway.storagePanicked with
  | true =>
      have gone := related.alive.symm.trans panicked
      rw [Gateway.sendStorage, if_pos panicked]
      exact { related with actions := fun alive => Bool.noConfusion (gone.symm.trans alive) }
  | false =>
      rw [Gateway.sendStorage_alive panicked]
      refine { related with actions := fun alive => ?_ }
      obtain ⟨sent, waiting⟩ := related.actions alive
      refine ⟨?_, ?_⟩
      · simp only [Mpsc.sent_send, List.map_append, sent, List.map_cons, List.map_nil]
      · simp only [Mpsc.send, List.map_append, waiting, List.append_assoc]
        rfl

theorem channels_refine
    (refines : Refines strict json config host aggregator transport storage scheduler)
    (led : ChannelStep () op reply ())
    (answered : host.respond mayFail sqlite .channels answer op = some (reply, after)) :
    Refines strict json config after aggregator transport storage scheduler := by
  cases led
  cases answered
  refine refines.matched refines.pending fun deletes gateway _ related => ?_
  refine ⟨.channelSend answer.message, _, rfl, fun _ => trivial, ?_⟩
  exact { related with messages := by rw [related.messages] }

theorem aggregator_refines
    (refines : Refines strict json config host aggregator transport storage scheduler)
    (led : AggregatorStep json aggregator op reply nextAggregator)
    (forward : strict → host.Forward mayFail sqlite .aggregator answer op)
    (answered : host.respond mayFail sqlite .aggregator answer op = some (reply, after)) :
    Refines strict json config after nextAggregator transport storage scheduler := by
  cases led with
  | received =>
      obtain ⟨⟨action, messages⟩, received, same⟩ := Option.map_eq_some_iff.mp answered
      cases same
      refine refines.matched refines.pending fun deletes gateway _ related => ?_
      refine ⟨.aggregatorRecv, _, by
        simp only [Gateway.step, related.point, related.messages, received]; rfl, fun _ => trivial, ?_⟩
      exact { related with messages := rfl, point := rfl }
  | stamped =>
      cases answered
      refine refines.matched refines.pending fun deletes gateway _ related => ?_
      refine ⟨.stamp answer.utc, _, by simp only [Gateway.step, related.point]; rfl, ?_, ?_⟩
      · intro strict reading known
        rw [related.readings] at known
        exact forward strict (by decide) reading known
      · exact { related with point := rfl, readings := by rw [related.readings] }
  | stored =>
      cases answered
      rename_i item
      refine refines.matched refines.pending fun deletes gateway _ related => ?_
      refine ⟨.sendToStorage, _, by simp only [Gateway.step, related.point]; rfl, fun _ => trivial, ?_⟩
      exact { related.sendStorage .aggregator with point := rfl }
  | timeseries =>
      cases answered
      refine refines.matched refines.pending fun deletes gateway _ related => ?_
      refine ⟨.sendTimeseries, _, by simp only [Gateway.step, related.point]; rfl, fun _ => trivial, ?_⟩
      refine { related with point := rfl, transportSent := ?_, transportQueue := ?_ }
      · simp only [Mpsc.sent_send, related.transportSent]
      · simp only [Mpsc.send, related.transportQueue, List.append_assoc]
  | attributes =>
      cases answered
      refine refines.matched refines.pending fun deletes gateway _ related => ?_
      refine ⟨.sendAttributes, _, by simp only [Gateway.step, related.point]; rfl, fun _ => trivial, ?_⟩
      refine { related with point := rfl, transportSent := ?_, transportQueue := ?_ }
      · simp only [Mpsc.sent_send, related.transportSent]
      · simp only [Mpsc.send, related.transportQueue, List.append_assoc]

theorem transport_refines
    (refines : Refines strict json config host aggregator transport storage scheduler)
    (led : TransportStep config.mqtt transport op reply nextTransport)
    (answered : host.respond mayFail sqlite .transport answer op = some (reply, after)) :
    Refines strict json config after aggregator nextTransport storage scheduler := by
  cases led with
  | created =>
      cases answered
      exact refines
  | failed =>
      obtain ⟨_, rfl⟩ := Prod.mk.inj (Option.some.inj answered)
      exact refines
  | slept =>
      cases answered
      exact refines
  | stopped => cases answered
  | connected =>
      obtain ⟨_, rfl⟩ := Prod.mk.inj (Option.some.inj answered)
      refine refines.matched refines.pending fun deletes gateway _ related => ?_
      refine ⟨.connect true, _, rfl, fun _ => trivial, ?_⟩
      exact { related with connected := fun _ => Bool.or_true _, transportQueue := related.transportQueue }
  | received =>
      obtain ⟨taken, received, same⟩ := Option.map_eq_some_iff.mp answered
      cases same
      refine refines.silent refines.pending fun deletes gateway related => ?_
      refine { related with
        transportSent := related.transportSent.trans (Mpsc.recv?_some received).2.symm
        transportQueue := ?_
        connected := fun _ => related.connected (by simp) }
      rw [related.transportQueue, Mpsc.recv?_waiting received]
      rfl
  | published =>
      cases answered
      rename_i action
      refine refines.matched refines.pending fun deletes gateway _ related => ?_
      have connected := related.connected (by simp)
      have taken := Mpsc.recv?_cons related.transportQueue
      refine ⟨.publish answer.succeeds, _, by simp only [Gateway.step, connected, taken]; rfl,
        fun _ => trivial, ?_⟩
      exact { related with
        transportSent := (Mpsc.recv?_some taken).2.trans related.transportSent
        transportQueue := rfl
        connected := fun _ => rfl
        published := by rw [related.published]
        delivered := by rw [related.delivered] }

/-- A call that changes at most the folder. -/
theorem Refines.unseen
    (refines : Refines strict json config host aggregator transport storage scheduler)
    (frame : after = { host with folder := after.folder })
    (path : nextScheduler.path? = scheduler.path?) :
    Refines strict json config after aggregator transport storage nextScheduler := by
  rw [frame]
  exact refines.silent refines.pending fun _ _ related =>
    { related with backupJob := related.backupJob.trans path.symm }

theorem sqlite_refines
    (refines : Refines strict json config host aggregator transport storage scheduler)
    (led : SqliteStep () op reply ())
    (answered : host.respond mayFail sqlite .sqlite answer op = some (reply, after)) :
    Refines strict json config after aggregator transport storage scheduler := by
  cases led
  exact refines.unseen (Host.respond_others (by trivial) (by decide) answered) rfl

theorem scheduler_refines {thread : BackupScheduler}
    (refines : Refines strict json thread.config host aggregator transport storage scheduler)
    (led : SchedulerStep thread scheduler op reply nextScheduler)
    (answered : host.respond mayFail sqlite .scheduler answer op = some (reply, after)) :
    Refines strict json thread.config after aggregator transport storage nextScheduler := by
  cases led with
  | quiet quiet =>
      have unchanged : after = host := by
        cases op <;> first | exact quiet.elim | (cases answered; rfl)
      rw [unchanged]
      exact refines
  | looked looks =>
      obtain rfl := Host.respond_looks looks answered
      exact refines
  | named =>
      cases answered
      exact refines.silent refines.pending fun _ _ related => { related with }
  | truncateJob =>
      cases answered
      refine refines.matched refines.pending fun deletes gateway _ related => ?_
      refine ⟨.truncateJob, _, by simp only [Gateway.step, Gateway.truncateAction_configured],
        fun _ => trivial, related.sendStorage .truncateJob⟩
  | truncated =>
      cases answered
      rename_i path
      refine refines.matched refines.pending fun deletes gateway _ related => ?_
      have idle : gateway.backupJob = none := related.backupJob
      refine ⟨.backupJobTruncate path, _,
        by simp only [Gateway.step, idle, Gateway.truncateAction_configured]; rfl, fun _ => trivial, ?_⟩
      exact { related.sendStorage (.backupJob gateway.jobRuns) with backupJob := rfl }
  | backedUp =>
      cases answered
      rename_i path
      refine refines.matched refines.pending fun deletes gateway _ related => ?_
      have running : gateway.backupJob = some path := related.backupJob
      refine ⟨.backupJobBackup, _, by simp only [Gateway.step, running]; rfl, fun _ => trivial, ?_⟩
      exact { related.sendStorage (.backupJob gateway.jobRuns) with backupJob := rfl }
  | stopped => cases answered
  | opened | unreadable | began | overflowed | ended | skipped | listed | vanished | expired | kept
  | removed => exact refines.unseen (Host.respond_others (by trivial) (by decide) answered) rfl

end Steps

end GatewayThreads

end StsGateway
