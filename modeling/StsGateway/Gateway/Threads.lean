import StsGateway.Backup.Scheduler
import StsGateway.Data.Protocol
import StsGateway.Storage.Thread

namespace StsGateway

open Data

/-! The threads of the gateway, each running its own program.

All a channel does here is to send. What a thread is about is the phase it is in, and the
protocol says which calls take it from one to the next; that the programs keep to it is shown
here once, for everything that is said about the threads together.
-/

namespace AggregatorThread

/-- One turn of the loop. A send that fails is only logged. -/
def run (json : SerdeJson) : HostProgram Unit := do
  let action : AggregatorAction ← Program.call HostCall.recvMessage
  match action with
  | .sendBoth attributes timeseries =>
      let now : UtcDateTime ← Program.call HostCall.utcNow
      let deviceName := timeseries.1
      let timeseriesMessage := json.timeseries deviceName timeseries.2
      let attributesMessage := json.attributes deviceName attributes.2
      let _stored : Bool ← Program.call (HostCall.send (.insertBoth
        ⟨now.timestampMillis, deviceName, some timeseriesMessage, some attributesMessage⟩))
      let _timeseries : Bool ← Program.call (HostCall.sendTransport (.sendTimeseries timeseriesMessage))
      let _attributes : Bool ← Program.call (HostCall.sendTransport (.sendAttributes attributesMessage))
      return ()

end AggregatorThread

namespace TransportThread

/-- `attempts` bounds how often the thread is seen to try. -/
def connectLoop : Nat → HostProgram Unit
  | 0 => do
      let _nothing : Unit ← Program.call HostCall.outOfFuel
      return ()
  | attempts + 1 => do
      let connected : Bool ← Program.call HostCall.connect
      if connected then return ()
      else
        let _slept : Unit ← Program.call HostCall.sleep
        connectLoop attempts

def connect (attempts : Nat) : HostProgram Unit := do
  let created : Bool ← Program.call HostCall.createClient
  if created then connectLoop attempts else .crash ⟨"Error creating MQTT Client"⟩

/-- One turn of the loop. A message that could not be sent is only logged. -/
def run (config : MqttConfig) : HostProgram Unit := do
  let action : TransportAction ← Program.call HostCall.recvTransport
  match action with
  | .sendTimeseries telemetry =>
      let _sent : Bool ← Program.call (HostCall.publish
        ⟨MqttTransport.tbDeviceTelemetriTopic, telemetry.toUTF8, MqttTransport.qos config⟩)
      return ()
  | .sendAttributes attributes =>
      let _sent : Bool ← Program.call (HostCall.publish
        ⟨MqttTransport.tbDeviceAttributesTopic, attributes.toUTF8, MqttTransport.qos config⟩)
      return ()

end TransportThread

namespace GatewayThreads

/-- What each thread does first, and then over and over. -/
def first (json : SerdeJson) (scheduler : BackupScheduler) (attempts : Nat) : Worker → HostProgram Unit
  | .channels => Program.call HostCall.channelSend
  | .aggregator => AggregatorThread.run json
  | .transport => TransportThread.connect attempts
  | .storage => StorageThread.process
  | .scheduler => scheduler.tick
  | .sqlite => Program.call HostCall.journal

def bodies (json : SerdeJson) (scheduler : BackupScheduler) : Worker → HostProgram Unit
  | .channels => Program.call HostCall.channelSend
  | .aggregator => AggregatorThread.run json
  | .transport => TransportThread.run scheduler.config.mqtt
  | .storage => StorageThread.process
  | .scheduler => scheduler.tick
  | .sqlite => Program.call HostCall.journal

/-! ### Phases -/

inductive TransportPhase where
  | connecting
  | receiving
  | publishing (action : TransportAction)

inductive StoragePhase where
  | idle
  | beginning (insert : Insert)
  | executing (insert : Insert) (row : Row)
  | finishing (insert : Insert) (row : Row) (executed : Bool)
  | truncating (olderThan : Chrono.Duration)
  | deleting (low high : Int)
  | opening (path : PathBuf)
  | starting (path : PathBuf)
  | copying (path : PathBuf)
  | reading (path : PathBuf)
  | compressing (path : PathBuf)
  | writing (path : PathBuf)
  | removing (path : PathBuf)
  | panicked (overBackup : Bool)

inductive SchedulerPhase where
  | idle
  | named (path : PathBuf)
  | truncated (path : PathBuf)
  | sent
  | opened
  | walking (olderThan : SystemTime)
  | inspecting (olderThan : SystemTime) (path : PathBuf)
  | removing (olderThan : SystemTime) (path : PathBuf)
  | panicked

abbrev Phase : Worker → Type
  | .channels => Unit
  | .aggregator => AggregatorPoint
  | .transport => TransportPhase
  | .storage => StoragePhase
  | .scheduler => SchedulerPhase
  | .sqlite => Unit

inductive ChannelStep : Unit → (op : HostCall) → op.Reply → Unit → Prop
  | sent : ChannelStep () .channelSend () ()

inductive AggregatorStep (json : SerdeJson) :
    AggregatorPoint → (op : HostCall) → op.Reply → AggregatorPoint → Prop
  | received {attributes : AttributeMessage} {timeseries : TimeseriesMessage} :
      AggregatorStep json .receiving .recvMessage (.sendBoth attributes timeseries)
        (.stamping attributes timeseries)
  | stamped {attributes : AttributeMessage} {timeseries : TimeseriesMessage} {now : UtcDateTime} :
      AggregatorStep json (.stamping attributes timeseries) .utcNow now
        (.sendingToStorage ⟨now.timestampMillis, attributes, timeseries⟩)
  | stored {item : Stamped} {reply : Bool} :
      AggregatorStep json (.sendingToStorage item) (.send (.insertBoth (item.insert json))) reply
        (.sendingTimeseries item)
  | timeseries {item : Stamped} {reply : Bool} :
      AggregatorStep json (.sendingTimeseries item)
        (.sendTransport (.sendTimeseries (item.timeseriesMessage json))) reply (.sendingAttributes item)
  | attributes {item : Stamped} {reply : Bool} :
      AggregatorStep json (.sendingAttributes item)
        (.sendTransport (.sendAttributes (item.attributesMessage json))) reply .receiving

inductive TransportStep (config : MqttConfig) :
    TransportPhase → (op : HostCall) → op.Reply → TransportPhase → Prop
  | created {reply : Bool} : TransportStep config .connecting .createClient reply .connecting
  | failed : TransportStep config .connecting .connect false .connecting
  | slept : TransportStep config .connecting .sleep () .connecting
  | stopped : TransportStep config .connecting .outOfFuel () .receiving
  | connected : TransportStep config .connecting .connect true .receiving
  | received {action : TransportAction} :
      TransportStep config .receiving .recvTransport action (.publishing action)
  | published {action : TransportAction} {reply : Bool} :
      TransportStep config (.publishing action) (.publish (MqttTransport.message config action)) reply
        .receiving

/-- The actions that nobody sends, and that storage ignores. -/
def Ignored : SqliteStorageAction → Prop
  | .insertAttributes _ | .insertTimeseries _ | .closeDb | .timeout => True
  | .insertBoth _ | .backupDb _ | .truncate _ => False

inductive StorageStep : StoragePhase → (op : HostCall) → op.Reply → StoragePhase → Prop
  | ignored {action : SqliteStorageAction} (ignored : Ignored action) :
      StorageStep .idle .recv action .idle
  | insert {insert : Insert} : StorageStep .idle .recv (.insertBoth insert) (.beginning insert)
  | notBegun {insert : Insert} : StorageStep (.beginning insert) .transaction false .idle
  | begun {insert : Insert} {row : Row} (bound : insert.row = .ok row) :
      StorageStep (.beginning insert) .transaction true (.executing insert row)
  | unbound {insert : Insert} {panic : Panic} (bound : insert.row = .error panic) :
      StorageStep (.beginning insert) .transaction true (.panicked false)
  | executed {insert : Insert} {row : Row} {reply : Bool} :
      StorageStep (.executing insert row) (.execute row) reply (.finishing insert row reply)
  | finished {insert : Insert} {row : Row} {executed : Bool} :
      StorageStep (.finishing insert row executed) .finish true .idle
  | notFinished {insert : Insert} {row : Row} {executed : Bool} :
      StorageStep (.finishing insert row executed) .finish false
        (.panicked false)
  | truncate {olderThan : Chrono.Duration} :
      StorageStep .idle .recv (.truncate (.fixedWindow olderThan)) (.truncating olderThan)
  | dated {olderThan : Chrono.Duration} {now old : UtcDateTime} (cutoff : now.sub olderThan = .ok old) :
      StorageStep (.truncating olderThan) .utcNow now (.deleting old.timestampMillis now.timestampMillis)
  | undated {olderThan : Chrono.Duration} {now : UtcDateTime} {panic : Panic}
      (cutoff : now.sub olderThan = .error panic) :
      StorageStep (.truncating olderThan) .utcNow now (.panicked false)
  | deleted {low high : Int} {reply : Bool} : StorageStep (.deleting low high) (.delete low high) reply .idle
  | backup {path : PathBuf} : StorageStep .idle .recv (.backupDb path) (.opening path)
  | opened {path : PathBuf} : StorageStep (.opening path) (.openDestination path) true (.starting path)
  | started {path : PathBuf} : StorageStep (.starting path) .newBackup true (.copying path)
  | copied {path : PathBuf} : StorageStep (.copying path) .runToCompletion true (.reading path)
  | readBack {path : PathBuf} : StorageStep (.reading path) (.read path) true (.compressing path)
  | compressed {path : PathBuf} : StorageStep (.compressing path) .compress true (.writing path)
  | written {path : PathBuf} :
      StorageStep (.writing path) (.write (path.withExtension "db.zst")) true (.removing path)
  | removed {path : PathBuf} : StorageStep (.removing path) (.removeFile path) true .idle
  | notOpened {path : PathBuf} : StorageStep (.opening path) (.openDestination path) false (.panicked true)
  | notStarted {path : PathBuf} : StorageStep (.starting path) .newBackup false (.panicked true)
  | notCopied {path : PathBuf} : StorageStep (.copying path) .runToCompletion false (.panicked true)
  | notRead {path : PathBuf} : StorageStep (.reading path) (.read path) false (.panicked true)
  | notCompressed {path : PathBuf} : StorageStep (.compressing path) .compress false (.panicked true)
  | notWritten {path : PathBuf} :
      StorageStep (.writing path) (.write (path.withExtension "db.zst")) false (.panicked true)
  | notRemoved {path : PathBuf} : StorageStep (.removing path) (.removeFile path) false (.panicked true)

/-- The scheduler's calls between two jobs. -/
def Quiet : HostCall → Prop
  | .due _ | .sleep => True
  | _ => False

/-- The calls between the naming of a backup and its truncation. -/
def Looks : HostCall → Prop
  | .exists _ | .createDirAll _ => True
  | _ => False

inductive SchedulerStep (scheduler : BackupScheduler) :
    SchedulerPhase → (op : HostCall) → op.Reply → SchedulerPhase → Prop
  | quiet {op : HostCall} {reply : op.Reply} (quiet : Quiet op) :
      SchedulerStep scheduler .idle op reply .idle
  | truncateJob {reply : Bool} :
      SchedulerStep scheduler .idle (.send (Gateway.configuredTruncate scheduler.config)) reply .idle
  | named {now : UtcDateTime} :
      SchedulerStep scheduler .idle .utcNow now
        (.named (scheduler.naming.backupPath scheduler.config now.nanos))
  | looked {op : HostCall} {reply : op.Reply} {path : PathBuf} (looks : Looks op) :
      SchedulerStep scheduler (.named path) op reply (.named path)
  | truncated {path : PathBuf} {reply : Bool} :
      SchedulerStep scheduler (.named path) (.send (Gateway.configuredTruncate scheduler.config)) reply
        (.truncated path)
  | backedUp {path : PathBuf} {reply : Bool} :
      SchedulerStep scheduler (.truncated path) (.send (.backupDb path)) reply .sent
  | opened : SchedulerStep scheduler .sent (.readDir scheduler.folder) true .opened
  | unreadable : SchedulerStep scheduler .sent (.readDir scheduler.folder) false .idle
  | began {now cutoff : SystemTime}
      (reached : olderThan scheduler.profile scheduler.config.storage.backupTtl now = .ok cutoff) :
      SchedulerStep scheduler .opened .systemNow now (.walking cutoff)
  | overflowed {now : SystemTime} {panic : Panic}
      (failed : olderThan scheduler.profile scheduler.config.storage.backupTtl now = .error panic) :
      SchedulerStep scheduler .opened .systemNow now .panicked
  | ended {cutoff : SystemTime} : SchedulerStep scheduler (.walking cutoff) .nextEntry none .idle
  | skipped {cutoff : SystemTime} :
      SchedulerStep scheduler (.walking cutoff) .nextEntry (some none) (.walking cutoff)
  | listed {cutoff : SystemTime} {path : PathBuf} :
      SchedulerStep scheduler (.walking cutoff) .nextEntry (some (some path)) (.inspecting cutoff path)
  | stopped {cutoff : SystemTime} : SchedulerStep scheduler (.walking cutoff) .outOfFuel () .idle
  | vanished {cutoff : SystemTime} {path : PathBuf} :
      SchedulerStep scheduler (.inspecting cutoff path) (.metadata path) none .panicked
  | expired {cutoff created : SystemTime} {path : PathBuf} (early : created.nanos < cutoff.nanos) :
      SchedulerStep scheduler (.inspecting cutoff path) (.metadata path) (some ⟨true, some created⟩)
        (.removing cutoff path)
  | kept {cutoff : SystemTime} {path : PathBuf} {metadata : Metadata}
      (late : ∀ created, metadata = ⟨true, some created⟩ → cutoff.nanos ≤ created.nanos) :
      SchedulerStep scheduler (.inspecting cutoff path) (.metadata path) (some metadata)
        (.walking cutoff)
  | removed {cutoff : SystemTime} {path : PathBuf} {reply : Bool} :
      SchedulerStep scheduler (.removing cutoff path) (.removeFile path) reply (.walking cutoff)

inductive SqliteStep : Unit → (op : HostCall) → op.Reply → Unit → Prop
  | wrote : SqliteStep () .journal () ()

/-- The creation of the client may panic. In a cleanup the multiplication of the hours may
overflow before the clock is read. -/
def protocol (json : SerdeJson) (scheduler : BackupScheduler) :
    (worker : Worker) → Protocol HostCall HostCall.Reply (Phase worker)
  | .channels => ⟨ChannelStep, fun _ => False⟩
  | .aggregator => ⟨AggregatorStep json, fun _ => False⟩
  | .transport => ⟨TransportStep scheduler.config.mqtt, fun phase => phase = .connecting⟩
  | .storage => ⟨StorageStep, fun phase => ∃ overBackup, phase = .panicked overBackup⟩
  | .scheduler => ⟨SchedulerStep scheduler, fun phase => phase = .panicked ∨ phase = .opened ∧
      ∀ now, ∃ panic,
        olderThan scheduler.profile scheduler.config.storage.backupTtl now = .error panic⟩
  | .sqlite => ⟨SqliteStep, fun _ => False⟩

def home : (worker : Worker) → Phase worker
  | .channels => ()
  | .aggregator => AggregatorPoint.receiving
  | .transport => TransportPhase.receiving
  | .storage => StoragePhase.idle
  | .scheduler => SchedulerPhase.idle
  | .sqlite => ()

def entry : (worker : Worker) → Phase worker
  | .transport => TransportPhase.connecting
  | worker => home worker

/-! ### The programs keep to their phases -/

section Follows

variable {json : SerdeJson} {scheduler : BackupScheduler}

theorem aggregator_follows :
    (AggregatorThread.run json).Follows (protocol json scheduler .aggregator)
      (fun _ phase => phase = .receiving) .receiving := by
  rintro ⟨attributes, timeseries⟩
  refine ⟨.stamping attributes timeseries, .received, fun now => ?_⟩
  refine ⟨.sendingToStorage ⟨now.timestampMillis, attributes, timeseries⟩, .stamped, fun _ => ?_⟩
  refine ⟨.sendingTimeseries _, .stored, fun _ => ?_⟩
  exact ⟨.sendingAttributes _, .timeseries, fun _ => ⟨.receiving, .attributes, rfl⟩⟩

theorem connectLoop_follows (attempts : Nat) :
    (TransportThread.connectLoop attempts).Follows (protocol json scheduler .transport)
      (fun _ phase => phase = .receiving) .connecting := by
  induction attempts with
  | zero => exact fun _ => ⟨.receiving, .stopped, rfl⟩
  | succ attempts ih =>
      refine Program.Follows.call_bind fun connected => ?_
      cases connected with
      | true => exact ⟨.receiving, .connected, rfl⟩
      | false => exact ⟨.connecting, .failed, fun _ => ⟨.connecting, .slept, ih⟩⟩

theorem connect_follows (attempts : Nat) :
    (TransportThread.connect attempts).Follows (protocol json scheduler .transport)
      (fun _ phase => phase = .receiving) .connecting := by
  refine Program.Follows.call_bind fun created => ⟨.connecting, .created, ?_⟩
  cases created with
  | true => exact connectLoop_follows attempts
  | false => rfl

theorem transport_follows :
    (TransportThread.run scheduler.config.mqtt).Follows (protocol json scheduler .transport)
      (fun _ phase => phase = .receiving) .receiving := by
  refine Program.Follows.call_bind fun action => ⟨.publishing action, .received, ?_⟩
  cases action with
  | sendTimeseries telemetry => exact fun _ => ⟨.receiving, .published, rfl⟩
  | sendAttributes attributes => exact fun _ => ⟨.receiving, .published, rfl⟩

theorem insertBoth_follows (insert : Insert) :
    (StorageThread.insertBoth insert).Follows (protocol json scheduler .storage)
      (fun _ phase => phase = .idle) (.beginning insert) := by
  refine Program.Follows.call_bind fun begun => ?_
  cases begun with
  | false => exact ⟨.idle, .notBegun, rfl⟩
  | true =>
      cases bound : insert.row with
      | error panic => exact ⟨.panicked false, .unbound bound, false, rfl⟩
      | ok row =>
          refine ⟨.executing insert row, .begun bound, ?_⟩
          refine fun executed => ⟨.finishing insert row executed, .executed, fun finished => ?_⟩
          cases finished with
          | false => exact ⟨.panicked false, .notFinished, false, rfl⟩
          | true => exact ⟨.idle, .finished, rfl⟩

theorem truncateFixedWindow_follows (olderThan : Chrono.Duration) :
    (StorageThread.truncateFixedWindow olderThan).Follows (protocol json scheduler .storage)
      (fun _ phase => phase = .idle) (.truncating olderThan) := by
  refine Program.Follows.call_bind fun now => ?_
  cases cutoff : now.sub olderThan with
  | error panic => exact ⟨.panicked false, .undated cutoff, false, rfl⟩
  | ok old =>
      exact ⟨.deleting old.timestampMillis now.timestampMillis, .dated cutoff,
        fun _ => ⟨.idle, .deleted, rfl⟩⟩

theorem backupDb_follows (path : PathBuf) :
    (StorageThread.perform (.backupDb path)).Follows (protocol json scheduler .storage)
      (fun _ phase => phase = .idle) (.opening path) := by
  intro opened
  cases opened with
  | false => exact ⟨.panicked true, .notOpened, true, rfl⟩
  | true =>
      refine ⟨.starting path, .opened, fun started => ?_⟩
      cases started with
      | false => exact ⟨.panicked true, .notStarted, true, rfl⟩
      | true =>
          refine ⟨.copying path, .started, fun completed => ?_⟩
          cases completed with
          | false => exact ⟨.panicked true, .notCopied, true, rfl⟩
          | true =>
              refine ⟨.reading path, .copied, fun read => ?_⟩
              cases read with
              | false => exact ⟨.panicked true, .notRead, true, rfl⟩
              | true =>
                  refine ⟨.compressing path, .readBack, fun compressed => ?_⟩
                  cases compressed with
                  | false => exact ⟨.panicked true, .notCompressed, true, rfl⟩
                  | true =>
                      refine ⟨.writing path, .compressed, fun written => ?_⟩
                      cases written with
                      | false => exact ⟨.panicked true, .notWritten, true, rfl⟩
                      | true =>
                          refine ⟨.removing path, .written, fun removed => ?_⟩
                          cases removed with
                          | false => exact ⟨.panicked true, .notRemoved, true, rfl⟩
                          | true => exact ⟨.idle, .removed, rfl⟩

theorem process_follows :
    StorageThread.process.Follows (protocol json scheduler .storage) (fun _ phase => phase = .idle)
      .idle := by
  refine Program.Follows.call_bind fun action => ?_
  cases action with
  | insertBoth insert => exact ⟨.beginning insert, .insert, insertBoth_follows insert⟩
  | backupDb path => exact ⟨.opening path, .backup, backupDb_follows path⟩
  | truncate mode =>
      obtain ⟨olderThan⟩ := mode
      exact ⟨.truncating olderThan, .truncate, truncateFixedWindow_follows olderThan⟩
  | insertAttributes insert => exact ⟨.idle, .ignored trivial, rfl⟩
  | insertTimeseries insert => exact ⟨.idle, .ignored trivial, rfl⟩
  | closeDb => exact ⟨.idle, .ignored trivial, rfl⟩
  | timeout => exact ⟨.idle, .ignored trivial, rfl⟩

theorem removeExpired_follows (cutoff : SystemTime) (fuel : Nat) :
    (BackupScheduler.removeExpired cutoff fuel).Follows (protocol json scheduler .scheduler)
      (fun _ phase => phase = .idle) (.walking cutoff) := by
  induction fuel with
  | zero => exact fun _ => ⟨.idle, .stopped, rfl⟩
  | succ fuel ih =>
      refine Program.Follows.call_bind fun listed => ?_
      rcases listed with _ | _ | path
      · exact ⟨.idle, .ended, rfl⟩
      · exact ⟨.walking cutoff, .skipped, ih⟩
      · refine ⟨.inspecting cutoff path, .listed, Program.Follows.call_bind fun metadata => ?_⟩
        rcases metadata with _ | ⟨isFile, created⟩
        · exact ⟨.panicked, .vanished, .inl rfl⟩
        · cases isFile with
          | false => exact ⟨.walking cutoff, .kept (by simp), ih⟩
          | true =>
              cases created with
              | none => exact ⟨.walking cutoff, .kept (by simp), ih⟩
              | some created =>
                  by_cases early : created.nanos < cutoff.nanos
                  · refine ⟨.removing cutoff path, .expired early, ?_⟩
                    simp only [if_pos early]
                    exact fun _ => ⟨.walking cutoff, .removed, ih⟩
                  · refine ⟨.walking cutoff, .kept (by simpa using early), ?_⟩
                    simp only [if_neg early]
                    exact ih

theorem deleteOldBackups_follows :
    scheduler.deleteOldBackups.Follows (protocol json scheduler .scheduler)
      (fun _ phase => phase = .idle) .sent := by
  refine Program.Follows.call_bind fun opened => ?_
  cases opened with
  | false => exact ⟨.idle, .unreadable, rfl⟩
  | true =>
      refine ⟨.opened, .opened, Program.Follows.ofExcept_bind ?_ ?_⟩
      · intro panic overflows
        refine .inr ⟨rfl, fun now => ⟨panic, ?_⟩⟩
        rw [olderThan, overflows]
        rfl
      · intro seconds multiplied
        refine Program.Follows.call_bind fun now => ?_
        have cutoff : olderThan scheduler.profile scheduler.config.storage.backupTtl now =
            now.subSecs seconds := by rw [olderThan, multiplied]; rfl
        cases subtracted : now.subSecs seconds with
        | error panic => exact ⟨.panicked, .overflowed (cutoff.trans subtracted), .inl rfl⟩
        | ok older =>
            exact ⟨.walking older, .began (cutoff.trans subtracted), removeExpired_follows older _⟩

theorem backupJob_follows :
    scheduler.backupJob.Follows (protocol json scheduler .scheduler)
      (fun _ phase => phase = .idle) .idle := by
  have sends : ∀ path : PathBuf, (do
      let truncation ← Program.ofExcept (Gateway.truncateAction scheduler.config.storage.messagesTtl)
      let _truncating : Bool ← Program.call (HostCall.send truncation)
      let _backingUp : Bool ← Program.call (HostCall.send (.backupDb path))
      scheduler.deleteOldBackups : HostProgram Unit).Follows (protocol json scheduler .scheduler)
        (fun _ phase => phase = .idle) (.named path) := by
    intro path
    rw [Gateway.truncateAction_configured]
    exact fun _ => ⟨.truncated path, .truncated, fun _ => ⟨.sent, .backedUp, deleteOldBackups_follows⟩⟩
  refine Program.Follows.call_bind fun datetime =>
    ⟨.named (scheduler.naming.backupPath scheduler.config datetime.nanos), .named, ?_⟩
  refine Program.Follows.call_bind fun present => ⟨.named _, .looked trivial, ?_⟩
  cases present with
  | true => exact sends _
  | false => exact fun _ => ⟨.named _, .looked trivial, sends _⟩

theorem truncateJob_follows :
    scheduler.truncateJob.Follows (protocol json scheduler .scheduler)
      (fun _ phase => phase = .idle) .idle := by
  unfold BackupScheduler.truncateJob
  rw [Gateway.truncateAction_configured]
  exact fun _ => ⟨.idle, .truncateJob, rfl⟩

theorem tick_follows :
    scheduler.tick.Follows (protocol json scheduler .scheduler) (fun _ phase => phase = .idle)
      .idle := by
  refine Program.Follows.call_bind fun backups => ⟨.idle, .quiet trivial, ?_⟩
  refine Program.Follows.bind (backupJob_follows.iterate backups) ?_
  rintro _ _ rfl
  refine Program.Follows.call_bind fun truncations => ⟨.idle, .quiet trivial, ?_⟩
  refine Program.Follows.bind (truncateJob_follows.iterate truncations) ?_
  rintro _ _ rfl
  exact fun _ => ⟨.idle, .quiet trivial, rfl⟩

theorem bodies_follow (worker : Worker) :
    (bodies json scheduler worker).Follows (protocol json scheduler worker)
      (fun _ after => after = home worker) (home worker) := by
  cases worker with
  | channels => exact fun _ => ⟨(), .sent, rfl⟩
  | aggregator => exact aggregator_follows
  | transport => exact transport_follows
  | storage => exact process_follows
  | scheduler => exact tick_follows
  | sqlite => exact fun _ => ⟨(), .wrote, rfl⟩

theorem first_follows (attempts : Nat) (worker : Worker) :
    (first json scheduler attempts worker).Follows (protocol json scheduler worker)
      (fun _ after => after = home worker) (entry worker) := by
  cases worker with
  | transport => exact connect_follows attempts
  | channels => exact bodies_follow .channels
  | aggregator => exact aggregator_follows
  | storage => exact process_follows
  | scheduler => exact tick_follows
  | sqlite => exact bodies_follow .sqlite

end Follows

end GatewayThreads

end StsGateway
