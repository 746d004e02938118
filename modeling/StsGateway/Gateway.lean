import StsGateway.Data.Transition
import StsGateway.Data.Mpsc
import StsGateway.Aggregator

namespace StsGateway

open Data

/-! The threads of the gateway as one machine.

Each label is one step of one thread: a channel sends, the aggregator takes one
of its steps between receiving an action and its third send, a scheduler job
sends, the storage thread processes one action, the transport publishes one
message. A run is any interleaving. The source runs both jobs on one thread;
here they interleave freely, so its runs are among these. `main` ends once the
storage thread has panicked, wherever the other threads are by then.
-/

/-- A message as the channels build it: both halves carry the slave's device name. -/
structure ChannelMessage where
  action : AggregatorAction
  sameDevice : ∃ deviceName attributes timeseries,
    action = .sendBoth (deviceName, attributes) (deviceName, timeseries)

inductive Sender where
  | aggregator
  | backupJob (run : Nat)
  | truncateJob
deriving DecidableEq

structure Queued where
  sender : Sender
  action : SqliteStorageAction
deriving DecidableEq

/-- One processed action, with the table before and after it and all rows
inserted so far. -/
structure Processed where
  queued : Queued
  turn : Turn
  before : List Row
  after : List Row
  inserted : List Row
deriving DecidableEq

/-- `published` are the messages the transport has called `publish` with, `delivered`
those for which the call succeeded. -/
structure Gateway where
  aggregatorQueue : Mpsc AggregatorAction
  aggregator : AggregatorPoint
  handled : List Stamped
  storageQueue : Mpsc Queued
  storage : SqliteStorage
  storagePanicked : Bool
  processed : List Processed
  inserted : List Row
  transportQueue : Mpsc TransportAction
  connected : Bool
  published : List MqttMessage
  delivered : List MqttMessage
  backupJob : Option PathBuf
  jobRuns : Nat
  readings : List UtcDateTime

namespace Gateway

inductive Step where
  | channelSend (message : ChannelMessage)
  | aggregatorRecv
  | stamp (now : UtcDateTime)
  | sendToStorage
  | sendTimeseries
  | sendAttributes
  | backupJobTruncate (path : PathBuf)
  | backupJobBackup
  | truncateJob
  | storageTurn (turn : Turn)
  | connect (succeeds : Bool)
  | publish (succeeds : Bool)

def start : Gateway where
  aggregatorQueue := .channel
  aggregator := .receiving
  handled := []
  storageQueue := .channel
  storage := ⟨[], []⟩
  storagePanicked := false
  processed := []
  inserted := []
  transportQueue := .channel
  connected := false
  published := []
  delivered := []
  backupJob := none
  jobRuns := 0
  readings := []

/-- Sending to a storage thread that is gone fails and is only logged. -/
def sendStorage (gateway : Gateway) (queued : Queued) : Gateway :=
  if gateway.storagePanicked then gateway
  else { gateway with storageQueue := gateway.storageQueue.send queued }

def truncateAction (ttl : Int32) : Except Panic SqliteStorageAction :=
  (fun olderThan => .truncate (.fixedWindow olderThan)) <$> Chrono.Duration.hours ttl.toInt

def rowsAppended (action : SqliteStorageAction) (before after : List Row) : List Row :=
  match action with
  | .insertBoth _ => after.drop before.length
  | _ => []

/-- Only a truncation reads the clock. -/
def readingsOf (action : SqliteStorageAction) (turn : Turn) : List UtcDateTime :=
  match action with
  | .truncate _ => [turn.now]
  | _ => []

def step (json : SerdeJson) (config : MainConfig) (gateway : Gateway) : Step → Option Gateway
  | .channelSend message =>
      some { gateway with aggregatorQueue := gateway.aggregatorQueue.send message.action }
  | .aggregatorRecv =>
      match gateway.aggregator, gateway.aggregatorQueue.recv? with
      | .receiving, some (.sendBoth attributes timeseries, queue) =>
          some { gateway with aggregatorQueue := queue, aggregator := .stamping attributes timeseries }
      | _, _ => none
  | .stamp now =>
      match gateway.aggregator with
      | .stamping attributes timeseries =>
          some { gateway with
            aggregator := .sendingToStorage ⟨now.timestampMillis, attributes, timeseries⟩
            readings := gateway.readings ++ [now] }
      | _ => none
  | .sendToStorage =>
      match gateway.aggregator with
      | .sendingToStorage item =>
          some { gateway.sendStorage ⟨.aggregator, .insertBoth (item.insert json)⟩ with
            aggregator := .sendingTimeseries item }
      | _ => none
  | .sendTimeseries =>
      match gateway.aggregator with
      | .sendingTimeseries item =>
          some { gateway with
            transportQueue := gateway.transportQueue.send (.sendTimeseries (item.timeseriesMessage json))
            aggregator := .sendingAttributes item }
      | _ => none
  | .sendAttributes =>
      match gateway.aggregator with
      | .sendingAttributes item =>
          some { gateway with
            transportQueue := gateway.transportQueue.send (.sendAttributes (item.attributesMessage json))
            aggregator := .receiving
            handled := gateway.handled ++ [item] }
      | _ => none
  | .backupJobTruncate path =>
      match gateway.backupJob, truncateAction config.storage.messagesTtl with
      | none, .ok action =>
          some { gateway.sendStorage ⟨.backupJob gateway.jobRuns, action⟩ with backupJob := some path }
      | _, _ => none
  | .backupJobBackup =>
      match gateway.backupJob with
      | some path =>
          some { gateway.sendStorage ⟨.backupJob gateway.jobRuns, .backupDb path⟩ with
            backupJob := none
            jobRuns := gateway.jobRuns + 1 }
      | none => none
  | .truncateJob =>
      match truncateAction config.storage.messagesTtl with
      | .ok action => some (gateway.sendStorage ⟨.truncateJob, action⟩)
      | .error _ => none
  | .storageTurn turn =>
      match gateway.storagePanicked, gateway.storageQueue.recv? with
      | false, some (queued, queue) =>
          let readings := gateway.readings ++ readingsOf queued.action turn
          match gateway.storage.process turn queued.action with
          | .error _ =>
              some { gateway with storageQueue := queue, storagePanicked := true, readings }
          | .ok storage =>
              let inserted := gateway.inserted ++
                rowsAppended queued.action gateway.storage.messages storage.messages
              some { gateway with
                storageQueue := queue
                storage
                readings
                inserted
                processed := gateway.processed ++
                  [⟨queued, turn, gateway.storage.messages, storage.messages, inserted⟩] }
      | _, _ => none
  | .connect succeeds => some { gateway with connected := gateway.connected || succeeds }
  | .publish succeeds =>
      match gateway.connected, gateway.transportQueue.recv? with
      | true, some (action, queue) =>
          -- a message that could not be published is logged and not tried again
          let message := MqttTransport.message config.mqtt action
          some { gateway with
            transportQueue := queue
            published := gateway.published ++ [message]
            delivered := gateway.delivered ++ if succeeds then [message] else [] }
      | _, _ => none

def machine (json : SerdeJson) (config : MainConfig) : Machine Gateway Step where
  start := start
  step := step json config

/-! ### One step of each thread -/

section Inversion

variable {json : SerdeJson} {config : MainConfig} {before next : Gateway}

attribute [local simp] step

theorem aggregatorRecv_some (stepped : step json config before .aggregatorRecv = some next) :
    ∃ attributes timeseries queue, before.aggregator = .receiving ∧
      before.aggregatorQueue.recv? = some (.sendBoth attributes timeseries, queue) ∧
      next = { before with
        aggregatorQueue := queue, aggregator := .stamping attributes timeseries } := by
  simp only [step] at stepped
  split at stepped
  · rename_i attributes timeseries queue receiving received
    exact ⟨attributes, timeseries, queue, receiving, received, (Option.some.inj stepped).symm⟩
  · contradiction

theorem stamp_some {now : UtcDateTime} (stepped : step json config before (.stamp now) = some next) :
    ∃ attributes timeseries, before.aggregator = .stamping attributes timeseries ∧
      next = { before with
        aggregator := .sendingToStorage ⟨now.timestampMillis, attributes, timeseries⟩
        readings := before.readings ++ [now] } := by
  simp only [step] at stepped
  split at stepped
  · rename_i attributes timeseries stamping
    exact ⟨attributes, timeseries, stamping, (Option.some.inj stepped).symm⟩
  · contradiction

theorem sendToStorage_some (stepped : step json config before .sendToStorage = some next) :
    ∃ item, before.aggregator = .sendingToStorage item ∧
      next = { before.sendStorage ⟨.aggregator, .insertBoth (item.insert json)⟩ with
        aggregator := .sendingTimeseries item } := by
  simp only [step] at stepped
  split at stepped
  · rename_i item sending
    exact ⟨item, sending, (Option.some.inj stepped).symm⟩
  · contradiction

theorem sendTimeseries_some (stepped : step json config before .sendTimeseries = some next) :
    ∃ item, before.aggregator = .sendingTimeseries item ∧
      next = { before with
        transportQueue := before.transportQueue.send (.sendTimeseries (item.timeseriesMessage json))
        aggregator := .sendingAttributes item } := by
  simp only [step] at stepped
  split at stepped
  · rename_i item sending
    exact ⟨item, sending, (Option.some.inj stepped).symm⟩
  · contradiction

theorem sendAttributes_some (stepped : step json config before .sendAttributes = some next) :
    ∃ item, before.aggregator = .sendingAttributes item ∧
      next = { before with
        transportQueue := before.transportQueue.send (.sendAttributes (item.attributesMessage json))
        aggregator := .receiving
        handled := before.handled ++ [item] } := by
  simp only [step] at stepped
  split at stepped
  · rename_i item sending
    exact ⟨item, sending, (Option.some.inj stepped).symm⟩
  · contradiction

def configuredTruncate (config : MainConfig) : SqliteStorageAction :=
  .truncate (.fixedWindow ⟨config.storage.messagesTtl.toInt * Chrono.nanosPerHour⟩)

theorem truncateAction_configured :
    truncateAction config.storage.messagesTtl = .ok (configuredTruncate config) := by
  rw [truncateAction, Chrono.Duration.hours_of_i32]
  rfl

theorem backupJobTruncate_some {path : PathBuf}
    (stepped : step json config before (.backupJobTruncate path) = some next) :
    before.backupJob = none ∧
      next = { before.sendStorage ⟨.backupJob before.jobRuns, configuredTruncate config⟩ with
        backupJob := some path } := by
  simp only [step, truncateAction_configured] at stepped
  split at stepped
  · rename_i action idle built
    cases built
    exact ⟨idle, (Option.some.inj stepped).symm⟩
  · contradiction

theorem backupJobBackup_some (stepped : step json config before .backupJobBackup = some next) :
    ∃ path, before.backupJob = some path ∧
      next = { before.sendStorage ⟨.backupJob before.jobRuns, .backupDb path⟩ with
        backupJob := none
        jobRuns := before.jobRuns + 1 } := by
  simp only [step] at stepped
  split at stepped
  · rename_i path sending
    exact ⟨path, sending, (Option.some.inj stepped).symm⟩
  · contradiction

theorem truncateJob_some (stepped : step json config before .truncateJob = some next) :
    next = before.sendStorage ⟨.truncateJob, configuredTruncate config⟩ := by
  simp only [step, truncateAction_configured] at stepped
  exact (Option.some.inj stepped).symm

theorem storageTurn_some {turn : Turn}
    (stepped : step json config before (.storageTurn turn) = some next) :
    ∃ queued queue, before.storagePanicked = false ∧
      before.storageQueue.recv? = some (queued, queue) ∧
      ((∃ panic, before.storage.process turn queued.action = .error panic ∧
        next = { before with
          storageQueue := queue
          storagePanicked := true
          readings := before.readings ++ readingsOf queued.action turn }) ∨
      ∃ storage, before.storage.process turn queued.action = .ok storage ∧
        next = { before with
          storageQueue := queue
          storage
          readings := before.readings ++ readingsOf queued.action turn
          inserted := before.inserted ++
            rowsAppended queued.action before.storage.messages storage.messages
          processed := before.processed ++ [⟨queued, turn, before.storage.messages,
            storage.messages, before.inserted ++
              rowsAppended queued.action before.storage.messages storage.messages⟩] }) := by
  simp only [step] at stepped
  split at stepped
  · rename_i queued queue alive received
    refine ⟨queued, queue, alive, received, ?_⟩
    split at stepped
    · rename_i panic failed
      exact .inl ⟨panic, failed, (Option.some.inj stepped).symm⟩
    · rename_i storage succeeded
      exact .inr ⟨storage, succeeded, (Option.some.inj stepped).symm⟩
  · contradiction

theorem storageTurn_of_panic {turn : Turn} {queued : Queued} {queue : Mpsc Queued} {panic : Panic}
    (alive : before.storagePanicked = false) (taken : before.storageQueue.recv? = some (queued, queue))
    (failed : before.storage.process turn queued.action = .error panic) :
    step json config before (.storageTurn turn) = some { before with
      storageQueue := queue
      storagePanicked := true
      readings := before.readings ++ readingsOf queued.action turn } := by
  simp only [step, alive, taken, failed]

theorem storageTurn_of_ok {turn : Turn} {queued : Queued} {queue : Mpsc Queued}
    {storage : SqliteStorage} (alive : before.storagePanicked = false)
    (taken : before.storageQueue.recv? = some (queued, queue))
    (executed : before.storage.process turn queued.action = .ok storage) :
    step json config before (.storageTurn turn) = some { before with
      storageQueue := queue
      storage
      readings := before.readings ++ readingsOf queued.action turn
      inserted := before.inserted ++
        rowsAppended queued.action before.storage.messages storage.messages
      processed := before.processed ++ [⟨queued, turn, before.storage.messages, storage.messages,
        before.inserted ++
          rowsAppended queued.action before.storage.messages storage.messages⟩] } := by
  simp only [step, alive, taken, executed]

theorem publish_some {succeeds : Bool}
    (stepped : step json config before (.publish succeeds) = some next) :
    ∃ action queue, before.transportQueue.recv? = some (action, queue) ∧
      next = { before with
        transportQueue := queue
        published := before.published ++ [MqttTransport.message config.mqtt action]
        delivered := before.delivered ++
          if succeeds then [MqttTransport.message config.mqtt action] else [] } := by
  simp only [step] at stepped
  split at stepped
  · rename_i action queue connected received
    exact ⟨action, queue, received, (Option.some.inj stepped).symm⟩
  · contradiction

theorem step_frame {label : Step} (other : ∀ turn, label ≠ .storageTurn turn)
    (stepped : step json config before label = some next) :
    next.storage = before.storage ∧ next.processed = before.processed ∧
      next.inserted = before.inserted := by
  have sendFrame : ∀ queued, (before.sendStorage queued).storage = before.storage ∧
      (before.sendStorage queued).processed = before.processed ∧
      (before.sendStorage queued).inserted = before.inserted := by
    intro queued
    unfold sendStorage
    split <;> exact ⟨rfl, rfl, rfl⟩
  cases label with
  | channelSend message => cases stepped; exact ⟨rfl, rfl, rfl⟩
  | aggregatorRecv =>
      obtain ⟨attributes, timeseries, queue, _, _, rfl⟩ := aggregatorRecv_some stepped
      exact ⟨rfl, rfl, rfl⟩
  | stamp now =>
      obtain ⟨attributes, timeseries, _, rfl⟩ := stamp_some stepped
      exact ⟨rfl, rfl, rfl⟩
  | sendToStorage =>
      obtain ⟨item, _, rfl⟩ := sendToStorage_some stepped
      exact sendFrame _
  | sendTimeseries =>
      obtain ⟨item, _, rfl⟩ := sendTimeseries_some stepped
      exact ⟨rfl, rfl, rfl⟩
  | sendAttributes =>
      obtain ⟨item, _, rfl⟩ := sendAttributes_some stepped
      exact ⟨rfl, rfl, rfl⟩
  | backupJobTruncate path =>
      obtain ⟨_, rfl⟩ := backupJobTruncate_some stepped
      exact sendFrame _
  | backupJobBackup =>
      obtain ⟨path, _, rfl⟩ := backupJobBackup_some stepped
      exact sendFrame _
  | truncateJob =>
      rw [truncateJob_some stepped]
      exact sendFrame _
  | storageTurn turn => exact absurd rfl (other turn)
  | connect succeeds => cases stepped; exact ⟨rfl, rfl, rfl⟩
  | publish succeeds =>
      obtain ⟨action, queue, _, rfl⟩ := publish_some stepped
      exact ⟨rfl, rfl, rfl⟩

end Inversion

/-! ### A small gateway

One meter with one attribute and one telemetry value, an hour of retention, and
turns on which every operation succeeds.
-/

namespace Sample

def values (key value : String) : HashMap String String := Finmap.insert key value ∅

def json : SerdeJson where
  timeseries _ _ := "\x7b\"meter\":[\x7b\"ts\":5,\"values\":\x7b\"power\":\"2\"\x7d\x7d]\x7d"
  attributes _ _ := "\x7b\"meter\":\x7b\"serial\":\"7\"\x7d\x7d"
  readTimeseries _ := some ("meter", [⟨5, values "power" "2"⟩])
  readAttributes _ := some ("meter", values "serial" "7")

def config : MainConfig where
  name := "gw"
  storage := .sqlite "db" (.fixedWindow 1) (.local "backup" 1)
  mqtt := ⟨0⟩

def message : ChannelMessage where
  action := .sendBoth ("meter", values "serial" "7") ("meter", [⟨5, values "power" "2"⟩])
  sameDevice := ⟨"meter", _, _, rfl⟩

def reading (hours : Fin 1000000) (millis : Fin 1000) : UtcDateTime where
  nanos := hours * Chrono.nanosPerHour + millis * Chrono.nanosPerMilli
  representable := by
    unfold Chrono.minNanos Chrono.maxNanos Chrono.nanosPerHour Chrono.nanosPerMilli
    omega

def turn (now : UtcDateTime) : Turn where
  now := now
  insert := ⟨true, true, true, true⟩
  delete := true
  backup := ⟨true, true, true, true, true, true, true⟩

def store (stamped : UtcDateTime) : List Step :=
  [.channelSend message, .aggregatorRecv, .stamp stamped, .sendToStorage,
    .storageTurn (turn stamped), .sendTimeseries, .sendAttributes]

def oneMessage : List Step := store (reading 100 0) ++ [.connect true, .publish true, .publish true]

def truncateAfter (stamped now : UtcDateTime) : List Step :=
  store stamped ++ [.truncateJob, .storageTurn (turn now)]

end Sample

end Gateway

end StsGateway
